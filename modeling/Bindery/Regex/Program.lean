import Bindery.Regex.Node

/-!
# Bindery — Regex — Program

Regular expressions as programs.  An instruction takes a character, tests a place, goes on at
one or at either of two places with the first preferred, or marks where the first group begins
and ends; running past the others means going on with the next instruction.
-/

namespace Bindery.Regex

open Bindery.Unicode

/-- An instruction. -/
inductive Instruction where
  | take (set : CodeSet)
  | test (l : Look)
  | jump (target : Nat)
  | split (first second : Nat)
  | openGroup
  | closeGroup
  | done

instance : Inhabited Instruction := ⟨.done⟩

/-- Instructions, the first one at place zero. -/
abbrev Program := Array Instruction

/-- A choice between going on and going elsewhere. -/
def choice (greedy : Bool) (on away : Nat) : Instruction :=
  if greedy then .split on away else .split away on

/-- A program with a part added a number of times. -/
def addTimes (part : Program → Program) : Nat → Program → Program
  | 0, code => code
  | n + 1, code => addTimes part n (part code)

/-- A program with optional copies of a part, each inside the one before it, and the places of
their choices. -/
def addOptional (part : Program → Program) : Nat → Program × List Nat → Program × List Nat
  | 0, state => state
  | n + 1, (code, places) =>
    let place := code.size
    addOptional part n (part (code.push .done), place :: places)

/-- A program with choices put at some places. -/
def fill (greedy : Bool) (away : Nat) (places : List Nat) (code : Program) : Program :=
  places.foldl (fun code place => code.set! place (choice greedy (place + 1) away)) code

/-- A program with a repetition of a part that may go on without end. -/
def addLoop (part : Program → Program) (takesSome greedy : Bool) (least : Nat)
    (code : Program) : Program :=
  if least = 0 then
    if takesSome then
      let place := code.size
      let code := (part (code.push .done)).push (.jump place)
      code.set! place (choice greedy (place + 1) code.size)
    else
      let question := code.size
      let code := part (code.push .done)
      let after := code.size + 1
      let code := code.push (choice greedy (question + 1) after)
      code.set! question (choice greedy (question + 1) after)
  else
    let code := addTimes part (least - 1) code
    let start := code.size
    let code := part code
    code.push (choice greedy start (code.size + 1))

mutual
/-- A program with a node added at its end. -/
def Node.add : Node → Program → Program
  | .empty => fun code => code
  | .set a => fun code => code.push (.take (.ofRanges a))
  | .look l => fun code => code.push (.test l)
  | .concat ns => addAll ns
  | .alternation ns => fun code =>
    let (code, ends) := addBranches ns (code, [])
    let after := code.size
    ends.foldl (fun code place => code.set! place (.jump after)) code
  | .capture index n =>
    if index = 1 then fun code => (n.add (code.push .openGroup)).push .closeGroup
    else n.add
  | .repetition least most greedy n =>
    match most with
    | none => addLoop n.add n.takesSome greedy least
    | some most => fun code =>
      let code := addTimes n.add least code
      let (code, places) := addOptional n.add (most - least) (code, [])
      fill greedy code.size places code

/-- A program with nodes added one after the other. -/
def addAll : List Node → Program → Program
  | [] => fun code => code
  | n :: rest => fun code => addAll rest (n.add code)

/-- A program with nodes added as branches, and the places where branches end. -/
def addBranches : List Node → Program × List Nat → Program × List Nat
  | [] => fun state => state
  | n :: rest => fun (code, ends) =>
    if rest.isEmpty then (n.add code, ends)
    else
      let place := code.size
      let code := n.add (code.push .done)
      let stop := code.size
      let code := code.push .done
      let code := code.set! place (.split (place + 1) code.size)
      addBranches rest (code, stop :: ends)
end

/-- The program of a node. -/
def Node.program (n : Node) : Program :=
  (n.add #[]).push .done

end Bindery.Regex
