import Bindery.Regex.Class

/-!
# Bindery — Regex — Node

Regular expressions with their flags worked out.  A switch holds from where it stands to the end
of the group around it, also in the branches of an alternation that come after it.
-/

namespace Bindery.Regex

open Bindery.Unicode

/-- A test of the place between two characters; the sets are the word characters, those of
Unicode or those of ASCII, and the line breaks. -/
inductive Look where
  | startText
  | endText
  | startLine (crlf : Bool)
  | endLine (crlf : Bool)
  | wordBoundary (ascii : Bool)
  | notWordBoundary (ascii : Bool)
  | wordStart (ascii : Bool)
  | wordEnd (ascii : Bool)
  | wordStartHalf (ascii : Bool)
  | wordEndHalf (ascii : Bool)
deriving DecidableEq, Repr

/-- A regular expression over sets of code points. -/
inductive Node where
  | empty
  | set (a : Ranges)
  | look (l : Look)
  | concat (ns : List Node)
  | alternation (ns : List Node)
  | repetition (least : Nat) (most : Option Nat) (greedy : Bool) (n : Node)
  | capture (index : Nat) (n : Node)

instance : Inhabited Node := ⟨.empty⟩

/-- The flags that hold at a place. -/
structure Flags where
  caseInsensitive : Bool
  multiLine : Bool
  dotAll : Bool
  swapGreed : Bool
  unicode : Bool
  crlf : Bool

mutual
/-- Whether every match of a node is empty. -/
def Node.onlyEmpty : Node → Bool
  | .empty => true
  | .set _ => false
  | .look _ => true
  | .concat ns => allOnlyEmpty ns
  | .alternation ns => allOnlyEmpty ns
  | .repetition _ most _ n => most = some 0 || n.onlyEmpty
  | .capture _ n => n.onlyEmpty

/-- Whether every match of each of some nodes is empty. -/
def allOnlyEmpty : List Node → Bool
  | [] => true
  | n :: rest => n.onlyEmpty && allOnlyEmpty rest
end

/-- A repetition.  What matches nothing but the empty text need not be repeated more than once,
no times is nothing, and once is the thing itself. -/
def Node.repeated (least : Nat) (most : Option Nat) (greedy : Bool) (n : Node) : Node :=
  let (least, most) :=
    if n.onlyEmpty then (min least 1, some (min (most.getD 1) 1)) else (least, most)
  if most = some 0 then .empty
  else if least = 1 ∧ most = some 1 then n
  else .repetition least most greedy n

namespace Flags

/-- The flags that hold at the start. -/
def initial : Flags := ⟨false, false, false, false, true, false⟩

/-- The flags after a switch. -/
def apply (f : Flags) (s : Switches) : Flags :=
  { caseInsensitive := (s.state? .caseInsensitive).getD f.caseInsensitive
    multiLine := (s.state? .multiLine).getD f.multiLine
    dotAll := (s.state? .dotAll).getD f.dotAll
    swapGreed := (s.state? .swapGreed).getD f.swapGreed
    unicode := (s.state? .unicode).getD f.unicode
    crlf := (s.state? .crlf).getD f.crlf }

/-- What a class depends on. -/
def classMode (f : Flags) : ClassMode := ⟨f.unicode, f.caseInsensitive⟩

/-- The node of a literal; a byte past 127 is none. -/
def literal? (f : Flags) (l : Literal) : Option Node :=
  let n := l.char.toNat
  if !f.unicode && l.isByte && 0x7F < n then none
  else if f.caseInsensitive then
    if f.unicode then some (.set (Folding.close [(n, n)]))
    else some (.set (foldBytes [(n, n)]))
  else some (.set [(n, n)])

/-- The node of a dot: every character, without the line breaks unless the flag `s` holds. -/
def dot? (f : Flags) : Option Node :=
  if !f.unicode then none
  else if f.dotAll then some (.set [(0, lastCode)])
  else if f.crlf then some (.set (Ranges.complement [(10, 10), (13, 13)]))
  else some (.set (Ranges.complement [(10, 10)]))

/-- The test that an assertion stands for. -/
def look (f : Flags) (a : Assertion) : Look :=
  match a with
  | .startLine => if f.multiLine then .startLine f.crlf else .startText
  | .endLine => if f.multiLine then .endLine f.crlf else .endText
  | .startText => .startText
  | .endText => .endText
  | .wordBoundary => .wordBoundary (!f.unicode)
  | .notWordBoundary => .notWordBoundary (!f.unicode)
  | .wordStart => .wordStart (!f.unicode)
  | .wordEnd => .wordEnd (!f.unicode)
  | .wordStartHalf => .wordStartHalf (!f.unicode)
  | .wordEndHalf => .wordEndHalf (!f.unicode)

end Flags

mutual
/-- The node of a pattern and the flags after it. -/
def Pattern.node? (f : Flags) : Pattern → Option (Node × Flags)
  | .empty => some (.empty, f)
  | .flags s => some (.empty, f.apply s)
  | .literal l => (f.literal? l).map (·, f)
  | .dot => f.dot?.map (·, f)
  | .assertion a => some (.look (f.look a), f)
  | .letter c negated => (f.classMode.letter? c negated).map fun a => (.set a, f)
  | .property q negated => (f.classMode.property? q negated).map fun a => (.set a, f)
  | .bracketed negated s => (bracketedRanges? f.classMode negated s).map fun a => (.set a, f)
  | .repetition least most greedy p =>
    (p.node? f).map fun (n, f) => (.repeated least most (greedy != f.swapGreed) n, f)
  | .group kind p =>
    match kind with
    | .capture index => (p.node? f).map fun (n, _) => (.capture index n, f)
    | .flagged s => (p.node? (f.apply s)).map fun (n, _) => (n, f)
  | .alternation ps => (nodes? f ps).map fun (ns, f) => (.alternation ns, f)
  | .concat ps => (nodes? f ps).map fun (ns, f) => (.concat ns, f)

/-- The nodes of patterns one after the other, and the flags after them. -/
def nodes? (f : Flags) : List Pattern → Option (List Node × Flags)
  | [] => some ([], f)
  | p :: rest =>
    match p.node? f with
    | none => none
    | some (n, f) => (nodes? f rest).map fun (ns, f) => (n :: ns, f)
end

mutual
/-- The least number of characters that a match of a node has; none where nothing matches. -/
def Node.leastLength : Node → Option Nat
  | .empty => some 0
  | .set a => if a.isEmpty then none else some 1
  | .look _ => some 0
  | .concat ns => totalLength ns
  | .alternation ns => shortest ns
  | .repetition least _ _ n => if least = 0 then some 0 else n.leastLength.map (· * least)
  | .capture _ n => n.leastLength

/-- The least length of nodes one after the other. -/
def totalLength : List Node → Option Nat
  | [] => some 0
  | n :: rest =>
    match n.leastLength, totalLength rest with
    | some a, some b => some (a + b)
    | _, _ => none

/-- The least length of one of some nodes. -/
def shortest : List Node → Option Nat
  | [] => none
  | n :: rest =>
    match n.leastLength, shortest rest with
    | some a, some b => some (min a b)
    | some a, none => some a
    | none, b => b
end

/-- Whether every match of a node has at least one character. -/
def Node.takesSome (n : Node) : Bool :=
  match n.leastLength with
  | some k => 0 < k
  | none => false

end Bindery.Regex
