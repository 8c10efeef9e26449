import Bindery.Decimal.Reading
import Bindery.Host.Files

/-!
# Bindery — Host — Shell — Condition

Conditions on texts, numbers and files.  A condition is read off its words from the left; with
three words of which the second compares, it is that comparison.
-/

namespace Bindery.Shell.Condition

open Bindery.Text

/-- Why words are no condition. -/
inductive ConditionFault where
  | unexpected (word : String)
  | noArgument (word : String)
  | noParenthesis
  | notNumber (word : String)

/-- What is said of words that are no condition. -/
def ConditionFault.message : ConditionFault → String
  | unexpected word => word ++ ": unexpected operator"
  | noArgument word => word ++ ": argument expected"
  | noParenthesis => "closing paren expected"
  | notNumber word => "Illegal number: " ++ word

/-- Reading a condition off words. -/
abbrev Parse := StateT (List String) (Except ConditionFault)

/-- The number that a word is. -/
def number (word : String) : Except ConditionFault Int :=
  let cs := word.toList.dropWhile fun c => c = ' '
  let cs := (cs.reverse.dropWhile fun c => c = ' ').reverse
  let (negative, digits) := Decimal.takeSign cs
  match natOfDigits? 10 digits with
  | some n => .ok (if negative then -(n : Int) else n)
  | none => .error (.notNumber word)

/-- What a word between two others compares them by. -/
def comparison? (op : String) : Option (String → String → Except ConditionFault Bool) :=
  let numbers := fun (f : Int → Int → Bool) (a b : String) => do return f (← number a) (← number b)
  match op with
  | "=" => some fun a b => .ok (a = b)
  | "!=" => some fun a b => .ok (a ≠ b)
  | "<" => some fun a b => .ok (a < b)
  | ">" => some fun a b => .ok (b < a)
  | "-eq" => some (numbers fun m n => m = n)
  | "-ne" => some (numbers fun m n => m ≠ n)
  | "-lt" => some (numbers fun m n => m < n)
  | "-le" => some (numbers fun m n => m ≤ n)
  | "-gt" => some (numbers fun m n => n < m)
  | "-ge" => some (numbers fun m n => n ≤ m)
  | _ => none

/-- What a word before another one tests it for, given what stands under a path. -/
def property? (itemAt : String → Option FileItem) (op : String) : Option (String → Bool) :=
  let isFile := fun path => match itemAt path with
    | some (.file _) => true
    | _ => false
  let isDirectory := fun path => match itemAt path with
    | some .directory => true
    | _ => false
  match op with
  | "-n" => some fun s => !s.isEmpty
  | "-z" => some fun s => s.isEmpty
  | "-e" => some fun s => (itemAt s).isSome
  | "-f" => some isFile
  | "-d" => some isDirectory
  | "-r" => some fun s => (itemAt s).isSome
  | "-w" => some fun s => (itemAt s).isSome
  | "-x" => some isDirectory
  | "-s" => some fun s => match itemAt s with
    | some (.file bytes) => !bytes.isEmpty
    | some .directory => true
    | none => false
  | "-h" | "-L" | "-p" | "-S" | "-b" | "-c" | "-t" | "-u" | "-g" | "-k" => some fun _ => false
  | _ => none

/-- Reads a condition without `-a` and `-o`, given how to read one in parentheses. -/
def primary (itemAt : String → Option FileItem) (inner : Parse Bool) : Nat → Parse Bool
  | 0 => return false
  | fuel + 1 => do
    match ← get with
    | [] => return false
    | a :: op :: b :: rest =>
      match comparison? op with
      | some compare =>
        set rest
        compare a b
      | none => unaryOf a (op :: b :: rest) fuel
    | [a, op] =>
      if (comparison? op).isSome then throw (.noArgument op) else unaryOf a [op] fuel
    | a :: rest => unaryOf a rest fuel
where
  /-- Reads what a word starts that is not compared. -/
  unaryOf (a : String) (rest : List String) (fuel : Nat) : Parse Bool := do
    if a = "!" ∧ !rest.isEmpty then
      set rest
      return !(← primary itemAt inner fuel)
    else if a = "(" ∧ !rest.isEmpty then
      set rest
      let b ← inner
      match ← get with
      | ")" :: rest => set rest; return b
      | _ => throw .noParenthesis
    else
      match property? itemAt a, rest with
      | some test, s :: rest =>
        set rest
        return test s
      | _, _ =>
        set rest
        return !a.isEmpty

/-- Reads conditions that a word joins. -/
def joined (operand : Parse Bool) (word : String) (join : Bool → Bool → Bool) : Nat → Parse Bool
  | 0 => operand
  | fuel + 1 => do
    let b ← operand
    match ← get with
    | w :: rest =>
      if w = word then
        set rest
        return join b (← joined operand word join fuel)
      else return b
    | [] => return b

/-- Reads a condition. -/
def condition (itemAt : String → Option FileItem) : Nat → Parse Bool
  | 0 => return false
  | fuel + 1 =>
    let p := primary itemAt (condition itemAt fuel) (fuel + 1)
    joined (joined p "-a" (· && ·) fuel) "-o" (· || ·) fuel

/-- Words without the parentheses around them, where there are three or four of them. -/
def withoutParentheses (words : List String) : List String :=
  let isShort := words.length = 4 ∨
    (words.length = 3 ∧ !((words[1]?).any fun op => (comparison? op).isSome))
  if isShort ∧ words.head? = some "(" ∧ words.getLast? = some ")" then words.tail.dropLast
  else words

/-- Whether the condition that words are holds. -/
def holds (itemAt : String → Option FileItem) (words : List String) :
    Except ConditionFault Bool := do
  let words := withoutParentheses words
  let (b, rest) ← (condition itemAt (words.length + 2)).run words
  if rest.isEmpty then return b
  else throw (.unexpected ((words[words.length - rest.length - 1]?).getD ""))

end Bindery.Shell.Condition
