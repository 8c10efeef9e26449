import Bindery.Text.Numeral

/-!
# Bindery — Host — Shell — Sum

The value of a sum.  Numbers are whole ones of 64 bits with a sign, and a result that does not
fit is wrapped around.  Variables may be read and assigned; what stands after `&&`, `||` or `?`
counts only where it decides.
-/

namespace Bindery.Shell

open Bindery.Text

/-- What two numbers are combined by. -/
inductive Operation where
  | add | sub | mul | div | rem
  | shiftUp | shiftDown
  | less | atMost | more | atLeast | equal | unequal
  | bitAnd | bitXor | bitOr
deriving DecidableEq

/-- A sum. -/
inductive Sum where
  | number (n : Int)
  | variable (name : String)
  | assign (name : String) (op : Option Operation) (s : Sum)
  | negated (s : Sum)
  | complement (s : Sum)
  | isZero (s : Sum)
  | binary (op : Operation) (s t : Sum)
  | both (s t : Sum)
  | either (s t : Sum)
  | choice (test yes no : Sum)

/-- Why a sum has no value. -/
inductive SumFault where
  | noOperand
  | noEnd
  | noParenthesis
  | noColon
  | divisionByZero
  | notNumber (value : String)

namespace Sum

/-- What is said of a sum without a value. -/
def faultText (sum : String) : SumFault → String
  | .noOperand => "arithmetic expression: expecting primary: \"" ++ sum ++ "\""
  | .noEnd => "arithmetic expression: expecting EOF: \"" ++ sum ++ "\""
  | .noParenthesis => "arithmetic expression: expecting ')': \"" ++ sum ++ "\""
  | .noColon => "arithmetic expression: expecting ':': \"" ++ sum ++ "\""
  | .divisionByZero => "arithmetic expression: division by zero: \"" ++ sum ++ "\""
  | .notNumber value => "Illegal number: " ++ value

/-- A token of a sum. -/
inductive Token where
  | number (n : Int)
  | name (s : String)
  | symbol (s : String)
deriving DecidableEq

/-- A character that a name may start with. -/
def startsName (c : Char) : Bool := c.isAlpha || c = '_'

/-- A character of a name. -/
def isNameChar (c : Char) : Bool := c.isAlphanum || c = '_'

/-- The symbols of more than one character; of two that fit, the longer stands first. -/
def symbols : List String :=
  ["<<=", ">>=", "<<", ">>", "<=", ">=", "==", "!=", "&&", "||", "+=", "-=", "*=", "/=", "%=",
    "&=", "|=", "^="]

/-- A number at the front of characters, in the base that its first characters tell, and the
rest. -/
def takeNumber (cs : List Char) : Int × List Char :=
  let read := fun (base : Nat) (cs : List Char) =>
    let isDigit := fun c => (digitValue? base c).isSome
    let n := (natOfDigits? base (cs.takeWhile isDigit)).getD 0
    (((min n maxSigned : Nat) : Int), cs.dropWhile isDigit)
  match cs with
  | '0' :: x :: d :: rest =>
    if (x = 'x' ∨ x = 'X') ∧ (digitValue? 16 d).isSome then read 16 (d :: rest) else read 8 cs
  | '0' :: _ => read 8 cs
  | _ => read 10 cs

/-- The tokens of a sum. -/
def tokens : Nat → List Char → List Token
  | 0, _ => []
  | _, [] => []
  | fuel + 1, c :: cs =>
    if c = ' ' ∨ c = '\t' ∨ c = '\n' then tokens fuel cs
    else if c.isDigit then
      let (n, rest) := takeNumber (c :: cs)
      .number n :: tokens fuel rest
    else if startsName c then
      .name (String.ofList ((c :: cs).takeWhile isNameChar)) ::
        tokens fuel ((c :: cs).dropWhile isNameChar)
    else
      match symbols.find? fun s => s.toList.isPrefixOf (c :: cs) with
      | some s => .symbol s :: tokens fuel ((c :: cs).drop s.length)
      | none => .symbol (String.singleton c) :: tokens fuel cs

/-- Reading a sum off its tokens. -/
abbrev Parse := StateT (List Token) (Except SumFault)

/-- Takes the next token when it is a given symbol. -/
def takeSymbol (s : String) : Parse Bool := do
  match ← get with
  | .symbol t :: rest => if s = t then set rest; return true else return false
  | _ => return false

/-- The operations between two numbers, the loosest first. -/
def levels : List (List (String × Operation)) :=
  [[("|", .bitOr)], [("^", .bitXor)], [("&", .bitAnd)], [("==", .equal), ("!=", .unequal)],
    [("<", .less), ("<=", .atMost), (">", .more), (">=", .atLeast)],
    [("<<", .shiftUp), (">>", .shiftDown)], [("+", .add), ("-", .sub)],
    [("*", .mul), ("/", .div), ("%", .rem)]]

/-- The operations that assign. -/
def assignments : List (String × Option Operation) :=
  [("=", none), ("+=", some .add), ("-=", some .sub), ("*=", some .mul), ("/=", some .div),
    ("%=", some .rem), ("<<=", some .shiftUp), (">>=", some .shiftDown), ("&=", some .bitAnd),
    ("^=", some .bitXor), ("|=", some .bitOr)]

/-- Reads a chain of operations on one level, from the left. -/
def chain (operand : Parse Sum) (ops : List (String × Operation)) : Nat → Sum → Parse Sum
  | 0, s => return s
  | fuel + 1, s => do
    match ← get with
    | .symbol t :: rest =>
      match ops.lookup t with
      | some op =>
        set rest
        chain operand ops fuel (.binary op s (← operand))
      | none => return s
    | _ => return s

/-- Reads operations, those of the tighter levels first. -/
def binary? (operand : Parse Sum) (fuel : Nat) : List (List (String × Operation)) → Parse Sum
  | [] => operand
  | ops :: tighter => do
    let operand := binary? operand fuel tighter
    chain operand ops fuel (← operand)

/-- Reads what one symbol joins to one sum. -/
def joined (operand : Parse Sum) (symbol : String) (join : Sum → Sum → Sum) : Nat → Parse Sum
  | 0 => operand
  | fuel + 1 => do
    let s ← operand
    if ← takeSymbol symbol then return join s (← joined operand symbol join fuel)
    else return s

/-- Reads an operand, given how to read a sum in parentheses. -/
def operand (inner : Parse Sum) : Nat → Parse Sum
  | 0 => throw .noOperand
  | fuel + 1 => do
    match ← get with
    | .number n :: rest => set rest; return .number n
    | .name s :: rest => set rest; return .variable s
    | .symbol "(" :: rest =>
      set rest
      let s ← inner
      if ← takeSymbol ")" then return s else throw .noParenthesis
    | .symbol "-" :: rest => set rest; return .negated (← operand inner fuel)
    | .symbol "+" :: rest => set rest; operand inner fuel
    | .symbol "!" :: rest => set rest; return .isZero (← operand inner fuel)
    | .symbol "~" :: rest => set rest; return .complement (← operand inner fuel)
    | _ => throw .noOperand

/-- Reads a sum. -/
def parse : Nat → Parse Sum
  | 0 => throw .noOperand
  | fuel + 1 => do
    let assigned := match ← get with
      | .name s :: .symbol t :: rest => (assignments.lookup t).map fun op => (s, op, rest)
      | _ => none
    match assigned with
    | some (s, op, rest) =>
      set rest
      return .assign s op (← parse fuel)
    | none =>
      let size := (← get).length
      let bits := binary? (operand (parse fuel) (size + 1)) size levels
      let test ← joined (joined bits "&&" .both size) "||" .either size
      if ← takeSymbol "?" then
        let yes ← parse fuel
        if ← takeSymbol ":" then return .choice test yes (← parse fuel) else throw .noColon
      else return test

/-- A number wrapped around to 64 bits. -/
def wrap (n : Int) : Int := Int.bmod n 18446744073709551616

/-- One for true and zero for false. -/
def ofBool (b : Bool) : Int := if b then 1 else 0

/-- A number as bits, and back. -/
def bitwise (f : Nat → Nat → Nat) (m n : Int) : Int :=
  let bits := fun k : Int => (k % 18446744073709551616).toNat
  wrap (f (bits m) (bits n))

/-- What an operation makes of two numbers. -/
def apply (op : Operation) (m n : Int) : Except SumFault Int :=
  match op with
  | .add => .ok (wrap (m + n))
  | .sub => .ok (wrap (m - n))
  | .mul => .ok (wrap (m * n))
  | .div => if n = 0 then .error .divisionByZero else .ok (wrap (Int.tdiv m n))
  | .rem => if n = 0 then .error .divisionByZero else .ok (wrap (Int.tmod m n))
  | .shiftUp => .ok (wrap (m * ((1 <<< (n % 64).toNat : Nat) : Int)))
  | .shiftDown => .ok (Int.fdiv m ((1 <<< (n % 64).toNat : Nat) : Int))
  | .less => .ok (ofBool (m < n))
  | .atMost => .ok (ofBool (m ≤ n))
  | .more => .ok (ofBool (n < m))
  | .atLeast => .ok (ofBool (n ≤ m))
  | .equal => .ok (ofBool (m = n))
  | .unequal => .ok (ofBool (m ≠ n))
  | .bitAnd => .ok (bitwise Nat.land m n)
  | .bitXor => .ok (bitwise Nat.xor m n)
  | .bitOr => .ok (bitwise Nat.lor m n)

/-- The number that the value of a variable is. -/
def numberOf (value : String) : Except SumFault Int :=
  let cs := value.toList.filter fun c => c ≠ ' '
  let (negative, digits) := match cs with
    | '-' :: cs => (true, cs)
    | '+' :: cs => (false, cs)
    | cs => (false, cs)
  if value.isEmpty then .ok 0
  else if (digits.head?.any Char.isDigit) then
    match takeNumber digits with
    | (n, []) => .ok (if negative then -n else n)
    | _ => .error (.notNumber value)
  else .error (.notNumber value)

/-- The values that variables were given so far. -/
abbrev Evaluation := StateT (List (String × Int)) (Except SumFault)

/-- The value of a variable. -/
def valueOf (lookup : String → String) (name : String) : Evaluation Int := do
  match (← get).lookup name with
  | some n => return n
  | none => numberOf (lookup name)

/-- The value of a sum. -/
def value (lookup : String → String) : Sum → Evaluation Int
  | .number n => return n
  | .variable name => valueOf lookup name
  | .assign name op s => do
    let n ← match op with
      | none => value lookup s
      | some op => do
        let m ← valueOf lookup name
        apply op m (← value lookup s)
    modify fun vs => (name, n) :: vs
    return n
  | .negated s => return wrap (-(← value lookup s))
  | .complement s => return -(← value lookup s) - 1
  | .isZero s => return ofBool ((← value lookup s) = 0)
  | .binary op s t => do
    let m ← value lookup s
    apply op m (← value lookup t)
  | .both s t => do
    if (← value lookup s) = 0 then return 0
    return ofBool ((← value lookup t) ≠ 0)
  | .either s t => do
    if (← value lookup s) ≠ 0 then return 1
    return ofBool ((← value lookup t) ≠ 0)
  | .choice test yes no => do
    if (← value lookup test) ≠ 0 then value lookup yes else value lookup no

/-- The value of the sum that a text is, and what it assigns, the latest first. -/
def evaluate (lookup : String → String) (text : String) :
    Except SumFault (Int × List (String × Int)) := do
  let ts := tokens text.length text.toList
  let (s, rest) ← (parse (ts.length + 1)).run ts
  if rest.isEmpty then (value lookup s).run [] else throw .noEnd

end Sum

end Bindery.Shell
