import Bindery.Json.Text
import Bindery.Decimal.Reading

/-!
# Bindery — Yaml — Scalar

What scalars stand for.  A scalar without quotes may be null, a truth value, a whole number in
one of four bases, or a real number, and is a text otherwise; `yes` and `on` are texts, and so
are digits after a leading zero.  A whole number that 64 bits do not hold is real, unless 128
bits hold it: then it is nothing.
-/

namespace Bindery.Yaml

open Bindery.Text Bindery.Decimal

/-- What a scalar stands for.  `unbounded` is an infinity or no number at all. -/
inductive Scalar where
  | null
  | bool (b : Bool)
  | whole (n : Int)
  | real (x : Binary64)
  | unbounded
  | text (s : String)

namespace Scalar

/-- The truth value that a word is. -/
def truth? (s : String) : Option Bool :=
  if ["true", "True", "TRUE"].contains s then some true
  else if ["false", "False", "FALSE"].contains s then some false
  else none

/-- Whether a word is null. -/
def isNull (s : String) : Bool :=
  ["null", "Null", "NULL", "~"].contains s

/-- Whether digits after an optional sign start with a zero that does not count. -/
def hasLeadingZero (cs : List Char) : Bool :=
  let digits := (takeSign cs).2
  digits.length > 1 && digits.head? == some '0' && digits.all Char.isDigit

/-- The value of digits after what tells their base. -/
def digits? : List Char → Option Nat
  | '0' :: 'x' :: cs => natOfDigits? 16 cs
  | '0' :: 'o' :: cs => natOfDigits? 8 cs
  | '0' :: 'b' :: cs => natOfDigits? 2 cs
  | cs => natOfDigits? 10 cs

/-- The whole number, however large, that characters write. -/
def integer? (cs : List Char) : Option Int :=
  if hasLeadingZero cs then none
  else
    let (negative, digits) := takeSign cs
    (digits? digits).map fun n => if negative then -(n : Int) else n

/-- The largest value of 128 bits. -/
def maxLong : Nat := 340282366920938463463374607431768211455

/-- The largest value of 128 bits with a sign. -/
def maxSignedLong : Nat := 170141183460469231731687303715884105727

/-- Whether a number lies between bounds. -/
def within (below above : Nat) (n : Int) : Bool :=
  -(below : Int) - 1 ≤ n && n ≤ above

/-- Whether 64 bits hold a number. -/
def fitsWord (n : Int) : Bool := within maxSigned maxWord n

/-- Whether 128 bits hold a number. -/
def fitsLong (n : Int) : Bool := within maxSignedLong maxLong n

/-- The real number, or the scalar without bounds, that a word is. -/
def real? (s : String) : Option Scalar :=
  let (signed, cs) := match s.toList with
    | '+' :: cs => (true, cs)
    | cs => (false, cs)
  let infinities := [".inf", ".Inf", ".INF"]
  if signed && (cs.head? == some '+' || cs.head? == some '-') then none
  else if infinities.contains (String.ofList cs) || (infinities.map ("-" ++ ·)).contains s ||
      [".nan", ".NaN", ".NAN"].contains s then
    some .unbounded
  else ((Decimal.read? (String.ofList cs)).bind Parsed.finite?).map .real

/-- What a word stands for without quotes; none for a whole number that 128 bits hold but 64
do not. -/
def ofPlain? (s : String) : Option Scalar :=
  let cs := s.toList
  if cs.isEmpty || isNull s then some .null
  else
    match truth? s, integer? cs with
    | some b, _ => some (.bool b)
    | none, some n =>
      if fitsWord n then some (.whole n)
      else if fitsLong n then none
      else some ((real? s).getD (.text s))
    | none, none =>
      if hasLeadingZero cs then some (.text s) else some ((real? s).getD (.text s))

/-- The tags that say what a scalar is. -/
def core (kind : String) : String := "tag:yaml.org,2002:" ++ kind

/-- What a word stands for under a tag that is not local. -/
def ofTagged? (tag : String) (s : String) : Option Scalar :=
  if tag = core "bool" then (truth? s).map .bool
  else if tag = core "int" then
    (integer? s.toList).bind fun n => if fitsWord n then some (.whole n) else none
  else if tag = core "float" then real? s
  else if tag = core "null" then if isNull s then some .null else none
  else some (.text s)

/-- The value that a scalar is. -/
def toJson : Scalar → Json
  | null => .null
  | bool b => .bool b
  | whole n => .number (.int n)
  | real x => .number (.float x)
  | unbounded => .null
  | text s => .string s

/-- The text of a scalar as a key. -/
def key? : Scalar → Option String
  | null => none
  | bool b => some (Json.bool b).text
  | whole n => some (Json.number (.int n)).text
  | real x => some (Json.number (.float x)).text
  | unbounded => none
  | text s => some s

/-- Whether two scalars are the same key: zero is, whatever its sign. -/
def same : Scalar → Scalar → Bool
  | null, null => true
  | bool a, bool b => a = b
  | whole m, whole n => m = n
  | real x, real y => x = y || (x.isZero && y.isZero)
  | unbounded, unbounded => true
  | text s, text t => s = t
  | _, _ => false

end Scalar

end Bindery.Yaml
