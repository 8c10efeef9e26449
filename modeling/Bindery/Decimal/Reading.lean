import Bindery.Decimal.Binary64
import Bindery.Text.Numeral
import Bindery.Text.Blank

/-!
# Bindery — Decimal — Reading

Reading a decimal as the nearest 64-bit number.  A decimal is an optional sign, digits with an
optional point among or around them, and an optional exponent; `inf`, `infinity` and `nan`, in
any case, are read too.  A decimal past the largest number reads as an infinity.
-/

namespace Bindery.Decimal

open Bindery.Text

/-- What a decimal reads as. -/
inductive Parsed where
  | finite (x : Binary64)
  | infinite (negative : Bool)
  | notANumber
deriving DecidableEq

/-- The finite number that was read. -/
def Parsed.finite? : Parsed → Option Binary64
  | .finite x => some x
  | _ => none

/-- A sign taken off the front of some characters. -/
def takeSign : List Char → Bool × List Char
  | '-' :: cs => (true, cs)
  | '+' :: cs => (false, cs)
  | cs => (false, cs)

/-- The digits at the front of some characters, and the rest. -/
def takeDigits (cs : List Char) : List Char × List Char :=
  (cs.takeWhile Char.isDigit, cs.dropWhile Char.isDigit)

/-- The value of a list of digits; zero when there is none. -/
def digitsValue (cs : List Char) : Nat :=
  cs.foldl (fun n c => n * 10 + (c.toNat - '0'.toNat)) 0

/-- The power of ten that ends a decimal. -/
def exponent? : List Char → Option Int
  | [] => some 0
  | c :: cs =>
    if c = 'e' ∨ c = 'E' then
      let (negative, cs) := takeSign cs
      let (digits, rest) := takeDigits cs
      if digits.isEmpty ∨ ¬ rest.isEmpty then none
      else
        let n : Int := digitsValue digits
        some (if negative then -n else n)
    else none

/-- The part of a decimal from its point on: the digits after the point and the rest. -/
def takeFraction : List Char → List Char × List Char
  | '.' :: cs => takeDigits cs
  | cs => ([], cs)

/-- The number written by digits, an optional fraction and an optional exponent. -/
def unsigned? (negative : Bool) (cs : List Char) : Option Parsed :=
  let (whole, rest) := takeDigits cs
  let (fraction, rest) := takeFraction rest
  if whole.isEmpty ∧ fraction.isEmpty then none
  else
    (exponent? rest).map fun e =>
      let digits := digitsValue (whole ++ fraction)
      match Binary64.ofDecimal? negative digits (e - (fraction.length : Int)) with
      | some x => .finite x
      | none => .infinite negative

/-- The number that a text writes. -/
def read? (s : String) : Option Parsed :=
  let (negative, cs) := takeSign s.toList
  let word := lowerAscii (String.ofList cs)
  if word = "inf" ∨ word = "infinity" then some (.infinite negative)
  else if word = "nan" then some .notANumber
  else unsigned? negative cs

end Bindery.Decimal
