import Bindery.Json.Value
import Bindery.Decimal.Reading

/-!
# Bindery — Json — Token

The tokens of a JSON text.  A text is read one character at a time by `Scan.step`, which keeps
what the current token has so far; a text has tokens when every step is allowed and none is left
open at the end.

A number with a fraction, an exponent or more digits than 64 bits hold is a floating-point one:
the digits that fit 64 bits, scaled by a power of ten that is itself rounded, so it can miss the
nearest number in its last place.  One past the largest number is no token.
-/

namespace Bindery.Json

open Bindery.Text Bindery.Decimal

namespace Number

/-- Digits taken into a word as long as it holds them: the word, and how many were left. -/
def takeWord (start : Nat) : List Char → Nat × Nat
  | [] => (start, 0)
  | c :: cs =>
    let next := start * 10 + (c.toNat - '0'.toNat)
    if next ≤ maxWord then takeWord next cs else (start, cs.length + 1)

/-- Ten to a power, rounded, as far as there is such a number. -/
def powerOfTen (k : Nat) : Binary64 :=
  (Binary64.ofDecimal? false 1 k).getD (Binary64.zero false)

/-- The largest power of ten that one division or multiplication scales by. -/
def reach : Nat := 308

/-- A number divided by the largest power of ten a number of times, or until it is zero. -/
def divideTimes (x : Binary64) : Nat → Option Binary64
  | 0 => some x
  | n + 1 =>
    if x.isZero then some x
    else (x.div? (powerOfTen reach)).bind (divideTimes · n)

/-- A number divided by a power of ten, at most `reach` places at a time. -/
def scaleDown (x : Binary64) (places : Nat) : Option Binary64 :=
  let times := (places - 1) / reach
  (divideTimes x times).bind fun y =>
    if y.isZero then some y else y.div? (powerOfTen (places - times * reach))

/-- A number multiplied by a power of ten; only zero stands a power past `reach`. -/
def scaleUp (x : Binary64) (places : Nat) : Option Binary64 :=
  if places ≤ reach then x.mul? (powerOfTen places)
  else if x.isZero then some x
  else none

/-- The number that a word scaled by a power of ten is. -/
def ofWord? (negative : Bool) (word : Nat) (scale : Int) : Option Binary64 :=
  (Binary64.ofNat? false word).bind fun x =>
    let y? := match scale with
      | .ofNat k => scaleUp x k
      | .negSucc k => scaleDown x (k + 1)
    y?.map (·.withSign negative)

/-- The least exponent that an exponent of 32 bits does not hold. -/
def exponentBound : Nat := 2147483648

/-- A number with a fraction or an exponent. -/
def float? (negative : Bool) (word : Nat) (scale : Int) (exponent : List Char) :
    Option Binary64 :=
  match exponent with
  | [] => ofWord? negative word scale
  | _ :: cs =>
    let (down, digits) := takeSign cs
    let n := digitsValue digits
    if n < exponentBound then ofWord? negative word (if down then scale - n else scale + n)
    else if word = 0 ∨ down then some (Binary64.zero negative)
    else none

/-- The number that digits, the digits of a fraction and an exponent write. -/
def ofParts? (negative : Bool) (whole : List Char) (fraction exponent : List Char) :
    Option Number :=
  let (word, left) := takeWord 0 whole
  if fraction.isEmpty ∧ exponent.isEmpty ∧ left = 0 then
    if ¬ negative then some (.int word)
    else if 0 < word ∧ word ≤ maxSigned + 1 then some (.int (-word))
    else (Binary64.ofNat? true word).map .float
  else
    let (word, dropped) := takeWord word fraction
    let places := fraction.length - dropped
    (float? negative word ((left : Int) - places) exponent).map .float

/-- Whether an exponent is well formed: its letter, an optional sign and digits. -/
def exponentWellFormed : List Char → Bool
  | [] => true
  | c :: cs =>
    let (digits, rest) := takeDigits (takeSign cs).2
    (c = 'e' ∨ c = 'E') && !digits.isEmpty && rest.isEmpty

/-- The number that a word of a JSON text writes. -/
def ofWritten? (cs : List Char) : Option Number :=
  let (negative, cs) := match cs with
    | '-' :: cs => (true, cs)
    | cs => (false, cs)
  let (whole, rest) := takeDigits cs
  let leadingZero := whole.head? = some '0' ∧ 1 < whole.length
  match rest with
  | '.' :: cs =>
    let (fraction, exponent) := takeDigits cs
    if whole.isEmpty ∨ leadingZero ∨ fraction.isEmpty ∨ ¬ exponentWellFormed exponent then none
    else ofParts? negative whole fraction exponent
  | exponent =>
    if whole.isEmpty ∨ leadingZero ∨ ¬ exponentWellFormed exponent then none
    else ofParts? negative whole [] exponent

end Number

/-- A token. -/
inductive Token where
  | beginArray
  | endArray
  | beginObject
  | endObject
  | colon
  | comma
  | null
  | bool (b : Bool)
  | number (n : Number)
  | string (s : String)

/-- A part of a string: a character, or a unit of sixteen bits that an escape wrote. -/
inductive Piece where
  | char (c : Char)
  | unit (n : Nat)

/-- The characters that pieces are; two units that are a surrogate pair are one character, and
a surrogate alone is none. -/
def charsOf? : List Piece → Option (List Char)
  | [] => some []
  | .char c :: rest => (charsOf? rest).map (c :: ·)
  | .unit n :: rest =>
    if 0xD800 ≤ n ∧ n < 0xDC00 then
      match rest with
      | .unit m :: rest =>
        if 0xDC00 ≤ m ∧ m < 0xE000 then
          let c := Char.ofNat (0x10000 + (n - 0xD800) * 0x400 + (m - 0xDC00))
          (charsOf? rest).map (c :: ·)
        else none
      | _ => none
    else if 0xDC00 ≤ n ∧ n < 0xE000 then none
    else (charsOf? rest).map (Char.ofNat n :: ·)

/-- What the current token has so far, the latest first. -/
inductive Mode where
  | between
  | word (cs : List Char)
  | string (pieces : List Piece)
  | escape (pieces : List Piece)
  | unicode (pieces : List Piece) (left : Nat) (value : Nat)

/-- A text read up to some character: its tokens so far, the latest first. -/
structure Scan where
  mode : Mode
  tokens : List Token

/-- The token that a word is. -/
def Token.ofWord? (cs : List Char) : Option Token :=
  if cs = ['n', 'u', 'l', 'l'] then some .null
  else if cs = ['t', 'r', 'u', 'e'] then some (.bool true)
  else if cs = ['f', 'a', 'l', 's', 'e'] then some (.bool false)
  else (Number.ofWritten? cs).map .number

/-- The token that is one character. -/
def Token.ofChar? : Char → Option Token
  | '[' => some .beginArray
  | ']' => some .endArray
  | '\x7b' => some .beginObject
  | '\x7d' => some .endObject
  | ':' => some .colon
  | ',' => some .comma
  | _ => none

/-- The four characters that may stand between tokens. -/
def isGap (c : Char) : Bool :=
  c = ' ' || c = '\n' || c = '\r' || c = '\t'

namespace Scan

/-- The start of a text. -/
def start : Scan := ⟨.between, []⟩

/-- The next character where no token is open. -/
def begin (tokens : List Token) (c : Char) : Scan :=
  if isGap c then ⟨.between, tokens⟩
  else if c = '"' then ⟨.string [], tokens⟩
  else
    match Token.ofChar? c with
    | some t => ⟨.between, t :: tokens⟩
    | none => ⟨.word [c], tokens⟩

/-- The character that a one-letter escape stands for. -/
def unescape? : Char → Option Char
  | '"' => some '"'
  | '\\' => some '\\'
  | '/' => some '/'
  | 'b' => some '\x08'
  | 'f' => some '\x0c'
  | 'n' => some '\n'
  | 'r' => some '\r'
  | 't' => some '\t'
  | _ => none

/-- Reads one character. -/
def step (s : Scan) (c : Char) : Option Scan :=
  match s.mode with
  | .between => some (begin s.tokens c)
  | .word cs =>
    if isGap c ∨ c = '"' ∨ (Token.ofChar? c).isSome then
      (Token.ofWord? cs.reverse).map fun t => begin (t :: s.tokens) c
    else some ⟨.word (c :: cs), s.tokens⟩
  | .string pieces =>
    if c = '"' then
      (charsOf? pieces.reverse).map fun cs =>
        ⟨.between, .string (String.ofList cs) :: s.tokens⟩
    else if c = '\\' then some ⟨.escape pieces, s.tokens⟩
    else if c.toNat < 0x20 then none
    else some ⟨.string (.char c :: pieces), s.tokens⟩
  | .escape pieces =>
    if c = 'u' then some ⟨.unicode pieces 4 0, s.tokens⟩
    else (unescape? c).map fun e => ⟨.string (.char e :: pieces), s.tokens⟩
  | .unicode pieces left value =>
    (digitValue? 16 c).map fun d =>
      let value := value * 16 + d
      if left ≤ 1 then ⟨.string (.unit value :: pieces), s.tokens⟩
      else ⟨.unicode pieces (left - 1) value, s.tokens⟩

/-- The tokens at the end of a text. -/
def finish? (s : Scan) : Option (List Token) :=
  match s.mode with
  | .between => some s.tokens.reverse
  | .word cs => (Token.ofWord? cs.reverse).map fun t => (t :: s.tokens).reverse
  | _ => none

end Scan

/-- The tokens of a text. -/
def tokens? (cs : List Char) : Option (List Token) :=
  (cs.foldlM Scan.step Scan.start).bind Scan.finish?

end Bindery.Json
