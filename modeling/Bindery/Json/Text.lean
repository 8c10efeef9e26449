import Bindery.Json.Value
import Bindery.Text.Numeral

/-!
# Bindery — Json — Text

The compact text of a JSON value: no blanks, fields in the order of their list, whole numbers in
decimal, floating-point numbers in the shortest decimal that reads back.  A string escapes the
quotation mark, the backslash and the characters below U+0020, the five common ones by a letter
and the others by four hexadecimal digits.
-/

namespace Bindery.Json

open Bindery.Text Bindery.Decimal

/-- Numbers from `1e-5` up to but not including `1e16` are written without an exponent. -/
def layout : Layout := ⟨-5, 15⟩

/-- The text of a number. -/
def Number.text : Number → String
  | .int n => if n < 0 then "-" ++ decimal n.natAbs else decimal n.natAbs
  | .float x => layout.text x

/-- How a character is written inside a string. -/
def escaped (c : Char) : List Char :=
  match c with
  | '"' => ['\\', '"']
  | '\\' => ['\\', '\\']
  | '\n' => ['\\', 'n']
  | '\r' => ['\\', 'r']
  | '\t' => ['\\', 't']
  | '\x08' => ['\\', 'b']
  | '\x0c' => ['\\', 'f']
  | c =>
    if c.toNat < 0x20 then
      let digits := Nat.toDigits 16 c.toNat
      ['\\', 'u'] ++ List.replicate (4 - digits.length) '0' ++ digits
    else [c]

/-- A text between quotation marks. -/
def quote (s : String) : String :=
  String.ofList ('"' :: s.toList.flatMap escaped ++ ['"'])

mutual
/-- The compact text of a value. -/
def text : Json → String
  | .null => "null"
  | .bool true => "true"
  | .bool false => "false"
  | .number n => n.text
  | .string s => quote s
  | .array items => "[" ++ ",".intercalate (texts items) ++ "]"
  | .object fields => "\x7b" ++ ",".intercalate (fieldTexts fields) ++ "\x7d"

/-- The text of every item. -/
def texts : List Json → List String
  | [] => []
  | v :: rest => v.text :: texts rest

/-- The text of every field: its key, a colon and its value. -/
def fieldTexts : List (String × Json) → List String
  | [] => []
  | (k, v) :: rest => (quote k ++ ":" ++ v.text) :: fieldTexts rest
end

/-- The text that a value is taken for where a text is wanted: a string is itself, null is
nothing, any other value is its compact text. -/
def plainText : Json → String
  | .null => ""
  | .string s => s
  | v => v.text

end Bindery.Json
