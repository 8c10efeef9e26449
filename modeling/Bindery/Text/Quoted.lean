import Bindery.Unicode.Category
import Bindery.Unicode.Property

/-!
# Bindery — Text — Quoted

Texts quoted for a message.  A quoted text stands between quotation marks; a quotation mark, a
backslash, a tab, a line feed, a carriage return and a null are escaped by a letter or a sign,
and every other character that cannot be seen on its own by its number between braces: controls,
formats, separators other than the space, unassigned ones, and those that extend the character
before them.
-/

namespace Bindery.Text.Quoted

open Bindery.Unicode

/-- The categories of code points that cannot be seen. -/
def unseenCategories : List String := ["Cc", "Cf", "Cs", "Co", "Cn", "Zl", "Zp", "Zs"]

/-- The code points that cannot be seen. -/
def unseen : CodeSet :=
  .ofRanges <| Ranges.ofList <|
    (Category.runs.filter fun r => unseenCategories.contains r.2.2).map fun r => (r.1, r.2.1)

/-- The code points that extend the one before them. -/
def extending : CodeSet :=
  .ofRanges (readRanges Property.graphemeExtend)

/-- Whether a character stands for itself inside quotation marks. -/
def isPlain (c : Char) : Bool :=
  let n := c.toNat
  if n < 0x7F then 0x20 ≤ n else !unseen.contains n && !extending.contains n

/-- How a character is written inside quotation marks. -/
def escaped (c : Char) : List Char :=
  match c with
  | '\x00' => ['\\', '0']
  | '\t' => ['\\', 't']
  | '\n' => ['\\', 'n']
  | '\r' => ['\\', 'r']
  | '"' => ['\\', '"']
  | '\\' => ['\\', '\\']
  | c =>
    if isPlain c then [c]
    else ['\\', 'u', '\x7b'] ++ Nat.toDigits 16 c.toNat ++ ['\x7d']

/-- A text between quotation marks. -/
def quote (s : String) : String :=
  String.ofList ('"' :: s.toList.flatMap escaped ++ ['"'])

end Bindery.Text.Quoted
