import Bindery.Yaml.Folding

/-!
# Bindery — Yaml — Quoted

Scalars in quotes.  Between single quotes a quote is written twice and nothing else is special;
between double quotes a backslash starts an escape.  Both run over several lines as plain ones
do, but not over a line that marks a document.
-/

namespace Bindery.Yaml

open Bindery.Text

/-- Reads on in a scalar between single quotes, up to the closing one. -/
def readSingle? (f : Folded) : List Spot → Option (String × List Spot)
  | [] => none
  | s :: rest =>
    if isBlank s.char then readSingle? (f.blank s.char) rest
    else if isBreak s.char then readSingle? (f.lineBreak s.char) rest
    else if isDocumentMarker (s :: rest) then none
    else if s.char = '\'' then
      match rest with
      | t :: more =>
        if t.char = '\'' then readSingle? (f.put '\'') more else some (f.wholeText, rest)
      | [] => some (f.wholeText, [])
    else readSingle? (f.put s.char) rest

/-- The character that an escape of one letter stands for. -/
def unescape? : Char → Option Char
  | '0' => some '\x00'
  | 'a' => some '\x07'
  | 'b' => some '\x08'
  | 't' => some '\t'
  | '\t' => some '\t'
  | 'n' => some '\n'
  | 'v' => some '\x0b'
  | 'f' => some '\x0c'
  | 'r' => some '\r'
  | 'e' => some '\x1b'
  | ' ' => some ' '
  | '"' => some '"'
  | '/' => some '/'
  | '\\' => some '\\'
  | 'N' => some '\u0085'
  | '_' => some '\u00a0'
  | 'L' => some '\u2028'
  | 'P' => some '\u2029'
  | _ => none

/-- How many hexadecimal digits follow the letter of an escape. -/
def escapeSize? : Char → Option Nat
  | 'x' => some 2
  | 'u' => some 4
  | 'U' => some 8
  | _ => none

/-- The character with a number; a surrogate is none. -/
def charOfNat? (n : Nat) : Option Char :=
  if n < 0xD800 ∨ (0xE000 ≤ n ∧ n ≤ 0x10FFFF) then some (Char.ofNat n) else none

/-- Reads an escape after its backslash: the character, and how many it takes. -/
def readEscape? : List Spot → Option (Char × Nat)
  | [] => none
  | s :: rest =>
    match escapeSize? s.char with
    | some size =>
      let digits := (rest.take size).map Spot.char
      if digits.length = size then
        (natOfDigits? 16 digits).bind fun n => (charOfNat? n).map fun c => (c, size + 1)
      else none
    | none => (unescape? s.char).map fun c => (c, 1)

/-- Reads on in a scalar between double quotes, up to the closing one. -/
def readDouble? (f : Folded) (ss : List Spot) : Option (String × List Spot) :=
  match ss with
  | [] => none
  | s :: rest =>
    if isBlank s.char then readDouble? (f.blank s.char) rest
    else if isBreak s.char then readDouble? (f.lineBreak s.char) rest
    else if isDocumentMarker (s :: rest) then none
    else if s.char = '"' then some (f.wholeText, rest)
    else if s.char = '\\' then
      if rest.head?.any fun t => isBreak t.char then readDouble? f.escapedBreak (rest.drop 1)
      else
        match readEscape? rest with
        | some (c, size) => readDouble? (f.put c) (rest.drop size)
        | none => none
    else readDouble? (f.put s.char) rest
termination_by ss.length
decreasing_by all_goals (simp only [List.length_drop, List.length_cons]; omega)

end Bindery.Yaml
