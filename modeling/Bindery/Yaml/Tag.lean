import Bindery.Yaml.Spot
import Bindery.Text.Utf8

/-!
# Bindery — Yaml — Tag

Tags, as they are written: a handle, which stands for the beginning of the tag, and a suffix.
Both are read off the characters of a text; a suffix is a list of octets, some of which may be
written as a percent sign and two hexadecimal digits.
-/

namespace Bindery.Yaml

open Bindery.Text

/-- A tag: its octets. -/
abbrev Tag := List UInt8

/-- The octets of a text. -/
def octets (s : String) : List UInt8 := Utf8.encode s

/-- A tag that begins with what a handle stands for; without a handle the suffix is all. -/
structure TagName where
  handle : Option String
  suffix : List UInt8

/-- A character of a tag; inside angle brackets there may be a comma or a square bracket. -/
def isTagChar (inAngles : Bool) (c : Char) : Bool :=
  isNameChar c ||
    [';', '/', '?', ':', '@', '&', '=', '+', '$', '.', '%', '!', '~', '*', '\'', '(', ')'].contains
      c ||
    (inAngles && (c = ',' || c = '[' || c = ']'))

/-- The octet that a percent sign and two digits write. -/
def escapedOctet? (c d : Char) : Option UInt8 :=
  (natOfDigits? 16 [c, d]).map UInt8.ofNat

/-- How many octets follow one that starts a character. -/
def octetsAfter? (b : UInt8) : Option Nat :=
  let n := b.toNat
  if n < 0x80 then some 0
  else if 0xC0 ≤ n ∧ n < 0xE0 then some 1
  else if 0xE0 ≤ n ∧ n < 0xF0 then some 2
  else if 0xF0 ≤ n ∧ n < 0xF8 then some 3
  else none

/-- The octets that some characters write; of a character that needs several, all have to be
escaped.  `left` counts those that still belong to the character before. -/
def tagOctets? (left : Nat) : List Char → Option (List UInt8)
  | [] => if left = 0 then some [] else none
  | '%' :: c :: d :: rest =>
    (escapedOctet? c d).bind fun b =>
      match left with
      | n + 1 =>
        if b.toNat / 64 = 2 then (tagOctets? n rest).map (b :: ·) else none
      | 0 => (octetsAfter? b).bind fun n => (tagOctets? n rest).map (b :: ·)
  | c :: rest =>
    if left = 0 ∧ c ≠ '%' then (tagOctets? 0 rest).map (octets (String.singleton c) ++ ·)
    else none

/-- Reads the octets of a tag. -/
def readOctets? (inAngles : Bool) (ss : List Spot) : Option (List UInt8 × List Spot) :=
  let (cs, rest) := span (isTagChar inAngles) ss
  (tagOctets? 0 cs).map fun os => (os, rest)

/-- Reads a handle: an exclamation mark, and perhaps a name and a second one. -/
def readHandle? : List Spot → Option (String × List Spot)
  | [] => none
  | s :: rest =>
    if s.char = '!' then
      let (name, rest) := span isNameChar rest
      let start := '!' :: name
      if nextIs '!' rest then some (String.ofList (start ++ ['!']), rest.drop 1)
      else some (String.ofList start, rest)
    else none

/-- Whether a handle is complete, so that a suffix follows. -/
def isWholeHandle (handle : String) : Bool :=
  handle.toList.length ≥ 2 && handle.toList.getLast? == some '!'

/-- Reads a tag in angle brackets after the first of them. -/
def readVerbatim? (ss : List Spot) : Option (TagName × List Spot) :=
  (readOctets? true ss).bind fun (os, rest) =>
    if !os.isEmpty && nextIs '>' rest then some (⟨none, os⟩, rest.drop 1) else none

/-- Reads a tag with a handle.  An exclamation mark alone is a tag of its own, and one before a
suffix a handle. -/
def readShorthand? (ss : List Spot) : Option (TagName × List Spot) :=
  (readHandle? ss).bind fun (handle, rest) =>
    (readOctets? false rest).bind fun (os, rest) =>
      if isWholeHandle handle then
        if os.isEmpty then none else some (⟨some handle, os⟩, rest)
      else
        let suffix := octets (String.ofList (handle.toList.drop 1)) ++ os
        if suffix.isEmpty then some (⟨none, octets "!"⟩, rest)
        else some (⟨some "!", suffix⟩, rest)

/-- Reads a tag.  A gap has to follow it, or a comma between brackets. -/
def readTag? (inFlow : Bool) (ss : List Spot) : Option (TagName × List Spot) :=
  let read :=
    if nextIs '<' (ss.drop 1) then readVerbatim? (ss.drop 2) else readShorthand? ss
  read.filter fun (_, rest) => (inFlow && nextIs ',' rest) || nextIsGap rest

/-- The tag that a name stands for, given what handles stand for. -/
def TagName.resolve? (name : TagName) (handles : List (String × List UInt8)) : Option Tag :=
  match name.handle with
  | none => some name.suffix
  | some h => (handles.lookup h).map (· ++ name.suffix)

/-- What handles stand for without a directive. -/
def standardHandles : List (String × List UInt8) :=
  [("!", octets "!"), ("!!", octets "tag:yaml.org,2002:")]

end Bindery.Yaml
