import Bindery.Host.Shell.Pattern
import Bindery.Host.Shell.Process
import Bindery.Host.Shell.Sum

/-!
# Bindery — Host — Shell — Expansion

What words become.  A word is first turned into glyphs: characters that still know whether they
were quoted and whether they may split the word, with marks where quotes stood and where one
argument ends and the next begins.  Glyphs are then split into fields (`fields`), and a field
with wildcards becomes the names that it is a pattern for (`namesFor`).
-/

namespace Bindery.Shell

open Bindery.Text

/-- A character of a word that was expanded, or a mark between characters. -/
inductive Glyph where
  | char (c : Char) (isLiteral splits : Bool)
  | edge
  | cut

namespace Glyph

/-- The glyphs of a text that was quoted or not. -/
def ofText (isLiteral splits : Bool) (s : String) : List Glyph :=
  s.toList.map fun c => .char c isLiteral splits

/-- The text that glyphs are when they are not split. -/
def text (gs : List Glyph) : String :=
  String.ofList (gs.filterMap fun g => match g with
    | .char c _ _ => some c
    | .edge => none
    | .cut => some ' ')

/-- The pattern that glyphs are. -/
def signs (gs : List Glyph) : List Sign :=
  gs.filterMap fun g => match g with
    | .char c isLiteral _ => some ⟨c, isLiteral⟩
    | _ => none

/-- A glyph that may split its word if it was not quoted. -/
def splitting : Glyph → Glyph
  | .char c isLiteral _ => .char c isLiteral !isLiteral
  | g => g

end Glyph

/-- Splitting as far as it has come: the fields, the latest first, the one that is open, and
whether the last one was ended by a blank. -/
structure Splitting where
  done : List (List Sign)
  current : Option (List Sign)
  afterBlank : Bool

namespace Splitting

/-- Ends the field that is open, if one is. -/
def close (s : Splitting) (afterBlank : Bool) : Splitting :=
  match s.current with
  | some f => ⟨f.reverse :: s.done, none, afterBlank⟩
  | none => s

/-- One more glyph, where the characters of `separators` split. -/
def step (separators : List Char) (s : Splitting) : Glyph → Splitting
  | .edge => { s with current := some (s.current.getD []), afterBlank := false }
  | .cut => ⟨(s.current.getD []).reverse :: s.done, none, false⟩
  | .char c isLiteral splits =>
    if splits && separators.contains c then
      if c = ' ' || c = '\t' || c = '\n' then s.close true
      else if s.current.isSome then s.close false
      else if s.afterBlank then { s with afterBlank := false }
      else { s with done := [] :: s.done }
    else { s with current := some (⟨c, isLiteral⟩ :: s.current.getD []), afterBlank := false }

end Splitting

/-- The fields that glyphs are split into. -/
def fields (separators : List Char) (gs : List Glyph) : List (List Sign) :=
  ((gs.foldl (Splitting.step separators) ⟨[], none, false⟩).close false).done.reverse

/-- The text of a field. -/
def fieldText (f : List Sign) : String :=
  String.ofList (f.map Sign.char)

/-- The parts of a path between slashes. -/
def pathParts : List Sign → List (List Sign)
  | [] => [[]]
  | s :: rest =>
    if s.char = '/' then [] :: pathParts rest
    else
      match pathParts rest with
      | p :: ps => (s :: p) :: ps
      | [] => [[s]]

/-- The names in a directory that a part of a path is a pattern for; one that starts with a dot
only if the pattern does. -/
def namesIn (files : Files) (directory : Place) (part : List Sign) : List String :=
  match directory with
  | .outside => []
  | .inside path =>
    let names := [".", ".."] ++ (files.names path).map Octets.ofText
    let p := Pattern.ofSigns part
    names.filter fun name =>
      (!name.startsWith "." || part.head?.any fun s => s.char = '.') && Pattern.suits p name.toList

/-- The paths that parts are a pattern for, from a directory on; `before` is the path up to
there. -/
def pathsFor (files : Files) (directory : Place) (before : String) :
    List (List Sign) → List String
  | [] => []
  | part :: rest =>
    let names := if part.any Pattern.isWild then namesIn files directory part else [fieldText part]
    names.flatMap fun name =>
      let path := before ++ name
      match files.step directory (Octets.toText name) with
      | .error _ => []
      | .ok place =>
        if (files.itemAt? place).isNone then []
        else if rest.isEmpty then [path]
        else pathsFor files place (path ++ "/") rest

/-- The texts that a field becomes: the names it is a pattern for, in the order of their bytes,
or what it is itself. -/
def namesFor (p : Process) (f : List Sign) : List String :=
  if p.findsNames && f.any Pattern.isWild then
    let start := if f.head?.any fun s => s.char = '/' then Place.outside else p.place
    match (pathsFor p.files start "" (pathParts f)).mergeSort fun a b => a ≤ b with
    | [] => [fieldText f]
    | names => names
  else [fieldText f]

/-- The number that stands for the shell itself. -/
def ownNumber : Nat := 4096

/-- The value of a parameter that is one text, if it has one. -/
def parameter? (p : Process) (name : String) : Option String :=
  match name with
  | "#" => some (decimal p.arguments.length)
  | "?" => some (decimal p.status)
  | "$" => some (decimal ownNumber)
  | "-" => some ""
  | "!" => none
  | "0" => some p.name
  | _ =>
    match name.toNat? with
    | some n => p.arguments[n - 1]?
    | none => (p.lookup? name).map Variable.value

/-- The characters that split words. -/
def separators (p : Process) : List Char :=
  match p.lookup? "IFS" with
  | some v => v.value.toList
  | none => [' ', '\t', '\n']

/-- Whether a parameter stands for all arguments. -/
def isAll (name : String) : Bool := name = "@" || name = "*"

/-- The glyphs of all arguments. -/
def allArguments (p : Process) (name : String) (inQuotes : Bool) : List Glyph :=
  let texts := p.arguments.map fun s => Glyph.ofText inQuotes (!inQuotes) s
  if name = "*" && inQuotes then
    let joint := match p.lookup? "IFS" with
      | some v => Glyph.ofText true false (String.ofList (v.value.toList.take 1))
      | none => Glyph.ofText true false " "
    joint.intercalate texts
  else [Glyph.cut].intercalate texts

/-- Expands parts of words. -/
abbrev Expand := Bool → Word → Work (List Glyph)

/-- The glyphs of a value. -/
def valueGlyphs (inQuotes : Bool) (s : String) : List Glyph :=
  Glyph.ofText inQuotes (!inQuotes) s

/-- Expands the argument of a parameter where it stands for the value. -/
def argumentGlyphs (expand : Expand) (inQuotes : Bool) (argument : Word) : Work (List Glyph) := do
  return (← expand inQuotes argument).map fun g => if inQuotes then g else g.splitting

/-- Expands a parameter. -/
def expandParameter (expand : Expand) (inQuotes : Bool) (name : String) (u : Use)
    (argument : Word) : Work (List Glyph) := do
  let p ← get
  let value := if isAll name then
      (if p.arguments.isEmpty then none else some (" ".intercalate p.arguments))
    else parameter? p name
  let glyphs := if isAll name then allArguments p name inQuotes
    else valueGlyphs inQuotes (value.getD "")
  let isGiven := fun ifEmpty : Bool => value.any fun s => !(ifEmpty && s.isEmpty)
  match u with
  | .value =>
    if value.isNone && p.demandsValues && !isAll name then
      Work.fail (name ++ ": parameter not set")
    return glyphs
  | .length =>
    if isAll name then return valueGlyphs inQuotes (decimal p.arguments.length)
    if value.isNone && p.demandsValues then Work.fail (name ++ ": parameter not set")
    return valueGlyphs inQuotes (decimal (value.getD "").length)
  | .standIn ifEmpty =>
    if isGiven ifEmpty then return glyphs else argumentGlyphs expand inQuotes argument
  | .assign ifEmpty =>
    if isGiven ifEmpty then return glyphs
    else
      let s := Glyph.text (← expand inQuotes argument)
      Work.assign name s
      return valueGlyphs inQuotes s
  | .demand ifEmpty =>
    if isGiven ifEmpty then return glyphs
    else
      let s := Glyph.text (← expand inQuotes argument)
      let reason := if !argument.isEmpty then s
        else if ifEmpty then "parameter not set or null" else "parameter not set"
      Work.fail (name ++ ": " ++ reason)
  | .instead ifEmpty =>
    if isGiven ifEmpty then argumentGlyphs expand inQuotes argument else return []
  | .cutFront longest =>
    let pattern := Pattern.ofSigns (Glyph.signs (← expand false argument))
    let s := Pattern.cutFront longest pattern (value.getD "").toList
    return valueGlyphs inQuotes (String.ofList s)
  | .cutBack longest =>
    let pattern := Pattern.ofSigns (Glyph.signs (← expand false argument))
    let s := Pattern.cutBack longest pattern (value.getD "").toList
    return valueGlyphs inQuotes (String.ofList s)
  | .unknown => Work.fail "Bad substitution"

/-- What a command prints, without null characters and without the line breaks at the end. -/
def outputText (s : String) : String :=
  let cs := s.toList.filter (· ≠ '\x00')
  String.ofList (cs.reverse.dropWhile (· = '\n')).reverse

/-- The value of a sum; what it assigns is assigned. -/
def sumText (s : String) : Work String := do
  match Sum.evaluate (← get).valueOf s with
  | .ok (n, assigned) =>
    for (name, m) in assigned.reverse do
      Work.assign name (signed m)
    return signed n
  | .error fault => Work.fail (Sum.faultText s fault)

/-- Expands one part of a word. -/
def expandPart (run : Command → Work Unit) (expand : Expand) (inQuotes : Bool) :
    Part → Work (List Glyph)
  | .plain s => return Glyph.ofText inQuotes false s
  | .literal s => return .edge :: Glyph.ofText true false s
  | .quotes [.parameter "@" .value _] => do
    let p ← get
    return if p.arguments.isEmpty then [] else .edge :: (allArguments p "@" true).flatMap fun g =>
      match g with
      | .cut => [.cut, .edge]
      | g => [g]
  | .quotes parts => return .edge :: (← expand true parts)
  | .parameter name u argument => expandParameter expand inQuotes name u argument
  | .output c => do
    let (s, status) ← Work.captured none (run c)
    modify fun p => { p with printed := some status }
    return valueGlyphs inQuotes (outputText s)
  | .sum parts => do
    let s ← sumText (Glyph.text (← expand true parts))
    return valueGlyphs inQuotes s

/-- Expands the parts of a word, given how to run commands and how to expand the parts of
parts. -/
def expandWith (run : Command → Work Unit) (expand : Expand) (inQuotes : Bool) :
    Word → Work (List Glyph)
  | [] => return []
  | part :: rest => do
    let gs ← expandPart run expand inQuotes part
    return gs ++ (← expandWith run expand inQuotes rest)

/-- A word with a tilde in front replaced by the home directory, if there is one. -/
def withHome (p : Process) : Word → Word
  | .plain "~" :: rest =>
    let isAlone := match rest with
      | [] => true
      | .plain s :: _ => s.startsWith "/"
      | _ => false
    match isAlone, p.lookup? "HOME" with
    | true, some v => .literal v.value :: rest
    | _, _ => .plain "~" :: rest
  | w => w

/-- The text that a word becomes where it is not split. -/
def wordText (expand : Expand) (w : Word) : Work String := do
  return Glyph.text (← expand false (withHome (← get) w))

/-- The texts that words become. -/
def wordTexts (expand : Expand) : List Word → Work (List String)
  | [] => return []
  | w :: rest => do
    let gs ← expand false (withHome (← get) w)
    let p ← get
    let texts := (fields (separators p) gs).flatMap (namesFor p)
    return texts ++ (← wordTexts expand rest)

end Bindery.Shell
