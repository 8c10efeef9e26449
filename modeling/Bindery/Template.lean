import Bindery.Text.Blank
import Bindery.Text.Cut

/-!
# Bindery — Template

Texts with `$[name]` references.  `parse` splits a template into text and references, and `write`
puts segments one after the other again.  A `$[` that is never closed and a reference with a blank
name are text.
-/

namespace Bindery.Template

open Bindery.Text

/-- A part of a template. -/
inductive Segment where
  | text (s : String)
  | reference (name : String)
deriving DecidableEq, Repr

/-- What opens a reference. -/
def opening : List Char := ['$', '[']

/-- The text before the first reference, its name, and what follows it. -/
def firstReference? (cs : List Char) : Option (List Char × List Char × List Char) :=
  (cutAt? opening cs).bind fun (before, after) =>
    (splitOn? ']' after).map fun (name, rest) => (before, name, rest)

theorem eq_append_of_firstReference? {cs before name rest : List Char}
    (e : firstReference? cs = some (before, name, rest)) :
    cs = before ++ opening ++ name ++ ']' :: rest := by
  obtain ⟨⟨a, b⟩, hab, e⟩ := Option.bind_eq_some_iff.1 e
  obtain ⟨⟨c, d⟩, hcd, e⟩ := Option.map_eq_some_iff.1 e
  cases e
  rw [eq_append_of_cutAt? hab, eq_append_of_splitOn? hcd]
  simp

theorem length_lt_of_firstReference? {cs before name rest : List Char}
    (e : firstReference? cs = some (before, name, rest)) : rest.length < cs.length := by
  rw [eq_append_of_firstReference? e]
  simp only [List.length_append, List.length_cons]
  omega

/-- The segments of a list of characters. -/
def parseList (cs : List Char) : List Segment :=
  match e : firstReference? cs with
  | none => if cs.isEmpty then [] else [.text (String.ofList cs)]
  | some (before, name, rest) =>
    have := length_lt_of_firstReference? e
    if name.all isBlank then
      .text (String.ofList (before ++ opening ++ name ++ [']'])) :: parseList rest
    else if before.isEmpty then .reference (String.ofList name) :: parseList rest
    else .text (String.ofList before) :: .reference (String.ofList name) :: parseList rest
termination_by cs.length

/-- The segments of a template. -/
def parse (template : String) : List Segment :=
  parseList template.toList

/-- A segment as a template writes it. -/
def Segment.write : Segment → String
  | .text s => s
  | .reference name => "$[" ++ name ++ "]"

/-- The template that segments write. -/
def write (segments : List Segment) : String :=
  String.join (segments.map Segment.write)

/-- How the name of a placeholder starts; a reference whose name starts so is never looked up. -/
def placeholderMark : String := "dryValue:"

/-- What stands in a dry run for a value that only the page has. -/
def placeholder (name : String) : String :=
  "$[" ++ placeholderMark ++ name ++ "]"

/-- Whether a reference is a placeholder. -/
def isPlaceholder (name : String) : Bool :=
  startsWith name placeholderMark

end Bindery.Template
