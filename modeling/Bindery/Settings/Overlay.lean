import Bindery.Json.Reading
import Bindery.Text.Blank
import Bindery.Text.Cut
import Bindery.Text.Numeral

/-!
# Bindery — Settings — Overlay

Settings in layers.  A layer is a JSON value: `merge` lays a whole one over another, objects field
by field and anything else in the place of what was there; an overlay sets the one value at a
path.  Environment variables whose name starts with a mark are overlays: the parts of the rest of
the name are the path.
-/

namespace Bindery

namespace Json

/-- The fields of an object, or none for another value. -/
def fieldsOrNone (v : Json) : List (String × Json) :=
  v.fields?.getD []

mutual
/-- A value with another one laid over it. -/
def merge (base : Json) : Json → Json
  | .object upper =>
    match base with
    | .object fields => .object (mergeFields fields upper)
    | _ => .object upper
  | v => v

/-- Fields with others laid over them. -/
def mergeFields (base : List (String × Json)) : List (String × Json) → List (String × Json)
  | [] => base
  | (key, v) :: rest =>
    match lookup key base with
    | some old => mergeFields (insertField key (merge old v) base) rest
    | none => mergeFields (insertField key v base) rest
end

/-- A value with the value at a path set; whatever is no object on the way gives place to one. -/
def setAt (v : Json) : List String → Json → Json
  | [], root => root
  | [key], root => .object (insertField key v root.fieldsOrNone)
  | key :: path, root =>
    let fields := root.fieldsOrNone
    let inner := (lookup key fields).getD (.object [])
    .object (insertField key (setAt v path inner) fields)

end Json

namespace Settings

/-- A value to be set at a path. -/
structure Overlay where
  path : List String
  value : Json

/-- What the names of variables start with that are overlays. -/
def overlayMark : String := "WEBBIND__"

/-- What stands between the parts of such a name. -/
def partMark : List Char := ['_', '_']

/-- The field whose values are texts. -/
def propertiesField : String := "properties"

/-- The value that a text writes: JSON, a whole number that JSON would not allow, or else the text
itself. -/
def parseValue (raw : String) : Json :=
  if raw = "" then .string raw
  else
    match Json.read? raw with
    | some v => v
    | none =>
      match Text.signedWord? 10 raw.toList with
      | some n => .number (.int n)
      | none => .string raw

/-- The parts of the name of an overlay, the first one in lower case. -/
def pathOf (rest : List Char) : List String :=
  match ((Text.pieces partMark rest).filter fun p => !p.isEmpty).map String.ofList with
  | [] => []
  | first :: path => Text.lowerAscii first :: path

/-- The overlay that a variable is. -/
def overlay? (name raw : String) : Option Overlay :=
  (Text.after? overlayMark.toList name.toList).bind fun rest =>
    match pathOf rest with
    | [] => none
    | first :: path =>
      let value := if first = propertiesField then .string raw else parseValue raw
      some ⟨first :: path, value⟩

/-- The overlays among some variables, in order. -/
def overlays (environment : List (String × String)) : List Overlay :=
  environment.filterMap fun (name, raw) => overlay? name raw

/-- A value with an overlay applied. -/
def applyOverlay (root : Json) (o : Overlay) : Json :=
  Json.setAt o.value o.path root

end Settings

end Bindery
