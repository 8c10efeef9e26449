import Bindery.Session.Fault
import Bindery.Host.Basic
import Bindery.Settings.Basic
import Bindery.Settings.Overlay
import Bindery.Yaml.Reading

/-!
# Bindery — Settings — Reading

Settings as JSON, and where they come from: what is standard, then a YAML file, then the
environment.  A value is read strictly, so a number does not stand for a text and null stands for
nothing; a field that is missing has its standard value and an unknown one is skipped.  An array
gives the fields in order.
-/

namespace Bindery.Settings

/-- A whole number as JSON. -/
def natJson (n : Nat) : Json := .number (.int n)

/-- The properties as JSON. -/
def propertiesJson (ps : List (String × String)) : Json :=
  .object (ps.map fun (k, v) => (k, .string v))

/-- The fields of settings, in their order. -/
def fields (s : Settings) : List (String × Json) :=
  [("wait_timeout_secs", natJson s.waitTimeoutSeconds), ("throttle_ms", natJson s.throttle),
    ("poll_interval_ms", natJson s.pollInterval),
    ("capture_screenshots", .bool s.captureScreenshots),
    ("highlight_style", .string s.highlightStyle), ("highlight_ms", natJson s.highlightTime),
    ("dry_run", .bool s.dryRun), ("max_binding_depth", natJson s.maxDepth),
    ("properties", propertiesJson s.properties)]

/-- Settings as JSON. -/
def toJson (s : Settings) : Json :=
  (Json.object s.fields).canonical

/-- The whole number that a value is. -/
def nat? : Json → Option Nat
  | .number (.int n) => if 0 ≤ n then some n.toNat else none
  | _ => none

/-- The truth value that a value is. -/
def bool? : Json → Option Bool
  | .bool b => some b
  | _ => none

/-- The text that a value is. -/
def string? : Json → Option String
  | .string s => some s
  | _ => none

/-- The properties that fields are. -/
def pairs? : List (String × Json) → Option (List (String × String))
  | [] => some []
  | (k, v) :: rest => (string? v).bind fun s => (pairs? rest).map ((k, s) :: ·)

/-- The properties that a value is. -/
def properties? (v : Json) : Option (List (String × String)) :=
  v.fields?.bind pairs?

/-- Settings with the field at a place among the others set. -/
def setField (s : Settings) (v : Json) : Nat → Option Settings
  | 0 => (nat? v).map fun n => { s with waitTimeoutSeconds := n }
  | 1 => (nat? v).map fun n => { s with throttle := n }
  | 2 => (nat? v).map fun n => { s with pollInterval := n }
  | 3 => (bool? v).map fun b => { s with captureScreenshots := b }
  | 4 => (string? v).map fun t => { s with highlightStyle := t }
  | 5 => (nat? v).map fun n => { s with highlightTime := n }
  | 6 => (bool? v).map fun b => { s with dryRun := b }
  | 7 => (nat? v).map fun n => { s with maxDepth := n }
  | 8 => (properties? v).map fun ps => { s with properties := ps }
  | _ => none

/-- The names of the fields, in their order. -/
def fieldNames : List String := standard.fields.map Prod.fst

/-- Settings with a named field set. -/
def setNamed (s : Settings) (name : String) (v : Json) : Option Settings :=
  match fieldNames.findIdx? (· = name) with
  | some n => s.setField v n
  | none => some s

/-- The settings that a value is. -/
def ofJson? : Json → Option Settings
  | .array items => items.zipIdx.foldlM (fun s (v, n) => s.setField v n) standard
  | .object fs => fs.foldlM (fun s (name, v) => s.setNamed name v) standard
  | _ => none

/-- The file that settings are looked for in first. -/
def localFile : String := "config/webbind.yaml"

/-- The file that settings are looked for in next, in the directory of a user's configuration. -/
def userFile (directory : String) : String :=
  let start := if directory.toList.getLast? = some '/' then directory else directory ++ "/"
  start ++ "webbind/webbind.yaml"

/-- The file that settings are to be read from: the one that is asked for, or else the local one, or
else that of the user. -/
def candidate? (h : Host) (directory : Option String) : Option String → Option String
  | some p => some p
  | none => if (h.files.find localFile).toBool then some localFile else directory.map userFile

/-- The file that settings are read from, if it is there. -/
def source? (h : Host) (directory path : Option String) : Option String :=
  (candidate? h directory path).filter fun p => (h.files.find p).toBool

/-- The layer that a file is; a blank one is empty. -/
def readLayer (h : Host) (path : String) : Except SettingsFault Json :=
  match h.files.readText path with
  | .error f => .error (.unreadable path f.message)
  | .ok s =>
    if Text.blank s then .ok (.object [])
    else
      match Yaml.read? s with
      | some v => .ok v
      | none => .error (.invalid "the file is not YAML")

/-- Settings with the file they were read from. -/
structure Loaded where
  settings : Settings
  source : Option String

/-- Loads settings: what is standard, a file if there is one, and the overlays.  The directory of a
user's configuration is the one that the host tells of. -/
def load (h : Host) (directory path : Option String) : Except SettingsFault Loaded := do
  let source := source? h directory path
  let base ← match source with
    | some p => (readLayer h p).map standard.toJson.merge
    | none => .ok standard.toJson
  match ofJson? ((overlays h.environment).foldl applyOverlay base) with
  | some settings => return ⟨settings, source⟩
  | none => throw (.invalid "a field has a value of another kind")

/-- The defaults of names: the properties, and then the environment variables. -/
def defaults (properties : List (String × String)) (h : Host) (name : String) :
    Option String :=
  (properties.lookup name).orElse fun _ => h.lookup? name

end Bindery.Settings
