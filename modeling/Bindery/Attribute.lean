import Bindery.Vocabulary
import Bindery.Text.Cut

/-!
# Bindery — Attribute

The kinds of bindings that give a name a value.  The part of a key after the name tells the
kind: the name alone is a literal, `/text`, `/javascript`, `/sysproc` and `/file` stand for one
text each, and `/xpath/…`, `/regex/…` and `/json path/…` for the fields of a lookup in the value
of another name.
-/

namespace Bindery

open Bindery.Text

/-- A kind of binding. -/
inductive AttributeKind where
  | literal
  | text
  | javaScript
  | xpath
  | regex
  | jsonPath
  | process
  | file
deriving DecidableEq, Repr, Inhabited

namespace AttributeKind

/-- The name of a kind. -/
def word : AttributeKind → String
  | .literal => "literal"
  | .text => "text"
  | .javaScript => "javascript"
  | .xpath => "xpath"
  | .regex => "regex"
  | .jsonPath => "json path"
  | .process => "sysproc"
  | .file => "file"

/-- Whether something follows a group in the part of a key after the name. -/
def hasField (suffix group : List Char) : Bool :=
  match after? group suffix with
  | some (_ :: _) => true
  | _ => false

/-- The kind that the part of a key after the name and a slash tells. -/
def ofSuffix? (suffix : List Char) : Option AttributeKind :=
  if suffix = "text".toList then some .text
  else if suffix = "javascript".toList then some .javaScript
  else if suffix = "sysproc".toList then some .process
  else if suffix = "file".toList then some .file
  else if hasField suffix "xpath/".toList then some .xpath
  else if hasField suffix "regex/".toList then some .regex
  else if hasField suffix "json path/".toList then some .jsonPath
  else none

/-- The kind of binding that a key is for a name. -/
def ofKey? (name key : String) : Option AttributeKind :=
  match after? name.toList key.toList with
  | some [] => some .literal
  | some ('/' :: suffix) => ofSuffix? suffix
  | _ => none

end AttributeKind

/-- What an XPath lookup gives: the text of its result, the markup of its first node, or the
markup of every node. -/
inductive TargetType where
  | text
  | node
  | nodeSet
deriving DecidableEq, Repr, Inhabited

namespace TargetType

/-- The name of a target type. -/
def word : TargetType → String
  | .text => "text"
  | .node => "node"
  | .nodeSet => "nodeset"

/-- The target type that a normal word names. -/
def ofWord? : String → Option TargetType
  | "text" => some .text
  | "node" => some .node
  | "nodeset" => some .nodeSet
  | "node set" => some .nodeSet
  | _ => none

/-- The target type that a word names; otherwise the word as it was compared. -/
def read (raw : String) : Except String TargetType :=
  match ofWord? (normalWord raw) with
  | some t => .ok t
  | none => .error (normalWord raw)

/-- What is said of a word that names no target type. -/
def unknownMessage (normal : String) : String :=
  s!"unknown xpath target type '{normal}'"

end TargetType

/-- A binding with every field it needs.  Sources are names of other bindings; expressions,
commands and paths are templates. -/
inductive BoundAttribute where
  | literal (value : String)
  | script (script : String)
  | xpath (source expression targetType : String)
  | regex (source expression : String)
  | jsonPath (source expression : String)
  | process (command : String)
  | file (path : String)
deriving DecidableEq, Repr

/-- The kind of a binding; a text binding is a literal one. -/
def BoundAttribute.kind : BoundAttribute → AttributeKind
  | .literal _ => .literal
  | .script _ => .javaScript
  | .xpath .. => .xpath
  | .regex .. => .regex
  | .jsonPath .. => .jsonPath
  | .process _ => .process
  | .file _ => .file

end Bindery
