import Bindery.Attribute
import Bindery.Key
import Bindery.Resolution.Fault
import Bindery.Scope

/-!
# Bindery — Resolution — Scan

Which binding gives a name its value: the first one, from the innermost scope outwards and the
latest first, whose key is of a kind and whose value is not empty.  The fields of a lookup are
read by their own keys, so each may stand in a scope of its own.
-/

namespace Bindery

namespace ScopeStack

/-- The value of a key without the blanks around it, if anything is left. -/
def findWord? (s : ScopeStack) (key : String) : Option String :=
  ((s.find? key).map Text.trim).filter (· ≠ "")

/-- The first entry that gives a name a value: its kind and its value. -/
def firstOf? (s : ScopeStack) (name : String) : Option (AttributeKind × String) :=
  (s.entriesWith name).findSome? fun (key, value) =>
    if value = "" then none else (AttributeKind.ofKey? name key).map fun kind => (kind, value)

/-- The value of a field that a lookup cannot do without. -/
def field (s : ScopeStack) (key : String) : Except ResolutionFault String :=
  match (s.find? key).filter (· ≠ "") with
  | some v => .ok v
  | none => .error (.unbound key)

/-- The binding of a kind that a name has, with the fields it needs. -/
def attributeOf (s : ScopeStack) (name value : String) :
    AttributeKind → Except ResolutionFault BoundAttribute
  | .literal => .ok (.literal value)
  | .text => .ok (.literal value)
  | .javaScript => .ok (.script value)
  | .process => .ok (.process value)
  | .file => .ok (.file value)
  | .xpath => do
    let source ← s.field (Key.xpath name "source")
    let expression ← s.field (Key.xpath name "expression")
    let target := (s.findWord? (Key.xpath name "targetType")).getD TargetType.text.word
    return .xpath source expression target
  | .regex => do
    return .regex (← s.field (Key.regex name "source")) (← s.field (Key.regex name "expression"))
  | .jsonPath => do
    return .jsonPath (← s.field (Key.jsonPath name "source"))
      (← s.field (Key.jsonPath name "expression"))

/-- The binding that gives a name its value, if there is one. -/
def scan (s : ScopeStack) (name : String) : Except ResolutionFault (Option BoundAttribute) :=
  match s.firstOf? name with
  | none => .ok none
  | some (kind, value) => (s.attributeOf name value kind).map some

end ScopeStack

end Bindery
