import Bindery.Evaluation.Fault

/-!
# Bindery — Resolution — Fault

Why a name has no value and an element no locator.
-/

namespace Bindery

/-- Why a name has no value or an element no locator. -/
inductive ResolutionFault where
  | locatorUnbound (element key : String)
  | unbound (name : String)
  | resourceMissing (name path : String)
  | tooDeep (name : String) (limit : Nat)
  | evaluation (name kind : String) (cause : EvaluationCause)
  | interaction (f : InteractionFault)
deriving DecidableEq, Repr

namespace ResolutionFault

/-- What is said of a failure. -/
def message : ResolutionFault → String
  | locatorUnbound element key =>
    s!"Locator binding not found for '{element}': {key} is not bound"
  | unbound name => s!"Unbound attribute: {name}"
  | resourceMissing name path => s!"Resource not found for '{name}': {path}"
  | tooDeep name limit =>
    s!"Binding depth limit of {Text.decimal limit} exceeded while resolving '{name}'"
  | evaluation name kind cause =>
    s!"Failed to evaluate {kind} binding of '{name}': {cause.message}"
  | interaction f => f.message

/-- Whether trying again may help. -/
def isRetryable : ResolutionFault → Bool
  | interaction f => f.isRetryable
  | _ => false

/-- Whether nothing is bound. -/
def isUnbound : ResolutionFault → Bool
  | unbound _ => true
  | locatorUnbound .. => true
  | _ => false

/-- How grave a failure is, from zero to three. -/
def severity : ResolutionFault → Nat
  | interaction f => f.severity
  | tooDeep .. => 3
  | resourceMissing .. => 2
  | evaluation .. => 2
  | locatorUnbound .. => 1
  | unbound _ => 1

/-- The failure to find the value of a name when an evaluator gives none. -/
def ofEvaluation (name kind : String) : EvaluationFault → ResolutionFault
  | .failed cause => .evaluation name kind cause
  | .fileMissing path => .resourceMissing name path
  | .interaction f => .interaction f

end ResolutionFault

end Bindery
