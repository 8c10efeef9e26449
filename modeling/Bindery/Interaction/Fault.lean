import Bindery.Browser.Fault
import Bindery.Text.Numeral

/-!
# Bindery — Interaction — Fault

Why an interaction with the page or a wait fails.
-/

namespace Bindery

/-- Why an interaction or a wait fails. -/
inductive InteractionFault where
  | browser (f : BrowserFault)
  | timedOut (reason : String) (timeout : Nat) (cause : Option String)
  | rejected (element operation reason : String)
  | internal (detail : String)
deriving DecidableEq, Repr

namespace InteractionFault

/-- What is said of the last failure before time ran out. -/
def lastCause : Option String → String
  | none => ""
  | some c => s!" (last error: {c})"

/-- What is said of a failure. -/
def message : InteractionFault → String
  | browser f => s!"Driver error: {f.message}"
  | timedOut reason timeout cause =>
    s!"Timed out after {Text.decimal timeout}ms waiting for {reason}{lastCause cause}"
  | rejected element operation reason => s!"Element '{element}' rejected {operation}: {reason}"
  | internal detail => s!"Internal error: {detail}"

/-- Whether trying again may help. -/
def isRetryable : InteractionFault → Bool
  | browser f => f.isTransient
  | _ => false

/-- Whether no element was found. -/
def isNotFound : InteractionFault → Bool
  | browser (.noSuchElement _) => true
  | _ => false

/-- Whether time ran out. -/
def isTimeout : InteractionFault → Bool
  | timedOut .. => true
  | _ => false

/-- How grave a failure is, from zero to three. -/
def severity : InteractionFault → Nat
  | browser f => if f.isTransient then 0 else 2
  | timedOut .. => 2
  | rejected .. => 1
  | internal _ => 3

end InteractionFault

end Bindery
