import Bindery.Interaction.Fault

/-!
# Bindery — Gate — Fault

Why the time after an action does not end well.  A pause that is longer than any pause can be is
no failure that a caller could handle: it is a crash.
-/

namespace Bindery

/-- Why the time after an action does not end well. -/
inductive GateFault where
  | interaction (f : InteractionFault)
  | invalidWait (key value : String)
  | conditionUnbound (condition key : String)
  | endlessWait (key value : String)
deriving DecidableEq, Repr

namespace GateFault

/-- What is said of a failure. -/
def message : GateFault → String
  | interaction f => f.message
  | invalidWait key value => s!"Invalid wait '{value}' bound at {key}"
  | conditionUnbound condition key => s!"Condition '{condition}' has no script bound at {key}"
  | endlessWait key value => s!"Wait '{value}' bound at {key} is too long"

/-- Whether trying again may help. -/
def isRetryable : GateFault → Bool
  | interaction f => f.isRetryable
  | _ => false

/-- How grave a failure is, from zero to three. -/
def severity : GateFault → Nat
  | interaction f => f.severity
  | invalidWait .. => 2
  | conditionUnbound .. => 2
  | endlessWait .. => 3

/-- Whether it is a crash. -/
def isCrash : GateFault → Bool
  | endlessWait .. => true
  | _ => false

end GateFault

end Bindery
