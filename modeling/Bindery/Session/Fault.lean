import Bindery.Gate.Fault
import Bindery.Resolution.Fault
import Bindery.Scope

/-!
# Bindery — Session — Fault

Why a step fails.
-/

namespace Bindery

/-- Why settings cannot be had. -/
inductive SettingsFault where
  | unreadable (path reason : String)
  | invalid (reason : String)
deriving DecidableEq, Repr

/-- What is said of settings that cannot be had. -/
def SettingsFault.message : SettingsFault → String
  | unreadable path reason => s!"Failed to read settings file {path}: {reason}"
  | invalid reason => s!"Invalid settings: {reason}"

/-- Why a step fails.  A deadline that is too far off is a crash. -/
inductive StepFault where
  | resolution (f : ResolutionFault)
  | interaction (f : InteractionFault)
  | gate (f : GateFault)
  | scope (f : ScopeFault)
  | word (u : Unknown)
  | settings (f : SettingsFault)
  | endlessTimeout
deriving DecidableEq, Repr

namespace StepFault

/-- What is said of a failure. -/
def message : StepFault → String
  | resolution f => f.message
  | interaction f => f.message
  | gate f => f.message
  | scope f => f.message
  | word u => u.message
  | settings f => f.message
  | endlessTimeout => "the timeout is too long"

/-- Whether time ran out. -/
def isTimeout : StepFault → Bool
  | interaction f => f.isTimeout
  | gate (.interaction f) => f.isTimeout
  | resolution (.interaction f) => f.isTimeout
  | _ => false

/-- Whether nothing is bound. -/
def isUnbound : StepFault → Bool
  | resolution f => f.isUnbound
  | _ => false

/-- Whether trying again may help, where that is asked. -/
def isRetryable? : StepFault → Option Bool
  | resolution f => some f.isRetryable
  | interaction f => some f.isRetryable
  | gate f => some f.isRetryable
  | _ => none

/-- How grave a failure is, from zero to three. -/
def severity : StepFault → Nat
  | resolution f => f.severity
  | interaction f => f.severity
  | gate f => f.severity
  | scope _ => 1
  | word _ => 1
  | settings _ => 2
  | endlessTimeout => 3

/-- Whether it is a crash. -/
def isCrash : StepFault → Bool
  | gate f => f.isCrash
  | endlessTimeout => true
  | _ => false

end StepFault

end Bindery
