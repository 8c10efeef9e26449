import Bindery.Gate.Pause
import Bindery.Key
import Bindery.Script
import Bindery.State
import Bindery.Wait

/-!
# Bindery — Gate — After

The time after an action.  Its value is bound, then the pause bound for it passes, and then the
condition bound for it is waited for.  A pause or a condition that is blank counts as none.
-/

namespace Bindery.Gate

/-- The value of a key, unless it is blank. -/
def notBlank? (s : ScopeStack) (key : String) : Option String :=
  (s.find? key).filter fun v => !Text.blank v

/-- Lets some nanoseconds pass. -/
def pass (nanos : Nat) : World.Act GateFault Unit :=
  modify fun w => w.sleep (pauseMillis (Timed.reading w) nanos)

/-- Lets the pause pass that is bound for the time after an action. -/
def pauseAfter (element action : String) : State.Act GateFault Unit := do
  let key := Key.wait element action
  match notBlank? (← get).store key with
  | none => return ()
  | some raw =>
    let nanos ← Act.ofExcept (parseWait key raw)
    State.inWorld (pass nanos)

/-- Whether the script of a condition yields a true value. -/
def holds (script : String) : World.Act InteractionFault Bool := do
  return Script.resultIsTrue (← World.browse (Browser.executeScript script []))

/-- The script of a condition. -/
def conditionScript (s : ScopeStack) (condition : String) : Except GateFault String :=
  let key := Key.javascript condition
  match notBlank? s key with
  | some script => .ok (Script.predicate script)
  | none => .error (.conditionUnbound condition key)

/-- Waits for the condition that is bound for the time after an action. -/
def awaitAfter (waits : WaitPolicy) (element action : String) : State.Act GateFault Unit := do
  match notBlank? (← get).store (Key.condition element action) with
  | none => return ()
  | some condition =>
    let script ← Act.ofExcept (conditionScript (← get).store condition)
    State.inWorld ((Wait.untilDefault waits (some condition) (holds script)).failingAs
      .interaction)

/-- Binds the value of an action and lets the time after it pass. -/
def bindAndWait (waits : WaitPolicy) (element action value : String) :
    State.Act GateFault Unit := do
  State.bind (Key.action element action) value
  pauseAfter element action
  awaitAfter waits element action

end Bindery.Gate
