import Bindery.Retry

/-!
# Bindery — Wait

Waiting for a condition.  The condition is asked every poll interval until it holds or the timeout
has passed; a failure that may pass does not end the wait, which goes on after a throttle
interval with the time that is left.

Times are numbers of ticks, as they are for tries.  Only the least poll interval and what is said of
a timeout take a tick for a millisecond.
-/

namespace Bindery

/-- The times of waiting: the timeout where a caller gives none, the pause after
a failure that may pass, and the interval between two questions. -/
structure WaitPolicy where
  defaultTimeout : Nat
  throttle : Nat
  pollInterval : Nat
deriving DecidableEq, Repr

namespace WaitPolicy

/-- The times where nothing is said. -/
def standard : WaitPolicy := ⟨10000, 200, 250⟩

/-- The interval between two questions, which is never zero. -/
def interval (p : WaitPolicy) : Nat := max p.pollInterval 1

end WaitPolicy

namespace Wait

variable {σ : Type} [Timed σ]

/-- Asks a condition until it holds or a deadline has passed, at most a number of times. -/
def poll (interval deadline : Nat) (late : InteractionFault)
    (condition : Act σ InteractionFault Bool) : Nat → Act σ InteractionFault Unit
  | 0 => fun s => (.error late, s)
  | n + 1 => fun s =>
    match condition s with
    | (.error e, s) => (.error e, s)
    | (.ok true, s) => (.ok (), s)
    | (.ok false, s) =>
      if deadline ≤ Timed.now s then (.error late, s)
      else
        poll interval deadline late condition n
          (Timed.sleep (min interval (deadline - Timed.now s)) s)

/-- A timeout as messages count it, in a word of 64 bits. -/
def shownTimeout (timeout : Nat) : Nat :=
  timeout % (Text.maxWord + 1)

/-- What is waited for, as messages say it. -/
def shownReason (reason : Option String) : String :=
  reason.getD "condition"

/-- One round of a wait: the condition is asked until it holds or the time that is left has
passed. -/
def round (p : WaitPolicy) (reason : Option String) (timeout : Nat)
    (condition : Act σ InteractionFault Bool) (t : Try) : Act σ InteractionFault Unit := fun s =>
  let remaining := t.remaining.getD timeout
  let late := InteractionFault.timedOut (shownReason reason) (shownTimeout timeout) none
  poll p.interval (Timed.now s + remaining) late condition (remaining + 1) s

/-- What a wait fails with whose last round failed: that time ran out, where the failure may
pass. -/
def failure (reason : Option String) (timeout : Nat) (e : InteractionFault) : InteractionFault :=
  if e.isRetryable then
    .timedOut (shownReason reason) (shownTimeout timeout) (some e.message)
  else e

/-- Waits until a condition holds. -/
def waitFor (p : WaitPolicy) (reason : Option String) (timeout : Nat)
    (condition : Act σ InteractionFault Bool) : Act σ InteractionFault Unit :=
  (Retry.attempt (.budgeted timeout p.throttle) (round p reason timeout condition)).failingAs
    (failure reason timeout)

/-- Waits until a condition holds, as long as the policy says. -/
def untilDefault (p : WaitPolicy) (reason : Option String)
    (condition : Act σ InteractionFault Bool) : Act σ InteractionFault Unit :=
  waitFor p reason p.defaultTimeout condition

end Wait

end Bindery
