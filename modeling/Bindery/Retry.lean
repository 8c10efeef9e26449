import Bindery.Act
import Bindery.Clock
import Bindery.Interaction.Fault

/-!
# Bindery — Retry

Trying an operation again while it fails in a way that may pass.  Tries end at whichever limit is
met first: the number of retries or a budget of time, counted from the first try on.  Between two
tries there is a pause, unless it is zero; none follows the try that uses up the retries.

Times are numbers of ticks.  How long a tick is does not matter, as long as every time that is given
is a whole number of them: a pause then takes exactly the time that it is to take.
-/

namespace Bindery

/-- When to stop trying. -/
structure RetryPolicy where
  maxRetries : Option Nat
  budget : Option Nat
  backoff : Nat
deriving DecidableEq, Repr

namespace RetryPolicy

/-- One retry, at once. -/
def once : RetryPolicy := ⟨some 1, none, 0⟩

/-- Any number of retries within a budget, with a pause before each. -/
def budgeted (budget backoff : Nat) : RetryPolicy := ⟨none, some budget, backoff⟩

/-- Whether no retry is left after a try with this number. -/
def retriesUsed (p : RetryPolicy) (number : Nat) : Bool :=
  p.maxRetries.any fun n => n ≤ number - 1

/-- Whether the budget is used up after some time. -/
def budgetUsed (p : RetryPolicy) (elapsed : Nat) : Bool :=
  p.budget.any fun n => n ≤ elapsed

end RetryPolicy

/-- What an operation knows of a try: its number, counted from one, and what is left of the
budget. -/
structure Try where
  number : Nat
  remaining : Option Nat
deriving DecidableEq, Repr

/-- Whether it is not the first try. -/
def Try.isRetry (t : Try) : Bool := 1 < t.number

namespace Retry

variable {σ α : Type} [Timed σ]

/-- How many tries can be counted. -/
def maxTries : Nat := 4294967295

/-- What is said where no further try can be counted. -/
def uncounted : InteractionFault := .internal "too many tries"

/-- Tries an operation at most a number of times, counting from `number`. -/
def run (p : RetryPolicy) (op : Try → Act σ InteractionFault α) (started : Nat) :
    Nat → Nat → Act σ InteractionFault α
  | 0, _ => fun s => (.error uncounted, s)
  | n + 1, number => fun s =>
    match op ⟨number, p.budget.map (· - (Timed.now s - started))⟩ s with
    | (.ok a, s) => (.ok a, s)
    | (.error e, s) =>
      if !e.isRetryable || p.retriesUsed number then (.error e, s)
      else
        let s := if p.backoff = 0 then s else Timed.sleep p.backoff s
        if p.budgetUsed (Timed.now s - started) then (.error e, s)
        else run p op started n (number + 1) s

/-- Tries an operation until it succeeds, fails for good or a limit is met; the last failure is
the failure of the whole. -/
def attempt (p : RetryPolicy) (op : Try → Act σ InteractionFault α) :
    Act σ InteractionFault α := fun s =>
  run p op (Timed.now s) maxTries 1 s

end Retry

end Bindery
