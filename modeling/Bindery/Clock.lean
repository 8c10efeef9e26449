/-!
# Bindery — Clock

Time in whole ticks.  It passes only where something sleeps, and sleeping takes exactly as many
ticks as it is to take; a state in which something can sleep says what time it is and what sleeping
makes of it (`Timed`).  A clock never goes back (`le_after`) and never past its last tick.  Nothing
in this depends on how long a tick is.

Only beside the clock of the machine a tick is a millisecond.  That clock counts nanoseconds, has
some reading when the time begins (`Timed.origin`), and can show fewer than `2 ^ 63` seconds.
-/

namespace Bindery

namespace Clock

/-- The last tick a clock can show. -/
def lastTick : Nat := 18446744073709551613

/-- The time after sleeping. -/
def after (now pause : Nat) : Nat :=
  max now (min (now + pause) lastTick)

theorem le_after (now pause : Nat) : now ≤ after now pause :=
  Nat.le_max_left _ _

theorem after_of_le {now pause : Nat} (h : now + pause ≤ lastTick) :
    after now pause = now + pause := by
  unfold after
  omega

theorem after_of_lt {now pause : Nat} (h : lastTick < now + pause) :
    after now pause = max now lastTick := by
  unfold after
  omega

/-- The nanoseconds of a second. -/
def secondNanos : Nat := 1000000000

/-- The nanoseconds of a millisecond. -/
def milliNanos : Nat := 1000000

/-- The first number of nanoseconds that the clock of the machine cannot show. -/
def readingBound : Nat := 9223372036854775808 * secondNanos

end Clock

/-- A state in which something can sleep. -/
class Timed (σ : Type) where
  /-- The time. -/
  now : σ → Nat
  /-- The reading of the machine's clock when the time began. -/
  origin : σ → UInt64
  /-- The state after a pause. -/
  sleep : Nat → σ → σ
  /-- Sleeping makes the clock go by its rule. -/
  now_sleep : ∀ (pause : Nat) (s : σ), now (sleep pause s) = Clock.after (now s) pause
  /-- Sleeping does not move the beginning. -/
  origin_sleep : ∀ (pause : Nat) (s : σ), origin (sleep pause s) = origin s

/-- The reading of the machine's clock. -/
def Timed.reading {σ : Type} [Timed σ] (s : σ) : Nat :=
  (origin s).toNat + now s * Clock.milliNanos

/-- A clock with nothing else, on a machine that has just been started. -/
instance : Timed Nat where
  now t := t
  origin _ := 0
  sleep pause t := Clock.after t pause
  now_sleep _ _ := rfl
  origin_sleep _ _ := rfl

/-- A state with something beside it that time does not change. -/
instance (σ τ : Type) [Timed σ] : Timed (σ × τ) where
  now s := Timed.now s.1
  origin s := Timed.origin s.1
  sleep pause s := (Timed.sleep pause s.1, s.2)
  now_sleep pause s := Timed.now_sleep pause s.1
  origin_sleep pause s := Timed.origin_sleep pause s.1

end Bindery
