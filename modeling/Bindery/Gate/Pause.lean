import Bindery.Clock
import Bindery.Decimal.Reading
import Bindery.Gate.Fault
import Bindery.Text.Blank

/-!
# Bindery — Gate — Pause

The pause that is bound for the time after an action: a decimal number of seconds, not negative,
rounded to whole nanoseconds, a half to the even one.  A pause takes whole milliseconds, and one
that ends within a millisecond takes all of it; one that would end where the clock of the machine
can show no time any more takes thirty years.
-/

namespace Bindery.Gate

open Bindery.Clock Bindery.Decimal

/-- The first number of seconds that is too large for a pause. -/
def secondsBound : Nat := 18446744073709551616

/-- The milliseconds of a pause whose end the clock of the machine cannot show: thirty years. -/
def farPause : Nat := 946080000000

/-- A number of seconds in whole nanoseconds. -/
def nanosOf (x : Binary64) : Nat :=
  let (num, den) := x.ratio
  roundDiv (num * secondNanos) den

/-- The milliseconds that a pause of some nanoseconds takes where the clock of the machine has some
reading. -/
def pauseMillis (reading nanos : Nat) : Nat :=
  if readingBound ≤ reading + nanos then farPause
  else (nanos + (milliNanos - 1)) / milliNanos

/-- The number of seconds that a text writes, if it is finite and not negative. -/
def seconds? (raw : String) : Option Binary64 :=
  ((read? (Text.trim raw)).bind Parsed.finite?).filter fun x => !x.negative || x.isZero

/-- The nanoseconds of the pause bound at a key. -/
def parseWait (key raw : String) : Except GateFault Nat :=
  match seconds? raw with
  | none => .error (.invalidWait key raw)
  | some x =>
    let nanos := nanosOf x
    if nanos / secondNanos < secondsBound then .ok nanos else .error (.endlessWait key raw)

end Bindery.Gate
