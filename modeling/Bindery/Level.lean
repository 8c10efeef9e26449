import Bindery.Text.Blank
import Bindery.Text.Numeral

/-!
# Bindery — Level

The levels of a log, from the most to the least urgent.  A level is written as its name, in any
case, or as its number.
-/

namespace Bindery

/-- A level of a log. -/
inductive Level where
  | error
  | warn
  | info
  | debug
  | trace
deriving DecidableEq, Repr

namespace Level

/-- The level with a number. -/
def ofNumber? : Nat → Option Level
  | 1 => some .error
  | 2 => some .warn
  | 3 => some .info
  | 4 => some .debug
  | 5 => some .trace
  | _ => none

/-- The level with a name in lower case. -/
def ofName? : String → Option Level
  | "error" => some .error
  | "warn" => some .warn
  | "info" => some .info
  | "debug" => some .debug
  | "trace" => some .trace
  | _ => none

/-- The level that a text writes. -/
def read? (s : String) : Option Level :=
  ((Text.word? 10 s.toList).bind ofNumber?).orElse fun _ => ofName? (Text.lowerAscii s)

/-- The level of a log: the debug level if that is asked for, and the one that is written
otherwise. -/
def choose? (s : String) (debug : Bool) : Option Level :=
  if debug then some .debug else read? s

end Level

end Bindery
