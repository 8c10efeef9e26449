import Bindery.Browser.Change
import Bindery.Clock
import Bindery.Evaluation.Query
import Bindery.Host.Basic
import Bindery.Interaction.Fault

/-!
# Bindery — World

All that is outside of the bindings: the browser, the time, the changes of the page that are still
to come, the files and variables, and what was photographed and asked.  Sleeping makes the changes
happen whose time comes, in the order of their times.
-/

namespace Bindery

/-- A photograph that was asked for: of an action on an element. -/
structure Shot where
  action : String
  element : String
deriving DecidableEq, Repr

/-- All that is outside of the bindings.  `origin` is the reading of the machine's clock at time
zero.  `shots`, `asked` and `ended` are logs, the latest first; `ended` says of each call of the
browser what it failed with, if it failed. -/
structure World where
  browser : Browser
  time : Nat
  origin : UInt64
  coming : List (Nat × PageChange)
  host : Host
  shots : List Shot
  asked : List Query
  ended : List (Option BrowserFault)

namespace World

/-- A world with a browser that has just been opened, on a machine that has just been started. -/
def fresh (host : Host) (coming : List (Nat × PageChange)) : World :=
  ⟨.opened, 0, 0, coming.mergeSort fun a b => a.1 ≤ b.1, host, [], [], []⟩

/-- A browser after the changes that come up to some time, and the changes left. -/
def happen (time : Nat) : Browser → List (Nat × PageChange) → Browser × List (Nat × PageChange)
  | b, [] => (b, [])
  | b, (t, c) :: rest => if t ≤ time then happen time (b.apply c) rest else (b, (t, c) :: rest)

/-- The world after a pause. -/
def sleep (pause : Nat) (w : World) : World :=
  let time := Clock.after w.time pause
  let (browser, coming) := happen time w.browser w.coming
  { w with browser, time, coming }

instance : Timed World where
  now := time
  origin := origin
  sleep := sleep
  now_sleep _ _ := rfl
  origin_sleep _ _ := rfl

/-- An action in the world. -/
abbrev Act (ε α : Type) : Type := Bindery.Act World ε α

/-- An operation of the browser of the world. -/
def browse {α : Type} (a : Browser.Act α) : Act InteractionFault α := fun w =>
  match a w.browser with
  | (.ok x, b) => (.ok x, { w with browser := b, ended := none :: w.ended })
  | (.error f, b) => (.error (.browser f), { w with browser := b, ended := some f :: w.ended })

/-- The calls of the browser, each with what it failed with, the latest first. -/
def calls (w : World) : List (BrowserOp × Option BrowserFault) :=
  w.browser.calls.zip w.ended

/-- A pause. -/
def pause {ε : Type} (ms : Nat) : Act ε Unit := modify (sleep ms)

end World

end Bindery
