import Bindery.Locator
import Bindery.Scope
import Bindery.World

/-!
# Bindery — State

What a session changes: the bindings, the texts of elements that were read from the page, each
under the key it was bound to, and the world.
-/

namespace Bindery

/-- A text that was read from the page: how its element was found, the bindings and the world it
was read in, and the text. -/
structure LiveReading where
  locator : Locator
  store : ScopeStack
  world : World
  text : String

/-- What a session changes.  `liveReads` are the texts that are to be forgotten; `readings` is the
log of every reading, the latest first. -/
structure State where
  store : ScopeStack
  liveReads : Entries
  world : World
  readings : List LiveReading

namespace State

/-- An action on the bindings and the world. -/
abbrev Act (ε α : Type) : Type := Bindery.Act State ε α

/-- An action in the world. -/
def inWorld {ε α : Type} (a : World.Act ε α) : Act ε α :=
  a.inPart world fun w s => { s with world := w }

/-- Binds a key in the innermost scope. -/
def bind {ε : Type} (key value : String) : Act ε Unit :=
  modify fun s => { s with store := s.store.set key value }

end State

end Bindery
