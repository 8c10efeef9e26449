import Bindery.Retry
import Bindery.Locator
import Bindery.World

/-!
# Bindery — Interaction — Element

Finding an element and doing something with it.  An element is found from its outermost container
inwards: a frame is made active, and in any other container the next element is looked for.  A
failure that may pass is met by exactly one more try, which finds the element anew; where there is
a container, the window that was current is made current again before that try and at the end.

A photograph is taken after an action that succeeded.  That it fails has no effect.
-/

namespace Bindery

/-- How interactions with elements are done; times are numbers of ticks. -/
structure InteractionPolicy where
  captureScreenshots : Bool
  highlightStyle : String
  highlightTime : Nat
  throttle : Nat
deriving DecidableEq, Repr

/-- What photographs are taken with. -/
inductive Camera where
  | none
  | working
  | failing
deriving DecidableEq, Repr

/-- Means to interact with elements. -/
structure Interactor where
  policy : InteractionPolicy
  camera : Camera

namespace Interaction

open World (browse)

/-- Takes a photograph. -/
def photograph (camera : Camera) (action element : String) :
    World.Act InteractionFault Unit := fun w =>
  let w := { w with shots := ⟨action, element⟩ :: w.shots }
  match camera with
  | .failing => (.error (.internal "no photograph"), w)
  | _ => (.ok (), w)

/-- Whether an element is a frame. -/
def isFrame (id : ElementId) : World.Act InteractionFault Bool := do
  let tag := Text.lowerAscii (← browse (Browser.tagName id))
  return tag == "iframe" || tag == "frame"

/-- Finds an element from its outermost container inwards. -/
def locate : Locator → World.Act InteractionFault ElementId
  | .mk _ strategy expression none => browse (Browser.findElement strategy expression none)
  | .mk _ strategy expression (some container) => do
    let around ← locate container
    if ← isFrame around then
      browse (Browser.switchToFrame around)
      browse (Browser.findElement strategy expression none)
    else browse (Browser.findElement strategy expression (some around))

/-- Makes a window current again that was kept. -/
def restore (kept : Option String) : World.Act InteractionFault Unit :=
  match kept with
  | some window => browse (Browser.switchToWindow window)
  | none => return ()

/-- The window to keep while an element is found: the current one where there is a container. -/
def keptWindow (l : Locator) : World.Act InteractionFault (Option String) :=
  match l.container with
  | some _ => do return some (← browse Browser.currentWindow)
  | none => return none

variable {α : Type}

/-- One try to find an element and do something with it. -/
def tryOn (l : Locator) (kept : Option String)
    (act : ElementId → World.Act InteractionFault α) (t : Try) :
    World.Act InteractionFault α := do
  if t.isRetry then restore kept
  act (← locate l)

end Interaction

namespace Interactor

open Interaction

variable {α : Type}

/-- Takes a photograph of an action that succeeded, if they are to be taken. -/
def capture (i : Interactor) (action : Option String) (element : String) :
    World.Act InteractionFault Unit :=
  match action with
  | some action =>
    if i.policy.captureScreenshots ∧ i.camera ≠ .none then do
      let _ ← (photograph i.camera action element).outcome
    else return ()
  | none => return ()

/-- Finds an element and does something with it. -/
def withElement (i : Interactor) (action : Option String) (l : Locator)
    (act : ElementId → World.Act InteractionFault α) : World.Act InteractionFault α := do
  let kept ← keptWindow l
  let result ← (Retry.attempt .once (tryOn l kept act)).outcome
  let restored ← (restore kept).outcome
  match result, restored with
  | .ok a, .ok () => do
    i.capture action l.element
    return a
  | .ok _, .error e => throw e
  | .error e, _ => throw e

end Interactor

end Bindery
