/-!
# Bindery — Browser — Fault

Why an operation of a browser fails.  Four of the causes pass: they are worth one more try
against an element that is looked up anew.
-/

namespace Bindery

/-- Why an operation of a browser fails, with a detail. -/
inductive BrowserFault where
  | stale (detail : String)
  | noSuchElement (detail : String)
  | notInteractable (detail : String)
  | navigating (detail : String)
  | noSuchWindow (detail : String)
  | javaScript (detail : String)
  | session (detail : String)
deriving DecidableEq, Repr

namespace BrowserFault

/-- What is said of a failure. -/
def message : BrowserFault → String
  | stale d => s!"stale element reference: {d}"
  | noSuchElement d => s!"no such element: {d}"
  | notInteractable d => s!"element not interactable: {d}"
  | navigating d => s!"navigation in progress: {d}"
  | noSuchWindow d => s!"no such window: {d}"
  | javaScript d => s!"javascript error: {d}"
  | session d => s!"session error: {d}"

/-- Whether the cause may pass. -/
def isTransient : BrowserFault → Bool
  | stale _ => true
  | noSuchElement _ => true
  | notInteractable _ => true
  | navigating _ => true
  | noSuchWindow _ => false
  | javaScript _ => false
  | session _ => false

end BrowserFault

end Bindery
