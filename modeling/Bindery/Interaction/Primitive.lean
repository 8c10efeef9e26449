import Bindery.Interaction.Element
import Bindery.Script
import Bindery.Text.Quoted

/-!
# Bindery — Interaction — Primitive

What is done with an element that was found: reading its text, typing, ticking, choosing,
scrolling to it, highlighting it, and telling its state.
-/

namespace Bindery.Interaction

open World (browse)

/-- The text of an element, or its value where it shows none. -/
def readText (id : ElementId) : World.Act InteractionFault String := do
  let text ← browse (Browser.text id)
  if text ≠ "" then return text
  return (← browse (Browser.attributeOf id "value")).getD ""

/-- Types a text, into an emptied element if wanted, and presses Enter after it if wanted. -/
def typeText (text : String) (clearFirst sendEnter : Bool) (id : ElementId) :
    World.Act InteractionFault Unit := do
  if clearFirst then browse (Browser.clear id)
  browse (Browser.sendKeys id text)
  if sendEnter then browse (Browser.sendKeys id (String.singleton Browser.enterKey))

/-- Makes an element selected or not; it is clicked only if it is not so already. -/
def setChecked (checked : Bool) (id : ElementId) : World.Act InteractionFault Unit := do
  if (← browse (Browser.isSelected id)) ≠ checked then browse (Browser.click id)

/-- Runs a script with an element as its first argument. -/
def runOn (id : ElementId) (script : String) (args : List ScriptArgument) :
    World.Act InteractionFault Json :=
  browse (Browser.executeScript script (.element id :: args))

/-- Scrolls an element into view and pauses. -/
def scrollIntoView (throttle : Nat) (id : ElementId) : World.Act InteractionFault Unit := do
  let _ ← runOn id Script.scrollIntoView []
  World.pause throttle

/-- The style to give back to an element, from what it had. -/
def styleToRestore : Json → Json
  | .string s => .string s
  | _ => .null

/-- Gives an element a style for some time. -/
def highlight (style : String) (time : Nat) (id : ElementId) :
    World.Act InteractionFault Unit := do
  let before ← runOn id Script.applyStyle [.text style]
  World.pause time
  let _ ← runOn id Script.restoreStyle [.value (styleToRestore before)]

/-- Whether an element is in a state. -/
def hasState (state : ElementState) (id : ElementId) : World.Act InteractionFault Bool :=
  match state with
  | .displayed => browse (Browser.isDisplayed id)
  | .hidden => do return !(← browse (Browser.isDisplayed id))
  | .checked => browse (Browser.isSelected id)
  | .unchecked => do return !(← browse (Browser.isSelected id))
  | .enabled => browse (Browser.isEnabled id)
  | .disabled => do return !(← browse (Browser.isEnabled id))

/-- An element as a message shows it. -/
def shown (id : ElementId) : String :=
  "WebElement \x7b id: ElementId(" ++ Text.Quoted.quote id ++ ") \x7d"

end Bindery.Interaction
