import Bindery.Act
import Bindery.Browser.Fault
import Bindery.Choice
import Bindery.Entries
import Bindery.Json.Value
import Bindery.Text.Cut
import Bindery.Vocabulary

/-!
# Bindery — Browser — Page

A browser in memory, as steps are tried out on it.  Its page is a list of elements, each found by
the strategy and the expression it was registered with; failures are queued for an operation by
name, and the results of scripts are given by a fragment that occurs in them.

Every operation first writes its name into the log and then fails if a failure is queued for it.
What is done to one element may change it and still fail (`PageElement.Act`); what the operations do
to it checks before it changes anything.
-/

namespace Bindery

/-- The operations of a browser. -/
inductive BrowserOp where
  | findElement
  | currentWindow
  | switchToWindow
  | switchToFrame
  | tagName
  | text
  | attributeOf
  | sendKeys
  | clear
  | click
  | submit
  | isSelected
  | isDisplayed
  | isEnabled
  | selectOption
  | selectedOption
  | executeScript
  | currentUrl
  | navigateTo
deriving DecidableEq, Repr

/-- The name of an operation in a log. -/
def BrowserOp.word : BrowserOp → String
  | findElement => "find_element"
  | currentWindow => "current_window"
  | switchToWindow => "switch_to_window"
  | switchToFrame => "switch_to_frame"
  | tagName => "tag_name"
  | text => "text"
  | attributeOf => "attribute"
  | sendKeys => "send_keys"
  | clear => "clear"
  | click => "click"
  | submit => "submit"
  | isSelected => "is_selected"
  | isDisplayed => "is_displayed"
  | isEnabled => "is_enabled"
  | selectOption => "select_option"
  | selectedOption => "selected_option"
  | executeScript => "execute_script"
  | currentUrl => "current_url"
  | navigateTo => "navigate_to"

/-- Every operation. -/
def BrowserOp.all : List BrowserOp :=
  [.findElement, .currentWindow, .switchToWindow, .switchToFrame, .tagName, .text, .attributeOf,
    .sendKeys, .clear, .click, .submit, .isSelected, .isDisplayed, .isEnabled, .selectOption,
    .selectedOption, .executeScript, .currentUrl, .navigateTo]

/-- The operation with a name. -/
def BrowserOp.ofWord? (w : String) : Option BrowserOp :=
  BrowserOp.all.find? fun op => op.word = w

/-- What an element is referred to by. -/
abbrev ElementId := String

/-- An element of a page.  `parent` is the element it is found in; `selectedOption` counts the
options from zero; one that was removed is found no more. -/
structure PageElement where
  id : ElementId
  strategy : Strategy
  expression : String
  parent : Option ElementId
  tag : String
  text : String
  attributes : Entries
  displayed : Bool
  enabled : Bool
  selected : Bool
  options : List Choice.Item
  selectedOption : Option Nat
  removed : Bool
deriving DecidableEq

namespace PageElement

/-- Whether a lookup finds an element. -/
def isFoundBy (e : PageElement) (strategy : Strategy) (expression : String)
    (within : Option ElementId) : Bool :=
  !e.removed && e.strategy = strategy && e.expression = expression && e.parent = within

/-- An element with more text in its value. -/
def type (e : PageElement) (text : String) : PageElement :=
  let old := (e.attributes.find? "value").getD ""
  { e with attributes := e.attributes.put "value" (old ++ text) }

/-- Whether a click selects an element or takes its selection back. -/
def isCheckable (e : PageElement) : Bool :=
  e.attributes.find? "type" = some "checkbox" || e.attributes.find? "type" = some "radio"

/-- Something done to one element, which stays as it is left even where this fails. -/
abbrev Act (α : Type) : Type := Bindery.Act PageElement BrowserFault α

/-- Reads an element. -/
def read {α : Type} (f : PageElement → α) : Act α := fun e => (.ok (f e), e)

/-- Types a text into an element, if it is enabled. -/
def takeText (text : String) : Act Unit := fun e =>
  if e.enabled then (.ok (), e.type text) else (.error (.notInteractable e.id), e)

/-- Empties the value of an element. -/
def clear : Act Unit := fun e => (.ok (), { e with attributes := e.attributes.put "value" "" })

/-- Clicks an element, if it is displayed and enabled. -/
def click : Act Unit := fun e =>
  if e.displayed && e.enabled then
    (.ok (), if e.isCheckable then { e with selected := !e.selected } else e)
  else (.error (.notInteractable e.id), e)

/-- Selects an option of an element, if it is there. -/
def select (choice : Choice) : Act Unit := fun e =>
  match choice.find? e.options with
  | some n => (.ok (), { e with selectedOption := some n })
  | none => (.error (.noSuchElement s!"option {choice.shown}"), e)

end PageElement

/-- The results of scripts in which a fragment occurs: those that are still to come, and the one
that is given when none is left. -/
structure ScriptRule where
  fragment : String
  results : List Json
  last : Json

/-- The next result of a rule, and the rule after it was given. -/
def ScriptRule.next (r : ScriptRule) : Json × ScriptRule :=
  match r.results with
  | [] => (r.last, r)
  | v :: rest => (v, { r with results := rest })

/-- An argument of a script. -/
inductive ScriptArgument where
  | element (id : ElementId)
  | value (v : Json)
deriving Inhabited

/-- A text as an argument of a script. -/
def ScriptArgument.text (s : String) : ScriptArgument :=
  .value (.string s)

/-- A browser.  `failures` are queued the oldest first; `calls` and `scripts` are logs, the latest
first. -/
structure Browser where
  elements : List PageElement
  failures : List (BrowserOp × BrowserFault)
  calls : List BrowserOp
  scripts : List (String × List ScriptArgument)
  rules : List ScriptRule
  url : String
  window : String
  frame : Option ElementId

namespace Browser

/-- A browser that has just been opened. -/
def opened : Browser := ⟨[], [], [], [], [], "about:blank", "main", none⟩

/-- An operation on a browser. -/
abbrev Act (α : Type) : Type := Bindery.Act Browser BrowserFault α

/-- The oldest failure that is queued for an operation, and the queue without it. -/
def takeFailure (op : BrowserOp) :
    List (BrowserOp × BrowserFault) → Option (BrowserFault × List (BrowserOp × BrowserFault))
  | [] => none
  | (o, f) :: rest =>
    if o = op then some (f, rest)
    else (takeFailure op rest).map fun (g, rest) => (g, (o, f) :: rest)

/-- Begins an operation: writes it into the log, and fails if a failure is queued for it. -/
def enter (op : BrowserOp) : Act Unit := fun b =>
  let b := { b with calls := op :: b.calls }
  match takeFailure op b.failures with
  | some (f, failures) => (.error f, { b with failures })
  | none => (.ok (), b)

/-- The element with an id. -/
def element? (b : Browser) (id : ElementId) : Option PageElement :=
  b.elements.find? fun e => e.id = id

/-- Elements with the first one that has an id changed. -/
def changeElement (id : ElementId) (f : PageElement → PageElement) :
    List PageElement → List PageElement
  | [] => []
  | e :: rest => if e.id = id then f e :: rest else e :: changeElement id f rest

/-- An operation on one element. -/
def onElement {α : Type} (op : BrowserOp) (id : ElementId) (f : PageElement.Act α) : Act α := do
  enter op
  let b ← get
  match (b.element? id).filter fun e => !e.removed with
  | none => throw (.stale id)
  | some e =>
    let (r, e') := f e
    set { b with elements := changeElement id (fun _ => e') b.elements }
    Act.ofExcept r

/-- An operation that reads one element. -/
def readElement {α : Type} (op : BrowserOp) (id : ElementId) (f : PageElement → α) : Act α :=
  onElement op id (PageElement.read f)

/-- Finds the first element with a strategy and an expression, inside another one or inside
none. -/
def findElement (strategy : Strategy) (expression : String) (within : Option ElementId) :
    Act ElementId := do
  enter .findElement
  let b ← get
  match b.elements.find? fun e => e.isFoundBy strategy expression within with
  | some e => return e.id
  | none => throw (.noSuchElement s!"{strategy.word}: {expression}")

/-- The window that is current. -/
def currentWindow : Act String := do
  enter .currentWindow
  return (← get).window

/-- Makes a window current; no frame of it is active then. -/
def switchToWindow (window : String) : Act Unit := do
  enter .switchToWindow
  modify fun b => { b with window, frame := none }

/-- Makes a frame active. -/
def switchToFrame (frame : ElementId) : Act Unit := do
  enter .switchToFrame
  modify fun b => { b with frame := some frame }

/-- The tag of an element. -/
def tagName (id : ElementId) : Act String :=
  readElement .tagName id (·.tag)

/-- The text of an element. -/
def text (id : ElementId) : Act String :=
  readElement .text id (·.text)

/-- An attribute of an element. -/
def attributeOf (id : ElementId) (name : String) : Act (Option String) :=
  readElement .attributeOf id fun e => e.attributes.find? name

/-- The key that presses Enter. -/
def enterKey : Char := '\uE007'

/-- The characters of some keys that are typed into an element. -/
def typed (keys : String) : String :=
  String.ofList (keys.toList.filter (· ≠ enterKey))

/-- Types keys into an element. -/
def sendKeys (id : ElementId) (keys : String) : Act Unit :=
  onElement .sendKeys id (PageElement.takeText (typed keys))

/-- Empties the value of an element. -/
def clear (id : ElementId) : Act Unit :=
  onElement .clear id PageElement.clear

/-- Clicks an element. -/
def click (id : ElementId) : Act Unit :=
  onElement .click id PageElement.click

/-- Submits the form of an element. -/
def submit (id : ElementId) : Act Unit :=
  readElement .submit id fun _ => ()

/-- Whether an element is selected. -/
def isSelected (id : ElementId) : Act Bool :=
  readElement .isSelected id (·.selected)

/-- Whether an element is displayed. -/
def isDisplayed (id : ElementId) : Act Bool :=
  readElement .isDisplayed id (·.displayed)

/-- Whether an element is enabled. -/
def isEnabled (id : ElementId) : Act Bool :=
  readElement .isEnabled id (·.enabled)

/-- Selects an option of an element. -/
def selectOption (id : ElementId) (choice : Choice) : Act Unit :=
  onElement .selectOption id (PageElement.select choice)

/-- The text or the value of the selected option of an element. -/
def selectedOption (id : ElementId) (facet : Facet) : Act (Option String) :=
  readElement .selectedOption id fun e =>
    (e.selectedOption.bind fun n => e.options[n]?).map fun o =>
      match facet with
      | .text => o.1
      | .value => o.2

/-- The result of a script by the first rule whose fragment occurs in it, and the rules after it;
null where there is none. -/
def answerScript (script : String) : List ScriptRule → Json × List ScriptRule
  | [] => (.null, [])
  | r :: rest =>
    if Text.contains script r.fragment then
      let (v, r) := r.next
      (v, r :: rest)
    else
      let (v, rest) := answerScript script rest
      (v, r :: rest)

/-- Runs a script in the page. -/
def executeScript (script : String) (args : List ScriptArgument) : Act Json := do
  enter .executeScript
  let b ← get
  let (v, rules) := answerScript script b.rules
  set { b with scripts := (script, args) :: b.scripts, rules }
  return v

/-- The address of the page. -/
def currentUrl : Act String := do
  enter .currentUrl
  return (← get).url

/-- Goes to an address; no frame is active then. -/
def navigateTo (url : String) : Act Unit := do
  enter .navigateTo
  modify fun b => { b with url, frame := none }

end Browser

end Bindery
