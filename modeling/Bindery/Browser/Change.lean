import Bindery.Browser.Page
import Bindery.Text.Numeral

/-!
# Bindery — Browser — Change

How a page changes by itself, without an operation of the browser: elements and options come and
go, texts and states change, failures are queued and scripts are given results.  A change of an
element that is not there changes nothing.
-/

namespace Bindery

/-- A change of a page. -/
inductive PageChange where
  | addElement (strategy : Strategy) (expression tag : String) (parent : Option ElementId)
  | setText (id : ElementId) (text : String)
  | setAttribute (id : ElementId) (name value : String)
  | setDisplayed (id : ElementId) (displayed : Bool)
  | setEnabled (id : ElementId) (enabled : Bool)
  | setSelected (id : ElementId) (selected : Bool)
  | addOption (id : ElementId) (text value : String)
  | removeElement (id : ElementId)
  | failNext (op : BrowserOp) (fault : BrowserFault)
  | onScript (fragment : String) (results : List Json)
  | setUrl (url : String)

/-- The results that wait to be given, of those that are to be given; one alone does not wait. -/
def ScriptRule.waiting (results : List Json) : List Json :=
  if results.length = 1 then [] else results

/-- A rule that gives results in order and repeats the last of them. -/
def ScriptRule.ofResults (fragment : String) (results : List Json) : ScriptRule :=
  ⟨fragment, waiting results, results.getLast?.getD .null⟩

namespace Browser

/-- The id of the element that is added next. -/
def nextId (b : Browser) : ElementId :=
  s!"el-{Text.decimal (b.elements.length + 1)}"

/-- A browser with one element changed. -/
def changed (b : Browser) (id : ElementId) (f : PageElement → PageElement) : Browser :=
  { b with elements := changeElement id f b.elements }

/-- A browser after a change of its page. -/
def apply (b : Browser) : PageChange → Browser
  | .addElement strategy expression tag parent =>
    let e : PageElement :=
      ⟨b.nextId, strategy, expression, parent, tag, "", [], true, true, false, [], none, false⟩
    { b with elements := b.elements ++ [e] }
  | .setText id text => b.changed id fun e => { e with text }
  | .setAttribute id name value =>
    b.changed id fun e => { e with attributes := e.attributes.put name value }
  | .setDisplayed id displayed => b.changed id fun e => { e with displayed }
  | .setEnabled id enabled => b.changed id fun e => { e with enabled }
  | .setSelected id selected => b.changed id fun e => { e with selected }
  | .addOption id text value =>
    b.changed id fun e => { e with options := e.options ++ [(text, value)] }
  | .removeElement id => b.changed id fun e => { e with removed := true }
  | .failNext op fault => { b with failures := b.failures ++ [(op, fault)] }
  | .onScript fragment results =>
    { b with rules := b.rules ++ [ScriptRule.ofResults fragment results] }
  | .setUrl url => { b with url }

/-- The value of an element, removed or not. -/
def valueOf (b : Browser) (id : ElementId) : Option String :=
  (b.element? id).bind fun e => e.attributes.find? "value"

/-- Whether an element is selected, removed or not. -/
def isSelectedNow (b : Browser) (id : ElementId) : Bool :=
  b.elements.any fun e => e.id = id && e.selected

/-- How often an operation was called. -/
def countCalls (b : Browser) (op : BrowserOp) : Nat :=
  b.calls.count op

end Browser

end Bindery
