import Bindery.Proofs.SparedPage

/-!
# Bindery — Proofs — Requests

The operations of a browser as data, and what happens to a browser from outside: requests and
changes of its page (`Browser.Event`).  A request that fails changes no element, and one that
succeeds changes at most the element it is for, in one of four ways (`Request.Turns`).
-/

namespace Bindery

/-- A request to a browser. -/
inductive Request where
  | findElement (strategy : Strategy) (expression : String) (within : Option ElementId)
  | currentWindow
  | switchToWindow (window : String)
  | switchToFrame (frame : ElementId)
  | tagName (id : ElementId)
  | text (id : ElementId)
  | attributeOf (id : ElementId) (name : String)
  | sendKeys (id : ElementId) (keys : String)
  | clear (id : ElementId)
  | click (id : ElementId)
  | submit (id : ElementId)
  | isSelected (id : ElementId)
  | isDisplayed (id : ElementId)
  | isEnabled (id : ElementId)
  | selectOption (id : ElementId) (choice : Choice)
  | selectedOption (id : ElementId) (facet : Facet)
  | executeScript (script : String) (args : List ScriptArgument)
  | currentUrl
  | navigateTo (url : String)

/-- What an operation failed with, if it did, and the browser after it. -/
def Browser.ending {α : Type} (a : Act α) (b : Browser) : Option BrowserFault × Browser :=
  match a b with
  | (.ok _, b) => (none, b)
  | (.error f, b) => (some f, b)

namespace Request

open Browser (ending)

/-- What a request fails with, if it does, and the browser after it. -/
def run : Request → Browser → Option BrowserFault × Browser
  | .findElement strategy expression within =>
    ending (Browser.findElement strategy expression within)
  | .currentWindow => ending Browser.currentWindow
  | .switchToWindow window => ending (Browser.switchToWindow window)
  | .switchToFrame frame => ending (Browser.switchToFrame frame)
  | .tagName id => ending (Browser.tagName id)
  | .text id => ending (Browser.text id)
  | .attributeOf id name => ending (Browser.attributeOf id name)
  | .sendKeys id keys => ending (Browser.sendKeys id keys)
  | .clear id => ending (Browser.clear id)
  | .click id => ending (Browser.click id)
  | .submit id => ending (Browser.submit id)
  | .isSelected id => ending (Browser.isSelected id)
  | .isDisplayed id => ending (Browser.isDisplayed id)
  | .isEnabled id => ending (Browser.isEnabled id)
  | .selectOption id choice => ending (Browser.selectOption id choice)
  | .selectedOption id facet => ending (Browser.selectedOption id facet)
  | .executeScript script args => ending (Browser.executeScript script args)
  | .currentUrl => ending Browser.currentUrl
  | .navigateTo url => ending (Browser.navigateTo url)

/-- What a request that succeeds makes of an element. -/
inductive Turns : Request → ElementId → PageElement → PageElement → Prop where
  | keys (id : ElementId) (e : PageElement) (keys : String) :
      Turns (.sendKeys id keys) id e (e.type (Browser.typed keys))
  | clear (id : ElementId) (e : PageElement) :
      Turns (.clear id) id e { e with attributes := e.attributes.put "value" "" }
  | click (id : ElementId) (e : PageElement) :
      Turns (.click id) id e (if e.isCheckable then { e with selected := !e.selected } else e)
  | selectOption (id : ElementId) (e : PageElement) {choice : Choice} {n : Nat}
      (h : choice.find? e.options = some n) :
      Turns (.selectOption id choice) id e { e with selectedOption := some n }

theorem Turns.id {r : Request} {id : ElementId} {e e' : PageElement} (h : r.Turns id e e') :
    e'.id = e.id := by
  cases h with
  | click => split <;> rfl
  | _ => rfl

/-- The elements after a request: as they were, or with one of them turned by it. -/
inductive Leaves (r : Request) (b : Browser) : List PageElement → Prop where
  | same : Leaves r b b.elements
  | turned {id : ElementId} {e e' : PageElement} (hrun : (r.run b).1 = none)
      (he : b.element? id = some e) (hpresent : e.removed = false) (h : r.Turns id e e') :
      Leaves r b (Browser.changeElement id (fun _ => e') b.elements)

section

variable {α : Type} {a : Browser.Act α} {b : Browser}

theorem leaves_of_same {r : Request} (h : ∀ b, (a b).2.elements = b.elements)
    (hrun : r.run b = ending a b) : r.Leaves b (r.run b).2.elements := by
  have helements : (ending a b).2.elements = b.elements := by
    rw [← h b, ending]
    rcases a b with ⟨f | x, b'⟩ <;> rfl
  rw [hrun, helements]
  exact .same

theorem leaves_of_onElement {r : Request} {op : BrowserOp} {id : ElementId}
    {f : PageElement.Act α} (hcareful : PageElement.Careful f)
    (hf : ∀ {e x e'}, f e = (.ok x, e') → r.Turns id e e')
    (hrun : r.run b = ending (Browser.onElement op id f) b) :
    r.Leaves b (r.run b).2.elements := by
  rcases h : Browser.onElement op id f b with ⟨fault | x, b'⟩
  · have hsame := Browser.elements_of_onElement_error hcareful h
    rw [hrun, ending, h, hsame]
    exact .same
  · obtain ⟨e, e', he, hpresent, hturned, helements⟩ := Browser.of_onElement_ok h
    have hnone : (r.run b).1 = none := by rw [hrun, ending, h]
    rw [hrun, ending, h]
    simp only
    rw [helements]
    exact .turned hnone he hpresent (hf hturned)

end

/-- A request changes no element unless it succeeds in what it is for. -/
theorem leaves_run (r : Request) (b : Browser) : r.Leaves b (r.run b).2.elements := by
  -- four requests may change an element; the others read, or are about something else
  cases r with
  | findElement => exact leaves_of_same (Browser.elements_findElement _ _ _) rfl
  | currentWindow | switchToWindow | switchToFrame | executeScript | currentUrl | navigateTo =>
      exact leaves_of_same (Browser.elements_of_enter fun _ => rfl) rfl
  | sendKeys =>
      refine leaves_of_onElement (PageElement.careful_takeText _) (fun hf => ?_) rfl
      rw [(PageElement.of_takeText_ok hf).2]
      exact .keys _ _ _
  | clear =>
      refine leaves_of_onElement PageElement.careful_clear (fun hf => ?_) rfl
      cases hf
      exact .clear _ _
  | click =>
      refine leaves_of_onElement PageElement.careful_click (fun hf => ?_) rfl
      rw [PageElement.of_click_ok hf]
      exact .click _ _
  | selectOption =>
      refine leaves_of_onElement (PageElement.careful_select _) (fun hf => ?_) rfl
      obtain ⟨n, found, rfl⟩ := PageElement.of_select_ok hf
      exact .selectOption _ _ found
  | _ => exact leaves_of_same (Browser.elements_readElement _ _ _) rfl

end Request

/-! ### Events -/

namespace Browser

/-- What happens to a browser: a request, or a change of its page. -/
inductive Event where
  | request (r : Request)
  | change (c : PageChange)

/-- A browser after an event. -/
def Event.after : Event → Browser → Browser
  | .request r, b => (r.run b).2
  | .change c, b => b.apply c

/-- A browser after events. -/
def afterEvents (b : Browser) (events : List Event) : Browser :=
  events.foldl (fun b event => event.after b) b

/-- Whatever happens to it, a browser comes about. -/
theorem Reached.event {b : Browser} (h : Reached b) (event : Event) : Reached (event.after b) := by
  have ended {α : Type} {a : Act α} (ha : Operates a) : Reached (ending a b).2 := by
    have hreached := Reached.operation ha h
    rw [ending]
    rcases hrun : a b with ⟨f | x, b'⟩ <;> rw [hrun] at hreached <;> exact hreached
  cases event with
  | change c => exact .change c h
  | request r =>
      cases r with
      | findElement strategy expression within => exact ended (.findElement _ _ _)
      | currentWindow => exact ended .currentWindow
      | switchToWindow window => exact ended (.switchToWindow _)
      | switchToFrame frame => exact ended (.switchToFrame _)
      | sendKeys id keys => exact ended (.sendKeys _ _)
      | clear id => exact ended (.clear _)
      | click id => exact ended (.click _)
      | selectOption id choice => exact ended (.selectOption _ _)
      | executeScript script args => exact ended (.executeScript _ _)
      | currentUrl => exact ended .currentUrl
      | navigateTo url => exact ended (.navigateTo _)
      | _ => exact ended (.readElement _ _ _)

theorem Reached.events {b : Browser} (h : Reached b) (events : List Event) :
    Reached (b.afterEvents events) := by
  induction events generalizing b with
  | nil => exact h
  | cons event rest ih => exact ih (h.event event)

end Browser

end Bindery
