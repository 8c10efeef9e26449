import Bindery.Interaction.Element
import Bindery.Proofs.Calls
import Mathlib.Data.List.Induction
import Mathlib.Data.List.Nodup

/-!
# Bindery — Proofs — Descent

How an element is found on a page: from its outermost container inwards, each element inside the one
before it, or at the top of the page where that one is a frame (`Descends`).  On a page as it comes
about (`Browser.Reached`) no two elements have the same id, so the tag that decides on this is that
of the element that was found.  Where no failure is queued, looking for an element does just this,
and ends at the first link that leads nowhere (`locate_descends`).
-/

namespace Bindery

open Locator (Link)

/-! ### Pages -/

namespace Browser

/-- The operations of a browser. -/
inductive Operates : {α : Type} → Act α → Prop where
  | findElement (strategy : Strategy) (expression : String) (within : Option ElementId) :
      Operates (findElement strategy expression within)
  | currentWindow : Operates currentWindow
  | switchToWindow (window : String) : Operates (switchToWindow window)
  | switchToFrame (frame : ElementId) : Operates (switchToFrame frame)
  | readElement {α : Type} (op : BrowserOp) (id : ElementId) (f : PageElement → α) :
      Operates (readElement op id f)
  | sendKeys (id : ElementId) (keys : String) : Operates (sendKeys id keys)
  | clear (id : ElementId) : Operates (clear id)
  | click (id : ElementId) : Operates (click id)
  | selectOption (id : ElementId) (choice : Choice) : Operates (selectOption id choice)
  | executeScript (script : String) (args : List ScriptArgument) :
      Operates (executeScript script args)
  | currentUrl : Operates currentUrl
  | navigateTo (url : String) : Operates (navigateTo url)

/-- A browser that came about: opened, with changes of its page and operations since. -/
inductive Reached : Browser → Prop where
  | opened : Reached opened
  | change {b : Browser} (c : PageChange) : Reached b → Reached (b.apply c)
  | operation {α : Type} {a : Act α} {b : Browser} : Operates a → Reached b → Reached (a b).2

/-- The ids of elements count them in the order in which they were added. -/
def Numbered (elements : List PageElement) : Prop :=
  elements.map (·.id) = (List.range elements.length).map fun n => s!"el-{Text.decimal (n + 1)}"

variable {α : Type} {b : Browser} {elements : List PageElement} {e : PageElement}

theorem Numbered.nodup (h : Numbered elements) : (elements.map (·.id)).Nodup := by
  rw [h]
  refine List.nodup_range.map fun m n hid => ?_
  have hlist := congrArg String.toList hid
  simp only [toString, String.toList_append, List.append_cancel_left_eq] at hlist
  exact Nat.succ.inj (Text.decimal_injective (String.toList_injective hlist))

/-- An element that is changed keeps its id. -/
theorem map_id_changeElement {id : ElementId} {f : PageElement → PageElement}
    (hf : ∀ e ∈ elements, e.id = id → (f e).id = id) :
    (changeElement id f elements).map (·.id) = elements.map (·.id) := by
  induction elements with
  | nil => rfl
  | cons e rest ih =>
      obtain ⟨he, hrest⟩ := List.forall_mem_cons.1 hf
      rw [changeElement]
      split
      next hid => rw [List.map_cons, List.map_cons, he hid, hid]
      next => rw [List.map_cons, List.map_cons, ih hrest]

theorem length_changeElement (id : ElementId) (f : PageElement → PageElement) :
    (changeElement id f elements).length = elements.length := by
  induction elements with
  | nil => rfl
  | cons e rest ih =>
      rw [changeElement]
      split
      · rfl
      · rw [List.length_cons, List.length_cons, ih]

theorem Numbered.changeElement {id : ElementId} {f : PageElement → PageElement}
    (h : Numbered elements) (hf : ∀ e ∈ elements, e.id = id → (f e).id = id) :
    Numbered (changeElement id f elements) := by
  rw [Numbered, map_id_changeElement hf, length_changeElement]
  exact h

theorem numbered_apply (h : Numbered b.elements) (c : PageChange) :
    Numbered (b.apply c).elements := by
  cases c with
  | addElement strategy expression tag parent =>
      rw [Numbered] at h
      simp [Numbered, apply, h, nextId, List.range_succ]
  | failNext | onScript | setUrl => exact h
  | _ => exact h.changeElement fun _ _ hid => hid

theorem elements_enter (op : BrowserOp) (b : Browser) : (enter op b).2.elements = b.elements := by
  rw [enter_run]
  cases takeFailure op b.failures <;> rfl

/-- What is done after an operation was begun decides on the elements. -/
theorem numbered_of_enter {op : BrowserOp} {a : Act α} (h : Numbered b.elements)
    (ha : ∀ b : Browser, Numbered b.elements → Numbered (a b).2.elements) :
    Numbered ((enter op >>= fun _ => a) b).2.elements := by
  have hentered := elements_enter op b
  rw [Act.bind_run]
  rcases e : enter op b with ⟨f | ⟨⟩, b'⟩
  · rw [e] at hentered
    rw [hentered]
    exact h
  · rw [e] at hentered
    exact ha b' (hentered ▸ h)

theorem numbered_onElement {op : BrowserOp} {id : ElementId}
    {f : PageElement.Act α} (hf : ∀ e, (f e).2.id = e.id) (h : Numbered b.elements) :
    Numbered (onElement op id f b).2.elements := by
  unfold onElement
  refine numbered_of_enter h fun b hb => ?_
  rw [Act.bind_run_ok (Act.get_run b)]
  cases found : (b.element? id).filter fun e => !e.removed with
  | none => exact hb
  | some e =>
      have hid : e.id = id := by
        simpa using List.find?_some (Option.eq_some_of_filter_eq_some found)
      exact hb.changeElement fun _ _ _ => (hf e).trans hid

theorem numbered_of_operates {a : Act α} (ha : Operates a) (h : Numbered b.elements) :
    Numbered (a b).2.elements := by
  cases ha with
  | findElement strategy expression within =>
      refine numbered_of_enter h fun b hb => ?_
      rw [Act.bind_run_ok (Act.get_run b)]
      cases b.elements.find? fun e => e.isFoundBy strategy expression within with
      | none => exact hb
      | some e => exact hb
  | currentWindow | switchToWindow | switchToFrame | executeScript | currentUrl | navigateTo =>
      exact numbered_of_enter h fun _ hb => hb
  | readElement op id f =>
      exact numbered_onElement (fun _ => rfl) h
  | sendKeys id keys =>
      refine numbered_onElement (fun e => ?_) h
      unfold PageElement.takeText
      split <;> rfl
  | clear id => exact numbered_onElement (fun _ => rfl) h
  | click id =>
      refine numbered_onElement (fun e => ?_) h
      unfold PageElement.click
      repeat' split
      all_goals rfl
  | selectOption id choice =>
      refine numbered_onElement (fun e => ?_) h
      unfold PageElement.select
      split <;> rfl

theorem Reached.changes (h : Reached b) (changes : List PageChange) :
    Reached (changes.foldl apply b) := by
  induction changes generalizing b with
  | nil => exact h
  | cons c rest ih => exact ih (.change c h)

theorem Reached.numbered (h : Reached b) : Numbered b.elements := by
  induction h with
  | opened => rfl
  | change c _ ih => exact numbered_apply ih c
  | operation ha _ ih => exact numbered_of_operates ha ih

end Browser

/-! ### The element that is found -/

namespace PageElement

/-- Whether an element is a frame, in whatever case its tag is written. -/
def isFrame (e : PageElement) : Bool :=
  Text.lowerAscii e.tag == "iframe" || Text.lowerAscii e.tag == "frame"

/-- Where elements in an element are looked for: inside it, or at the top of the page if it is a
frame. -/
def inside (e : PageElement) : Option ElementId := if e.isFrame then none else some e.id

/-- An element stands where a link says, inside another one or inside none. -/
structure Suits (link : Link) (around : Option ElementId) (e : PageElement) : Prop where
  present : e.removed = false
  strategy : e.strategy = link.2.1
  expression : e.expression = link.2.2
  parent : e.parent = around

/-- An element is the first that suits a link. -/
def FirstOf (elements : List PageElement) (link : Link) (around : Option ElementId)
    (e : PageElement) : Prop :=
  ∃ before after, elements = before ++ e :: after ∧ e.Suits link around ∧
    ∀ other ∈ before, ¬ other.Suits link around

theorem isFoundBy_iff {e : PageElement} {link : Link} {around : Option ElementId} :
    e.isFoundBy link.2.1 link.2.2 around = true ↔ e.Suits link around := by
  unfold isFoundBy
  simp only [Bool.and_eq_true, Bool.not_eq_true', decide_eq_true_eq]
  exact ⟨fun ⟨⟨⟨h₁, h₂⟩, h₃⟩, h₄⟩ => ⟨h₁, h₂, h₃, h₄⟩,
    fun h => ⟨⟨⟨h.present, h.strategy⟩, h.expression⟩, h.parent⟩⟩

theorem FirstOf.mem {elements : List PageElement} {link : Link} {around : Option ElementId}
    {e : PageElement} (h : FirstOf elements link around e) :
    e ∈ elements ∧ e.removed = false := by
  obtain ⟨before, after, rfl, hsuits, -⟩ := h
  exact ⟨by simp, hsuits.present⟩

end PageElement

namespace Browser

variable {b : Browser} {e : PageElement} {link : Link} {around : Option ElementId}

theorem find?_isFoundBy_eq_some_iff :
    (b.elements.find? fun e => e.isFoundBy link.2.1 link.2.2 around) = some e ↔
      PageElement.FirstOf b.elements link around e := by
  simp only [List.find?_eq_some_iff_append, PageElement.isFoundBy_iff, Bool.not_eq_true',
    ← Bool.not_eq_true, PageElement.FirstOf]
  exact ⟨fun ⟨h, before, after, heq, hfirst⟩ => ⟨before, after, heq, h, hfirst⟩,
    fun ⟨before, after, heq, h, hfirst⟩ => ⟨h, before, after, heq, hfirst⟩⟩

/-- An element whose id no other one has is the one with this id, and putting it in its own place
changes nothing. -/
theorem find?_id_of_nodup {elements : List PageElement} (hids : (elements.map (·.id)).Nodup)
    (he : e ∈ elements) :
    (elements.find? fun other => other.id = e.id) = some e ∧
      changeElement e.id (fun _ => e) elements = elements := by
  induction elements with
  | nil => cases he
  | cons d rest ih =>
      rw [List.map_cons, List.nodup_cons] at hids
      rcases List.mem_cons.1 he with rfl | he
      · simp [changeElement]
      · have hne : d.id ≠ e.id := fun hid => hids.1 (hid ▸ List.mem_map_of_mem he)
        obtain ⟨hfind, hchange⟩ := ih hids.2 he
        simp [changeElement, hne, hfind, hchange]

theorem find?_isFoundBy_eq_none_iff :
    (b.elements.find? fun e => e.isFoundBy link.2.1 link.2.2 around) = none ↔
      ∀ e ∈ b.elements, ¬ e.Suits link around := by
  simp only [List.find?_eq_none, PageElement.isFoundBy_iff]

end Browser

/-! ### The calls on the way -/

namespace World

/-- The world after a call of the browser, with what it failed with. -/
def called (w : World) (op : BrowserOp) (fault : Option BrowserFault) : World :=
  { w with
    browser := { w.browser with calls := op :: w.browser.calls }
    ended := fault :: w.ended }

/-- The world with a frame active. -/
def framed (w : World) (frame : ElementId) : World :=
  { w with browser := { w.browser with frame := some frame } }

/-- The world after an element was found and gone into: its tag was read, and it was made active if
it is a frame. -/
def entered (w : World) (e : PageElement) : World :=
  let w := (w.called .findElement none).called .tagName none
  if e.isFrame then (w.called .switchToFrame none).framed e.id else w

/-- The world after elements were gone into, the outermost first. -/
def descended (w : World) (found : List PageElement) : World :=
  found.foldl entered w

variable {α : Type} {w : World} {link : Link} {around : Option ElementId} {e : PageElement}

theorem entered_elements (w : World) (e : PageElement) :
    (w.entered e).browser.elements = w.browser.elements := by
  unfold entered
  split <;> rfl

theorem entered_failures (w : World) (e : PageElement) :
    (w.entered e).browser.failures = w.browser.failures := by
  unfold entered
  split <;> rfl

theorem entered_frame (w : World) (e : PageElement) :
    (w.entered e).browser.frame = if e.isFrame then some e.id else w.browser.frame := by
  unfold entered
  split <;> rfl

theorem descended_concat (w : World) (found : List PageElement) (e : PageElement) :
    w.descended (found ++ [e]) = (w.descended found).entered e := by
  rw [descended, List.foldl_append]
  rfl

/-- The page and the queue of failures stay as they are. -/
theorem descended_page (w : World) (found : List PageElement) :
    (w.descended found).browser.elements = w.browser.elements ∧
      (w.descended found).browser.failures = w.browser.failures := by
  induction found generalizing w with
  | nil => exact ⟨rfl, rfl⟩
  | cons e rest ih =>
      obtain ⟨helements, hfailures⟩ := ih (w.entered e)
      exact ⟨helements.trans (entered_elements w e), hfailures.trans (entered_failures w e)⟩

/-- The frame that is active is the innermost one that was gone into. -/
theorem descended_frame (w : World) (found : List PageElement) :
    (w.descended found).browser.frame =
      ((found.filter PageElement.isFrame).getLast?.map (·.id)).or w.browser.frame := by
  induction found using List.reverseRecOn with
  | nil => rfl
  | append_singleton found e ih =>
      rw [descended_concat, entered_frame, List.filter_append, ih]
      by_cases he : e.isFrame = true
      · simp [he]
      · simp [he]

/-! Operations for which no failure is queued. -/

theorem browse_of_run {a : Browser.Act α} {x : α} {b : Browser} (h : a w.browser = (.ok x, b)) :
    browse a w = (.ok x, { w with browser := b, ended := none :: w.ended }) := by
  simp only [browse, h]

theorem enter_run_idle {b : Browser} (hidle : b.failures = []) (op : BrowserOp) :
    Browser.enter op b = (.ok (), { b with calls := op :: b.calls }) := by
  rw [Browser.enter_run, hidle]
  rfl

variable (hidle : w.browser.failures = [])
include hidle

theorem browse_findElement_found (h : PageElement.FirstOf w.browser.elements link around e) :
    browse (Browser.findElement link.2.1 link.2.2 around) w =
      (.ok e.id, w.called .findElement none) := by
  refine browse_of_run ?_
  have hfind := Browser.find?_isFoundBy_eq_some_iff.2 h
  unfold Browser.findElement
  rw [Act.bind_run_ok (enter_run_idle hidle _), Act.bind_run_ok (Act.get_run _)]
  simp only [hfind]
  rfl

/-- The failure of a lookup that finds nothing. -/
def unlocated (link : Link) : BrowserFault :=
  .noSuchElement s!"{link.2.1.word}: {link.2.2}"

theorem browse_findElement_missing (h : ∀ e ∈ w.browser.elements, ¬ e.Suits link around) :
    browse (Browser.findElement link.2.1 link.2.2 around) w =
      (.error (.browser (unlocated link)), w.called .findElement (some (unlocated link))) := by
  have hfind := Browser.find?_isFoundBy_eq_none_iff.2 h
  have hrun : Browser.findElement link.2.1 link.2.2 around w.browser =
      (.error (unlocated link), (w.called .findElement none).browser) := by
    unfold Browser.findElement
    rw [Act.bind_run_ok (enter_run_idle hidle _), Act.bind_run_ok (Act.get_run _)]
    simp only [hfind]
    rfl
  simp only [browse, hrun]
  rfl

theorem browse_tagName (hids : (w.browser.elements.map (·.id)).Nodup)
    (he : e ∈ w.browser.elements) (hpresent : e.removed = false) :
    browse (Browser.tagName e.id) w = (.ok e.tag, w.called .tagName none) := by
  obtain ⟨hfind, hchange⟩ := Browser.find?_id_of_nodup hids he
  refine browse_of_run ?_
  unfold Browser.tagName Browser.readElement Browser.onElement Browser.element?
  rw [Act.bind_run_ok (enter_run_idle hidle _), Act.bind_run_ok (Act.get_run _)]
  simp only [hfind, hpresent, Option.filter_some, Bool.not_false, if_true, PageElement.read,
    hchange]
  rfl

theorem browse_switchToFrame (frame : ElementId) :
    browse (Browser.switchToFrame frame) w =
      (.ok (), (w.called .switchToFrame none).framed frame) := by
  refine browse_of_run ?_
  unfold Browser.switchToFrame
  rw [Act.bind_run_ok (enter_run_idle hidle _)]
  rfl

end World

namespace Interaction

open World (browse unlocated)

variable {w : World} {link : Link} {around : Option ElementId} {e : PageElement}

/-! ### The way to an element -/

/-- Elements to which links lead, the outermost first: each is the first that suits its link inside
the one before it.  The next one is looked for inside `around`. -/
inductive Descends (elements : List PageElement) :
    List Link → List PageElement → Option ElementId → Prop where
  | top : Descends elements [] [] none
  | step {links : List Link} {link : Link} {found : List PageElement} {e : PageElement}
      {around : Option ElementId} : Descends elements links found around →
      PageElement.FirstOf elements link around e →
      Descends elements (links ++ [link]) (found ++ [e]) e.inside

/-- How a search ends: at the element that the last link leads to, or at the first link that leads
nowhere; the elements on the way were gone into, and nothing is called after the last lookup. -/
inductive Search (w : World) (links : List Link) : Except InteractionFault ElementId × World → Prop
  | found {before : List Link} {link : Link} {found : List PageElement} {e : PageElement}
      {around : Option ElementId} : links = before ++ [link] →
      Descends w.browser.elements before found around →
      PageElement.FirstOf w.browser.elements link around e →
      Search w links (.ok e.id, (w.descended found).called .findElement none)
  | missing {before later : List Link} {link : Link} {found : List PageElement}
      {around : Option ElementId} : links = before ++ link :: later →
      Descends w.browser.elements before found around →
      (∀ e ∈ w.browser.elements, ¬ e.Suits link around) →
      Search w links (.error (.browser (unlocated link)),
        (w.descended found).called .findElement (some (unlocated link)))

section

variable (hidle : w.browser.failures = [])
include hidle

theorem isFrame_run (hids : (w.browser.elements.map (·.id)).Nodup)
    (he : e ∈ w.browser.elements) (hpresent : e.removed = false) :
    isFrame e.id w = (.ok e.isFrame, w.called .tagName none) := by
  unfold isFrame
  rw [Act.bind_run_ok (World.browse_tagName hidle hids he hpresent)]
  rfl

/-- Once elements were gone into, the last lookup ends the search. -/
theorem search_of_descends {before : List Link} {found : List PageElement}
    (h : Descends w.browser.elements before found around) (link : Link) :
    Search w (before ++ [link])
      (browse (Browser.findElement link.2.1 link.2.2 around) (w.descended found)) := by
  obtain ⟨helements, hfailures⟩ := w.descended_page found
  have hidle' := hfailures.trans hidle
  cases hfind : w.browser.elements.find? fun e => e.isFoundBy link.2.1 link.2.2 around with
  | some e =>
      have hfirst := Browser.find?_isFoundBy_eq_some_iff.1 hfind
      rw [World.browse_findElement_found hidle' (helements ▸ hfirst)]
      exact .found rfl h hfirst
  | none =>
      have hmissing := Browser.find?_isFoundBy_eq_none_iff.1 hfind
      rw [World.browse_findElement_missing hidle' (helements ▸ hmissing)]
      exact .missing rfl h hmissing

/-- Going into an element that was found, and looking for the next one. -/
theorem inside_run (hids : (w.browser.elements.map (·.id)).Nodup)
    (he : e ∈ w.browser.elements) (hpresent : e.removed = false) (link : Link) :
    (do
        if ← isFrame e.id then
          browse (Browser.switchToFrame e.id)
          browse (Browser.findElement link.2.1 link.2.2 none)
        else browse (Browser.findElement link.2.1 link.2.2 (some e.id)))
      (w.called .findElement none) =
      browse (Browser.findElement link.2.1 link.2.2 e.inside) (w.entered e) := by
  rw [Act.bind_run_ok (isFrame_run (w := w.called .findElement none) hidle hids he hpresent)]
  unfold PageElement.inside World.entered
  split
  next =>
    exact Act.bind_run_ok (World.browse_switchToFrame
      (w := (w.called .findElement none).called .tagName none) hidle e.id)
  next => rfl

end

theorem search_locate (hidle : w.browser.failures = [])
    (hids : (w.browser.elements.map (·.id)).Nodup) :
    ∀ l : Locator, Search w l.chain.reverse (locate l w)
  | .mk element strategy expression none =>
      search_of_descends hidle .top (element, strategy, expression)
  | .mk element strategy expression (some container) => by
      have ih := search_locate hidle hids container
      have hchain : (Locator.mk element strategy expression (some container)).chain.reverse =
          container.chain.reverse ++ [(element, strategy, expression)] := List.reverse_cons
      rw [hchain, locate]
      generalize hout : locate container w = out at ih
      cases ih with
      | missing hlinks h hmissing =>
          -- the search of the container ended, and this one ends there
          rw [Act.bind_run_error hout]
          exact .missing (by rw [hlinks, List.append_assoc, List.cons_append]) h hmissing
      | @found _ _ found e _ hlinks h hfirst =>
          obtain ⟨helements, hfailures⟩ := w.descended_page found
          obtain ⟨hmem, hpresent⟩ := hfirst.mem
          rw [Act.bind_run_ok hout, inside_run (hfailures.trans hidle) (helements ▸ hids)
            (helements ▸ hmem) hpresent (element, strategy, expression), hlinks,
            ← World.descended_concat]
          exact search_of_descends hidle (.step h hfirst) _

/-- **An element is found from its outermost container inwards.**  On a page as it comes about, and
with no failure queued, the search for an element follows its links from the outermost one.  Each
link leads to the first element that was not removed, with its strategy and expression, inside the
element before it, or inside none at the beginning and where that one is a frame.  An element that
was found is gone into: exactly the frames are made active, so in the end the innermost of them is
active, or what was active before if there is none.  The first link that leads nowhere ends the
search with its failure, and nothing is called after that. -/
theorem locate_descends (l : Locator) (w : World) (hpage : w.browser.Reached)
    (hidle : w.browser.failures = []) :
    Search w l.chain.reverse (locate l w) ∧
      ∀ found, (w.descended found).browser.frame =
        ((found.filter PageElement.isFrame).getLast?.map (·.id)).or w.browser.frame :=
  ⟨search_locate hidle hpage.numbered.nodup l, w.descended_frame⟩

/-- A page with buttons: one at the top, and two in a row in a frame, of which the first was
removed. -/
def framedButtons : World :=
  let changes : List PageChange := [.addElement .id "box" "IFrame" none,
    .addElement .id "row" "div" none, .addElement .tagName "button" "button" none,
    .addElement .tagName "button" "button" (some "el-2"),
    .addElement .tagName "button" "button" (some "el-2"), .removeElement "el-4"]
  { World.fresh .bare [] with browser := changes.foldl Browser.apply .opened }

/-- The locator of a button in a row in a frame. -/
def buttonInRow : Locator :=
  .mk "button" .tagName "button" (some (.mk "row" .id "row" (some (.plain "frame" .id "box"))))

/-- The button that is left in the row is found, and the frame is active then. -/
theorem button_in_row_found :
    (locate buttonInRow framedButtons).1.toOption = some "el-5" ∧
      (locate buttonInRow framedButtons).2.browser.frame = some "el-1" ∧
      Search framedButtons
        [("frame", .id, "box"), ("row", .id, "row"), ("button", .tagName, "button")]
        (locate buttonInRow framedButtons) :=
  ⟨by decide +kernel, by decide +kernel,
    (locate_descends buttonInRow framedButtons (Browser.Reached.opened.changes _) rfl).1⟩

end Interaction

end Bindery
