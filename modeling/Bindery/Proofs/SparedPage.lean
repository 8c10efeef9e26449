import Bindery.Proofs.Course
import Bindery.Proofs.Descent
import Bindery.Proofs.Onward
import Bindery.Proofs.Steps
import Bindery.Proofs.Rounds

/-!
# Bindery — Proofs — Spared page

What leaves the elements of a page as they are.  Four operations of a browser change an element; all
others read, or are about windows, frames, addresses and scripts.  Finding an element, going back to
a window and reading a text are made of those, and lookups call no others if their evaluators do not
(`World.SparesPage`).

Time that passes changes a page only as what was to come does, in its order.  The time after an
action is of this kind too: it runs scripts, and it pauses (`World.Passes`).
-/

namespace Bindery

/-- Whether an operation may change an element. -/
def BrowserOp.changesElement : BrowserOp → Bool
  | sendKeys | clear | click | selectOption => true
  | _ => false

namespace Browser

/-! ### Changes of one element -/

section ChangeElement

variable {elements : List PageElement} {e : PageElement} {id other : ElementId}
  {f g : PageElement → PageElement}

theorem changeElement_id (id : ElementId) (elements : List PageElement) :
    changeElement id (fun e => e) elements = elements := by
  induction elements with
  | nil => rfl
  | cons d rest ih =>
      rw [changeElement, ih]
      split <;> rfl

/-- To put what an element becomes in its place is to change the element. -/
theorem changeElement_const (f : PageElement → PageElement)
    (h : (elements.find? fun e => e.id = id) = some e) :
    changeElement id (fun _ => f e) elements = changeElement id f elements := by
  induction elements with
  | nil => rfl
  | cons d rest ih =>
      rw [changeElement, changeElement]
      split
      next hd =>
        rw [List.find?_cons_of_pos (by simpa using hd)] at h
        rw [Option.some.inj h]
      next hd =>
        rw [List.find?_cons_of_neg (by simpa using hd)] at h
        rw [ih h]

/-- The element with an id after a change of it that keeps the id. -/
theorem find?_changeElement (h : (elements.find? fun e => e.id = id) = some e)
    (hf : (f e).id = e.id) :
    ((changeElement id f elements).find? fun e => e.id = id) = some (f e) := by
  induction elements with
  | nil => cases h
  | cons d rest ih =>
      rw [changeElement]
      split
      next hd =>
        rw [List.find?_cons_of_pos (by simpa using hd)] at h
        cases h
        exact List.find?_cons_of_pos (by simpa using hf.trans hd)
      next hd =>
        rw [List.find?_cons_of_neg (by simpa using hd)] at h ⊢
        exact ih h

/-- The element with another id stays as it is. -/
theorem find?_changeElement_other (hne : other ≠ id)
    (hf : ∀ e ∈ elements, e.id = id → (f e).id = id) :
    ((changeElement id f elements).find? fun e => e.id = other) =
      elements.find? fun e => e.id = other := by
  induction elements with
  | nil => rfl
  | cons d rest ih =>
      obtain ⟨hd, hrest⟩ := List.forall_mem_cons.1 hf
      rw [changeElement]
      split
      next hid =>
        have hd' : (f d).id ≠ other := fun h => hne (h.symm.trans (hd hid))
        have hold : d.id ≠ other := fun h => hne (h.symm.trans hid)
        rw [List.find?_cons_of_neg (by simpa using hd'),
          List.find?_cons_of_neg (by simpa using hold)]
      next => rw [List.find?_cons, List.find?_cons, ih hrest]

/-- Two changes of one element are one change of it. -/
theorem changeElement_changeElement (hg : ∀ e, (g e).id = e.id) :
    changeElement id f (changeElement id g elements) =
      changeElement id (fun e => f (g e)) elements := by
  induction elements with
  | nil => rfl
  | cons d rest ih =>
      by_cases hd : d.id = id
      · simp [changeElement, hd, hg]
      · simp [changeElement, hd, ih]

end ChangeElement

end Browser

namespace PageElement

/-! ### What is done to an element -/

/-- What is done to an element leaves it as it is where it fails. -/
def Careful {α : Type} (f : Act α) : Prop :=
  ∀ ⦃e fault e'⦄, f e = (.error fault, e') → e' = e

variable {e e' : PageElement}

theorem careful_read {α : Type} (f : PageElement → α) : Careful (read f) := by
  intro e fault e' h
  cases h

theorem careful_takeText (text : String) : Careful (takeText text) := by
  intro e fault e' h
  unfold takeText at h
  split at h <;> cases h
  rfl

theorem careful_clear : Careful clear := by
  intro e fault e' h
  cases h

theorem careful_click : Careful click := by
  intro e fault e' h
  unfold click at h
  split at h <;> cases h
  rfl

theorem careful_select (choice : Choice) : Careful (select choice) := by
  intro e fault e' h
  unfold select at h
  split at h <;> cases h
  rfl

theorem of_takeText_ok {text : String} (h : takeText text e = (.ok (), e')) :
    e.enabled = true ∧ e' = e.type text := by
  unfold takeText at h
  split at h <;> cases h
  exact ⟨‹_›, rfl⟩

theorem of_click_ok (h : click e = (.ok (), e')) :
    e' = if e.isCheckable then { e with selected := !e.selected } else e := by
  unfold click at h
  split at h <;> cases h
  rfl

theorem of_select_ok {choice : Choice} (h : select choice e = (.ok (), e')) :
    ∃ n, choice.find? e.options = some n ∧ e' = { e with selectedOption := some n } := by
  unfold select at h
  split at h <;> cases h
  exact ⟨_, ‹_›, rfl⟩

end PageElement

namespace Browser

/-! ### Operations -/

variable {α : Type} {op : BrowserOp} {id : ElementId} {b b' : Browser} {f : PageElement.Act α}

theorem onElement_run (op : BrowserOp) (id : ElementId) (f : PageElement.Act α) (b : Browser) :
    onElement op id f b = match enter op b with
      | (.error fault, b) => (.error fault, b)
      | (.ok (), b) =>
        match (b.element? id).filter fun e => !e.removed with
        | none => (.error (.stale id), b)
        | some e =>
          ((f e).1, { b with elements := changeElement id (fun _ => (f e).2) b.elements }) := by
  unfold onElement
  rw [Act.bind_run]
  rcases enter op b with ⟨fault | ⟨⟩, b₁⟩
  · rfl
  · simp only
    rw [Act.bind_run_ok (Act.get_run b₁)]
    cases (b₁.element? id).filter fun e => !e.removed with
    | none => rfl
    | some e => rfl

/-- An operation on an element that was begun puts the element, as it is left, in the place of the
one that was there. -/
theorem of_onElement {r : Except BrowserFault α} (h : onElement op id f b = (r, b')) :
    (∃ fault, r = .error fault ∧ b'.elements = b.elements) ∨
      ∃ e e', b.element? id = some e ∧ e.removed = false ∧ f e = (r, e') ∧
        b'.elements = changeElement id (fun _ => e') b.elements := by
  have hentered := elements_enter op b
  rw [onElement_run] at h
  rcases he : enter op b with ⟨fault | ⟨⟩, b₁⟩
  · rw [he] at h hentered
    cases h
    exact .inl ⟨fault, rfl, hentered⟩
  · rw [he] at h hentered
    simp only at h hentered
    split at h
    next =>
      cases h
      exact .inl ⟨_, rfl, hentered⟩
    next e found =>
      have hpresent := Option.filter_eq_some_iff.1 found
      cases h
      refine .inr ⟨e, (f e).2, ?_, by simpa using hpresent.2, rfl, by rw [hentered]⟩
      rw [element?, ← hentered]
      exact hpresent.1

/-- An operation on an element that succeeds puts the changed element in the place of the one that
was there. -/
theorem of_onElement_ok {x : α} (h : onElement op id f b = (.ok x, b')) :
    ∃ e e', b.element? id = some e ∧ e.removed = false ∧ f e = (.ok x, e') ∧
      b'.elements = changeElement id (fun _ => e') b.elements := by
  rcases of_onElement h with ⟨fault, hfault, -⟩ | hdone
  · cases hfault
  · exact hdone

/-- An operation on an element for which no failure is queued does what it is for. -/
theorem onElement_of_free {d e : PageElement} {x : α} (hfree : ∀ fault, (op, fault) ∉ b.failures)
    (hfind : b.element? id = some e) (hpresent : e.removed = false) (hf : f e = (.ok x, d)) :
    ∃ b', onElement op id f b = (.ok x, b') := by
  have hentered : enter op b = (.ok (), { b with calls := op :: b.calls }) := by
    rw [enter_run]
    rcases h : takeFailure op b.failures with _ | ⟨fault, rest⟩
    · rfl
    · exact absurd (mem_of_takeFailure h).1 (hfree fault)
  have hfilter : (b.element? id).filter (fun e => !e.removed) = some e := by
    simp [hfind, hpresent]
  rw [element?] at hfilter
  rw [onElement_run, hentered]
  simp only [element?, hfilter, hf]
  exact ⟨_, rfl⟩

/-- What is read of an element is read of the first one with its id, which was not removed. -/
theorem of_readElement_ok {g : PageElement → α} {x : α}
    (h : readElement op id g b = (.ok x, b')) :
    ∃ e, b.element? id = some e ∧ e.removed = false ∧ g e = x := by
  obtain ⟨e, e', hfind, hpresent, he, -⟩ := of_onElement_ok h
  cases he
  exact ⟨e, hfind, hpresent, rfl⟩

/-- To put an element in its own place changes nothing. -/
theorem changeElement_self {elements : List PageElement} {e : PageElement}
    (h : (elements.find? fun e => e.id = id) = some e) :
    changeElement id (fun _ => e) elements = elements :=
  (changeElement_const (fun e => e) h).trans (changeElement_id id elements)

/-- An operation on an element that fails changes no element, if what it does is careful. -/
theorem elements_of_onElement_error (hf : PageElement.Careful f) {fault : BrowserFault}
    (h : onElement op id f b = (.error fault, b')) : b'.elements = b.elements := by
  rcases of_onElement h with ⟨-, -, hsame⟩ | ⟨e, e', hfind, -, he, helements⟩
  · exact hsame
  · rw [helements, hf he]
    exact changeElement_self hfind

theorem elements_readElement (op : BrowserOp) (id : ElementId) (f : PageElement → α) (b : Browser) :
    (readElement op id f b).2.elements = b.elements := by
  rcases h : readElement op id f b with ⟨fault | x, b'⟩
  · exact elements_of_onElement_error (PageElement.careful_read f) h
  · obtain ⟨e, e', hfind, -, he, helements⟩ := of_onElement_ok h
    cases he
    exact helements.trans (changeElement_self hfind)

/-- What is done after an operation was begun decides on the elements. -/
theorem elements_of_enter {a : Act α} (ha : ∀ b, (a b).2.elements = b.elements) (b : Browser) :
    ((enter op >>= fun _ => a) b).2.elements = b.elements := by
  have hentered := elements_enter op b
  rw [Act.bind_run]
  rcases he : enter op b with ⟨fault | ⟨⟩, b₁⟩
  · rw [he] at hentered
    exact hentered
  · rw [he] at hentered
    exact (ha b₁).trans hentered

theorem elements_findElement (strategy : Strategy) (expression : String)
    (within : Option ElementId) (b : Browser) :
    (findElement strategy expression within b).2.elements = b.elements := by
  unfold findElement
  refine elements_of_enter (fun b => ?_) b
  rw [Act.bind_run_ok (Act.get_run b)]
  cases b.elements.find? fun e => e.isFoundBy strategy expression within with
  | none => rfl
  | some e => rfl

/-! ### Changes of a page -/

/-- The elements of a page after changes of it. -/
def elementsAfter (changes : List PageChange) (elements : List PageElement) : List PageElement :=
  (changes.foldl apply { opened with elements }).elements

theorem elements_apply_congr (h : b.elements = b'.elements) (c : PageChange) :
    (b.apply c).elements = (b'.apply c).elements := by
  cases c <;> simp [apply, changed, nextId, h]

theorem elements_foldl_apply (changes : List PageChange) (h : b.elements = b'.elements) :
    (changes.foldl apply b).elements = (changes.foldl apply b').elements := by
  induction changes generalizing b b' with
  | nil => exact h
  | cons c rest ih => exact ih (elements_apply_congr h c)

theorem elementsAfter_append (changes more : List PageChange) (elements : List PageElement) :
    elementsAfter (changes ++ more) elements =
      elementsAfter more (elementsAfter changes elements) := by
  unfold elementsAfter
  rw [List.foldl_append]
  exact elements_foldl_apply more rfl

end Browser

namespace World

variable {α ε : Type} {w w' w'' : World}

/-! ### What spares the page -/

/-- The elements of the page are what they were, as no operation was called that changes one.
Nothing that was to come has come, and no failure was queued. -/
structure SparesPage (w w' : World) : Prop where
  elements : w'.browser.elements = w.browser.elements
  coming : w'.coming = w.coming
  queue : w'.browser.failures ⊆ w.browser.failures
  calls : ∃ made, w'.calls = made ++ w.calls ∧ ∀ c ∈ made, c.1.changesElement = false

theorem SparesPage.refl (w : World) : SparesPage w w :=
  ⟨rfl, rfl, fun _ h => h, [], rfl, by simp⟩

theorem SparesPage.trans (h₁ : SparesPage w w') (h₂ : SparesPage w' w'') : SparesPage w w'' where
  elements := h₂.elements.trans h₁.elements
  coming := h₂.coming.trans h₁.coming
  queue := fun _ h => h₁.queue (h₂.queue h)
  calls := by
    obtain ⟨made, h, hmade⟩ := h₁.calls
    obtain ⟨more, h', hmore⟩ := h₂.calls
    exact ⟨more ++ made, by rw [h', h, List.append_assoc],
      List.forall_mem_append.2 ⟨hmore, hmade⟩⟩

/-- Files, photographs and queries are apart from the page. -/
theorem SparesPage.beside (w : World) (host : Host) (shots : List Shot) (asked : List Query) :
    SparesPage w { w with host, shots, asked } :=
  ⟨rfl, rfl, fun _ h => h, [], rfl, by simp⟩

/-- The bounds of what spares the page. -/
def sparing : Bounds World := .ofRelation SparesPage .refl fun _ _ _ => .trans

theorem within_sparing_browse {op : BrowserOp} {a : Browser.Act α} (ha : Browser.Call op a)
    (hop : op.changesElement = false) (helements : ∀ b, (a b).2.elements = b.elements) :
    (browse a).Within sparing := by
  refine Act.Within.ofRelation_iff.2 fun w => ⟨?_, browse_coming a w, ?_, ?_⟩
  · rw [browse_browser, helements]
  · rw [browse_browser]
    exact ha.queue _
  · obtain ⟨fault, hcalls⟩ := calls_of_browse ha (r := (browse a w).1) rfl
    exact ⟨[(op, fault)], hcalls, by simpa using hop⟩

theorem within_sparing_readElement (op : BrowserOp) (hop : op.changesElement = false)
    (id : ElementId) (f : PageElement → α) :
    (browse (Browser.readElement op id f)).Within sparing :=
  within_sparing_browse (.readElement op id f) hop (Browser.elements_readElement op id f)

theorem within_sparing_currentWindow : (browse Browser.currentWindow).Within sparing :=
  within_sparing_browse .currentWindow rfl (Browser.elements_of_enter fun _ => rfl)

theorem within_sparing_switchToWindow (window : String) :
    (browse (Browser.switchToWindow window)).Within sparing :=
  within_sparing_browse (.switchToWindow window) rfl (Browser.elements_of_enter fun _ => rfl)

theorem within_sparing_executeScript (script : String) (args : List ScriptArgument) :
    (browse (Browser.executeScript script args)).Within sparing :=
  within_sparing_browse (.executeScript script args) rfl (Browser.elements_of_enter fun _ => rfl)

end World

open World (browse SparesPage sparing)

/-! ### Interactions and lookups that spare the page -/

theorem Interaction.within_sparing_locate (l : Locator) : (locate l).Within sparing :=
  within_locate
    (fun _ _ _ => World.within_sparing_browse (.findElement _ _ _) rfl
      (Browser.elements_findElement _ _ _))
    (fun _ => World.within_sparing_readElement _ rfl _ _)
    (fun _ => World.within_sparing_browse (.switchToFrame _) rfl
      (Browser.elements_of_enter fun _ => rfl)) l

theorem Interactor.within_sparing_withElement {α : Type} {l : Locator}
    {deed : ElementId → World.Act InteractionFault α} (i : Interactor) (action : Option String)
    (hdeed : ∀ id, (deed id).Within sparing) : (i.withElement action l deed).Within sparing :=
  within_withElement i action World.within_sparing_currentWindow World.within_sparing_switchToWindow
    (.bind (Interaction.within_sparing_locate l) hdeed)
    fun w shots => .beside w w.host shots w.asked

theorem Interaction.within_sparing_readText (id : ElementId) : (readText id).Within sparing := by
  unfold readText
  refine .bind (World.within_sparing_readElement _ rfl _ _) fun text => .ite (.pure _) ?_
  exact .bind (World.within_sparing_readElement _ rfl _ _) fun _ => .pure _

namespace Evaluators

/-- Evaluators that change no element, as they are to read and to run scripts at most. -/
def SparePage (e : Evaluators) : Prop := ∀ q, (e q).Within sparing

theorem within_sparing_processText (command : String) : (processText command).Within sparing := by
  refine Act.Within.ofRelation_iff.2 fun w => ?_
  unfold processText
  split
  · exact .refl w
  · simp only
    split <;> exact .beside w _ w.shots w.asked

theorem sparePage_standard : SparePage standard := by
  have script (script : String) (args : List ScriptArgument) :
      (runScript script args).Within sparing :=
    .failingAs _ (World.within_sparing_executeScript script args)
  intro q
  cases q with
  | script s => exact .bind (script _ _) fun _ => .pure _
  | xpath e s t => exact .bind (script _ _) fun _ => .ofExcept _
  | regex e s => exact .ofExcept _
  | jsonPath e s => exact .ofExcept _
  | process c => exact within_sparing_processText c
  | file p => exact .bind .get fun _ => .ofExcept _

theorem within_sparing_consult {e : Evaluators} (h : e.SparePage) (q : Query) :
    (consult e q).Within sparing :=
  .bind (.modify fun w => .beside w w.host w.shots (q :: w.asked)) fun _ => h q

end Evaluators

/-- The bounds of what spares the page, whatever it does to the bindings. -/
def State.sparing : Bounds State := World.sparing.comap State.world

theorem State.within_sparing_inWorld {ε α : Type} {a : World.Act ε α}
    (ha : a.Within World.sparing) : Act.Within State.sparing (State.inWorld a) :=
  .inPart ha (fun _ _ h => h) fun _ _ h => h

theorem Resolver.permits_sparing {r : Resolver Interactor} (he : r.evaluators.SparePage) :
    r.Permits State.sparing where
  url := by
    refine .bind (.ite (.pure _) ?_) fun _ => .modify fun s => .refl s.world
    exact State.within_sparing_inWorld (.failingAs _ (World.within_sparing_browse .currentUrl rfl
      (Browser.elements_of_enter fun _ => rfl)))
  ask _ _ _ := .ite (.pure _)
    (.failingAs _ (State.within_sparing_inWorld (Evaluators.within_sparing_consult he _)))
  file _ _ := .failingAs _ (State.within_sparing_inWorld (Evaluators.within_sparing_consult he _))
  text := by
    intro room name l s t _ _ _ h
    refine .after h ?_
    rw [Resolver.liveText_run]
    split
    · exact .done (.refl t.world)
    · have hread : t.world.SparesPage (PageReader.text r.interactor l t.world).2 :=
        Act.Within.ofRelation_iff.1 (r.interactor.within_sparing_withElement (l := l) none
          Interaction.within_sparing_readText) t.world
      rcases e : PageReader.text r.interactor l t.world with ⟨f | text, w⟩
      · rw [e] at hread
        exact .failed hread
      · rw [e] at hread
        exact .done hread

/-- Looking up a locator spares the page. -/
theorem Resolver.sparesPage_of_locator {r : Resolver Interactor} (he : r.evaluators.SparePage)
    {element : String} {s t : State} {l : Except ResolutionFault Locator}
    (hl : r.locator element s = (l, t)) : SparesPage s.world t.world := by
  have h : SparesPage s.world (r.locator element s).2.world :=
    Act.Within.ofRelation_iff.1 ((permits_sparing he).within_locator element) s
  rwa [hl] at h

/-! ### Time that passes -/

namespace World

/-- Some time passes in which changes come that were to come: they change the page, and no operation
is called that changes an element. -/
structure Passes (changes : List (Nat × PageChange)) (w w' : World) : Prop where
  coming : w.coming = changes ++ w'.coming
  elements : w'.browser.elements =
    Browser.elementsAfter (changes.map Prod.snd) w.browser.elements
  calls : ∃ made, w'.calls = made ++ w.calls ∧ ∀ c ∈ made, c.1.changesElement = false

variable {w w' w'' : World}

theorem SparesPage.passes (h : SparesPage w w') : Passes [] w w' :=
  ⟨h.coming.symm, h.elements, h.calls⟩

theorem Passes.trans {changes more : List (Nat × PageChange)} (h₁ : Passes changes w w')
    (h₂ : Passes more w' w'') : Passes (changes ++ more) w w'' where
  coming := by rw [h₁.coming, h₂.coming, List.append_assoc]
  elements := by
    rw [h₂.elements, h₁.elements, List.map_append, Browser.elementsAfter_append]
  calls := by
    obtain ⟨made, h, hmade⟩ := h₁.calls
    obtain ⟨more, h', hmore⟩ := h₂.calls
    exact ⟨more ++ made, by rw [h', h, List.append_assoc],
      List.forall_mem_append.2 ⟨hmore, hmade⟩⟩

/-- What happens by itself are the first of the changes that are to come. -/
theorem exists_happened (time : Nat) (b : Browser) (coming : List (Nat × PageChange)) :
    ∃ changes, coming = changes ++ (happen time b coming).2 ∧
      (happen time b coming).1 = (changes.map Prod.snd).foldl Browser.apply b := by
  induction coming generalizing b with
  | nil => exact ⟨[], rfl, rfl⟩
  | cons p rest ih =>
      obtain ⟨t, c⟩ := p
      rw [happen]
      split
      · obtain ⟨changes, hcoming, hhappened⟩ := ih (b.apply c)
        refine ⟨(t, c) :: changes, ?_, hhappened⟩
        rw [List.cons_append, ← hcoming]
      · exact ⟨[], rfl, rfl⟩

theorem exists_passes_sleep (pause : Nat) (w : World) :
    ∃ changes, Passes changes w (w.sleep pause) := by
  obtain ⟨changes, hcoming, hhappened⟩ :=
    exists_happened (Clock.after w.time pause) w.browser w.coming
  obtain ⟨hcalls, -⟩ := onward_sleep pause w
  refine ⟨changes, hcoming, ?_, [], hcalls.calls, by simp⟩
  show (happen _ w.browser w.coming).1.elements = _
  rw [hhappened]
  exact Browser.elements_foldl_apply _ rfl

/-- The bounds of time that passes. -/
def passing : Bounds World :=
  .ofRelation (fun w w' => ∃ changes, Passes changes w w')
    (fun w => ⟨[], (SparesPage.refl w).passes⟩)
    fun _ _ _ ⟨_, h₁⟩ ⟨_, h₂⟩ => ⟨_, h₁.trans h₂⟩

theorem passing_of_sparing {ε α : Type} {a : Act ε α} (ha : a.Within sparing) :
    a.Within passing :=
  Act.Within.ofRelation_iff.2 fun w => ⟨[], (Act.Within.ofRelation_iff.1 ha w).passes⟩

end World

/-- Binding the value of an action and letting the time after it pass is passing time to the
world. -/
theorem Session.exists_passes_bindAndWait (x : Session) (element action value : String)
    (s : State) :
    ∃ changes, World.Passes changes s.world (x.bindAndWait element action value s).2.world := by
  have inWorld {ε α : Type} {a : World.Act ε α} (ha : a.Within World.passing) :
      Act.Within (World.passing.comap State.world) (State.inWorld a) :=
    .inPart ha (fun _ _ h => h) fun _ _ h => h
  have h : Act.Within (World.passing.comap State.world) (x.bindAndWait element action value) := by
    refine within_bindAndWait (fun s => ⟨[], (SparesPage.refl s.world).passes⟩)
      (fun _ => inWorld (.modify fun w => World.exists_passes_sleep _ w))
      fun condition script => inWorld (.failingAs _ ?_)
    refine Wait.within_untilDefault World.exists_passes_sleep _ _ ?_
    exact .bind (World.passing_of_sparing (World.within_sparing_executeScript _ _)) fun _ => .pure _
  exact Act.Within.ofRelation_iff.1 h s

end Bindery
