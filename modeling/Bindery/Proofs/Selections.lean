import Bindery.Proofs.Chains
import Bindery.Proofs.Requests
import Bindery.Proofs.Strokes

/-!
# Bindery — Proofs — Selections

What is selected reads back.  An option that was selected stays the one that is read, with its text
and its value, through everything that happens to the browser: options are only ever added behind
the others, so the index that is kept goes on pointing to it, until another one is selected in the
same element or the element is removed (`selection_reads_back`).
-/

namespace Bindery

open World (browse SparesPage)

/-! ### Choices -/

/-- The text or the value of an option. -/
def Facet.of (o : Choice.Item) : Facet → String
  | .text => o.1
  | .value => o.2

/-- An option is the one that is chosen: the first with the text or the value, or the one at the
index. -/
structure Choice.Picks (choice : Choice) (options : List Item) (n : Nat) (o : Item) : Prop where
  there : options[n]? = some o
  chosen : match choice with
    | .text t => o.1 = t ∧ ∀ m < n, ∀ p, options[m]? = some p → p.1 ≠ t
    | .value v => o.2 = v ∧ ∀ m < n, ∀ p, options[m]? = some p → p.2 ≠ v
    | .index i => i = n

namespace Choice

variable {options : List Item} {n : Nat}

theorem first_of_findIdx? {f : Item → String} {t : String}
    (h : (options.findIdx? fun o => f o = t) = some n) :
    ∃ o, options[n]? = some o ∧ f o = t ∧ ∀ m < n, ∀ p, options[m]? = some p → f p ≠ t := by
  obtain ⟨hn, hfound, hfirst⟩ := List.findIdx?_eq_some_iff_getElem.1 h
  refine ⟨options[n], List.getElem?_eq_getElem hn, by simpa using hfound, fun m hm p hp => ?_⟩
  obtain ⟨hlt, rfl⟩ := List.getElem?_eq_some_iff.1 hp
  simpa using hfirst m hm

theorem exists_picks {choice : Choice} (h : choice.find? options = some n) :
    ∃ o, choice.Picks options n o := by
  cases choice with
  | text t =>
      obtain ⟨o, hthere, hchosen⟩ := first_of_findIdx? (f := Prod.fst) h
      exact ⟨o, hthere, hchosen⟩
  | value v =>
      obtain ⟨o, hthere, hchosen⟩ := first_of_findIdx? (f := Prod.snd) h
      exact ⟨o, hthere, hchosen⟩
  | index i =>
      rw [find?] at h
      split at h <;> cases h
      next hlt => exact ⟨_, List.getElem?_eq_getElem hlt, rfl⟩

end Choice

/-! ### Elements that keep their selection -/

/-- An element that is there still, with the same option selected; options may have been added. -/
structure PageElement.KeepsSelection (e e' : PageElement) : Prop where
  id : e'.id = e.id
  removed : e'.removed = e.removed
  selected : e'.selectedOption = e.selectedOption
  options : e.options <+: e'.options

theorem PageElement.KeepsSelection.refl (e : PageElement) : e.KeepsSelection e :=
  ⟨rfl, rfl, rfl, List.prefix_rfl⟩

namespace Browser

/-- In the element with an id an option is selected. -/
def Selects (id : ElementId) (o : Choice.Item) (elements : List PageElement) : Prop :=
  ∃ e n, (elements.find? fun e => e.id = id) = some e ∧ e.removed = false ∧
    e.selectedOption = some n ∧ e.options[n]? = some o

variable {id changed : ElementId} {o : Choice.Item} {elements : List PageElement}

theorem Selects.keeps {e e' : PageElement} {n : Nat} (h : e.KeepsSelection e')
    (hpresent : e.removed = false) (hselected : e.selectedOption = some n)
    (ho : e.options[n]? = some o) :
    e'.removed = false ∧ e'.selectedOption = some n ∧ e'.options[n]? = some o := by
  obtain ⟨added, hadded⟩ := h.options
  obtain ⟨hlt, -⟩ := List.getElem?_eq_some_iff.1 ho
  refine ⟨h.removed.trans hpresent, h.selected.trans hselected, ?_⟩
  rw [← hadded, List.getElem?_append_left hlt]
  exact ho

/-- A selection outlives a change of another element, and one of its own that keeps it. -/
theorem Selects.changeElement {f : PageElement → PageElement} (h : Selects id o elements)
    (hids : ∀ e ∈ elements, e.id = changed → (f e).id = changed)
    (hf : ∀ e, (elements.find? fun e => e.id = id) = some e → id = changed →
      e.KeepsSelection (f e)) :
    Selects id o (Browser.changeElement changed f elements) := by
  obtain ⟨e, n, hfind, hpresent, hselected, ho⟩ := h
  by_cases hid : id = changed
  · subst hid
    have hkeeps := hf e hfind rfl
    exact ⟨f e, n, find?_changeElement hfind hkeeps.id, Selects.keeps hkeeps hpresent hselected ho⟩
  · exact ⟨e, n, (find?_changeElement_other hid hids).trans hfind, hpresent, hselected, ho⟩

/-! ### Events that leave a selection -/

/-- An event that may end a selection: another option is selected in the element, or the element is
removed. -/
def Event.Disturbs (id : ElementId) (b : Browser) : Event → Prop
  | .request (.selectOption other choice) =>
    other = id ∧ ((Request.selectOption other choice).run b).1 = none
  | .request _ => False
  | .change (.removeElement other) => other = id
  | .change _ => False

/-- None of some events disturbs a selection when it happens. -/
def Undisturbed (id : ElementId) : Browser → List Event → Prop
  | _, [] => True
  | b, event :: rest => ¬ event.Disturbs id b ∧ Undisturbed id (event.after b) rest

variable {b : Browser}

theorem selects_request {r : Request} (h : Selects id o b.elements)
    (hquiet : ¬ (Event.request r).Disturbs id b) : Selects id o (r.run b).2.elements := by
  generalize hleft : (r.run b).2.elements = left
  have hleaves := hleft ▸ r.leaves_run b
  clear hleft
  cases hleaves with
  | same => exact h
  | @turned turned e e' hrun he hpresent hturns =>
      have heid : e.id = turned := by simpa using List.find?_some he
      refine h.changeElement (fun _ _ _ => hturns.id.trans heid) fun d hd hid => ?_
      subst hid
      cases he.symm.trans hd
      -- of what a request can make of an element, only selecting touches the selection
      cases hturns with
      | keys | clear => exact ⟨rfl, rfl, rfl, List.prefix_rfl⟩
      | click => split <;> exact ⟨rfl, rfl, rfl, List.prefix_rfl⟩
      | selectOption => exact absurd ⟨rfl, hrun⟩ hquiet

theorem selects_change {c : PageChange} (h : Selects id o b.elements)
    (hquiet : ¬ (Event.change c).Disturbs id b) : Selects id o (b.apply c).elements := by
  cases c with
  | addElement strategy expression tag parent =>
      -- a new element comes last, so the one with the id is found before it
      obtain ⟨e, n, hfind, hselected⟩ := h
      refine ⟨e, n, ?_, hselected⟩
      rw [apply, List.find?_append, hfind]
      rfl
  | removeElement removed =>
      exact h.changeElement (fun _ _ hid => hid) fun _ _ hid => absurd hid.symm hquiet
  | addOption changed text value =>
      exact h.changeElement (fun _ _ hid => hid) fun _ _ _ =>
        ⟨rfl, rfl, rfl, List.prefix_append _ _⟩
  | failNext | onScript | setUrl => exact h
  | _ =>
      exact h.changeElement (fun _ _ hid => hid) fun _ _ _ => ⟨rfl, rfl, rfl, List.prefix_rfl⟩

/-- A selection outlives all events that do not disturb it. -/
theorem selects_events {events : List Event} (h : Selects id o b.elements)
    (hquiet : Undisturbed id b events) : Selects id o (b.afterEvents events).elements := by
  induction events generalizing b with
  | nil => exact h
  | cons event rest ih =>
      refine ih ?_ hquiet.2
      cases event with
      | request r => exact selects_request h hquiet.1
      | change c => exact selects_change h hquiet.1

/-! ### Selecting and reading -/

/-- What is selected is read, if no failure is queued for that. -/
theorem selectedOption_of_selects (h : Selects id o b.elements)
    (hfree : ∀ fault, (.selectedOption, fault) ∉ b.failures) (facet : Facet) :
    ∃ b', selectedOption id facet b = (.ok (some (facet.of o)), b') := by
  obtain ⟨e, n, hfind, hpresent, hselected, ho⟩ := h
  unfold selectedOption readElement
  refine onElement_of_free (d := e) hfree hfind hpresent ?_
  simp only [PageElement.read, hselected, Option.bind_some, ho]
  cases facet <;> rfl

/-- Selecting an option that is there selects it, and nothing else changes. -/
theorem of_selectOption_ok {b' : Browser} {choice : Choice}
    (h : selectOption id choice b = (.ok (), b')) :
    ∃ e n o, b.element? id = some e ∧ choice.Picks e.options n o ∧ Selects id o b'.elements ∧
      b'.elements = Browser.changeElement id (fun e => { e with selectedOption := some n })
        b.elements := by
  obtain ⟨e, e', hfind, hpresent, hf, helements⟩ := of_onElement_ok h
  obtain ⟨n, found, rfl⟩ := PageElement.of_select_ok hf
  obtain ⟨o, hpicks⟩ := Choice.exists_picks found
  refine ⟨e, n, o, hfind, hpicks, ?_, ?_⟩
  · rw [helements]
    exact ⟨_, n, find?_changeElement hfind rfl, hpresent, rfl, hpicks.there⟩
  · rw [helements]
    exact changeElement_const (fun e => { e with selectedOption := some n }) hfind

end Browser

/-! ### Selections in a session -/

theorem Resolver.selection_run {ι : Type} [PageReader ι] {r : Resolver ι}
    (hlive : r.dryRun = false) {name v : String} {facet : Facet} {s t : State} {l : Locator}
    {w : World} (hl : r.locator name s = (.ok l, t))
    (hread : PageReader.selected r.interactor l facet t.world = (.ok (some v), w)) :
    r.selection name facet s =
      (.ok v, { t with world := w, store := t.store.set (Key.selection name facet) v }) := by
  have hgiven : State.inWorld ((PageReader.selected r.interactor l facet).failingAs
      ResolutionFault.interaction) t = (.ok (some v), { t with world := w }) := by
    rw [State.inWorld_run, Act.failingAs_run_ok _ hread]
  unfold selection
  rw [Act.bind_run_ok hl]
  simp only [hlive, Bool.false_eq_true, if_false]
  rw [Act.bind_run_ok hgiven]
  rfl

namespace Session

open Browser (Selects Undisturbed)

variable {x : Session} {id : ElementId} {o : Choice.Item} {s : State}

/-- Where no failure is queued, the session answers and binds what is selected in the element. -/
theorem perform_selection (hlive : x.resolver.dryRun = false)
    (hspare : x.resolver.evaluators.SparePage) (hids : (s.world.browser.elements.map (·.id)).Nodup)
    (hidle : s.world.browser.failures = []) (hselects : Selects id o s.world.browser.elements)
    {name : String} (facet : Facet) {l : Locator} {t : State}
    (hl : x.resolver.locator name s = (.ok l, t)) {e : PageElement}
    (he : LeadsTo s.world.browser.elements l e) (hid : e.id = id) :
    ∃ u, x.perform (.selection name facet) s = (.ok (.text (facet.of o)), u) ∧
      u.store.current.entries.find? (Key.selection name facet) = some (facet.of o) := by
  have hspared := Resolver.sparesPage_of_locator hspare hl
  have hidle' : t.world.browser.failures = [] :=
    List.eq_nil_of_subset_nil (hidle ▸ hspared.queue)
  rw [← hspared.elements] at hids he hselects
  subst hid
  have hread : ∃ w, PageReader.selected x.resolver.interactor l facet t.world =
      (.ok (some (facet.of o)), w) := by
    refine x.resolver.interactor.withElement_of_leadsTo none hids hidle' he (fun v hv => ?_)
      fun _ => World.within_sparing_readElement _ rfl _ _
    have hfree (fault : BrowserFault) : (.selectedOption, fault) ∉ v.browser.failures :=
      fun hmem => List.not_mem_nil (hidle' ▸ hv.queue hmem)
    obtain ⟨b, hgives⟩ := Browser.selectedOption_of_selects (hv.elements ▸ hselects) hfree facet
    exact ⟨_, World.browse_of_run hgives⟩
  obtain ⟨w, hread⟩ := hread
  refine ⟨{ t with world := w, store := t.store.set (Key.selection name facet) (facet.of o) },
    ?_, ?_⟩
  · show saying (x.resolver.selection name facet) s = _
    rw [saying_run, Resolver.selection_run hlive hl hread]
    rfl
  · rw [ScopeStack.current_set]
    exact Entries.find?_put_self _ _ _

/-- **What is selected reads back.**  Selecting an option that fails changes no element.  If it
succeeds, the option is the first with the text or the value that was asked for, or the one at the
index, and nothing else is changed.  From then on, whatever is requested of the browser and however
its page changes, unless another option is selected in the same element or the element is removed,
the text and the value that are read are those of this option, where no failure is queued for that.
In a live session in which no failure is queued, a name whose locator leads to the element has this
text or value for its selection too, and it is bound in the innermost scope. -/
theorem selection_reads_back (b : Browser) (id : ElementId) (choice : Choice) :
    (∀ fault b', Browser.selectOption id choice b = (.error fault, b') →
      b'.elements = b.elements) ∧
      ∀ b', Browser.selectOption id choice b = (.ok (), b') →
        ∃ e n o, b.element? id = some e ∧ choice.Picks e.options n o ∧
          b'.elements = Browser.changeElement id (fun e => { e with selectedOption := some n })
            b.elements ∧
          ∀ events, Undisturbed id b' events →
            (∀ facet, (∀ fault, (.selectedOption, fault) ∉ (b'.afterEvents events).failures) →
              ∃ b'', Browser.selectedOption id facet (b'.afterEvents events) =
                (.ok (some (facet.of o)), b'')) ∧
            (b.Reached → ∀ (x : Session) (s : State), x.resolver.dryRun = false →
              x.resolver.evaluators.SparePage → s.world.browser = b'.afterEvents events →
              s.world.browser.failures = [] → ∀ name facet l t e',
                x.resolver.locator name s = (.ok l, t) →
                LeadsTo s.world.browser.elements l e' → e'.id = id →
                ∃ u, x.perform (.selection name facet) s = (.ok (.text (facet.of o)), u) ∧
                  u.store.current.entries.find? (Key.selection name facet) =
                    some (facet.of o)) := by
  refine ⟨fun fault b' h =>
    Browser.elements_of_onElement_error (PageElement.careful_select choice) h, fun b' h => ?_⟩
  obtain ⟨e, n, o, hfind, hpicks, hselects, helements⟩ := Browser.of_selectOption_ok h
  refine ⟨e, n, o, hfind, hpicks, helements, fun events hquiet => ?_⟩
  have hstill := Browser.selects_events hselects hquiet
  refine ⟨fun facet hfree => Browser.selectedOption_of_selects hstill hfree facet, ?_⟩
  intro hpage x s hlive hspare hbrowser hidle name facet l t e' hl he hid
  have hreached : b'.Reached := by
    have hafter := Browser.Reached.operation (.selectOption id choice) hpage
    rwa [h] at hafter
  have hids := (hreached.events events).numbered.nodup
  rw [← hbrowser] at hstill hids
  exact perform_selection hlive hspare hids hidle hstill facet hl he hid

/-- A list of colours, of which two have the same text. -/
def palette : Browser :=
  let changes : List PageChange := [.addElement .id "colour" "select" none,
    .addOption "el-1" "red" "r", .addOption "el-1" "blue" "b", .addOption "el-1" "red" "rouge"]
  changes.foldl Browser.apply .opened

/-- A colour comes in, and one that is not there is asked for. -/
def paletteEvents : List Browser.Event :=
  [.change (.addOption "el-1" "red" "crimson"),
    .request (.selectOption "el-1" (.text "green"))]

/-- A session on the list of colours after red was selected. -/
def paletteState : State :=
  begin ⟨[⟨.page, pageName, [("colour/locator", "id"), ("colour/locator/id", "colour")]⟩], []⟩
    { World.fresh .bare [] with
      browser := (Browser.selectOption "el-1" (.text "red") palette).2.afterEvents paletteEvents }

/-- Red is read back, in the browser and in the session. -/
theorem red_reads_back :
    palette.Reached ∧ Browser.selectOption "el-1" (.text "red") palette =
        (.ok (), (Browser.selectOption "el-1" (.text "red") palette).2) ∧
      Undisturbed "el-1" (Browser.selectOption "el-1" (.text "red") palette).2 paletteEvents ∧
      ∃ (o : Choice.Item) (u : State), o.1 = "red" ∧
        standard.perform (.selection "colour" .value) paletteState = (.ok (.text o.2), u) ∧
        u.store.current.entries.find? "colour/selectedValue" = some o.2 := by
  have hselect : Browser.selectOption "el-1" (.text "red") palette =
      (.ok (), (Browser.selectOption "el-1" (.text "red") palette).2) :=
    Prod.ext (by decide +kernel) rfl
  have hquiet : Undisturbed "el-1" (Browser.selectOption "el-1" (.text "red") palette).2
      paletteEvents := by
    refine ⟨fun h => h.elim, fun h => ?_, trivial⟩
    exact absurd h.2 (by decide +kernel)
  have hpage : palette.Reached := Browser.Reached.opened.changes _
  refine ⟨hpage, hselect, hquiet, ?_⟩
  obtain ⟨e, n, o, -, hpicks, -, hreads⟩ :=
    (selection_reads_back palette "el-1" (.text "red")).2 _ hselect
  have hspelled : Resolver.Spelled paletteState.store ("colour", .id, "colour") "id" :=
    ⟨by decide +kernel, by decide +kernel, by decide +kernel, by decide +kernel⟩
  have hlocator : standard.resolver.locator "colour" paletteState =
      (.ok (.plain "colour" .id "colour"), paletteState) :=
    hspelled.locatorAt_alone (by decide +kernel) _
  have hlocate : (Interaction.locate (.plain "colour" .id "colour") paletteState.world).1 =
      .ok "el-1" := by decide +kernel
  have hids : (paletteState.world.browser.elements.map (·.id)).Nodup := by decide +kernel
  obtain ⟨e', he', hid⟩ := Interaction.leadsTo_of_locate hids (Prod.ext hlocate rfl)
  obtain ⟨u, hrun, hbound⟩ := (hreads _ hquiet).2 hpage standard paletteState rfl
    Evaluators.sparePage_standard rfl (by decide +kernel) "colour" .value _ _ e' hlocator he' hid
  exact ⟨o, u, hpicks.chosen.1, hrun, hbound⟩

end Session

end Bindery
