import Bindery.Proofs.Chains
import Bindery.Proofs.Strokes

/-!
# Bindery — Proofs — Ticking

An element that can be ticked is ticked by one click that succeeds, and by none if it is ticked
already; the same goes for taking the tick back.  An attempt that fails has clicked without success
at most, so the next one finds the element as it was, and whether to click is asked anew in each
attempt (`ticked_by_one_click`).

Ticking an element once more makes no click where the same element is found.  It need not be: what
an operation binds may be what the locator of the element is made of
(`second_tick_goes_elsewhere`).
-/

namespace Bindery

open World (browse SparesPage)

/-- A page in which the element with an id is selected or not. -/
def Browser.withSelected (id : ElementId) (selected : Bool) (page : List PageElement) :
    List PageElement :=
  changeElement id (fun e => { e with selected }) page

theorem Browser.nodup_withSelected {id : ElementId} {selected : Bool} {page : List PageElement}
    (hids : (page.map (·.id)).Nodup) : ((withSelected id selected page).map (·.id)).Nodup :=
  nodup_changeElement hids fun _ => ⟨rfl, rfl, rfl, rfl, rfl, rfl⟩

theorem Browser.find?_withSelected {id : ElementId} {selected : Bool} {page : List PageElement}
    {e : PageElement} (h : (page.find? fun d => d.id = id) = some e) :
    ((withSelected id selected page).find? fun d => d.id = id) = some { e with selected } :=
  find?_changeElement h rfl

theorem Browser.withSelected_of_eq {id : ElementId} {page : List PageElement} {e : PageElement}
    (hfind : (page.find? fun d => d.id = id) = some e) :
    withSelected id e.selected page = page := by
  have hconst := changeElement_const (fun d => { d with selected := e.selected }) hfind
  rw [withSelected, ← hconst]
  exact (changeElement_const (fun d => d) hfind).trans (changeElement_id id page)

open Browser (withSelected)

/-- The operation that selects an element or takes the selection back. -/
def Operation.tick (element : String) (checked : Bool) : Operation :=
  if checked then .check element else .uncheck element

theorem Operation.deed?_tick (element : String) (checked : Bool) :
    (tick element checked).deed? = some ⟨element, if checked then "check" else "uncheck", "true",
      Interaction.setChecked checked⟩ := by
  cases checked <;> rfl

/-! ### Clicks -/

namespace Interaction

open World (Since)

variable {w₀ : World} {page : List PageElement} {e : PageElement} {checked : Bool}

/-- Clicks that failed, and what they failed with. -/
def failedClicks (faults : List BrowserFault) : List Stroke :=
  faults.map fun fault => (.click, some fault)

/-- The strokes that bring an element where it is to be: none if it is there, and otherwise a click
that succeeds, after clicks that fail. -/
def ClicksOnce (e : PageElement) (checked : Bool) (made : List Stroke) : Prop :=
  (e.selected = checked → made = []) ∧
    (e.selected ≠ checked → ∃ faults, made = (.click, none) :: failedClicks faults)

/-- What attempts leave that failed: the page as it was, without a click where none is needed. -/
def Unticked (page : List PageElement) (e : PageElement) (checked : Bool) : Account :=
  fun p made =>
    p = page ∧ ∃ faults, made = failedClicks faults ∧ (e.selected = checked → faults = [])

/-- What is left when the element is as it is to be. -/
def Ticked (page : List PageElement) (e : PageElement) (checked : Bool) : Account :=
  fun p made => p = withSelected e.id checked page ∧ ClicksOnce e checked made

/-- Where the element is already as it is to be, nothing is left to do. -/
theorem ticked_of_unticked (hfind : (page.find? fun d => d.id = e.id) = some e)
    (hdone : e.selected = checked) {p : List PageElement} {made : List Stroke}
    (h : Unticked page e checked p made) : Ticked page e checked p made := by
  obtain ⟨rfl, faults, rfl, hnone⟩ := h
  subst hdone
  rw [hnone rfl]
  exact ⟨(Browser.withSelected_of_eq hfind).symm, fun _ => rfl, fun hne => absurd rfl hne⟩

/-- A click brings an element that can be ticked where it is to be, if it is not there. -/
theorem since_click (hfind : (page.find? fun d => d.id = e.id) = some e)
    (hcheckable : e.isCheckable = true) (hneeded : e.selected ≠ checked) :
    (browse (Browser.click e.id)).Triple (Since w₀ (Unticked page e checked))
      (fun _ => Since w₀ (Ticked page e checked)) (Since w₀ (Unticked page e checked)) := by
  refine World.Since.triple_onElement PageElement.careful_click rfl (fun hbefore hd _ hf => ?_)
    fun fault hbefore => ?_
  · obtain ⟨rfl, faults, rfl, -⟩ := hbefore
    rw [hfind] at hd
    cases hd
    -- a click turns the selection over, and it was not as it is to be
    have hturned : (!e.selected) = checked := by
      cases hs : e.selected <;> cases checked <;> simp_all
    rw [PageElement.of_click_ok hf, if_pos hcheckable, hturned]
    exact ⟨Browser.changeElement_const (fun d => { d with selected := checked }) hfind,
      fun heq => absurd heq hneeded, fun _ => ⟨faults, rfl⟩⟩
  · obtain ⟨rfl, faults, rfl, -⟩ := hbefore
    exact ⟨rfl, fault :: faults, rfl, fun heq => absurd heq hneeded⟩

theorem since_setChecked (hfind : (page.find? fun d => d.id = e.id) = some e)
    (hcheckable : e.isCheckable = true) :
    (setChecked checked e.id).Triple (Since w₀ (Unticked page e checked))
      (fun _ => Since w₀ (Ticked page e checked)) (Since w₀ (Unticked page e checked)) := by
  have hasked : (browse (Browser.isSelected e.id)).Triple (Since w₀ (Unticked page e checked))
      (fun b => Since w₀ fun p made => b = e.selected ∧ Unticked page e checked p made)
      (Since w₀ (Unticked page e checked)) := by
    refine World.Since.triple_readElement rfl fun hbefore hd => ?_
    obtain ⟨rfl, -⟩ := id hbefore
    rw [hfind] at hd
    cases hd
    exact ⟨rfl, hbefore⟩
  have hforget {b : Bool} (w : World)
      (hw : (Since w₀ fun p made => b = e.selected ∧ Unticked page e checked p made) w) :
      b = e.selected ∧ Since w₀ (Unticked page e checked) w := by
    obtain ⟨made, -, hb, -⟩ := hw.page
    exact ⟨hb, hw.mono And.right⟩
  unfold setChecked
  refine .bind hasked fun b => ?_
  by_cases hdone : b = checked
  · -- the element is as it is to be, so it is not clicked
    rw [if_neg (not_not_intro hdone)]
    refine .pure fun w hw => ?_
    obtain ⟨hb, hbefore⟩ := hforget w hw
    exact hbefore.mono (ticked_of_unticked hfind (hb ▸ hdone))
  · rw [if_pos hdone]
    refine ⟨fun hw hrun => ?_, fun hw hrun => ?_⟩
    · obtain ⟨rfl, hbefore⟩ := hforget _ hw
      exact (since_click hfind hcheckable hdone).ok hbefore hrun
    · obtain ⟨rfl, hbefore⟩ := hforget _ hw
      exact (since_click hfind hcheckable hdone).error hbefore hrun

end Interaction

namespace Session

open Interaction

section

variable {x : Session} {element : String} {s t : State} {l : Locator} {e : PageElement}

/-- Ticking, where the locator leads to no other element. -/
theorem since_tick (checked : Bool) (hlive : x.settings.dryRun = false)
    (hl : x.resolver.locator element s = (.ok l, t))
    (hids : (t.world.browser.elements.map (·.id)).Nodup)
    (hfind : (t.world.browser.elements.find? fun d => d.id = e.id) = some e)
    (hlead : ∀ d, LeadsTo t.world.browser.elements l d → d.id = e.id)
    (hcheckable : e.isCheckable = true) :
    (EndsBound (x.perform (.tick element checked) s).1 ∧
        ∃ changes w, t.world.Since (Ticked t.world.browser.elements e checked) w ∧
          World.Passes changes w (x.perform (.tick element checked) s).2.world) ∨
      ∃ f, (x.perform (.tick element checked) s).1 = .error (.interaction f) ∧
        (LostReturn l (setChecked checked) t.world f ∧
            t.world.Since (Ticked t.world.browser.elements e checked)
              (x.perform (.tick element checked) s).2.world ∨
          ¬ LostReturn l (setChecked checked) t.world f ∧
            t.world.Since (Unticked t.world.browser.elements e checked)
              (x.perform (.tick element checked) s).2.world) := by
  refine since_of_deed hlive (Operation.deed?_tick element checked) hl
    ⟨rfl, [], rfl, fun _ => rfl⟩
    (since_once (fun hbefore => ?_) (since_setChecked hfind hcheckable))
  obtain ⟨rfl, -⟩ := hbefore
  exact ⟨hids, hlead⟩

/-- Nothing is clicked where the element is as it is to be. -/
theorem strokes_tick_of_done (hlive : x.settings.dryRun = false)
    (hl : x.resolver.locator element s = (.ok l, t))
    (hids : (t.world.browser.elements.map (·.id)).Nodup)
    (hfind : (t.world.browser.elements.find? fun d => d.id = e.id) = some e)
    (hlead : ∀ d, LeadsTo t.world.browser.elements l d → d.id = e.id)
    (hcheckable : e.isCheckable = true) :
    (x.perform (.tick element e.selected) s).2.world.strokes = t.world.strokes := by
  have ticked {w : World} (hw : t.world.Since (Ticked t.world.browser.elements e e.selected) w) :
      w.strokes = t.world.strokes := by
    obtain ⟨made, hstrokes, -, hnone, -⟩ := hw.page
    rw [hstrokes, hnone rfl, List.nil_append]
  rcases since_tick e.selected hlive hl hids hfind hlead hcheckable with
    ⟨-, changes, w, hdone, hpasses⟩ | ⟨f, -, hlost | hfailed⟩
  · exact hpasses.strokes.trans (ticked hdone)
  · exact ticked hlost.2
  · obtain ⟨made, hstrokes, -, faults, rfl, hnone⟩ := hfailed.2.page
    rw [hstrokes, hnone rfl]
    rfl

end

/-- **Ticking takes one click at most.**  In a live session an element that can be ticked is found,
in whatever state the page is and whichever failures are queued.  If ticking it, or taking its tick
back, is done, well or with a failure in the time after it or on the way back to the window, it was
clicked once with success if it was not as it was to be, after some clicks that failed, and not at
all if it was, and no other element was changed.  If the interaction fails otherwise, the page is as
it was, and clicks were made only if one was needed.  Doing the same again makes no click, if
nothing changed the page meanwhile and the name does not lead to another element now. -/
theorem ticked_by_one_click (x : Session) (hlive : x.settings.dryRun = false) {element : String}
    {checked : Bool} {s t u : State} {l : Locator} {e : PageElement}
    {r : Except StepFault Answer} (hl : x.resolver.locator element s = (.ok l, t))
    (hpage : t.world.browser.Reached) (he : LeadsTo t.world.browser.elements l e)
    (hcheckable : e.isCheckable = true) (hrun : x.perform (.tick element checked) s = (r, u)) :
    (x.resolver.evaluators.SparePage → SparesPage s.world t.world) ∧
      (∃ made, u.world.strokes = made ++ t.world.strokes ∧
        ((EndsBound r ∧ ClicksOnce e checked made ∧
            ∃ changes, t.world.coming = changes ++ u.world.coming ∧
              u.world.browser.elements = Browser.elementsAfter (changes.map Prod.snd)
                (withSelected e.id checked t.world.browser.elements)) ∨
          ∃ f, r = .error (.interaction f) ∧
            (LostReturn l (setChecked checked) t.world f ∧ ClicksOnce e checked made ∧
                u.world.browser.elements =
                  withSelected e.id checked t.world.browser.elements ∨
              ¬ LostReturn l (setChecked checked) t.world f ∧
                (∃ faults, made = failedClicks faults ∧ (e.selected = checked → faults = [])) ∧
                u.world.browser.elements = t.world.browser.elements))) ∧
      (EndsBound r → u.world.coming = t.world.coming → x.resolver.evaluators.SparePage →
        (∀ l' v e', x.resolver.locator element u = (.ok l', v) →
          LeadsTo u.world.browser.elements l' e' → e'.id = e.id) →
        (x.perform (.tick element checked) u).2.world.strokes = u.world.strokes) := by
  have hids := hpage.numbered.nodup
  have hfind := (Browser.find?_id_of_nodup hids he.mem.1).1
  have hlead (d : PageElement) (hd : LeadsTo t.world.browser.elements l d) : d.id = e.id :=
    congrArg _ (hd.unique he)
  have hends := since_tick checked hlive hl hids hfind hlead hcheckable
  rw [hrun] at hends
  refine ⟨fun hspare => Resolver.sparesPage_of_locator hspare hl, ?_, ?_⟩
  · rcases hends with ⟨hbound, changes, w, hdone, hpasses⟩ | ⟨f, hf, hlost | hfailed⟩
    · obtain ⟨made, hstrokes, helements, hclicks⟩ := hdone.page
      refine ⟨made, hpasses.strokes.trans hstrokes, .inl ⟨hbound, hclicks, changes, ?_, ?_⟩⟩
      · rw [← hdone.coming, hpasses.coming]
      · rw [hpasses.elements, helements]
    · obtain ⟨made, hstrokes, helements, hclicks⟩ := hlost.2.page
      exact ⟨made, hstrokes, .inr ⟨f, hf, .inl ⟨hlost.1, hclicks, helements⟩⟩⟩
    · obtain ⟨made, hstrokes, helements, hclicks⟩ := hfailed.2.page
      exact ⟨made, hstrokes, .inr ⟨f, hf, .inr ⟨hfailed.1, hclicks, helements⟩⟩⟩
  · intro hbound hcoming hspare hsame
    have hticked : u.world.browser.elements =
        withSelected e.id checked t.world.browser.elements := by
      rcases hends with ⟨-, changes, w, hdone, hpasses⟩ | ⟨f, rfl, -⟩
      · -- nothing came, so the page is as it was left
        have hnone := hpasses.coming
        rw [hdone.coming, hcoming] at hnone
        obtain rfl : changes = [] := List.self_eq_append_left.1 hnone
        obtain ⟨made, -, helements, -⟩ := hdone.page
        rw [hpasses.elements, helements]
        rfl
      · exact hbound.elim
    rcases hl' : x.resolver.locator element u with ⟨fault | l', v⟩
    · have hspares := Resolver.sparesPage_of_locator hspare hl'
      rw [Operation.perform_of_deed? x (Operation.deed?_tick element checked), quietly_run,
        act_of_locator_error hl']
      exact hspares.strokes
    · -- looking up the locator leaves the page, so the element is as the first time left it
      have hspares := Resolver.sparesPage_of_locator hspare hl'
      have hnow : v.world.browser.elements = withSelected e.id checked t.world.browser.elements :=
        hspares.elements.trans hticked
      refine (strokes_tick_of_done (e := { e with selected := checked }) hlive hl' ?_ ?_ ?_
        hcheckable).trans hspares.strokes
      · rw [hnow]
        exact Browser.nodup_withSelected hids
      · rw [hnow]
        exact Browser.find?_withSelected hfind
      · intro d hd
        rw [hnow, ← hticked] at hd
        exact hsame l' v d hl' hd

/-- A box that is ticked is an input of this type. -/
def tickBox (id : ElementId) (expression : String) : PageElement :=
  ⟨id, .id, expression, none, "input", "", [("type", "checkbox")], true, true, false, [], none,
    false⟩

/-- Terms that are to be accepted, where the first click is lost. -/
def termsState : State :=
  let changes : List PageChange := [.addElement .id "terms" "input" none,
    .setAttribute "el-1" "type" "checkbox", .failNext .click (.stale "el-1")]
  begin ⟨[⟨.page, pageName, [("terms/locator", "id"), ("terms/locator/id", "terms")]⟩], []⟩
    { World.fresh .bare [] with browser := changes.foldl Browser.apply .opened }

theorem locator_terms : standard.resolver.locator "terms" termsState =
    (.ok (.plain "terms" .id "terms"), termsState) := by
  have hterms : Resolver.Spelled termsState.store ("terms", .id, "terms") "id" :=
    ⟨by decide +kernel, by decide +kernel, by decide +kernel, by decide +kernel⟩
  exact hterms.locatorAt_alone (by decide +kernel) _

/-- The terms are accepted by the second click, and not clicked again. -/
theorem terms_clicked_once :
    standard.settings.dryRun = false ∧ termsState.world.browser.Reached ∧
      standard.resolver.locator "terms" termsState =
        (.ok (.plain "terms" .id "terms"), termsState) ∧
      LeadsTo termsState.world.browser.elements (.plain "terms" .id "terms")
        (tickBox "el-1" "terms") ∧
      (tickBox "el-1" "terms").isCheckable = true ∧
      ∃ faults, (standard.perform (.tick "terms" true) termsState).2.world.strokes =
          (.click, none) :: failedClicks faults ++ termsState.world.strokes := by
  have hpage : termsState.world.browser.Reached := Browser.Reached.opened.changes _
  have hleads : LeadsTo termsState.world.browser.elements (.plain "terms" .id "terms")
      (tickBox "el-1" "terms") :=
    .top (Browser.find?_isFoundBy_eq_some_iff.1 (by decide +kernel))
  refine ⟨rfl, hpage, locator_terms, hleads, by decide +kernel, ?_⟩
  have hbound : EndsBound (standard.perform (.tick "terms" true) termsState).1 := by
    decide +kernel
  rcases hrun : standard.perform (.tick "terms" true) termsState with ⟨r, u⟩
  rw [hrun] at hbound
  obtain ⟨-, ⟨made, hstrokes, ⟨-, hclicks, -⟩ | ⟨f, rfl, -⟩⟩, -⟩ :=
    ticked_by_one_click standard rfl locator_terms hpage hleads (by decide +kernel) hrun
  · obtain ⟨faults, rfl⟩ := hclicks.2 (by decide)
    exact ⟨faults, hstrokes⟩
  · exact hbound.elim

/-- A box whose expression is what was bound when it was ticked last. -/
def boxState : State :=
  let changes : List PageChange := [.addElement .id "terms" "input" none,
    .setAttribute "el-1" "type" "checkbox", .addElement .id "true" "input" none,
    .setAttribute "el-2" "type" "checkbox"]
  begin ⟨[⟨.page, pageName, [("box/locator", "id"), ("box/locator/id", "$[box/check]"),
    ("box/check", "terms")]⟩], []⟩
    { World.fresh .bare [] with browser := changes.foldl Browser.apply .opened }

theorem locator_box : standard.resolver.locator "box" boxState =
    (.ok (.plain "box" .id "terms"), boxState) := by
  have hscan : boxState.store.scan "box/check" = .ok (some (.literal "terms")) := rfl
  have hparse : Template.parse "$[box/check]" = [.reference "box/check"] := by decide +kernel
  have hname : Text.trim "box/check" = "box/check" := by decide +kernel
  have hvalue : standard.resolver.inner 16 "box/check" boxState = (.ok "terms", boxState) := by
    rw [Resolver.inner, Resolver.written, hname, Resolver.reference_of_ne (by decide +kernel)]
    exact Resolver.valueAt_of_literal hscan 14
  have hexpand : Resolver.expand (standard.resolver.inner 16) (Template.parse "$[box/check]")
      boxState = (.ok "terms", boxState) := by
    rw [hparse, Resolver.expand, if_neg (by decide +kernel), Act.bind_run_ok hvalue]
    rfl
  have hword : boxState.store.findWord? (Key.locator "box") = some "id" := by decide +kernel
  have hexpression : boxState.store.findWord? (Key.expression "box" "id") =
      some "$[box/check]" := by decide +kernel
  have hdepth : standard.resolver.maxDepth = 16 := rfl
  rw [Resolver.locator, hdepth, Resolver.locatorAt_succ,
    Resolver.locatorStep_run hword rfl hexpression hexpand]
  exact Resolver.inContainer_alone (by decide +kernel)

/-- Ticking a box again may click: the operation binds what its locator is made of, and the name
leads to another box then. -/
theorem second_tick_goes_elsewhere :
    ¬ ∀ (x : Session) (element : String) (checked : Bool) (s t u : State) (l : Locator)
      (e : PageElement) (r : Except StepFault Answer), x.settings.dryRun = false →
      x.resolver.locator element s = (.ok l, t) → t.world.browser.Reached →
      LeadsTo t.world.browser.elements l e → e.isCheckable = true →
      x.perform (.tick element checked) s = (r, u) → EndsBound r →
      u.world.browser.failures = [] →
      (x.perform (.tick element checked) u).2.world.strokes = u.world.strokes := by
  intro h
  have hleads : LeadsTo boxState.world.browser.elements (.plain "box" .id "terms")
      (tickBox "el-1" "terms") :=
    .top (Browser.find?_isFoundBy_eq_some_iff.1 (by decide +kernel))
  have hagain := h standard "box" true boxState boxState
    (standard.perform (.tick "box" true) boxState).2 _ _ _ rfl locator_box
    (Browser.Reached.opened.changes _) hleads (by decide +kernel) rfl (by decide +kernel)
    (by decide +kernel)
  exact absurd hagain (by decide +kernel)

end Session

end Bindery
