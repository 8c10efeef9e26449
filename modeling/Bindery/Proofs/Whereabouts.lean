import Bindery.Proofs.SparedPage

/-!
# Bindery — Proofs — Whereabouts

Where a locator leads on a page.  It leads to the first element that suits it, inside the element
that the locator of its container leads to (`LeadsTo`).  On a page whose elements differ in their
ids, locating gives the id of this element or fails, whichever failures are queued
(`leadsTo_of_locate`), and where none is queued it gives the id (`locate_of_leadsTo`).

Elements that are changed in other ways than by where they stand are still led to (`LeadsTo.map`).
-/

namespace Bindery

open PageElement (FirstOf)

variable {elements : List PageElement} {l : Locator} {e : PageElement}

/-- The element that a locator leads to: the first that suits it, at the top of the page or inside
the element that the container leads to. -/
inductive LeadsTo (elements : List PageElement) : Locator → PageElement → Prop where
  | top {element : String} {strategy : Strategy} {expression : String} {e : PageElement}
      (h : FirstOf elements (element, strategy, expression) none e) :
      LeadsTo elements (.mk element strategy expression none) e
  | inside {element : String} {strategy : Strategy} {expression : String} {container : Locator}
      {around e : PageElement} (hc : LeadsTo elements container around)
      (h : FirstOf elements (element, strategy, expression) around.inside e) :
      LeadsTo elements (.mk element strategy expression (some container)) e

theorem LeadsTo.mem (h : LeadsTo elements l e) : e ∈ elements ∧ e.removed = false := by
  cases h with
  | top h | inside _ h => exact h.mem

theorem PageElement.FirstOf.unique {link : Locator.Link} {around : Option ElementId}
    {e e' : PageElement} (h : FirstOf elements link around e)
    (h' : FirstOf elements link around e') : e = e' := by
  have found {d : PageElement} (hd : FirstOf elements link around d) :
      (elements.find? fun d => d.isFoundBy link.2.1 link.2.2 around) = some d :=
    Browser.find?_isFoundBy_eq_some_iff (b := { Browser.opened with elements }).2 hd
  exact Option.some.inj ((found h).symm.trans (found h'))

theorem LeadsTo.unique {e' : PageElement} (h : LeadsTo elements l e) (h' : LeadsTo elements l e') :
    e = e' := by
  induction h generalizing e' with
  | top h =>
      cases h' with
      | top h' => exact h.unique h'
  | inside _ h ih =>
      cases h' with
      | inside hc h' =>
          rw [← ih hc] at h'
          exact h.unique h'

/-! ### Elements that keep their place -/

/-- An element after a change that leaves where it stands, and whether it is there. -/
structure PageElement.SamePlace (e e' : PageElement) : Prop where
  id : e'.id = e.id
  strategy : e'.strategy = e.strategy
  expression : e'.expression = e.expression
  parent : e'.parent = e.parent
  tag : e'.tag = e.tag
  removed : e'.removed = e.removed

namespace PageElement.SamePlace

variable {e e' : PageElement}

theorem suits_iff (h : e.SamePlace e') {link : Locator.Link} {around : Option ElementId} :
    e'.Suits link around ↔ e.Suits link around := by
  constructor
  · rintro ⟨h₁, h₂, h₃, h₄⟩
    exact ⟨h.removed ▸ h₁, h.strategy ▸ h₂, h.expression ▸ h₃, h.parent ▸ h₄⟩
  · rintro ⟨h₁, h₂, h₃, h₄⟩
    exact ⟨h.removed.trans h₁, h.strategy.trans h₂, h.expression.trans h₃, h.parent.trans h₄⟩

theorem inside (h : e.SamePlace e') : e'.inside = e.inside := by
  unfold PageElement.inside PageElement.isFrame
  rw [h.tag, h.id]

end PageElement.SamePlace

theorem PageElement.FirstOf.map {link : Locator.Link} {around : Option ElementId}
    {g : PageElement → PageElement} (hg : ∀ e, PageElement.SamePlace e (g e))
    (h : FirstOf elements link around e) : FirstOf (elements.map g) link around (g e) := by
  obtain ⟨before, after, rfl, hsuits, hfirst⟩ := h
  refine ⟨before.map g, after.map g, by simp, (hg e).suits_iff.2 hsuits, ?_⟩
  -- what stands before it did not suit, and does not come to suit by the change
  intro other hother
  obtain ⟨d, hd, rfl⟩ := List.mem_map.1 hother
  exact fun h => hfirst d hd ((hg d).suits_iff.1 h)

/-- A locator leads to the same element after changes that leave all elements in their places. -/
theorem LeadsTo.map {g : PageElement → PageElement} (hg : ∀ e, PageElement.SamePlace e (g e))
    (h : LeadsTo elements l e) : LeadsTo (elements.map g) l (g e) := by
  induction h with
  | top h => exact .top (h.map hg)
  | @inside _ _ _ _ around _ _ h ih =>
      refine .inside ih ?_
      rw [(hg around).inside]
      exact h.map hg

namespace Browser

/-- Where no two elements have the same id, changing the first with an id is changing each. -/
theorem changeElement_eq_map {id : ElementId} {f : PageElement → PageElement}
    (hids : (elements.map (·.id)).Nodup) :
    changeElement id f elements = elements.map fun e => if e.id = id then f e else e := by
  induction elements with
  | nil => rfl
  | cons d rest ih =>
      rw [List.map_cons, List.nodup_cons] at hids
      rw [changeElement, List.map_cons]
      split
      next hd =>
        -- the others have other ids, so they stay as they are
        have hrest : (rest.map fun e => if e.id = id then f e else e) = rest.map fun e => e :=
          List.map_congr_left fun e he => if_neg fun hid : e.id = id =>
            hids.1 (hd.trans hid.symm ▸ List.mem_map_of_mem he)
        rw [hrest, List.map_id']
      next => rw [ih hids.2]

/-- A locator leads to the element with the same id after one was changed that stays in its
place. -/
theorem leadsTo_changeElement {id : ElementId} {f : PageElement → PageElement}
    (hids : (elements.map (·.id)).Nodup) (hf : ∀ e, PageElement.SamePlace e (f e))
    (h : LeadsTo elements l e) :
    ∃ e', LeadsTo (changeElement id f elements) l e' ∧ e'.id = e.id := by
  have hg (e : PageElement) : e.SamePlace (if e.id = id then f e else e) := by
    split
    · exact hf e
    · exact ⟨rfl, rfl, rfl, rfl, rfl, rfl⟩
  rw [changeElement_eq_map hids]
  exact ⟨_, h.map hg, (hg e).id⟩

theorem nodup_changeElement {id : ElementId} {f : PageElement → PageElement}
    (hids : (elements.map (·.id)).Nodup) (hf : ∀ e, PageElement.SamePlace e (f e)) :
    ((changeElement id f elements).map (·.id)).Nodup := by
  rw [map_id_changeElement fun e _ hid => (hf e).id.trans hid]
  exact hids

end Browser

/-! ### What locating gives -/

theorem World.run_of_browse_ok {α : Type} {a : Browser.Act α} {w w' : World} {x : α}
    (h : browse a w = (.ok x, w')) : a w.browser = (.ok x, w'.browser) := by
  rcases hrun : a w.browser with ⟨f | y, b⟩
  · simp only [browse, hrun] at h
    cases h
  · simp only [browse, hrun] at h
    cases h
    rfl

theorem World.run_of_browse_error {α : Type} {a : Browser.Act α} {w w' : World}
    {f : InteractionFault} (h : browse a w = (.error f, w')) :
    ∃ fault, a w.browser = (.error fault, w'.browser) := by
  rcases hrun : a w.browser with ⟨fault | y, b⟩
  · simp only [browse, hrun] at h
    cases h
    exact ⟨fault, rfl⟩
  · simp only [browse, hrun] at h
    cases h

namespace Interaction

open World (browse)

variable {w w' : World} {id : ElementId}

theorem of_findElement_ok {strategy : Strategy} {expression : String} {within : Option ElementId}
    (element : String)
    (h : browse (Browser.findElement strategy expression within) w = (.ok id, w')) :
    ∃ e, FirstOf w.browser.elements (element, strategy, expression) within e ∧ e.id = id := by
  have hrun := World.run_of_browse_ok h
  have hentered := Browser.elements_enter .findElement w.browser
  obtain ⟨⟨⟩, b₁, he, hrun⟩ := Act.of_bind_ok hrun
  rw [he] at hentered
  rw [Act.bind_run_ok (Act.get_run b₁), hentered] at hrun
  cases found : w.browser.elements.find? fun e => e.isFoundBy strategy expression within with
  | none =>
      rw [found] at hrun
      cases hrun
  | some e =>
      rw [found] at hrun
      cases hrun
      exact ⟨e, Browser.find?_isFoundBy_eq_some_iff.1 found, rfl⟩

theorem of_isFrame_ok {framed : Bool} (hids : (w.browser.elements.map (·.id)).Nodup)
    (he : e ∈ w.browser.elements) (h : isFrame e.id w = (.ok framed, w')) : framed = e.isFrame := by
  obtain ⟨tag, w₁, htag, h⟩ := Act.of_bind_ok h
  cases h
  obtain ⟨d, hfind, -, rfl⟩ := Browser.of_readElement_ok (World.run_of_browse_ok htag)
  rw [Browser.element?, (Browser.find?_id_of_nodup hids he).1] at hfind
  cases hfind
  rfl

theorem within_sparing_isFrame (id : ElementId) : (isFrame id).Within World.sparing :=
  .bind (World.within_sparing_readElement _ rfl _ _) fun _ => .pure _

/-- Whatever fails on the way, an element that is located is the one that the locator leads to. -/
theorem leadsTo_of_locate : ∀ {l : Locator} {w w' : World} {id : ElementId},
    (w.browser.elements.map (·.id)).Nodup → locate l w = (.ok id, w') →
      ∃ e, LeadsTo w.browser.elements l e ∧ e.id = id
  | .mk element strategy expression none, _, _, _, _, h => by
      obtain ⟨e, hfirst, hid⟩ := of_findElement_ok element h
      exact ⟨e, .top hfirst, hid⟩
  | .mk element strategy expression (some container), w, w', id, hids, h => by
      rw [locate] at h
      obtain ⟨aid, w₁, hc, h⟩ := Act.of_bind_ok h
      obtain ⟨around, haround, rfl⟩ := leadsTo_of_locate hids hc
      have h₁ := ((within_sparing_locate container).of_run hc).elements
      obtain ⟨framed, w₂, hframe, h⟩ := Act.of_bind_ok h
      have h₂ := ((within_sparing_isFrame _).of_run hframe).elements.trans h₁
      obtain rfl := of_isFrame_ok (h₁ ▸ hids) (h₁ ▸ haround.mem.1) hframe
      -- a frame is made active, and any other container is looked into
      split at h
      next hframed =>
        obtain ⟨⟨⟩, w₃, hswitch, h⟩ := Act.of_bind_ok h
        have h₃ := ((World.within_sparing_browse (.switchToFrame _) rfl
          (Browser.elements_of_enter fun _ => rfl)).of_run hswitch).elements.trans h₂
        obtain ⟨e, hfirst, hid⟩ := of_findElement_ok element h
        refine ⟨e, .inside haround ?_, hid⟩
        rw [PageElement.inside, if_pos hframed, ← h₃]
        exact hfirst
      next hplain =>
        obtain ⟨e, hfirst, hid⟩ := of_findElement_ok element h
        refine ⟨e, .inside haround ?_, hid⟩
        rw [PageElement.inside, if_neg hplain, ← h₂]
        exact hfirst

/-- Where no failure is queued, an element that a locator leads to is located. -/
theorem locate_of_leadsTo (hids : (w.browser.elements.map (·.id)).Nodup)
    (hidle : w.browser.failures = []) (h : LeadsTo w.browser.elements l e) :
    ∃ w', locate l w = (.ok e.id, w') := by
  induction h with
  | top h =>
      have hfound := World.browse_findElement_found hidle h
      exact ⟨_, hfound⟩
  | @inside element strategy expression container around e hc h ih =>
      obtain ⟨w₁, hlocate⟩ := ih
      -- locating the container left the page as it was, and no failure is queued still
      have hspared := (within_sparing_locate container).of_run hlocate
      have hidle₁ : w₁.browser.failures = [] :=
        List.eq_nil_of_subset_nil (hidle ▸ hspared.queue)
      rw [← hspared.elements] at hids hc h
      have hframe := isFrame_run hidle₁ hids hc.mem.1 hc.mem.2
      rw [locate, Act.bind_run_ok hlocate, Act.bind_run_ok hframe]
      unfold PageElement.inside at h
      split at h
      next hframed =>
        have hswitch := World.browse_switchToFrame (w := w₁.called .tagName none) hidle₁ around.id
        have hfound := World.browse_findElement_found
          (w := ((w₁.called .tagName none).called .switchToFrame none).framed around.id) hidle₁ h
        rw [if_pos hframed, Act.bind_run_ok hswitch]
        exact ⟨_, hfound⟩
      next hplain =>
        have hfound := World.browse_findElement_found (w := w₁.called .tagName none) hidle₁ h
        rw [if_neg hplain]
        exact ⟨_, hfound⟩

end Interaction

/-! ### Interactions where no failure is queued -/

namespace World

variable {w : World}

theorem browse_currentWindow (hidle : w.browser.failures = []) :
    ∃ w', browse Browser.currentWindow w = (.ok w.browser.window, w') := by
  refine ⟨_, browse_of_run (b := (w.called .currentWindow none).browser) ?_⟩
  unfold Browser.currentWindow
  rw [Act.bind_run_ok (enter_run_idle hidle _)]
  rfl

theorem browse_switchToWindow (hidle : w.browser.failures = []) (window : String) :
    ∃ w', browse (Browser.switchToWindow window) w = (.ok (), w') := by
  refine ⟨_, browse_of_run (b := { (w.called .switchToWindow none).browser with
    window, frame := none }) ?_⟩
  unfold Browser.switchToWindow
  rw [Act.bind_run_ok (enter_run_idle hidle _)]
  rfl

end World

namespace Interactor

open World (browse SparesPage)
open Interaction

variable {α : Type} {w : World} {deed : ElementId → World.Act InteractionFault α} {a : α}

/-- What can be done to the element that a locator leads to is done at the first attempt, if no
failure is queued. -/
theorem withElement_of_leadsTo (i : Interactor) (action : Option String)
    (hids : (w.browser.elements.map (·.id)).Nodup) (hidle : w.browser.failures = [])
    (he : LeadsTo w.browser.elements l e)
    (hdeed : ∀ v, SparesPage w v → ∃ v', deed e.id v = (.ok a, v'))
    (hspares : ∀ id, (deed id).Within World.sparing) :
    ∃ w', i.withElement action l deed w = (.ok a, w') := by
  have idle {v v' : World} (hv : v.browser.failures = []) (h : SparesPage v v') :
      v'.browser.failures = [] := List.eq_nil_of_subset_nil (hv ▸ h.queue)
  have once_ok {v : World} (hv : SparesPage w v) :
      ∃ v', once l deed v = (.ok a, v') ∧ SparesPage v v' := by
    obtain ⟨v₁, hlocate⟩ := locate_of_leadsTo (hv.elements ▸ hids) (idle hidle hv)
      (hv.elements ▸ he)
    have hlocated := (within_sparing_locate l).of_run hlocate
    obtain ⟨v₂, hdone⟩ := hdeed v₁ (hv.trans hlocated)
    exact ⟨v₂, (Act.bind_run_ok hlocate).trans hdone,
      hlocated.trans ((hspares e.id).of_run hdone)⟩
  cases hc : l.container with
  | none =>
      obtain ⟨w₁, hdone, -⟩ := once_ok (.refl w)
      exact ⟨_, withElement_of_course (.plain hc (.first hdone trivial))⟩
  | some c =>
      -- before and after the deed there are the calls about the window, which succeed too
      obtain ⟨w₁, hk⟩ := World.browse_currentWindow hidle
      have h₁ := World.within_sparing_currentWindow.of_run hk
      obtain ⟨w₂, hdone, h₂⟩ := once_ok h₁
      obtain ⟨w₃, hback⟩ := World.browse_switchToWindow (idle hidle (h₁.trans h₂)) w.browser.window
      exact ⟨_, withElement_of_course (.kept hc hk (.first hdone trivial) hback)⟩

end Interactor

end Bindery
