import Bindery.Proofs.Outcome
import Bindery.Proofs.Whereabouts

/-!
# Bindery — Proofs — Strokes

What an interaction leaves of a page.  Its strokes are the calls that may change an element.  An
account says what may have come of a page, and by which strokes; it is kept by what spares the page
(`World.Since`).  If a deed fails with one account and succeeds with another, the retry and the way
back to the window add nothing to this (`Interactor.since_withElement`): an interaction that
succeeds leaves the page as the deed does, and one that fails as a failing deed does, unless only
the way back failed (`Interaction.LostReturn`).

The same goes for an operation on an element (`Session.since_of_deed`); after one that succeeds,
there are only the changes that come by themselves while time passes.
-/

namespace Bindery

open World (browse SparesPage)

/-! ### Preconditions and postconditions -/

/-- From states with `P` an action gives values and states with `Q`, or fails in states with
`E`. -/
structure Act.Triple {σ ε α : Type} (P : σ → Prop) (a : Act σ ε α) (Q : α → σ → Prop)
    (E : σ → Prop) : Prop where
  ok : ∀ {s t : σ} {x : α}, P s → a s = (.ok x, t) → Q x t
  error : ∀ {s t : σ} {e : ε}, P s → a s = (.error e, t) → E t

namespace Act.Triple

variable {σ ε α β : Type} {P E : σ → Prop} {Q : α → σ → Prop} {R : β → σ → Prop}

theorem pure {x : α} (h : ∀ s, P s → Q x s) : Triple P (Pure.pure x : Act σ ε α) Q E where
  ok := by
    intro s t y hs hrun
    cases hrun
    exact h s hs
  error := by
    intro s t e _ hrun
    cases hrun

theorem bind {a : Act σ ε α} {f : α → Act σ ε β} (ha : Triple P a Q E)
    (hf : ∀ x, Triple (Q x) (f x) R E) : Triple P (a >>= f) R E where
  ok := by
    intro s t y hs hrun
    obtain ⟨x, u, hx, hrest⟩ := Act.of_bind_ok hrun
    exact (hf x).ok (ha.ok hs hx) hrest
  error := by
    intro s t e hs hrun
    rcases Act.of_bind_error hrun with hx | ⟨x, u, hx, hrest⟩
    · exact ha.error hs hx
    · exact (hf x).error (ha.ok hs hx) hrest

end Act.Triple

/-! ### Accounts of a page -/

/-- A call that may change an element, with what it failed with. -/
abbrev Stroke : Type := BrowserOp × Option BrowserFault

/-- What may have come of a page: its elements, and the strokes that were made, the latest
first. -/
abbrev Account : Type := List PageElement → List Stroke → Prop

namespace World

variable {α : Type} {w₀ w w' : World} {account before : Account} {after : α → Account}

/-- The calls that may change an element. -/
def strokes (w : World) : List Stroke := w.calls.filter fun c => c.1.changesElement

theorem strokes_of_calls {made : List (BrowserOp × Option BrowserFault)}
    (h : w'.calls = made ++ w.calls) (hmade : ∀ c ∈ made, c.1.changesElement = false) :
    w'.strokes = w.strokes := by
  have hnone : made.filter (fun c => c.1.changesElement) = [] :=
    List.filter_eq_nil_iff.2 fun c hc => by simp [hmade c hc]
  rw [strokes, h, List.filter_append, hnone]
  rfl

theorem strokes_of_stroke {op : BrowserOp} {fault : Option BrowserFault}
    (h : w'.calls = (op, fault) :: w.calls) (hop : op.changesElement = true) :
    w'.strokes = (op, fault) :: w.strokes := by
  simp [strokes, h, hop]

theorem SparesPage.strokes (h : SparesPage w w') : w'.strokes = w.strokes := by
  obtain ⟨made, hcalls, hmade⟩ := h.calls
  exact strokes_of_calls hcalls hmade

theorem Passes.strokes {changes : List (Nat × PageChange)} (h : Passes changes w w') :
    w'.strokes = w.strokes := by
  obtain ⟨made, hcalls, hmade⟩ := h.calls
  exact strokes_of_calls hcalls hmade

/-- An account of what came of a page since some world, in which nothing came by itself. -/
structure Since (w₀ : World) (account : Account) (w : World) : Prop where
  coming : w.coming = w₀.coming
  page : ∃ made, w.strokes = made ++ w₀.strokes ∧ account w.browser.elements made

theorem Since.refl (h : account w.browser.elements []) : Since w account w :=
  ⟨rfl, [], rfl, h⟩

theorem Since.mono {more : Account} (h : Since w₀ account w)
    (hmore : ∀ {page made}, account page made → more page made) : Since w₀ more w := by
  obtain ⟨made, hstrokes, hmade⟩ := h.page
  exact ⟨h.coming, made, hstrokes, hmore hmade⟩

theorem Since.spared (h : Since w₀ account w) (hspares : SparesPage w w') :
    Since w₀ account w' := by
  obtain ⟨made, hstrokes, hmade⟩ := h.page
  exact ⟨hspares.coming.trans h.coming, made, hspares.strokes.trans hstrokes,
    hspares.elements ▸ hmade⟩

/-- What spares the page keeps every account of it. -/
theorem Since.triple_of_sparing {ε : Type} {a : Act ε α} (ha : a.Within sparing) :
    a.Triple (Since w₀ account) (fun _ => Since w₀ account) (Since w₀ account) where
  ok := by
    intro w w' x hw hrun
    exact hw.spared (ha.of_run hrun)
  error := by
    intro w w' e hw hrun
    exact hw.spared (ha.of_run hrun)

/-- A stroke adds to the account what it does to the element, and nothing if it fails. -/
theorem Since.triple_onElement {op : BrowserOp} {id : ElementId}
    {f : PageElement.Act α} (hf : PageElement.Careful f) (hop : op.changesElement = true)
    (hok : ∀ {page made e e' x}, before page made →
      (page.find? fun d => d.id = id) = some e → e.removed = false → f e = (.ok x, e') →
      after x (Browser.changeElement id (fun _ => e') page) ((op, none) :: made))
    (herror : ∀ {page made} fault, before page made → before page ((op, some fault) :: made)) :
    (browse (Browser.onElement op id f)).Triple (Since w₀ before) (fun x => Since w₀ (after x))
      (Since w₀ before) where
  ok := by
    intro w w' x hw hrun
    obtain ⟨made, hstrokes, hmade⟩ := hw.page
    have hcoming := browse_coming (Browser.onElement op id f) w
    rw [hrun] at hcoming
    obtain ⟨e, e', hfind, hpresent, he, helements⟩ :=
      Browser.of_onElement_ok (run_of_browse_ok hrun)
    refine ⟨hcoming.trans hw.coming, (op, none) :: made, ?_,
      helements ▸ hok hmade hfind hpresent he⟩
    rw [strokes_of_stroke (calls_of_ok (.onElement op id f) hrun) hop, hstrokes]
    rfl
  error := by
    intro w w' g hw hrun
    obtain ⟨made, hstrokes, hmade⟩ := hw.page
    have hcoming := browse_coming (Browser.onElement op id f) w
    rw [hrun] at hcoming
    obtain ⟨fault, hcalls⟩ := calls_of_error (.onElement op id f) hrun
    obtain ⟨_, hfailed⟩ := run_of_browse_error hrun
    have helements := Browser.elements_of_onElement_error hf hfailed
    refine ⟨hcoming.trans hw.coming, (op, some fault) :: made, ?_,
      helements ▸ herror fault hmade⟩
    rw [strokes_of_stroke hcalls hop, hstrokes]
    rfl

/-- What is read of an element adds to what is known of the page. -/
theorem Since.triple_readElement {op : BrowserOp} {id : ElementId} {f : PageElement → α}
    (hop : op.changesElement = false)
    (hok : ∀ {page made e}, before page made → (page.find? fun d => d.id = id) = some e →
      after (f e) page made) :
    (browse (Browser.readElement op id f)).Triple (Since w₀ before) (fun x => Since w₀ (after x))
      (Since w₀ before) where
  ok := by
    intro w w' x hw hrun
    obtain ⟨made, hstrokes, hmade⟩ := hw.page
    obtain ⟨e, hfind, -, rfl⟩ := Browser.of_readElement_ok (run_of_browse_ok hrun)
    exact Since.spared ⟨hw.coming, made, hstrokes, hok hmade hfind⟩
      ((within_sparing_readElement op hop id f).of_run hrun)
  error := (triple_of_sparing (within_sparing_readElement op hop id f)).error

end World

/-! ### Interactions -/

open World (Since)

namespace Interaction

variable {α : Type} {l : Locator} {deed : ElementId → World.Act InteractionFault α}
  {w₀ w w' : World} {before after : Account} {id : ElementId}

/-- Locating gives no other id than that of the element which the locator leads to. -/
theorem since_locate (hlead : ∀ {page made}, before page made →
      (page.map (·.id)).Nodup ∧ ∀ e, LeadsTo page l e → e.id = id) :
    (locate l).Triple (Since w₀ before) (fun i w => i = id ∧ Since w₀ before w)
      (Since w₀ before) where
  ok := by
    intro w w' i hw hrun
    obtain ⟨made, -, hmade⟩ := hw.page
    obtain ⟨hids, hid⟩ := hlead hmade
    obtain ⟨e, he, rfl⟩ := leadsTo_of_locate hids hrun
    exact ⟨hid e he, (Since.triple_of_sparing (within_sparing_locate l)).ok hw hrun⟩
  error := (Since.triple_of_sparing (within_sparing_locate l)).error

theorem since_once (hlead : ∀ {page made}, before page made →
      (page.map (·.id)).Nodup ∧ ∀ e, LeadsTo page l e → e.id = id)
    (hdeed : (deed id).Triple (Since w₀ before) (fun _ => Since w₀ after) (Since w₀ before)) :
    (once l deed).Triple (Since w₀ before) (fun _ => Since w₀ after) (Since w₀ before) := by
  refine .bind (since_locate hlead) fun i => ⟨?_, ?_⟩
  · rintro w w' x ⟨rfl, hw⟩ hrun
    exact hdeed.ok hw hrun
  · rintro w w' e ⟨rfl, hw⟩ hrun
    exact hdeed.error hw hrun

/-- Tries that succeed leave what the deed does, and the others what a failing deed does. -/
theorem Tries.since {back : World.Act InteractionFault Unit} {n : Nat}
    {r : Except InteractionFault α} (hback : back.Within World.sparing)
    (honce : (once l deed).Triple (Since w₀ before) (fun _ => Since w₀ after) (Since w₀ before))
    (h : Tries l back deed w n r w') (hw : Since w₀ before w) :
    (∀ a, r = .ok a → Since w₀ after w') ∧ ∀ f, r = .error f → Since w₀ before w' := by
  have hback' : back.Triple (Since w₀ before) (fun _ => Since w₀ before) (Since w₀ before) :=
    Since.triple_of_sparing hback
  have last {v v' : World} (hv : Since w₀ before v) (hrun : once l deed v = (r, v')) :
      (∀ a, r = .ok a → Since w₀ after v') ∧ ∀ f, r = .error f → Since w₀ before v' := by
    refine ⟨?_, ?_⟩
    · rintro a rfl
      exact honce.ok hv hrun
    · rintro f rfl
      exact honce.error hv hrun
  cases h with
  | first h hr => exact last hw h
  | lost h he hb =>
      -- the attempt failed and so did the way back, so there is no other attempt
      refine ⟨fun a ha => (by cases ha), fun f _ => ?_⟩
      exact hback'.error (honce.error hw h) hb
  | second h he hb h₂ => exact last (hback'.ok (honce.error hw h) hb) h₂

/-- Tries end in one way only. -/
theorem Tries.unique (kept : Option String) {n n' : Nat} {r r' : Except InteractionFault α}
    {u v : World} (h : Tries l (restore kept) deed w n r u)
    (h' : Tries l (restore kept) deed w n' r' v) : r = r' := by
  have heq := (attempt_of_tries h).symm.trans (attempt_of_tries h')
  exact congrArg Prod.fst heq

/-- What was to be done was done, and only the window that was current before could not be made
current again. -/
inductive LostReturn (l : Locator) (deed : ElementId → World.Act InteractionFault α) (w : World)
    (f : InteractionFault) : Prop where
  | intro {c : Locator} {window : String} {n : Nat} {a : α} {w₁ w₂ w₃ : World}
      (hc : l.container = some c) (hk : browse Browser.currentWindow w = (.ok window, w₁))
      (ht : Tries l (browse (Browser.switchToWindow window)) deed w₁ n (.ok a) w₂)
      (hb : browse (Browser.switchToWindow window) w₂ = (.error f, w₃))

end Interaction

open Interaction

/-- The retry, the windows and the photograph of an interaction leave the account to the deed. -/
theorem Interactor.since_withElement {α : Type} {l : Locator}
    {deed : ElementId → World.Act InteractionFault α} {w₀ w : World} {before after : Account}
    (i : Interactor) (action : Option String)
    (honce : (once l deed).Triple (Since w₀ before) (fun _ => Since w₀ after) (Since w₀ before))
    (hw : Since w₀ before w) :
    (∀ a w', i.withElement action l deed w = (.ok a, w') → Since w₀ after w') ∧
      ∀ f w', i.withElement action l deed w = (.error f, w') →
        LostReturn l deed w f ∧ Since w₀ after w' ∨
          ¬ LostReturn l deed w f ∧ Since w₀ before w' := by
  have kept (b : Account) : (browse Browser.currentWindow).Triple (Since w₀ b)
      (fun _ => Since w₀ b) (Since w₀ b) :=
    Since.triple_of_sparing World.within_sparing_currentWindow
  have back (b : Account) (window : String) : (browse (Browser.switchToWindow window)).Triple
      (Since w₀ b) (fun _ => Since w₀ b) (Since w₀ b) :=
    Since.triple_of_sparing (World.within_sparing_switchToWindow window)
  have photo {r : Except InteractionFault α} {v : World} (hv : Since w₀ after v) :
      Since w₀ after (photographed i action l r v) := by
    obtain ⟨shots, hshots⟩ := photographed_eq i action l r v
    rw [hshots]
    exact hv.spared (.beside v v.host shots v.asked)
  obtain ⟨out, hout⟩ := exists_course i action l deed w
  rw [withElement_of_course hout]
  cases hout with
  | @plain n r w₁ hc ht =>
      -- without a container there is no way back that could be lost
      obtain ⟨hok, herror⟩ := ht.since (.pure ()) honce hw
      refine ⟨fun a w' h => ?_, fun f w' h => .inr ⟨?_, ?_⟩⟩
      · cases h
        exact photo (hok a rfl)
      · rintro ⟨hc', -, -, -⟩
        rw [hc] at hc'
        cases hc'
      · cases h
        exact herror f rfl
  | @unkept c f w₁ hc hk =>
      -- the window could not be told, so nothing was tried
      refine ⟨fun a w' h => (by cases h), fun f w' h => .inr ⟨?_, ?_⟩⟩
      · rintro ⟨-, hk', -, -⟩
        rw [hk] at hk'
        cases hk'
      · cases h
        exact (kept before).error hw hk
  | @kept c window n r b w₁ w₂ w₃ hc hk ht hb =>
      obtain ⟨hok, herror⟩ :=
        ht.since (World.within_sparing_switchToWindow window) honce ((kept before).ok hw hk)
      rcases r with e | a
      · -- the tries failed, so it was not the way back that did
        refine ⟨fun a w' h => (by cases h), fun f w' h => .inr ⟨?_, ?_⟩⟩
        · rintro ⟨-, hk', ht', -⟩
          rw [hk] at hk'
          cases hk'
          cases Tries.unique (some window) ht ht'
        · cases h
          rcases b with g | ⟨⟩
          · exact (back before window).error (herror e rfl) hb
          · exact (back before window).ok (herror e rfl) hb
      · -- the deed was done, so what failed is the way back, if anything did
        rcases b with g | ⟨⟩
        · refine ⟨fun a w' h => (by cases h), fun f w' h => .inl ?_⟩
          cases h
          exact ⟨⟨hc, hk, ht, hb⟩, (back after window).error (hok a rfl) hb⟩
        · refine ⟨fun a' w' h => ?_, fun f w' h => (by cases h)⟩
          cases h
          exact photo ((back after window).ok (hok a rfl) hb)

/-! ### Operations on an element -/

namespace Session

variable {x : Session} {op : Operation} {d : Deed} {s t : State} {l : Locator}
  {before after : Account}

/-- An operation on an element that was located leaves the page as its deed does, and in the time
after it the page changes by itself only. -/
theorem since_of_deed (hlive : x.settings.dryRun = false) (hop : op.deed? = some d)
    (hl : x.resolver.locator d.element s = (.ok l, t))
    (hbefore : before t.world.browser.elements [])
    (honce : (once l d.act).Triple (World.Since t.world before) (fun _ => World.Since t.world after)
      (World.Since t.world before)) :
    (EndsBound (x.perform op s).1 ∧ ∃ changes w, World.Since t.world after w ∧
        World.Passes changes w (x.perform op s).2.world) ∨
      ∃ f, (x.perform op s).1 = .error (.interaction f) ∧
        (LostReturn l d.act t.world f ∧ World.Since t.world after (x.perform op s).2.world ∨
          ¬ LostReturn l d.act t.world f ∧
            World.Since t.world before (x.perform op s).2.world) := by
  obtain ⟨hok, herror⟩ :=
    Interactor.since_withElement x.resolver.interactor (some d.action) honce (.refl hbefore)
  rcases hd : x.resolver.interactor.withElement (some d.action) l d.act t.world with ⟨f | ⟨⟩, w⟩
  · refine .inr ⟨f, ?_⟩
    rw [Operation.perform_of_deed? x hop, quietly_run, act_of_deed_error hlive hl hd]
    exact ⟨rfl, herror f w hd⟩
  · have hbound := endsBound_of_done hlive hop ⟨l, t, w, hl, hd⟩
    obtain ⟨changes, hpasses⟩ := x.exists_passes_bindAndWait d.element d.action d.value
      (invalidateText d.element { t with world := w })
    refine .inl ⟨hbound.1, changes, w, hok () w hd, ?_⟩
    rw [Operation.perform_of_deed? x hop, quietly_run, act_of_deed_ok hlive hl hd]
    rwa [world_invalidateText] at hpasses

end Session

end Bindery
