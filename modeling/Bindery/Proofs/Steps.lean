import Bindery.Proofs.Reading
import Bindery.Session.Operation

/-!
# Bindery — Proofs — Steps

What steps are made of.  A step stays within bounds when the lookups, the interactions, the bindings
and the waits in it do, whatever the bounds are: each lemma takes a step apart once, so that the
theorems about all operations do not have to.
-/

namespace Bindery

variable {B : Bounds State}

theorem Gate.within_pauseAfter {element action : String}
    (hpause : ∀ nanos, Act.Within B (State.inWorld (Gate.pass nanos))) :
    Act.Within B (Gate.pauseAfter element action) := by
  refine .bind .get fun s => ?_
  split
  · exact .pure _
  · exact .bind (.ofExcept _) fun _ => hpause _

theorem Gate.within_awaitAfter {waits : WaitPolicy} {element action : String}
    (hwait : ∀ condition script, Act.Within B (State.inWorld
      ((Wait.untilDefault waits (some condition) (Gate.holds script)).failingAs
        GateFault.interaction))) :
    Act.Within B (Gate.awaitAfter waits element action) := by
  refine .bind .get fun s => ?_
  split
  · exact .pure _
  · exact .bind .get fun _ => .bind (.ofExcept _) fun _ => hwait _ _

theorem Gate.within_bindAndWait {waits : WaitPolicy} {element action value : String}
    (hbind : Act.Within B (State.bind (Key.action element action) value : State.Act GateFault Unit))
    (hpause : ∀ nanos, Act.Within B (State.inWorld (Gate.pass nanos)))
    (hwait : ∀ condition script, Act.Within B (State.inWorld
      ((Wait.untilDefault waits (some condition) (Gate.holds script)).failingAs
        GateFault.interaction))) :
    Act.Within B (Gate.bindAndWait waits element action value) :=
  .bind hbind fun _ => .bind (within_pauseAfter hpause) fun _ => within_awaitAfter hwait

theorem Resolver.within_selection {ι : Type} [PageReader ι] {r : Resolver ι} {name : String}
    {facet : Facet} (hlocator : Act.Within B (r.locator name))
    (hread : ∀ l, Act.Within B (State.inWorld
      ((PageReader.selected r.interactor l facet).failingAs ResolutionFault.interaction)))
    (hbind : ∀ v, Act.Within B (State.bind (Key.selection name facet) v : Lookup Unit)) :
    Act.Within B (r.selection name facet) := by
  refine .bind hlocator fun l => .ite (.bind (hbind _) fun _ => .pure _) (.bind (hread l) ?_)
  intro selected
  cases selected with
  | none => exact .throw _
  | some v => exact .bind (hbind v) fun _ => .pure v

namespace Session

variable {x : Session}

theorem within_resolving {α : Type} {a : Resolver.Lookup α} (ha : Act.Within B a) :
    Act.Within B (resolving a) := .failingAs _ ha

theorem within_quietly {a : Step Unit} (ha : Act.Within B a) : Act.Within B (quietly a) :=
  .bind ha fun _ => .pure _

theorem ends_quietly {a : Step Unit} (ha : Act.Ends B a) : Act.Ends B (quietly a) :=
  .map ha fun _ => Answer.nothing

theorem within_saying {a : Resolver.Lookup String} (ha : Act.Within B a) :
    Act.Within B (saying a) := .bind (within_resolving ha) fun _ => .pure _

theorem quietly_run (a : Step Unit) (s : State) :
    quietly a s = ((a s).1.map fun _ => .nothing, (a s).2) := by
  unfold quietly
  rw [Act.bind_run]
  rcases a s with ⟨e | ⟨⟩, t⟩ <;> rfl

theorem saying_run (a : Resolver.Lookup String) (s : State) :
    saying a s = (((a s).1.mapError .resolution).map .text, (a s).2) := by
  rw [saying, resolving, Act.bind_run, Act.failingAs]
  rcases a s with ⟨e | v, t⟩ <;> rfl

/-- A name that a text is bound for is said to have it, and nothing else happens. -/
theorem perform_value_of_literal {name v : String} {s : State}
    (h : s.store.scan name = .ok (some (.literal v))) :
    x.perform (.value name) s = (.ok (.text v), s) := by
  show saying (x.resolver.value name) s = _
  rw [saying_run, Resolver.value, Resolver.valueAt_of_literal h]
  rfl

theorem interacting_run {α : Type} (a : World.Act InteractionFault α) (s : State) :
    interacting a s =
      ((a s.world).1.mapError .interaction, { s with world := (a s.world).2 }) := by
  rw [interacting, State.inWorld_run, Act.failingAs]
  rcases a s.world with ⟨_ | _, _⟩ <;> rfl

theorem rebinding_run (f : ScopeStack → Except ScopeFault ScopeStack) (s : State) :
    rebinding f s = match f s.store with
      | .ok store => (.ok (), { s with store })
      | .error e => (.error (.scope e), s) := by
  unfold rebinding
  rw [Act.bind_run_ok (Act.get_run s)]
  cases f s.store <;> rfl

/-- To forget what was read from the page changes nothing outside of the bindings. -/
theorem world_invalidateText (element : String) (s : State) :
    (invalidateText element s).world = s.world := by
  unfold invalidateText
  simp only
  split <;> rfl

theorem within_rebinding {f : ScopeStack → Except ScopeFault ScopeStack}
    (h : ∀ s store, f s.store = .ok store → B.done s { s with store }) :
    Act.Within B (rebinding f) := by
  intro s
  rw [rebinding_run]
  cases e : f s.store with
  | error fault => exact .failed (B.stop s)
  | ok store => exact .done (h s store e)

theorem within_bindAndWait {element action value : String}
    (hbind : ∀ s : State,
      B.done s { s with store := s.store.set (Key.action element action) value })
    (hpause : ∀ nanos, Act.Within B (State.inWorld (Gate.pass nanos)))
    (hwait : ∀ condition script, Act.Within B (State.inWorld
      ((Wait.untilDefault x.settings.waits (some condition) (Gate.holds script)).failingAs
        GateFault.interaction))) :
    Act.Within B (x.bindAndWait element action value) :=
  .ite (.modify hbind) (.failingAs _ (Gate.within_bindAndWait (.modify hbind) hpause hwait))

theorem within_act {element action value : String}
    {deed : ElementId → World.Act InteractionFault Unit}
    (hlocator : Act.Within B (x.resolver.locator element))
    (hdeed : ∀ l, Act.Within B
      (interacting (x.resolver.interactor.withElement (some action) l deed)))
    (hforget : ∀ s, B.done s (invalidateText element s))
    (hwait : Act.Within B (x.bindAndWait element action value)) :
    Act.Within B (x.act element action value deed) := by
  unfold act
  refine .bind (within_resolving hlocator) fun l => .ite ?_ hwait
  exact .bind (hdeed l) fun _ => .bind (.modify hforget) fun _ => hwait

/-! ### How far an action on an element gets -/

section

variable {element action value : String} {deed : ElementId → World.Act InteractionFault Unit}
  {s t : State} {w : World} {l : Locator}

theorem act_of_locator_error {e : ResolutionFault}
    (hl : x.resolver.locator element s = (.error e, t)) :
    x.act element action value deed s = (.error (.resolution e), t) := by
  unfold act
  rw [resolving, Act.bind_run_error (Act.failingAs_run_error _ hl)]

theorem act_of_deed_error (hlive : x.settings.dryRun = false)
    (hl : x.resolver.locator element s = (.ok l, t)) {f : InteractionFault}
    (hd : x.resolver.interactor.withElement (some action) l deed t.world = (.error f, w)) :
    x.act element action value deed s = (.error (.interaction f), { t with world := w }) := by
  unfold act
  rw [resolving, Act.bind_run_ok (Act.failingAs_run_ok _ hl)]
  simp only [hlive, Bool.not_false, if_true]
  rw [Act.bind_run_error (e := .interaction f) (t := { t with world := w })]
  rw [interacting_run, hd]
  rfl

theorem act_of_deed_ok (hlive : x.settings.dryRun = false)
    (hl : x.resolver.locator element s = (.ok l, t))
    (hd : x.resolver.interactor.withElement (some action) l deed t.world = (.ok (), w)) :
    x.act element action value deed s =
      x.bindAndWait element action value (invalidateText element { t with world := w }) := by
  unfold act
  rw [resolving, Act.bind_run_ok (Act.failingAs_run_ok _ hl)]
  simp only [hlive, Bool.not_false, if_true]
  rw [Act.bind_run_ok (x := ()) (t := { t with world := w }), Act.bind_run_ok (Act.modify_run _ _)]
  rw [interacting_run, hd]
  rfl

end

theorem within_withLocated {α : Type} {element : String} {inDryRun : α}
    {deed : Locator → World.Act InteractionFault α}
    (hlocator : Act.Within B (x.resolver.locator element))
    (hdeed : ∀ l, Act.Within B (interacting (deed l))) :
    Act.Within B (x.withLocated element inDryRun deed) := by
  unfold withLocated
  exact .bind (within_resolving hlocator) fun l => .ite (.pure _) (hdeed l)

theorem within_navigate {url : String} (hurl : Act.Within B (x.resolver.interpolate url))
    (hgo : ∀ url, Act.Within B (interacting (World.browse (Browser.navigateTo url))))
    (hreset : Act.Within B resetPage) : Act.Within B (x.navigate url) := by
  unfold navigate
  exact .bind (within_resolving hurl) fun url => .ite (.bind (hgo url) fun _ => hreset) hreset

/-! ### How far one gets to an address -/

section

variable {url address : String} {s t : State} {w : World}

theorem navigate_of_url_error {e : ResolutionFault}
    (hu : x.resolver.interpolate url s = (.error e, t)) :
    x.navigate url s = (.error (.resolution e), t) := by
  unfold navigate
  rw [resolving, Act.bind_run_error (Act.failingAs_run_error _ hu)]

theorem navigate_of_dryRun (hdry : x.settings.dryRun = true)
    (hu : x.resolver.interpolate url s = (.ok address, t)) : x.navigate url s = resetPage t := by
  unfold navigate
  rw [resolving, Act.bind_run_ok (Act.failingAs_run_ok _ hu)]
  simp only [hdry, Bool.not_true, Bool.false_eq_true, if_false]

theorem navigate_of_error (hlive : x.settings.dryRun = false)
    (hu : x.resolver.interpolate url s = (.ok address, t)) {f : InteractionFault}
    (hgo : World.browse (Browser.navigateTo address) t.world = (.error f, w)) :
    x.navigate url s = (.error (.interaction f), { t with world := w }) := by
  unfold navigate
  rw [resolving, Act.bind_run_ok (Act.failingAs_run_ok _ hu)]
  simp only [hlive, Bool.not_false, if_true]
  rw [Act.bind_run_error (e := .interaction f) (t := { t with world := w })]
  rw [interacting_run, hgo]
  rfl

theorem navigate_of_ok (hlive : x.settings.dryRun = false)
    (hu : x.resolver.interpolate url s = (.ok address, t)) {u : Unit}
    (hgo : World.browse (Browser.navigateTo address) t.world = (.ok u, w)) :
    x.navigate url s = resetPage { t with world := w } := by
  unfold navigate
  rw [resolving, Act.bind_run_ok (Act.failingAs_run_ok _ hu)]
  simp only [hlive, Bool.not_false, if_true]
  rw [Act.bind_run_ok (x := ()) (t := { t with world := w })]
  rw [interacting_run, hgo]
  rfl

end

/-- How going to an address ends: its lookup fails; in a dry run the page scope is emptied at once;
the browser refuses to go there; or it goes there, and the page scope is emptied. -/
inductive Navigates (x : Session) (url : String) (s : State) : Prop where
  | lost {e : ResolutionFault} {t : State} (hu : x.resolver.interpolate url s = (.error e, t))
      (hrun : x.navigate url s = (.error (.resolution e), t))
  | dry {address : String} {t : State} (hdry : x.settings.dryRun = true)
      (hu : x.resolver.interpolate url s = (.ok address, t))
      (hrun : x.navigate url s = resetPage t)
  | refused {address : String} {t : State} {f : InteractionFault} {w : World}
      (hlive : x.settings.dryRun = false) (hu : x.resolver.interpolate url s = (.ok address, t))
      (hgo : World.browse (Browser.navigateTo address) t.world = (.error f, w))
      (hrun : x.navigate url s = (.error (.interaction f), { t with world := w }))
  | gone {address : String} {t : State} {w : World} (hlive : x.settings.dryRun = false)
      (hu : x.resolver.interpolate url s = (.ok address, t))
      (hgo : World.browse (Browser.navigateTo address) t.world = (.ok (), w))
      (hrun : x.navigate url s = resetPage { t with world := w })

theorem navigates (x : Session) (url : String) (s : State) : x.Navigates url s := by
  rcases hu : x.resolver.interpolate url s with ⟨e | address, t⟩
  · exact .lost hu (navigate_of_url_error hu)
  · cases hdry : x.settings.dryRun with
    | true => exact .dry hdry hu (navigate_of_dryRun hdry hu)
    | false =>
        rcases hgo : World.browse (Browser.navigateTo address) t.world with ⟨f | ⟨⟩, w⟩
        · exact .refused hdry hu hgo (navigate_of_error hdry hu hgo)
        · exact .gone hdry hu hgo (navigate_of_ok hdry hu hgo)

theorem within_runScript {script : String}
    (hscript : Act.Within B (x.resolver.interpolate script))
    (hrun : ∀ q, Act.Within B (State.inWorld (Evaluators.consult x.resolver.evaluators q))) :
    Act.Within B (x.runScript script) := by
  unfold runScript
  exact .bind (within_resolving hscript) fun _ => .ite (.pure _)
    (within_resolving (.failingAs _ (hrun _)))

end Session

end Bindery
