import Bindery.Proofs.Coherence
import Bindery.Proofs.LookupFrame
import Mathlib.Data.List.Forall2

/-!
# Bindery — Proofs — Outcome

How far an operation on an element got, told from how it ended.  It looks the locator up, does what
it is to do, forgets what was read, binds its value, and lets the time after it pass.  Failures of
the first two are of other kinds than those of the last one, and nothing between can fail, so an
end is of one kind exactly if what was to be done was done (`perform_outcome`).  Where it was, the
value is bound, as nothing that comes after binds anything (`bindAndWait_outcome`); where it was
not, the bindings are those that the lookup of the locator left.
-/

namespace Bindery

/-! ### Keys that lookups leave alone -/

/-- What a scope binds to a key is the same after as before, and no text that was bound in it is
lost. -/
structure Scope.Spares (key : String) (before after : Scope) : Prop where
  kind : after.kind = before.kind
  name : after.name = before.name
  same : after.entries.find? key = before.entries.find? key
  texts : ∀ name v, v ≠ "" → (Key.text name, v) ∈ before.entries →
    (Key.text name, v) ∈ after.entries

theorem Scope.Spares.refl (key : String) (scope : Scope) : scope.Spares key scope :=
  ⟨rfl, rfl, rfl, fun _ _ _ h => h⟩

open List (Forall₂)

theorem ScopeStack.Reframed.spares {touched : List String} {s t : ScopeStack} {key : String}
    (h : Reframed touched s t) (hkey : key ∉ touched) :
    Forall₂ (Scope.Spares key) s.scopes t.scopes := by
  have hsame : t.current.entries.find? key = s.current.entries.find? key := by
    have hkeep : decide (key ∉ touched) = true := by simpa using hkey
    rw [← Entries.find?_filter (fun k => k ∉ touched) hkeep, h.others,
      Entries.find?_filter (fun k => k ∉ touched) hkeep]
  rw [scopes_eq_current s, scopes_eq_current t, h.outer]
  refine .cons ⟨h.kind, h.name, hsame, fun name v hv hp => ?_⟩ ?_
  · exact h.kept _ hp hv (Key.currentUrl_ne_text name).symm
  · exact List.forall₂_same.2 fun scope _ => .refl key scope

/-- A lookup leaves a key alone that is neither that of a text nor that of the address. -/
theorem Resolver.Frames.spares {ι : Type} [PageReader ι] {r : Resolver ι} {s t : State}
    {key : String} (h : r.Frames s t)
    (hurl : key ≠ Key.currentUrl) (htext : ∀ name, key ≠ Key.text name) :
    Forall₂ (Scope.Spares key) s.store.scopes t.store.scopes := by
  obtain ⟨new, -, -, hframe⟩ := h
  refine hframe.spares fun hmem => ?_
  rcases List.mem_cons.1 hmem with hkey | hmem
  · exact hurl hkey
  · obtain ⟨ρ, -, hkey⟩ := List.mem_map.1 hmem
    exact htext _ hkey.symm

namespace Session

variable {x : Session} {s : State}

/-! ### The time after an action -/

/-- The bounds of what changes no bindings. -/
def unbinding : Bounds State :=
  (Bounds.ofRelation (· = ·) (fun _ => rfl) fun _ _ _ => Eq.trans).comap State.store

theorem within_unbinding_inWorld {ε α : Type} (a : World.Act ε α) :
    Act.Within unbinding (State.inWorld a) :=
  .inPart (.any a) (fun _ _ _ => rfl) fun _ _ _ => rfl

/-- The value is bound whether the time after the action passes as it should or not. -/
theorem bindAndWait_outcome (hlive : x.settings.dryRun = false) (element action value : String)
    (s : State) :
    ((x.bindAndWait element action value s).1 = .ok () ∨
        ∃ f, (x.bindAndWait element action value s).1 = .error (.gate f)) ∧
      (x.bindAndWait element action value s).2.store =
        s.store.set (Key.action element action) value := by
  have hafter : Act.Within unbinding (do
      Gate.pauseAfter element action
      Gate.awaitAfter x.settings.waits element action) :=
    .bind (Gate.within_pauseAfter fun _ => within_unbinding_inWorld _) fun _ =>
      Gate.within_awaitAfter fun _ _ => within_unbinding_inWorld _
  have hrun : x.bindAndWait element action value s =
      Act.failingAs .gate (do
        Gate.pauseAfter element action
        Gate.awaitAfter x.settings.waits element action)
        { s with store := s.store.set (Key.action element action) value } := by
    unfold bindAndWait
    rw [hlive]
    rfl
  have hstore := hafter { s with store := s.store.set (Key.action element action) value }
  rw [hrun, Act.failingAs]
  generalize (do
    Gate.pauseAfter element action
    Gate.awaitAfter x.settings.waits element action : State.Act GateFault Unit)
    { s with store := s.store.set (Key.action element action) value } = out at hstore
  obtain ⟨f | ⟨⟩, t⟩ := out
  · exact ⟨.inr ⟨f, rfl⟩, hstore.of_error.symm⟩
  · exact ⟨.inl rfl, hstore.of_ok.symm⟩

/-! ### How an operation on an element ends -/

/-- The element is found, and what is to be done to it is done. -/
def Done (x : Session) (d : Deed) (s : State) : Prop :=
  ∃ l t w, x.resolver.locator d.element s = (.ok l, t) ∧
    x.resolver.interactor.withElement (some d.action) l d.act t.world = (.ok (), w)

/-- An end after the value was bound: a good one, or one in the time after the action. -/
def EndsBound : Except StepFault Answer → Prop
  | .ok _ | .error (.gate _) => True
  | _ => False

instance : DecidablePred EndsBound
  | .ok _ | .error (.gate _) => .isTrue trivial
  | .error (.resolution _) | .error (.interaction _) | .error (.scope _) | .error (.word _)
  | .error (.settings _) | .error .endlessTimeout => .isFalse id

/-- An end before anything was bound: the element is not found, or what was to be done failed. -/
def EndsEarly : Except StepFault Answer → Prop
  | .error (.resolution _) | .error (.interaction _) => True
  | _ => False

/-- No end is of both kinds. -/
theorem not_endsEarly_of_endsBound {r : Except StepFault Answer} (h : EndsBound r) :
    ¬ EndsEarly r := by
  cases r with
  | ok a => exact id
  | error e =>
      cases e with
      | gate f => exact id
      | _ => exact False.elim h

variable {op : Operation} {d : Deed}

theorem endsBound_of_done (hlive : x.settings.dryRun = false) (hop : op.deed? = some d)
    (h : x.Done d s) :
    EndsBound (x.perform op s).1 ∧
      (x.perform op s).2.store.current.entries.find? d.key = some d.value := by
  obtain ⟨l, t, w, hl, hd⟩ := h
  rw [Operation.perform_of_deed? x hop, quietly_run, act_of_deed_ok hlive hl hd]
  obtain ⟨hend, hstore⟩ := bindAndWait_outcome hlive d.element d.action d.value
    (invalidateText d.element { t with world := w })
  constructor
  · rcases hend with hend | ⟨f, hend⟩ <;> rw [hend] <;> exact trivial
  · rw [hstore, ScopeStack.current_set]
    exact Entries.find?_put_self _ _ _

theorem endsEarly_of_not_done (hlive : x.settings.dryRun = false) (hop : op.deed? = some d)
    (h : ¬ x.Done d s) :
    EndsEarly (x.perform op s).1 ∧
      (x.perform op s).2.store = (x.resolver.locator d.element s).2.store := by
  rw [Operation.perform_of_deed? x hop, quietly_run]
  rcases hl : x.resolver.locator d.element s with ⟨e | l, t⟩
  · rw [act_of_locator_error hl]
    exact ⟨trivial, rfl⟩
  · rcases hd : x.resolver.interactor.withElement (some d.action) l d.act t.world with
      ⟨f | ⟨⟩, w⟩
    · rw [act_of_deed_error hlive hl hd]
      exact ⟨trivial, rfl⟩
    · exact absurd ⟨l, t, w, hl, hd⟩ h

/-- **An operation on an element binds its value exactly when it was done.**  It ends well or in
the time after it if the element was found and the interaction with it succeeded, and then its value
is bound in the innermost scope.  Otherwise it ends with the failure of the lookup or of the
interaction, and the bindings are those that the lookup of the locator left: in every scope the key
of the operation stands as it did, and no text was lost. -/
theorem perform_outcome (x : Session) (hlive : x.settings.dryRun = false) {op : Operation}
    {d : Deed} (hop : op.deed? = some d) (s : State) :
    (EndsBound (x.perform op s).1 ↔ x.Done d s) ∧
      (EndsEarly (x.perform op s).1 ↔ ¬ x.Done d s) ∧
      (x.Done d s →
        (x.perform op s).2.store.current.entries.find? d.key = some d.value) ∧
      (¬ x.Done d s →
        (x.perform op s).2.store = (x.resolver.locator d.element s).2.store ∧
          Forall₂ (Scope.Spares d.key) s.store.scopes (x.perform op s).2.store.scopes) := by
  by_cases h : x.Done d s
  · obtain ⟨hend, hbound⟩ := endsBound_of_done hlive hop h
    exact ⟨iff_of_true hend h, iff_of_false (not_endsEarly_of_endsBound hend) (not_not_intro h),
      fun _ => hbound, fun hnot => absurd h hnot⟩
  · obtain ⟨hend, hstore⟩ := endsEarly_of_not_done hlive hop h
    have hframe : x.resolver.Frames s (x.resolver.locator d.element s).2 :=
      Act.Within.ofRelation_iff.1 (Resolver.permits_frame.within_locator d.element) s
    refine ⟨iff_of_false (fun hbound => not_endsEarly_of_endsBound hbound hend) h,
      iff_of_true hend h, fun hdone => absurd hdone h, fun _ => ⟨hstore, ?_⟩⟩
    rw [hstore]
    exact hframe.spares (Key.action_ne_currentUrl _ _) (Operation.key_ne_text hop)

/-- A note is to be clicked on, and the pause after it is no number. -/
def impatient : State :=
  begin ⟨[], [("note/locator", "id"), ("note/locator/id", "n"), ("note/click/wait", "soon")]⟩
    noteWorld

/-- The click was done, so it is bound, though the operation failed in the time after it. -/
theorem click_bound_despite_pause :
    standard.settings.dryRun = false ∧ EndsBound (standard.perform (.click "note") impatient).1 ∧
      (standard.perform (.click "note") impatient).2.store.current.entries.find? "note/click" =
        some "true" := by
  obtain ⟨hends, -, hbound, -⟩ := @perform_outcome standard rfl (.click "note") _ rfl impatient
  have hend : EndsBound (standard.perform (.click "note") impatient).1 := by decide +kernel
  exact ⟨rfl, hend, hbound (hends.1 hend)⟩

end Session

end Bindery
