import Bindery.Proofs.Course
import Bindery.Proofs.Turns

/-!
# Bindery — Proofs — Opposites

A state of an element and the opposite one are told by the same question, and the answer is turned
around (`hasState_opposite`).  An interaction that makes something of a value takes the same course
as one that gives the value: the calls are the same, so what fails is the same too
(`Course.made`).  What is left is the failure to find the element, which is an answer for two of the
states: it says that the element is hidden, and so that it is not displayed
(`opposite_states_opposed`).
-/

namespace Bindery

open World (browse)

variable {α β : Type}

/-! ### Interactions that differ in what they make of a value -/

namespace Interaction

/-- Two deeds leave the same world, and the second one makes something of what the first one
gives. -/
def Makes (f : α → β) (deed : ElementId → World.Act InteractionFault α)
    (deed' : ElementId → World.Act InteractionFault β) : Prop :=
  ∀ id w, deed' id w = ((deed id w).1.map f, (deed id w).2)

variable {f : α → β} {l : Locator} {back : World.Act InteractionFault Unit}
  {deed : ElementId → World.Act InteractionFault α}
  {deed' : ElementId → World.Act InteractionFault β} {w w' : World} {n : Nat}
  {r : Except InteractionFault α}

theorem Makes.once (h : Makes f deed deed') (w : World) :
    once l deed' w = ((once l deed w).1.map f, (once l deed w).2) := by
  unfold Interaction.once
  rcases e : locate l w with ⟨g | id, w₁⟩
  · rw [Act.bind_run_error e, Act.bind_run_error e]
    rfl
  · rw [Act.bind_run_ok e, Act.bind_run_ok e]
    exact h id w₁

theorem final_map (h : Final r) : Final (r.map f) := by
  cases r with
  | error e => exact h
  | ok a => exact trivial

theorem Tries.made (hf : Makes f deed deed') (h : Tries l back deed w n r w') :
    Tries l back deed' w n (r.map f) w' := by
  have tried {v v' : World} {q : Except InteractionFault α}
      (hq : Interaction.once l deed v = (q, v')) : Interaction.once l deed' v = (q.map f, v') := by
    rw [hf.once, hq]
  cases h with
  | first h hr => exact .first (tried h) (final_map hr)
  | lost h he hb => exact .lost (tried h) he hb
  | second h he hb h₂ => exact .second (tried h) he hb (tried h₂)

theorem settle_map (f : α → β) (r : Except InteractionFault α)
    (back : Except InteractionFault Unit) : settle (r.map f) back = (settle r back).map f := by
  rcases r with e | a
  · rfl
  · cases back <;> rfl

theorem photographed_map (f : α → β) (i : Interactor) (action : Option String) (l : Locator)
    (r : Except InteractionFault α) (w : World) :
    photographed i action l (r.map f) w = photographed i action l r w := by
  cases r <;> rfl

theorem Course.made {i : Interactor} {action : Option String} (hf : Makes f deed deed')
    (h : Course i action l deed w (r, w')) : Course i action l deed' w (r.map f, w') := by
  generalize hout : (r, w') = out at h
  cases h with
  | @plain n r w₁ hc ht =>
      cases hout
      rw [← photographed_map f]
      exact .plain hc (ht.made hf)
  | unkept hc hk =>
      cases hout
      exact .unkept hc hk
  | @kept c window n r back w₁ w₂ w₃ hc hk ht hb =>
      cases hout
      rw [← photographed_map f, ← settle_map]
      exact .kept hc hk (ht.made hf) hb

/-! ### States and their opposites -/

/-- The opposite of a state is told by the same question. -/
theorem hasState_opposite (state : ElementState) :
    Makes not (hasState state) (hasState state.opposite) := by
  have turned (a : World.Act InteractionFault Bool) (w : World) :
      (do return !(← a)) w = ((a w).1.map not, (a w).2) := by
    rw [Act.bind_run]
    rcases a w with ⟨e | b, w'⟩ <;> rfl
  have back (a : World.Act InteractionFault Bool) (w : World) :
      a w = (((do return !(← a)) w).1.map not, ((do return !(← a)) w).2) := by
    rw [turned]
    rcases a w with ⟨e | b, w'⟩
    · rfl
    · simp [Except.map]
  intro id w
  cases state with
  | displayed => exact turned _ w
  | hidden => exact back _ w
  | checked => exact turned _ w
  | unchecked => exact back _ w
  | enabled => exact turned _ w
  | disabled => exact back _ w

end Interaction

open Interaction

theorem Interactor.withElement_made {f : α → β} {deed : ElementId → World.Act InteractionFault α}
    {deed' : ElementId → World.Act InteractionFault β} (hf : Makes f deed deed') (i : Interactor)
    (action : Option String) (l : Locator) (w : World) :
    i.withElement action l deed' w =
      ((i.withElement action l deed w).1.map f, (i.withElement action l deed w).2) :=
  withElement_of_course (.made hf (withElement_iff.1 rfl))

namespace Session

variable {x : Session} {element : String} {state : ElementState} {l : Locator} {s t : State}

/-- A failed interaction says that an element is hidden, and not displayed, if the element was not
found; of the other states it says nothing. -/
theorem stateOf_of_error {f : InteractionFault} {w w' : World}
    (h : x.resolver.interactor.withElement none l (hasState state) w = (.error f, w')) :
    x.stateOf state l w =
      (if f.isNotFound ∧ (state = .hidden ∨ state = .displayed) then .ok (state = .hidden)
        else .error f, w') := by
  unfold stateOf
  rw [h]
  by_cases hf : f.isNotFound = true <;> cases state <;> simp [hf]

/-- Where the interaction succeeds, the state is what it tells. -/
theorem stateOf_of_ok {b : Bool} {w w' : World}
    (h : x.resolver.interactor.withElement none l (hasState state) w = (.ok b, w')) :
    x.stateOf state l w = (.ok b, w') := by
  unfold stateOf
  rw [h]

theorem stateOf_opposite (x : Session) (state : ElementState) (l : Locator) (w : World) :
    x.stateOf state.opposite l w = ((x.stateOf state l w).1.map not, (x.stateOf state l w).2) := by
  have hopposite :=
    Interactor.withElement_made (hasState_opposite state) x.resolver.interactor none l w
  rcases h : x.resolver.interactor.withElement none l (hasState state) w with ⟨f | b, w'⟩
  · rw [h] at hopposite
    rw [stateOf_of_error hopposite, stateOf_of_error h]
    -- the two states that a missing element decides on are opposite to each other
    by_cases hf : f.isNotFound = true <;> cases state <;>
      simp [hf, ElementState.opposite, Except.map]
  · rw [h] at hopposite
    rw [stateOf_of_ok hopposite, stateOf_of_ok h]
    rfl

theorem isInState_of_locator_error {e : ResolutionFault}
    (hl : x.resolver.locator element s = (.error e, t)) :
    x.perform (.isInState element state) s = (.error (.resolution e), t) := by
  rw [perform, withLocated, resolving, Act.bind_run_error]
  exact Act.bind_run_error (Act.failingAs_run_error _ hl)

theorem isInState_of_located (hlive : x.settings.dryRun = false)
    (hl : x.resolver.locator element s = (.ok l, t)) :
    x.perform (.isInState element state) s =
      (((x.stateOf state l t.world).1.mapError .interaction).map .truth,
        { t with world := (x.stateOf state l t.world).2 }) := by
  have hrun : x.withLocated element true (x.stateOf state) s =
      ((x.stateOf state l t.world).1.mapError .interaction,
        { t with world := (x.stateOf state l t.world).2 }) := by
    rw [withLocated, resolving, Act.bind_run_ok (Act.failingAs_run_ok _ hl), hlive]
    exact interacting_run _ t
  rw [perform, Act.bind_run, hrun]
  rcases (x.stateOf state l t.world).1 with f | b <;> rfl

/-- **Opposite states are opposite.**  Asking in the same state of a live session whether an element
is in a state and whether it is in the opposite one ends in the same state: the bindings, the page,
the queued failures and all logs are the same.  The answers are opposite, or both fail in the same
way.  An interaction that failed, whichever of its calls did, answers the question only if the
element was not found and the question is whether it is hidden or displayed: then it is hidden. -/
theorem opposite_states_opposed (x : Session) (hlive : x.settings.dryRun = false)
    (element : String) (state : ElementState) (s : State) :
    (x.perform (.isInState element state.opposite) s).2 =
        (x.perform (.isInState element state) s).2 ∧
      ((∃ b, (x.perform (.isInState element state) s).1 = .ok (.truth b) ∧
          (x.perform (.isInState element state.opposite) s).1 = .ok (.truth !b)) ∨
        ∃ f, (x.perform (.isInState element state) s).1 = .error f ∧
          (x.perform (.isInState element state.opposite) s).1 = .error f) ∧
      ∀ l t f w, x.resolver.locator element s = (.ok l, t) →
        x.resolver.interactor.withElement none l (hasState state) t.world = (.error f, w) →
        (x.perform (.isInState element state) s).1 =
          if f.isNotFound ∧ (state = .hidden ∨ state = .displayed) then
            .ok (.truth (state = .hidden))
          else .error (.interaction f) := by
  rcases hl : x.resolver.locator element s with ⟨e | l, t⟩
  · rw [isInState_of_locator_error hl, isInState_of_locator_error hl]
    exact ⟨rfl, .inr ⟨_, rfl, rfl⟩, fun _ _ _ _ h => by cases h⟩
  · rw [isInState_of_located hlive hl, isInState_of_located hlive hl, stateOf_opposite]
    refine ⟨rfl, ?_, fun l' t' f w h hf => ?_⟩
    · rcases (x.stateOf state l t.world).1 with f | b
      · exact .inr ⟨_, rfl, rfl⟩
      · exact .inl ⟨b, rfl, rfl⟩
    · cases h
      rw [stateOf_of_error hf]
      split <;> rfl

/-- A field inside of a frame, where the current window cannot be told: it is said not to be
found. -/
def unseenField : State :=
  let store : ScopeStack := ⟨[⟨.page, pageName, [("field/locator", "id"), ("field/locator/id", "f"),
    ("field/locator/id/container", "box"), ("box/locator", "id"), ("box/locator/id", "b")]⟩], []⟩
  let world := World.fresh .bare []
  begin store { world with browser := { world.browser with
    failures := [(.currentWindow, .noSuchElement "window")] } }

/-- The truth value that was answered, if one was. -/
def truth? : Except StepFault Answer → Option Bool
  | .ok (.truth b) => some b
  | _ => none

theorem eq_truth_of_truth? {r : Except StepFault Answer} {b : Bool} (h : truth? r = some b) :
    r = .ok (.truth b) := by
  rcases r with e | a
  · cases h
  · cases a with
    | truth c =>
        cases h
        rfl
    | _ => cases h

/-- The field is hidden and not displayed, and either question ends in the same state. -/
theorem unseen_field_hidden :
    standard.settings.dryRun = false ∧
      (standard.perform (.isInState "field" .hidden) unseenField).1 = .ok (.truth true) ∧
      (standard.perform (.isInState "field" .displayed) unseenField).1 = .ok (.truth false) ∧
      (standard.perform (.isInState "field" .displayed) unseenField).2 =
        (standard.perform (.isInState "field" .hidden) unseenField).2 := by
  have hidden : (standard.perform (.isInState "field" .hidden) unseenField).1 =
      .ok (.truth true) := eq_truth_of_truth? (by decide +kernel)
  obtain ⟨hstate, hends, -⟩ := opposite_states_opposed standard rfl "field" .hidden unseenField
  refine ⟨rfl, hidden, ?_, hstate⟩
  rcases hends with ⟨b, hb, hopposed⟩ | ⟨f, hf, -⟩
  · rw [hidden] at hb
    cases hb
    exact hopposed
  · rw [hidden] at hf
    cases hf

end Session

end Bindery
