import Bindery.Proofs.Rounds
import Bindery.Proofs.Steps

/-!
# Bindery — Proofs — Turns

What happens to a session over time.  A turn is an operation, whatever it answers, or a change from
outside, which may do anything to the world but cannot touch the bindings; a run is a list of
turns.  A deed of the caller's own on an element is not an operation, but it is a run too
(`withElement_is_run`), and so is a wait for a condition of the caller's own that is checked by runs
(`waitFor_is_run`).
-/

namespace Bindery

/-- The time of a state is that of its world. -/
instance : Timed State where
  now s := s.world.time
  origin s := s.world.origin
  sleep pause s := { s with world := s.world.sleep pause }
  now_sleep _ _ := rfl
  origin_sleep _ _ := rfl

namespace Session

/-- A session where nothing is said: the standard settings and evaluators, no defaults, and no
camera. -/
def standard : Session :=
  .ofSettings .standard Evaluators.standard (fun _ => none) .none

/-- One thing that happens to a session: an operation, or a change of the world from outside. -/
inductive Turn where
  | perform (op : Operation)
  | outside (change : World → World)

variable (x : Session)

/-- The state after a turn. -/
def take (s : State) : Turn → State
  | .perform op => (x.perform op s).2
  | .outside change => { s with world := change s.world }

/-- The state after a run. -/
def after (turns : List Turn) (s : State) : State :=
  turns.foldl x.take s

variable {x}

@[simp] theorem after_nil (s : State) : x.after [] s = s := rfl

@[simp] theorem after_cons (turn : Turn) (turns : List Turn) (s : State) :
    x.after (turn :: turns) s = x.after turns (x.take s turn) := rfl

theorem after_append (before later : List Turn) (s : State) :
    x.after (before ++ later) s = x.after later (x.after before s) :=
  List.foldl_append

/-- A deed of the caller's own does to a session what a lookup of the locator and a change from
outside do. -/
theorem withElement_is_run {α : Type} (action : Option String) (element : String)
    (deed : ElementId → World.Act InteractionFault α) (s : State) :
    ∃ turns, (x.withElement action element deed s).2 = x.after turns s := by
  have htake (r : Except ResolutionFault Locator) (t : State)
      (h : x.resolver.locator element s = (r, t)) : x.take s (.perform (.locator element)) = t := by
    show ((resolving (x.resolver.locator element) >>= fun l => pure (.locator l) : Step Answer)
      s).2 = t
    cases r with
    | error e => rw [resolving, Act.bind_run_error (Act.failingAs_run_error _ h)]
    | ok l => rw [resolving, Act.bind_run_ok (Act.failingAs_run_ok _ h)]; rfl
  unfold withElement
  rcases h : x.resolver.locator element s with ⟨e | l, t⟩
  · refine ⟨[.perform (.locator element)], ?_⟩
    rw [resolving, Act.bind_run_error (Act.failingAs_run_error _ h), after_cons, htake _ t h]
    rfl
  · let change (w : World) : World := (x.resolver.interactor.withElement action l deed w).2
    refine ⟨[.perform (.locator element), .outside change], ?_⟩
    rw [resolving, Act.bind_run_ok (Act.failingAs_run_ok _ h), after_cons, htake _ t h,
      interacting_run]
    simp [change, take]

theorem waitFor_run {σ : Type} [Timed σ] (reason : Option String) (seconds : Nat)
    (condition : Bindery.Act σ InteractionFault Bool) (s : σ) :
    x.waitFor reason seconds condition s =
      if Clock.readingBound ≤ Timed.reading s + seconds * Clock.secondNanos then
        (.error .endlessTimeout, s)
      else
        (Wait.waitFor x.settings.waits reason (seconds * 1000) condition).failingAs
          .interaction s := by
  unfold waitFor
  rw [Act.bind_run_ok (Act.get_run s)]
  split <;> rfl

/-- A wait does to a session what the checks of its condition and changes from outside do. -/
theorem waitFor_is_run (reason : Option String) (seconds : Nat)
    {condition : State.Act InteractionFault Bool}
    (hcondition : ∀ s, ∃ turns, (condition s).2 = x.after turns s) (s : State) :
    ∃ turns, (x.waitFor reason seconds condition s).2 = x.after turns s := by
  have refl (s : State) : ∃ turns, s = x.after turns s := ⟨[], rfl⟩
  have trans ⦃s t u : State⦄ : (∃ turns, t = x.after turns s) → (∃ turns, u = x.after turns t) →
      ∃ turns, u = x.after turns s := by
    rintro ⟨before, rfl⟩ ⟨later, rfl⟩
    exact ⟨before ++ later, (after_append before later s).symm⟩
  have sleep (pause : Nat) (s : State) : ∃ turns, Timed.sleep pause s = x.after turns s :=
    ⟨[.outside (World.sleep pause)], rfl⟩
  rw [waitFor_run]
  split
  · exact refl s
  · have hwait : Act.Within (.ofRelation (fun s t => ∃ turns, t = x.after turns s) refl trans)
        (Wait.waitFor x.settings.waits reason (seconds * 1000) condition) :=
      Wait.within_waitFor sleep _ _ _ (Act.Within.ofRelation_iff.2 hcondition)
    exact Act.Within.ofRelation_iff.1 (.failingAs _ hwait) s

end Session

end Bindery
