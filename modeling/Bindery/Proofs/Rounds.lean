import Bindery.Proofs.Bounds
import Bindery.Wait

/-!
# Bindery — Proofs — Rounds

Trying again and waiting keep a relation between states that is kept by what they repeat and by
every pause.  Neither the limits of the rounds nor how each of them ends matter for that.
-/

namespace Bindery

variable {σ α : Type} [Timed σ] {R : σ → σ → Prop} {refl : ∀ s, R s s}
  {trans : ∀ ⦃s t u⦄, R s t → R t u → R s u}

namespace Retry

theorem within_run (hsleep : ∀ pause s, R s (Timed.sleep pause s)) (p : RetryPolicy)
    {op : Try → Act σ InteractionFault α} (hop : ∀ t, (op t).Within (.ofRelation R refl trans))
    (started : Nat) : ∀ n number, (run p op started n number).Within (.ofRelation R refl trans)
  | 0, _ => fun s => .failed (refl s)
  | n + 1, number => by
      refine Act.Within.ofRelation_iff.2 fun s => ?_
      have h := Act.Within.ofRelation_iff.1
        (hop ⟨number, p.budget.map (· - (Timed.now s - started))⟩) s
      rw [run]
      rcases e : op ⟨number, p.budget.map (· - (Timed.now s - started))⟩ s with ⟨f | x, t⟩
      · rw [e] at h
        simp only [e]
        have paused : R s (if p.backoff = 0 then t else Timed.sleep p.backoff t) := by
          split
          · exact h
          · exact trans h (hsleep _ _)
        generalize (if p.backoff = 0 then t else Timed.sleep p.backoff t) = u at paused
        split
        · exact h
        · split
          · exact paused
          · refine trans paused ?_
            exact Act.Within.ofRelation_iff.1 (within_run hsleep p hop started n (number + 1)) u
      · rw [e] at h
        simp only [e]
        exact h

theorem within_attempt (hsleep : ∀ pause s, R s (Timed.sleep pause s)) (p : RetryPolicy)
    {op : Try → Act σ InteractionFault α} (hop : ∀ t, (op t).Within (.ofRelation R refl trans)) :
    (attempt p op).Within (.ofRelation R refl trans) := fun s =>
  within_run hsleep p hop (Timed.now s) maxTries 1 s

end Retry

namespace Wait

theorem within_poll (hsleep : ∀ pause s, R s (Timed.sleep pause s)) (interval deadline : Nat)
    (late : InteractionFault) {condition : Act σ InteractionFault Bool}
    (hcond : condition.Within (.ofRelation R refl trans)) :
    ∀ n, (poll interval deadline late condition n).Within (.ofRelation R refl trans)
  | 0 => fun s => .failed (refl s)
  | n + 1 => by
      refine Act.Within.ofRelation_iff.2 fun s => ?_
      have h := Act.Within.ofRelation_iff.1 hcond s
      rw [poll]
      rcases e : condition s with ⟨f | _ | _, t⟩
      · rw [e] at h
        simp only [e]
        exact h
      · rw [e] at h
        simp only [e]
        split
        · exact h
        · refine trans (trans h (hsleep (min interval (deadline - Timed.now t)) t)) ?_
          exact Act.Within.ofRelation_iff.1
            (within_poll hsleep interval deadline late hcond n) _
      · rw [e] at h
        simp only [e]
        exact h

theorem within_waitFor (hsleep : ∀ pause s, R s (Timed.sleep pause s)) (p : WaitPolicy)
    (reason : Option String) (timeout : Nat) {condition : Act σ InteractionFault Bool}
    (hcond : condition.Within (.ofRelation R refl trans)) :
    (waitFor p reason timeout condition).Within (.ofRelation R refl trans) := by
  refine .failingAs _ (Retry.within_attempt hsleep _ fun t s => ?_)
  exact within_poll hsleep _ _ _ hcond _ s

theorem within_untilDefault (hsleep : ∀ pause s, R s (Timed.sleep pause s)) (p : WaitPolicy)
    (reason : Option String) {condition : Act σ InteractionFault Bool}
    (hcond : condition.Within (.ofRelation R refl trans)) :
    (untilDefault p reason condition).Within (.ofRelation R refl trans) :=
  within_waitFor hsleep p reason p.defaultTimeout hcond

end Wait

end Bindery
