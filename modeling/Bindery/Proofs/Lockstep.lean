import Bindery.Proofs.Bounds
import Bindery.Wait

/-!
# Bindery — Proofs — Lockstep

Two runs side by side.  Two actions go in lockstep when from states that are related they end alike,
in states that are related (`Act.Lockstep`).  What `do` blocks are made of goes in lockstep when its
parts do; where the state is looked at, what is made of it has to go in lockstep for any two related
states (`Act.Lockstep.get`).

Trying again and waiting go in lockstep along relations that leave the time as it is
(`Synchronous`): then both runs are late at the same time, and pause alike.
-/

namespace Bindery

variable {σ τ ε ε' α β : Type}

/-- From related states two actions end alike, in related states. -/
def Act.Lockstep (R : σ → σ → Prop) (a b : Act σ ε α) : Prop :=
  ∀ ⦃s t⦄, R s t → (b t).1 = (a s).1 ∧ R (a s).2 (b t).2

namespace Act.Lockstep

variable {R : σ → σ → Prop} {a b : Act σ ε α}

/-- The end of the first action is also that of the second. -/
theorem run (h : Lockstep R a b) {s t s' : σ} {r : Except ε α} (hst : R s t)
    (ha : a s = (r, s')) : ∃ t', b t = (r, t') ∧ R s' t' := by
  obtain ⟨hend, hrel⟩ := h hst
  rw [ha] at hend hrel
  exact ⟨(b t).2, Prod.ext hend rfl, hrel⟩

theorem pure (x : α) : Lockstep R (Pure.pure x : Act σ ε α) (Pure.pure x) := fun _ _ h => ⟨rfl, h⟩

theorem throw (e : ε) : Lockstep R (MonadExcept.throw e : Act σ ε α) (MonadExcept.throw e) :=
  fun _ _ h => ⟨rfl, h⟩

theorem ofExcept (r : Except ε α) : Lockstep R (Act.ofExcept r) (Act.ofExcept r) :=
  fun _ _ h => ⟨rfl, h⟩

theorem modify {f g : σ → σ} (h : ∀ ⦃s t⦄, R s t → R (f s) (g t)) :
    Lockstep R (modify f : Act σ ε Unit) (modify g) := fun _ _ hst => ⟨rfl, h hst⟩

theorem bind {f g : α → Act σ ε β} (hab : Lockstep R a b)
    (hfg : ∀ x, Lockstep R (f x) (g x)) : Lockstep R (a >>= f) (b >>= g) := by
  intro s t hst
  rcases ha : a s with ⟨e | x, s'⟩
  · obtain ⟨t', hb, hrel⟩ := hab.run hst ha
    rw [bind_run_error ha, bind_run_error hb]
    exact ⟨rfl, hrel⟩
  · obtain ⟨t', hb, hrel⟩ := hab.run hst ha
    rw [bind_run_ok ha, bind_run_ok hb]
    exact hfg x hrel

/-- The states that are looked at are related, but need not be the same. -/
theorem get {f g : σ → Act σ ε β} (h : ∀ ⦃s t⦄, R s t → Lockstep R (f s) (g t)) :
    Lockstep R (MonadState.get >>= f) (MonadState.get >>= g) := by
  intro s t hst
  rw [bind_run_ok (get_run s), bind_run_ok (get_run t)]
  exact h hst hst

theorem failingAs (f : ε → ε') (h : Lockstep R a b) :
    Lockstep R (a.failingAs f) (b.failingAs f) := by
  intro s t hst
  rcases ha : a s with ⟨e | x, s'⟩
  · obtain ⟨t', hb, hrel⟩ := h.run hst ha
    rw [failingAs_run_error f ha, failingAs_run_error f hb]
    exact ⟨rfl, hrel⟩
  · obtain ⟨t', hb, hrel⟩ := h.run hst ha
    rw [failingAs_run_ok f ha, failingAs_run_ok f hb]
    exact ⟨rfl, hrel⟩

theorem outcome (h : Lockstep R a b) :
    Lockstep R (a.outcome : Act σ ε' (Except ε α)) b.outcome := by
  intro s t hst
  obtain ⟨hend, hrel⟩ := h hst
  exact ⟨congrArg Except.ok hend, hrel⟩

theorem ite {c : Prop} [Decidable c] {a' b' : Act σ ε α} (h : Lockstep R a b)
    (h' : Lockstep R a' b') : Lockstep R (if c then a else a') (if c then b else b') := by
  split
  · exact h
  · exact h'

theorem inPart {Q : τ → τ → Prop} {part : σ → τ} {replace : τ → σ → σ} {a b : Act τ ε α}
    (h : Lockstep Q a b) (hpart : ∀ ⦃s t⦄, R s t → Q (part s) (part t))
    (hreplace : ∀ ⦃s t p q⦄, R s t → Q p q → R (replace p s) (replace q t)) :
    Lockstep R (a.inPart part replace) (b.inPart part replace) := by
  intro s t hst
  obtain ⟨hend, hrel⟩ := h (hpart hst)
  exact ⟨hend, hreplace hst hrel⟩

end Act.Lockstep

/-! ### Trying again and waiting -/

/-- Related states tell the same time, from the same beginning, and stay related over every
pause. -/
structure Synchronous [Timed σ] (R : σ → σ → Prop) : Prop where
  now : ∀ {s t}, R s t → Timed.now t = Timed.now s
  origin : ∀ {s t}, R s t → Timed.origin t = Timed.origin s
  sleep : ∀ (pause : Nat) {s t}, R s t → R (Timed.sleep pause s) (Timed.sleep pause t)

variable [Timed σ] {R : σ → σ → Prop}

theorem Synchronous.reading (hR : Synchronous R) {s t : σ} (h : R s t) :
    Timed.reading t = Timed.reading s := by
  rw [Timed.reading, hR.origin h, hR.now h, Timed.reading]

namespace Retry

variable {op op' : Try → Act σ InteractionFault α}

theorem lockstep_run (hR : Synchronous R) (p : RetryPolicy)
    (hop : ∀ t, (op t).Lockstep R (op' t)) (started : Nat) :
    ∀ n number, (run p op started n number).Lockstep R (run p op' started n number)
  | 0, _ => fun _ _ h => ⟨rfl, h⟩
  | n + 1, number => by
      intro s t hst
      rw [run, run]
      rcases ha : op ⟨number, p.budget.map (· - (Timed.now s - started))⟩ s with ⟨e | x, s'⟩
      · obtain ⟨t', hb, hrel⟩ := (hop _).run hst ha
        have paused : R (if p.backoff = 0 then s' else Timed.sleep p.backoff s')
            (if p.backoff = 0 then t' else Timed.sleep p.backoff t') := by
          split
          · exact hrel
          · exact hR.sleep _ hrel
        simp only [hR.now hst, ha, hb]
        generalize (if p.backoff = 0 then s' else Timed.sleep p.backoff s') = u at paused
        generalize (if p.backoff = 0 then t' else Timed.sleep p.backoff t') = v at paused
        rw [hR.now paused]
        split
        · exact ⟨rfl, hrel⟩
        · split
          · exact ⟨rfl, paused⟩
          · exact lockstep_run hR p hop started n (number + 1) paused
      · obtain ⟨t', hb, hrel⟩ := (hop _).run hst ha
        simp only [hR.now hst, ha, hb]
        exact ⟨trivial, hrel⟩

theorem lockstep_attempt (hR : Synchronous R) (p : RetryPolicy)
    (hop : ∀ t, (op t).Lockstep R (op' t)) : (attempt p op).Lockstep R (attempt p op') := by
  intro s t hst
  rw [attempt, attempt, hR.now hst]
  exact lockstep_run hR p hop (Timed.now s) maxTries 1 hst

end Retry

namespace Wait

variable {condition condition' : Act σ InteractionFault Bool}

theorem lockstep_poll (hR : Synchronous R) (interval deadline : Nat) (late : InteractionFault)
    (hcond : condition.Lockstep R condition') :
    ∀ n, (poll interval deadline late condition n).Lockstep R
      (poll interval deadline late condition' n)
  | 0 => fun _ _ h => ⟨rfl, h⟩
  | n + 1 => by
      intro s t hst
      rw [poll, poll]
      rcases ha : condition s with ⟨e | _ | _, s'⟩
      · obtain ⟨t', hb, hrel⟩ := hcond.run hst ha
        simp only [ha, hb]
        exact ⟨trivial, hrel⟩
      · obtain ⟨t', hb, hrel⟩ := hcond.run hst ha
        simp only [ha, hb, hR.now hrel]
        split
        · exact ⟨rfl, hrel⟩
        · exact lockstep_poll hR interval deadline late hcond n (hR.sleep _ hrel)
      · obtain ⟨t', hb, hrel⟩ := hcond.run hst ha
        simp only [ha, hb]
        exact ⟨trivial, hrel⟩

theorem lockstep_waitFor (hR : Synchronous R) (p : WaitPolicy) (reason : Option String)
    (timeout : Nat) (hcond : condition.Lockstep R condition') :
    (waitFor p reason timeout condition).Lockstep R (waitFor p reason timeout condition') := by
  refine .failingAs _ (Retry.lockstep_attempt hR _ fun tried s t hst => ?_)
  rw [round, round, hR.now hst]
  exact lockstep_poll hR _ _ _ hcond _ hst

theorem lockstep_untilDefault (hR : Synchronous R) (p : WaitPolicy) (reason : Option String)
    (hcond : condition.Lockstep R condition') :
    (untilDefault p reason condition).Lockstep R (untilDefault p reason condition') :=
  lockstep_waitFor hR p reason p.defaultTimeout hcond

end Wait

end Bindery
