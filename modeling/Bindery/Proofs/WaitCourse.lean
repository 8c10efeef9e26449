import Bindery.Proofs.Rounds

/-!
# Bindery — Proofs — Wait course

The course of a wait, spelled out.  `Polls` is one round: the condition is asked, and asked again
after a pause while it does not hold and the deadline lies ahead.  `Retry.Course` is trying again,
whatever a try leaves behind.  A wait is the second around the first (`Wait.Course`).  None of them
counts rounds: a course is a finite derivation, so what has a course ends.

The loops themselves carry counters.  Where time does not go back and the pauses are not empty the
counters never run out, as each round begins later than the one before and none begins past the end
of the wait; so the loops take their course (`polls_poll`, `Retry.course_run`, `course_waitFor`).
-/

namespace Bindery

variable {σ α β : Type} [Timed σ]

open Timed (now sleep)

theorem Clock.after_le (now pause : Nat) : after now pause ≤ now + pause := by
  unfold after
  omega

/-! ### Trying again -/

namespace RetryPolicy

/-- What an operation knows of a try that begins in some state. -/
def nth (p : RetryPolicy) (started number : Nat) (s : σ) : Try :=
  ⟨number, p.budget.map (· - (now s - started))⟩

/-- The state after the pause before another try. -/
def paused (p : RetryPolicy) (s : σ) : σ :=
  if p.backoff = 0 then s else sleep p.backoff s

/-- A pause that is not empty, and that ends within what a clock can show, takes time. -/
theorem lt_now_paused {p : RetryPolicy} {s : σ} (hback : 1 ≤ p.backoff)
    (h : now (p.paused s) < Clock.lastTick) : now s < now (p.paused s) := by
  have hpaused : p.paused s = sleep p.backoff s := if_neg (by omega)
  rw [hpaused, Timed.now_sleep, Clock.after] at h ⊢
  omega

theorem le_now_paused (p : RetryPolicy) (s : σ) : now s ≤ now (p.paused s) := by
  unfold paused
  split
  · exact Nat.le_refl _
  · rw [Timed.now_sleep]
    exact Clock.le_after _ _

theorem now_paused_le (p : RetryPolicy) (s : σ) : now (p.paused s) ≤ now s + p.backoff := by
  unfold paused
  split
  · omega
  · rw [Timed.now_sleep]
    exact Clock.after_le _ _

theorem budgetUsed_eq {p : RetryPolicy} {budget : Nat} (h : p.budget = some budget)
    (elapsed : Nat) : p.budgetUsed elapsed = decide (budget ≤ elapsed) := by
  rw [budgetUsed, h]
  rfl

end RetryPolicy

namespace Retry

/-- The course of trying again from a try with some number on: what the tries leave behind, one
after the other, and how they end.  `Tried` says what a single try leaves and how it ends. -/
inductive Course (p : RetryPolicy)
    (Tried : Try → σ → List β → Except InteractionFault α × σ → Prop) (started : Nat) :
    Nat → σ → List β → Except InteractionFault α × σ → Prop where
  /-- A try succeeds. -/
  | done {number : Nat} {s t : σ} {l : List β} {a : α}
      (h : Tried (p.nth started number s) s l (.ok a, t)) :
      Course p Tried started number s l (.ok a, t)
  /-- A try fails for good, or no retry is left after it. -/
  | failed {number : Nat} {s t : σ} {l : List β} {e : InteractionFault}
      (h : Tried (p.nth started number s) s l (.error e, t))
      (he : e.isRetryable = false ∨ p.retriesUsed number = true) :
      Course p Tried started number s l (.error e, t)
  /-- The budget is used up after a try and the pause that follows it. -/
  | spent {number : Nat} {s t : σ} {l : List β} {e : InteractionFault}
      (h : Tried (p.nth started number s) s l (.error e, t)) (he : e.isRetryable = true)
      (hn : p.retriesUsed number = false)
      (hb : p.budgetUsed (now (p.paused t) - started) = true) :
      Course p Tried started number s l (.error e, p.paused t)
  /-- Another try follows. -/
  | again {number : Nat} {s t : σ} {l m : List β} {e : InteractionFault}
      {out : Except InteractionFault α × σ}
      (h : Tried (p.nth started number s) s l (.error e, t)) (he : e.isRetryable = true)
      (hn : p.retriesUsed number = false)
      (hb : p.budgetUsed (now (p.paused t) - started) = false)
      (rest : Course p Tried started (number + 1) (p.paused t) m out) :
      Course p Tried started number s (l ++ m) out

theorem run_succ (p : RetryPolicy) (op : Try → Act σ InteractionFault α)
    (started n number : Nat) (s : σ) :
    run p op started (n + 1) number s =
      match op (p.nth started number s) s with
      | (.ok a, t) => (.ok a, t)
      | (.error e, t) =>
        if !e.isRetryable || p.retriesUsed number then (.error e, t)
        else if p.budgetUsed (now (p.paused t) - started) then (.error e, p.paused t)
        else run p op started n (number + 1) (p.paused t) := rfl

section Step

variable {p : RetryPolicy} {op : Try → Act σ InteractionFault α} {started n number : Nat} {s t : σ}
  {e : InteractionFault}

theorem run_done {a : α} (h : op (p.nth started number s) s = (.ok a, t)) :
    run p op started (n + 1) number s = (.ok a, t) := by
  rw [run_succ, h]

theorem run_failed (h : op (p.nth started number s) s = (.error e, t))
    (he : e.isRetryable = false ∨ p.retriesUsed number = true) :
    run p op started (n + 1) number s = (.error e, t) := by
  rw [run_succ, h]
  rcases he with he | hu
  · simp [he]
  · simp [hu]

theorem run_spent (h : op (p.nth started number s) s = (.error e, t)) (he : e.isRetryable = true)
    (hu : p.retriesUsed number = false)
    (hb : p.budgetUsed (now (p.paused t) - started) = true) :
    run p op started (n + 1) number s = (.error e, p.paused t) := by
  rw [run_succ, h]
  simp [he, hu, hb]

theorem run_again (h : op (p.nth started number s) s = (.error e, t)) (he : e.isRetryable = true)
    (hu : p.retriesUsed number = false)
    (hb : p.budgetUsed (now (p.paused t) - started) = false) :
    run p op started (n + 1) number s = run p op started n (number + 1) (p.paused t) := by
  rw [run_succ, h]
  simp [he, hu, hb]

/-- A try takes its course, if another one that follows it does. -/
theorem course_step {Tried : Try → σ → List β → Except InteractionFault α × σ → Prop} {l : List β}
    (hl : Tried (p.nth started number s) s l (op (p.nth started number s) s))
    (hagain : ∀ {e t}, op (p.nth started number s) s = (.error e, t) → e.isRetryable = true →
      p.retriesUsed number = false → p.budgetUsed (now (p.paused t) - started) = false →
      ∃ m, Course p Tried started (number + 1) (p.paused t) m
        (run p op started n (number + 1) (p.paused t))) :
    ∃ l, Course p Tried started number s l (run p op started (n + 1) number s) := by
  rcases h : op (p.nth started number s) s with ⟨e | a, t⟩ <;> rw [h] at hl
  · cases he : e.isRetryable with
    | false => exact ⟨l, run_failed h (.inl he) ▸ .failed hl (.inl he)⟩
    | true =>
        cases hu : p.retriesUsed number with
        | true => exact ⟨l, run_failed h (.inr hu) ▸ .failed hl (.inr hu)⟩
        | false =>
            cases hb : p.budgetUsed (now (p.paused t) - started) with
            | true => exact ⟨l, run_spent h he hu hb ▸ .spent hl he hu hb⟩
            | false =>
                obtain ⟨m, hm⟩ := hagain h he hu hb
                exact ⟨l ++ m, run_again h he hu hb ▸ .again hl he hu hb hm⟩
  · exact ⟨l, run_done h ▸ .done hl⟩

end Step

/-- Trying again within a budget takes its course, if a count is left for every moment of the
budget: each try begins later than the one before. -/
theorem course_run {p : RetryPolicy} {budget started : Nat} (hbudget : p.budget = some budget)
    (hback : 1 ≤ p.backoff) (hlast : started + budget ≤ Clock.lastTick)
    {Tried : Try → σ → List β → Except InteractionFault α × σ → Prop}
    {op : Try → Act σ InteractionFault α}
    (hop : ∀ number s, started ≤ now s → now s ≤ started + budget →
      ∃ l, Tried (p.nth started number s) s l (op (p.nth started number s) s))
    (hclock : ∀ t s, now s ≤ now (op t s).2) :
    ∀ n number s, started ≤ now s → now s ≤ started + budget → started + budget < now s + n →
      ∃ l, Course p Tried started number s l (run p op started n number s)
  | 0, _, _, _, hs, hn => by omega
  | n + 1, number, s, hstart, hs, hn => by
      obtain ⟨l, hl⟩ := hop number s hstart hs
      refine course_step hl fun {e t} hrun _ _ hb => ?_
      have hafter : now s ≤ now t := by
        have hle := hclock (p.nth started number s) s
        rwa [hrun] at hle
      rw [RetryPolicy.budgetUsed_eq hbudget, decide_eq_false_iff_not] at hb
      have hlater : now t < now (p.paused t) := RetryPolicy.lt_now_paused hback (by omega)
      exact course_run hbudget hback hlast hop hclock n (number + 1) (p.paused t) (by omega)
        (by omega) (by omega)

end Retry

/-! ### Asking -/

/-- A question of a wait: when it was asked, what the answer was, and when it came. -/
structure Question where
  began : Nat
  answer : Except InteractionFault Bool
  ended : Nat

/-- The question that was asked in one state and answered in another. -/
def Question.between (s t : σ) (answer : Except InteractionFault Bool) : Question :=
  ⟨now s, answer, now t⟩

namespace Wait

/-- One round of a wait: the questions that are asked in it, and how it ends. -/
inductive Polls (interval deadline : Nat) (late : InteractionFault)
    (condition : Act σ InteractionFault Bool) :
    σ → List Question → Except InteractionFault Unit × σ → Prop where
  /-- The question fails. -/
  | failed {s t : σ} {e : InteractionFault} (h : condition s = (.error e, t)) :
      Polls interval deadline late condition s [.between s t (.error e)] (.error e, t)
  /-- The condition holds. -/
  | held {s t : σ} (h : condition s = (.ok true, t)) :
      Polls interval deadline late condition s [.between s t (.ok true)] (.ok (), t)
  /-- The condition does not hold, and the deadline has passed. -/
  | late {s t : σ} (h : condition s = (.ok false, t)) (hd : deadline ≤ now t) :
      Polls interval deadline late condition s [.between s t (.ok false)] (.error late, t)
  /-- The condition does not hold yet, and is asked again after a pause that ends with the deadline
  at the latest. -/
  | again {s t : σ} {qs : List Question} {out : Except InteractionFault Unit × σ}
      (h : condition s = (.ok false, t)) (hd : now t < deadline)
      (rest : Polls interval deadline late condition (sleep (min interval (deadline - now t)) t)
        qs out) :
      Polls interval deadline late condition s (.between s t (.ok false) :: qs) out

/-- The pause between two questions ends when it says, if a clock can show the deadline. -/
theorem now_sleep_min (interval : Nat) {deadline : Nat} {t : σ} (hd : now t < deadline)
    (hlast : deadline ≤ Clock.lastTick) :
    now (sleep (min interval (deadline - now t)) t) = now t + min interval (deadline - now t) := by
  rw [Timed.now_sleep, Clock.after_of_le (by omega)]

theorem poll_succ (interval deadline : Nat) (late : InteractionFault)
    (condition : Act σ InteractionFault Bool) (n : Nat) (s : σ) :
    poll interval deadline late condition (n + 1) s =
      match condition s with
      | (.error e, t) => (.error e, t)
      | (.ok true, t) => (.ok (), t)
      | (.ok false, t) =>
        if deadline ≤ now t then (.error late, t)
        else poll interval deadline late condition n (sleep (min interval (deadline - now t)) t) :=
  rfl

/-- A round takes its course, if a count is left for every moment up to the deadline. -/
theorem polls_poll {interval deadline : Nat} {late : InteractionFault}
    {condition : Act σ InteractionFault Bool} (hinterval : 1 ≤ interval)
    (hlast : deadline ≤ Clock.lastTick) (hclock : ∀ s, now s ≤ now (condition s).2) :
    ∀ n s, now s ≤ deadline → deadline < now s + n →
      ∃ qs, Polls interval deadline late condition s qs
        (poll interval deadline late condition n s)
  | 0, _, hs, hn => by omega
  | n + 1, s, hs, hn => by
      have hafter := hclock s
      rw [poll_succ]
      rcases e : condition s with ⟨f | _ | _, t⟩
      · exact ⟨_, .failed e⟩
      · rw [e] at hafter
        simp only at hafter
        by_cases hd : deadline ≤ now t
        · exact ⟨_, by simpa only [if_pos hd] using .late e hd⟩
        · have hnext := now_sleep_min interval (by omega : now t < deadline) hlast
          obtain ⟨qs, hqs⟩ := polls_poll hinterval hlast hclock n
            (sleep (min interval (deadline - now t)) t) (by omega) (by omega)
          exact ⟨_, by simpa only [if_neg hd] using .again e (by omega) hqs⟩
      · exact ⟨_, .held e⟩

/-- What a wait fails with, where trying again ended in `r`. -/
def outcome (reason : Option String) (timeout : Nat) :
    Except InteractionFault Unit → Except InteractionFault Unit
  | .ok () => .ok ()
  | .error e => .error (failure reason timeout e)

/-- A wait is over as trying its rounds again is. -/
theorem waitFor_run (p : WaitPolicy) (reason : Option String) (timeout : Nat)
    (condition : Act σ InteractionFault Bool) (s : σ) :
    waitFor p reason timeout condition s =
      (outcome reason timeout (Retry.attempt (.budgeted timeout p.throttle)
          (round p reason timeout condition) s).1,
        (Retry.attempt (.budgeted timeout p.throttle) (round p reason timeout condition) s).2) := by
  rw [waitFor, Act.failingAs]
  rcases Retry.attempt (.budgeted timeout p.throttle) (round p reason timeout condition) s with
    ⟨_ | ⟨⟩, _⟩ <;> rfl

/-- A round of a wait, as what a try of it leaves behind. -/
def Round (p : WaitPolicy) (reason : Option String) (timeout : Nat)
    (condition : Act σ InteractionFault Bool) (t : Try) (s : σ) (qs : List Question)
    (out : Except InteractionFault Unit × σ) : Prop :=
  Polls p.interval (now s + t.remaining.getD timeout)
    (.timedOut (shownReason reason) (shownTimeout timeout) none) condition s qs out

/-- The course of a wait: all the questions that are asked, and how it ends. -/
inductive Course (p : WaitPolicy) (reason : Option String) (timeout : Nat)
    (condition : Act σ InteractionFault Bool) (s : σ) :
    List Question → Except InteractionFault Unit × σ → Prop where
  | mk {qs : List Question} {r : Except InteractionFault Unit} {t : σ}
      (h : Retry.Course (.budgeted timeout p.throttle) (Round p reason timeout condition) (now s) 1
        s qs (r, t)) : Course p reason timeout condition s qs (outcome reason timeout r, t)

/-- Asking in rounds never turns the clock back. -/
theorem le_now_round {condition : Act σ InteractionFault Bool}
    (hclock : ∀ s, now s ≤ now (condition s).2) (p : WaitPolicy) (reason : Option String)
    (timeout : Nat) (t : Try) (s : σ) : now s ≤ now (round p reason timeout condition t s).2 := by
  let later (s t : σ) : Prop := now s ≤ now t
  have hcond : condition.Within (.ofRelation later (fun _ => Nat.le_refl _)
      fun _ _ _ h₁ h₂ => Nat.le_trans h₁ h₂) := Act.Within.ofRelation_iff.2 hclock
  have hsleep (pause : Nat) (s : σ) : later s (sleep pause s) := by
    show now s ≤ now (sleep pause s)
    rw [Timed.now_sleep]
    exact Clock.le_after _ _
  exact Act.Within.ofRelation_iff.1 (within_poll hsleep _ _ _ hcond _) s

/-- A wait takes its course, if a clock can show its end and no count runs out before it. -/
theorem course_waitFor {p : WaitPolicy} (hthrottle : 1 ≤ p.throttle) (reason : Option String)
    {timeout : Nat} (htimeout : timeout < Retry.maxTries) {condition : Act σ InteractionFault Bool}
    (hclock : ∀ s, now s ≤ now (condition s).2) {s : σ} (hlast : now s + timeout ≤ Clock.lastTick) :
    ∃ qs, Course p reason timeout condition s qs (waitFor p reason timeout condition s) := by
  have hop (number : Nat) (s' : σ) (hstart : now s ≤ now s') (hend : now s' ≤ now s + timeout) :
      ∃ qs, Round p reason timeout condition
        (RetryPolicy.nth (.budgeted timeout p.throttle) (now s) number s') s' qs
        (round p reason timeout condition
          (RetryPolicy.nth (.budgeted timeout p.throttle) (now s) number s') s') := by
    -- the deadline of every round is the end of the wait
    have hremaining : now s' + (timeout - (now s' - now s)) = now s + timeout := by omega
    refine polls_poll (Nat.le_max_right _ _) ?_ hclock _ s' (Nat.le_add_right _ _) ?_
    · exact hremaining ▸ hlast
    · exact Nat.lt_succ_self _
  obtain ⟨qs, hqs⟩ := Retry.course_run (p := .budgeted timeout p.throttle) rfl hthrottle hlast hop
    (le_now_round hclock p reason timeout) Retry.maxTries 1 s (Nat.le_refl _) (by omega) (by omega)
  exact ⟨qs, waitFor_run p reason timeout condition s ▸ .mk hqs⟩

end Wait

end Bindery
