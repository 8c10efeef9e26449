import Bindery.Proofs.WaitCourse
import Mathlib.Data.Nat.Find
import Mathlib.Tactic.ByContra

/-!
# Bindery — Proofs — Limits

How trying again meets its limits.  In a trial every try has its outcome and its duration laid down,
so the times at which tries begin and end can be told beforehand (`Trial.begins`, `Trial.ends`), and
which try is the first that no other follows (`Trial.Stops`): it succeeds, fails for good or uses up
the retries, and that is the end (`Trial.Final`), or the budget is used up after the pause that
follows it.  The loop makes the tries up to that one and no more (`Trial.run_serving`).

Tries are counted from zero here, and numbered from one where the operation is told of them.
-/

namespace Bindery

open Timed (now sleep)

theorem Clock.after_zero (now : Nat) : after now 0 = now := by
  unfold after
  omega

namespace Retry

variable {α : Type}

/-- How a try ends, and the time it takes. -/
structure Outcome (α : Type) where
  answer : Except InteractionFault α
  takes : Nat

/-- A try that was made: what the operation was told of it, and when it began. -/
structure Attempt where
  given : Try
  began : Nat
deriving DecidableEq, Repr

/-- The operation that ends as a stream says, one outcome after the other.  Beside the clock it
keeps a log of its tries. -/
def serving (outcomes : Nat → Outcome α) :
    Try → Act (Nat × List Attempt) InteractionFault α := fun t (time, log) =>
  let o := outcomes log.length
  (o.answer, Clock.after time o.takes, log ++ [⟨t, time⟩])

/-- Trying again from some time on, with the outcome of every try. -/
structure Trial (α : Type) where
  policy : RetryPolicy
  outcomes : Nat → Outcome α
  started : Nat

namespace Trial

variable (x : Trial α)

/-- When a try begins: the first one at once, each other one after the pause that follows the one
before. -/
def begins : Nat → Nat
  | 0 => x.started
  | k + 1 => Clock.after (Clock.after (begins k) (x.outcomes k).takes) x.policy.backoff

/-- When a try ends. -/
def ends (k : Nat) : Nat := Clock.after (x.begins k) (x.outcomes k).takes

/-- A try as it is made: its number, and what is left of the budget when it begins. -/
def made (k : Nat) : Attempt :=
  ⟨⟨k + 1, x.policy.budget.map (· - (x.begins k - x.started))⟩, x.begins k⟩

/-- A try is the end, without a pause: it succeeds, fails for good or uses up the retries. -/
inductive Final (k : Nat) : Prop where
  | done {a : α} (h : (x.outcomes k).answer = .ok a)
  | failed {e : InteractionFault} (h : (x.outcomes k).answer = .error e)
      (he : e.isRetryable = false)
  | used (h : x.policy.maxRetries = some k)

/-- No other try follows one: it is the end, or it fails in a way that may pass and the budget is
used up once the pause after it is over. -/
inductive Stops (k : Nat) : Prop where
  | final (h : x.Final k)
  | spent {e : InteractionFault} {budget : Nat} (h : (x.outcomes k).answer = .error e)
      (he : e.isRetryable = true) (hbudget : x.policy.budget = some budget)
      (hspent : budget ≤ x.begins (k + 1) - x.started)

/-- When it is over after some try: with it, where it is the end, and after the pause that follows
it otherwise. -/
inductive Finishes (n : Nat) : Nat → Prop where
  | atOnce (h : x.Final n) : Finishes n (x.ends n)
  | later (h : ¬ x.Final n) : Finishes n (x.begins (n + 1))

variable {x} {k n : Nat} {log : List Attempt}

/-! ### Times -/

theorem ends_le (k : Nat) : x.ends k ≤ x.begins k + (x.outcomes k).takes :=
  Clock.after_le _ _

theorem begins_succ_le (k : Nat) : x.begins (k + 1) ≤ x.ends k + x.policy.backoff :=
  Clock.after_le _ _

/-- The pause after a try takes the clock to the beginning of the next one. -/
theorem paused_ends (k : Nat) (log : List Attempt) :
    x.policy.paused (x.ends k, log) = (x.begins (k + 1), log) := by
  show x.policy.paused _ = (Clock.after (x.ends k) x.policy.backoff, log)
  unfold RetryPolicy.paused
  split
  next h => rw [h, Clock.after_zero]
  next => rfl

/-! ### One try -/

theorem serving_begins (x : Trial α) (hlog : log.length = k) :
    serving x.outcomes (x.policy.nth x.started (k + 1) (x.begins k, log)) (x.begins k, log) =
      ((x.outcomes k).answer, x.ends k, log ++ [x.made k]) := by
  subst hlog
  rfl

/-- The retries are not used up by a try if their number is not that of this one or one before. -/
theorem retriesUsed_eq_false (h : ∀ j ≤ k, x.policy.maxRetries ≠ some j) :
    x.policy.retriesUsed (k + 1) = false := by
  rw [RetryPolicy.retriesUsed, Option.any_eq_false]
  intro m hm
  have hlater : ¬ m ≤ k := fun hle => h m hle hm
  simpa using hlater

/-- A try that another one follows fails in a way that may pass, within the budget. -/
theorem passes_of_not_stops (h : ¬ x.Stops k) :
    ∃ e, (x.outcomes k).answer = .error e ∧ e.isRetryable = true ∧
      ∀ budget, x.policy.budget = some budget → x.begins (k + 1) - x.started < budget := by
  cases hanswer : (x.outcomes k).answer with
  | ok a => exact absurd (.final (.done hanswer)) h
  | error e =>
      cases he : e.isRetryable with
      | false => exact absurd (.final (.failed hanswer he)) h
      | true =>
          refine ⟨e, rfl, he, fun budget hbudget => ?_⟩
          by_contra hspent
          exact h (.spent hanswer he hbudget (by omega))

theorem run_more (hlog : log.length = k) (h : ∀ j ≤ k, ¬ x.Stops j) (fuel : Nat) :
    run x.policy (serving x.outcomes) x.started (fuel + 1) (k + 1) (x.begins k, log) =
      run x.policy (serving x.outcomes) x.started fuel (k + 2)
        (x.begins (k + 1), log ++ [x.made k]) := by
  obtain ⟨e, hanswer, he, hleft⟩ := passes_of_not_stops (h k (Nat.le_refl _))
  have hrun := x.serving_begins hlog
  rw [hanswer] at hrun
  have hretries : x.policy.retriesUsed (k + 1) = false :=
    retriesUsed_eq_false fun j hj hused => h j hj (.final (.used hused))
  have hbudget : x.policy.budgetUsed (x.begins (k + 1) - x.started) = false := by
    rw [RetryPolicy.budgetUsed, Option.any_eq_false]
    intro budget hbudget
    have hlt := hleft budget hbudget
    simpa using hlt
  rw [← paused_ends k (log ++ [x.made k])]
  refine run_again hrun he hretries ?_
  rw [paused_ends]
  exact hbudget

theorem run_last (hlog : log.length = n) (hn : x.Stops n) (hfirst : ∀ k < n, ¬ x.Stops k)
    (fuel : Nat) :
    ∃ finish, x.Finishes n finish ∧
      run x.policy (serving x.outcomes) x.started (fuel + 1) (n + 1) (x.begins n, log) =
        ((x.outcomes n).answer, finish, log ++ [x.made n]) := by
  have hrun := x.serving_begins hlog
  by_cases hfinal : x.Final n
  · -- no pause is made, so it is over when the try is
    refine ⟨_, .atOnce hfinal, ?_⟩
    cases hanswer : (x.outcomes n).answer with
    | ok a =>
        rw [hanswer] at hrun
        exact run_done hrun
    | error e =>
        rw [hanswer] at hrun
        refine run_failed hrun ?_
        cases hfinal with
        | done h => rw [h] at hanswer; cases hanswer
        | failed h he =>
            rw [h] at hanswer
            cases hanswer
            exact .inl he
        | used h => exact .inr (by simp [RetryPolicy.retriesUsed, h])
  · refine ⟨_, .later hfinal, ?_⟩
    cases hn with
    | final h => exact absurd h hfinal
    | @spent e budget h he hbudget hspent =>
        rw [h] at hrun ⊢
        have hretries : x.policy.retriesUsed (n + 1) = false := by
          refine retriesUsed_eq_false fun j hj hused => ?_
          rcases Nat.lt_or_eq_of_le hj with hlt | rfl
          · exact hfirst j hlt (.final (.used hused))
          · exact hfinal (.used hused)
        rw [← paused_ends n (log ++ [x.made n])]
        refine run_spent hrun he hretries ?_
        rw [paused_ends, RetryPolicy.budgetUsed_eq hbudget, decide_eq_true_iff]
        exact hspent

/-! ### All tries -/

/-- The tries from some number on, if a count is left for each of them. -/
theorem run_serving (hn : x.Stops n) (hfirst : ∀ k < n, ¬ x.Stops k) :
    ∀ left k log fuel, k + left = n → left < fuel → log.length = k →
      ∃ finish, x.Finishes n finish ∧
        run x.policy (serving x.outcomes) x.started fuel (k + 1) (x.begins k, log) =
          ((x.outcomes n).answer, finish, log ++ (List.range' k (left + 1)).map x.made)
  | _, _, _, 0, _, hfuel, _ => absurd hfuel (Nat.not_lt_zero _)
  | 0, k, log, fuel + 1, hk, _, hlog => by
      obtain rfl : k = n := hk
      exact run_last hlog hn hfirst fuel
  | left + 1, k, log, fuel + 1, hk, hfuel, hlog => by
      rw [run_more hlog (fun j hj => hfirst j (by omega)) fuel]
      obtain ⟨finish, hfinish, hrun⟩ := run_serving hn hfirst left (k + 1)
        (log ++ [x.made k]) fuel (by omega) (by omega) (by simp [hlog])
      have hrange : List.range' k (left + 1 + 1) = k :: List.range' (k + 1) (left + 1) := rfl
      refine ⟨finish, hfinish, ?_⟩
      rw [hrun, hrange, List.map_cons, List.append_assoc, List.singleton_append]

/-- The numbers of the tries, from one on. -/
theorem numbers_made (n : Nat) :
    (((List.range' 0 (n + 1)).map x.made).map (·.given.number)) = List.range' 1 (n + 1) := by
  have hnumber : ((·.given.number) ∘ x.made) = (1 + ·) := funext fun k => Nat.add_comm k 1
  rw [List.map_map, hnumber, List.map_add_range']

theorem of_getElem?_made {a : Attempt}
    (h : ((List.range' 0 (n + 1)).map x.made)[k]? = some a) : k ≤ n ∧ a = x.made k := by
  obtain ⟨hk, rfl⟩ := List.getElem?_eq_some_iff.1 h
  rw [List.length_map, List.length_range'] at hk
  refine ⟨by omega, ?_⟩
  rw [List.getElem_map, List.getElem_range', Nat.zero_add, Nat.one_mul]

/-- With a budget, trying again is over in time. -/
theorem Finishes.le {budget finish : Nat} (h : x.Finishes n finish)
    (hfirst : ∀ k < n, ¬ x.Stops k) (hbudget : x.policy.budget = some budget) :
    finish ≤ x.started + budget + (x.outcomes n).takes + x.policy.backoff := by
  have hbegins : x.begins n ≤ x.started + budget := by
    cases n with
    | zero => exact Nat.le_add_right _ _
    | succ k =>
        obtain ⟨-, -, -, hleft⟩ := passes_of_not_stops (hfirst k (Nat.lt_succ_self k))
        have hlt := hleft budget hbudget
        omega
  have hends := x.ends_le n
  have hnext := x.begins_succ_le n
  cases h with
  | atOnce => omega
  | later => omega

end Trial

/-- **Trying again obeys both limits.**  Take a trial with a try that no other follows, among those
that can be counted.  Then the loop makes the tries up to the first such try, numbered from one, and
ends as that one does; the tries before it failed in a way that may pass.  Each try is told what is
left of the budget, and each but the first begins before the budget is used up.  There is no pause
after a try that succeeds, that fails for good or that uses up the retries.  With a budget the whole
takes no longer than the budget, the last try and one pause. -/
theorem attempt_obeys_limits (x : Trial α) (h : ∃ k < maxTries, x.Stops k) :
    ∃ n finish log,
      attempt x.policy (serving x.outcomes) (x.started, []) =
        ((x.outcomes n).answer, finish, log) ∧
      x.Stops n ∧ (∀ k < n, ¬ x.Stops k) ∧
      log.map (·.given.number) = List.range' 1 (n + 1) ∧
      (∀ k < n, ∃ e, (x.outcomes k).answer = .error e ∧ e.isRetryable = true) ∧
      (∀ k a, log[k]? = some a → a.began = x.begins k ∧
        a.given.remaining = x.policy.budget.map (· - (a.began - x.started)) ∧
        (0 < k → ∀ budget, x.policy.budget = some budget → a.began - x.started < budget)) ∧
      x.Finishes n finish ∧
      ∀ budget, x.policy.budget = some budget →
        finish - x.started ≤ budget + (x.outcomes n).takes + x.policy.backoff := by
  classical
  obtain ⟨k, hk, hstops⟩ := h
  have hexists : ∃ n, x.Stops n := ⟨k, hstops⟩
  have hn := Nat.find_spec hexists
  have hfirst : ∀ k < Nat.find hexists, ¬ x.Stops k := fun _ hlt => Nat.find_min hexists hlt
  have hle : Nat.find hexists ≤ k := Nat.find_min' hexists hstops
  generalize Nat.find hexists = n at hn hfirst hle
  obtain ⟨finish, hfinish, hrun⟩ :=
    Trial.run_serving hn hfirst n 0 [] maxTries (Nat.zero_add n) (by omega) rfl
  refine ⟨n, finish, _, hrun, hn, hfirst, ?_, fun k hlt => ?_, fun k a ha => ?_, hfinish, ?_⟩
  · exact Trial.numbers_made n
  · obtain ⟨e, hanswer, he, -⟩ := Trial.passes_of_not_stops (hfirst k hlt)
    exact ⟨e, hanswer, he⟩
  · obtain ⟨hk, rfl⟩ := Trial.of_getElem?_made ha
    refine ⟨rfl, rfl, fun hpos budget hbudget => ?_⟩
    obtain ⟨j, rfl⟩ := Nat.exists_eq_succ_of_ne_zero (Nat.ne_of_gt hpos)
    obtain ⟨-, -, -, hleft⟩ := Trial.passes_of_not_stops (hfirst j (by omega))
    exact hleft budget hbudget
  · intro budget hbudget
    have hlast := hfinish.le hfirst hbudget
    omega

/-- An element that is stale whenever it is tried, for a tenth of a second each time. -/
def stale : Trial Unit :=
  ⟨⟨some 5, some 1000, 300⟩, fun _ => ⟨.error (.browser (.stale "el-1")), 100⟩, 50⟩

/-- The third try begins 800 milliseconds after the first.  It fails within the budget of a second,
but the pause that follows it does not end within it, so two of the retries are not made. -/
theorem stale_spent :
    attempt stale.policy (serving stale.outcomes) (50, []) =
        (.error (.browser (.stale "el-1")), 1250,
          [⟨⟨1, some 1000⟩, 50⟩, ⟨⟨2, some 600⟩, 450⟩, ⟨⟨3, some 200⟩, 850⟩]) ∧
      stale.Stops 2 ∧ 2 < maxTries ∧
      ∃ n finish log,
        attempt stale.policy (serving stale.outcomes) (stale.started, []) =
          ((stale.outcomes n).answer, finish, log) ∧
        stale.Stops n ∧ (∀ k < n, ¬ stale.Stops k) ∧
        log.map (·.given.number) = List.range' 1 (n + 1) ∧
        (∀ k < n, ∃ e, (stale.outcomes k).answer = .error e ∧ e.isRetryable = true) ∧
        (∀ k a, log[k]? = some a → a.began = stale.begins k ∧
          a.given.remaining = stale.policy.budget.map (· - (a.began - stale.started)) ∧
          (0 < k → ∀ budget, stale.policy.budget = some budget →
            a.began - stale.started < budget)) ∧
        stale.Finishes n finish ∧
        ∀ budget, stale.policy.budget = some budget →
          finish - stale.started ≤ budget + (stale.outcomes n).takes + stale.policy.backoff := by
  have hstops : stale.Stops 2 := .spent rfl rfl rfl (by decide)
  have hcount : 2 < maxTries := by decide
  exact ⟨rfl, hstops, hcount, attempt_obeys_limits stale ⟨2, hcount, hstops⟩⟩

end Retry

end Bindery
