import Bindery.Proofs.WaitCourse
import Mathlib.Order.Interval.Finset.Nat

/-!
# Bindery — Proofs — Wait time

How long a wait takes.  Its questions begin one after the other, each strictly later than the one
before and none after the timeout (`Timely`), so there are no more of them than the timeout has
moments.  A wait that fails by itself does so only once the timeout has passed (`Settles`), and what
comes after the last answer is one throttle interval at most.

Both facts go along the course of a wait: `Polls.timely` is the round, and `timely_of_retries` puts
the rounds together, whose deadlines all are the end of the wait.
-/

namespace Bindery.Wait

open Timed (now sleep)

variable {σ : Type} [Timed σ]

/-! ### Questions in time -/

/-- Questions of a wait that begins at `start`, each strictly later than the one before: none is
asked after `deadline`, nor after `finish`. -/
structure Timely (start deadline finish : Nat) (qs : List Question) : Prop where
  first : (qs.map Question.began).head? = some start
  increasing : (qs.map Question.began).Pairwise (· < ·)
  bounds : ∀ q ∈ qs, start ≤ q.began ∧ q.began ≤ deadline ∧ q.began ≤ finish

namespace Timely

variable {start deadline finish next last : Nat} {qs more : List Question}

theorem single {s t : σ} {answer : Except InteractionFault Bool} (hd : now s ≤ deadline)
    (ht : now s ≤ now t) : Timely (now s) deadline (now t) [.between s t answer] where
  first := rfl
  increasing := List.pairwise_singleton _ _
  bounds := by
    rintro q hq
    obtain rfl := List.mem_singleton.1 hq
    exact ⟨Nat.le_refl _, hd, ht⟩

theorem start_le_finish (h : Timely start deadline finish qs) : start ≤ finish := by
  obtain ⟨q, hq, rfl⟩ := List.mem_map.1 (List.mem_of_head? h.first)
  exact (h.bounds q hq).2.2

theorem prolong (h : Timely start deadline finish qs) (hlast : finish ≤ last) :
    Timely start deadline last qs where
  first := h.first
  increasing := h.increasing
  bounds := fun q hq => by
    have := h.bounds q hq
    omega

/-- Questions that begin after others ended. -/
theorem append (h : Timely start deadline finish qs) (hmore : Timely next deadline last more)
    (hnext : finish < next) : Timely start deadline last (qs ++ more) where
  first := by
    rw [List.map_append, List.head?_append, h.first]
    rfl
  increasing := by
    rw [List.map_append, List.pairwise_append]
    refine ⟨h.increasing, hmore.increasing, fun a ha b hb => ?_⟩
    obtain ⟨q, hq, rfl⟩ := List.mem_map.1 ha
    obtain ⟨q', hq', rfl⟩ := List.mem_map.1 hb
    have := (h.bounds q hq).2.2
    have := (hmore.bounds q' hq').1
    omega
  bounds := by
    have hstart := h.start_le_finish
    have hlast := hmore.start_le_finish
    intro q hq
    rcases List.mem_append.1 hq with hq | hq
    · have := h.bounds q hq
      omega
    · have := hmore.bounds q hq
      omega

/-- Strictly later questions are no more than the moments they can begin at. -/
theorem length_le (h : Timely start deadline finish qs) : qs.length ≤ deadline + 1 - start := by
  have hnodup : (qs.map Question.began).Nodup := h.increasing.imp Nat.ne_of_lt
  have hsub : (qs.map Question.began).toFinset ⊆ Finset.Icc start deadline := by
    intro n hn
    obtain ⟨q, hq, rfl⟩ := List.mem_map.1 (List.mem_toFinset.1 hn)
    exact Finset.mem_Icc.2 ⟨(h.bounds q hq).1, (h.bounds q hq).2.1⟩
  calc qs.length = (qs.map Question.began).toFinset.card := by
        rw [List.toFinset_card_of_nodup hnodup, List.length_map]
    _ ≤ (Finset.Icc start deadline).card := Finset.card_le_card hsub
    _ = deadline + 1 - start := Nat.card_Icc start deadline

end Timely

/-! ### How a wait ends -/

/-- How a round ends after its last answer: the deadline has passed where it was too late. -/
inductive RoundEnds (deadline finish : Nat) (late : InteractionFault) :
    Except InteractionFault Bool → Except InteractionFault Unit → Prop where
  | held : RoundEnds deadline finish late (.ok true) (.ok ())
  | failed (e : InteractionFault) : RoundEnds deadline finish late (.error e) (.error e)
  | late (h : deadline ≤ finish) : RoundEnds deadline finish late (.ok false) (.error late)

/-- How a wait ends after its last answer, some time after it began: well where the condition held,
with a failure of the condition that will not pass, and with a failure of its own otherwise, but
then the timeout has passed. -/
inductive Settles (reason : Option String) (timeout elapsed : Nat) :
    Except InteractionFault Bool → Except InteractionFault Unit → Prop where
  | held : Settles reason timeout elapsed (.ok true) (.ok ())
  | failed {e : InteractionFault} (he : e.isRetryable = false) :
      Settles reason timeout elapsed (.error e) (.error e)
  | late (h : timeout ≤ elapsed) :
      Settles reason timeout elapsed (.ok false)
        (.error (.timedOut (shownReason reason) (shownTimeout timeout) none))
  | spent {e : InteractionFault} (he : e.isRetryable = true) (h : timeout ≤ elapsed) :
      Settles reason timeout elapsed (.error e)
        (.error (.timedOut (shownReason reason) (shownTimeout timeout) (some e.message)))

/-! ### Along the course -/

variable {condition : Act σ InteractionFault Bool}

/-- The questions of a round are in time, and it ends with the last answer. -/
theorem Polls.timely {interval deadline : Nat} {late : InteractionFault} (hinterval : 1 ≤ interval)
    (hlast : deadline ≤ Clock.lastTick) (hclock : ∀ s, now s ≤ now (condition s).2) {s : σ}
    {qs : List Question} {out : Except InteractionFault Unit × σ}
    (h : Polls interval deadline late condition s qs out) (hs : now s ≤ deadline) :
    Timely (now s) deadline (now out.2) qs ∧ ∃ last, qs.getLast? = some last ∧
      last.ended = now out.2 ∧ RoundEnds deadline (now out.2) late last.answer out.1 := by
  have asked {s t : σ} {a : Except InteractionFault Bool} (h : condition s = (a, t)) :
      now s ≤ now t := by
    have hafter := hclock s
    rwa [h] at hafter
  induction h with
  | failed h => exact ⟨.single hs (asked h), _, rfl, rfl, .failed _⟩
  | held h => exact ⟨.single hs (asked h), _, rfl, rfl, .held⟩
  | late h hd => exact ⟨.single hs (asked h), _, rfl, rfl, .late hd⟩
  | @again s t qs out h hd rest ih =>
      have hnext := now_sleep_min interval hd hlast
      obtain ⟨hqs, last, hmem, hend⟩ := ih (by omega)
      refine ⟨.append (.single hs (asked h)) hqs (by omega), last, ?_, hend⟩
      rw [List.getLast?_cons, hmem]
      rfl

variable {p : WaitPolicy} {reason : Option String} {timeout started : Nat}

/-- The deadline of every round of a wait is the end of the wait. -/
theorem Round.timely (hlast : started + timeout ≤ Clock.lastTick)
    (hclock : ∀ s, now s ≤ now (condition s).2) {number : Nat} {s : σ} {qs : List Question}
    {out : Except InteractionFault Unit × σ}
    (h : Round p reason timeout condition
      (RetryPolicy.nth (.budgeted timeout p.throttle) started number s) s qs out)
    (hstart : started ≤ now s) (hs : now s ≤ started + timeout) :
    Timely (now s) (started + timeout) (now out.2) qs ∧ ∃ last, qs.getLast? = some last ∧
      last.ended = now out.2 ∧ RoundEnds (started + timeout) (now out.2)
        (.timedOut (shownReason reason) (shownTimeout timeout) none) last.answer out.1 := by
  have hdeadline : now s + (timeout - (now s - started)) = started + timeout := by omega
  have hpolls : Polls p.interval (now s + (timeout - (now s - started))) _ condition s qs out := h
  rw [hdeadline] at hpolls
  exact hpolls.timely (Nat.le_max_right _ _) hlast hclock hs

/-- The questions of a wait are in time.  It ends with the last answer or one throttle interval
later, and as that answer says. -/
theorem timely_of_retries (hthrottle : 1 ≤ p.throttle)
    (hlast : started + timeout ≤ Clock.lastTick) (hclock : ∀ s, now s ≤ now (condition s).2)
    {number : Nat} {s : σ} {qs : List Question} {out : Except InteractionFault Unit × σ}
    (h : Retry.Course (.budgeted timeout p.throttle) (Round p reason timeout condition) started
      number s qs out) (hstart : started ≤ now s) (hs : now s ≤ started + timeout) :
    Timely (now s) (started + timeout) (now out.2) qs ∧ ∃ last, qs.getLast? = some last ∧
      now out.2 ≤ last.ended + p.throttle ∧
      Settles reason timeout (now out.2 - started) last.answer (outcome reason timeout out.1) := by
  have budgeted {s : σ} : (RetryPolicy.budgeted timeout p.throttle).budgetUsed (now s - started) =
      decide (timeout ≤ now s - started) := RetryPolicy.budgetUsed_eq rfl _
  induction h with
  | done h =>
      obtain ⟨hqs, ⟨_, _, _⟩, hmem, hended, hround⟩ := Round.timely hlast hclock h hstart hs
      refine ⟨hqs, _, hmem, by omega, ?_⟩
      cases hround with
      | held => exact .held
  | @failed number s t qs e h he =>
      obtain ⟨hqs, ⟨_, _, _⟩, hmem, hended, hround⟩ := Round.timely hlast hclock h hstart hs
      -- there is no limit on the number of retries, so the failure is one that will not pass
      have hfinal : e.isRetryable = false := he.resolve_right fun hused => by cases hused
      refine ⟨hqs, _, hmem, by omega, ?_⟩
      rw [outcome, failure, if_neg (by simp [hfinal])]
      cases hround with
      | failed => exact .failed hfinal
      | late hd => exact .late (by omega)
  | @spent number s t qs e h he hn hb =>
      obtain ⟨hqs, ⟨_, _, _⟩, hmem, hended, hround⟩ := Round.timely hlast hclock h hstart hs
      have hpause := RetryPolicy.le_now_paused (.budgeted timeout p.throttle) t
      have hpaused := RetryPolicy.now_paused_le (.budgeted timeout p.throttle) t
      rw [budgeted, decide_eq_true_iff] at hb
      refine ⟨hqs.prolong hpause, _, hmem, ?_, ?_⟩
      · rw [hended]
        exact hpaused
      · rw [outcome, failure, if_pos he]
        cases hround with
        | failed => exact .spent he hb
        | late hd => cases he
  | @again number s t qs more e out h he hn hb rest ih =>
      obtain ⟨hqs, -⟩ := Round.timely hlast hclock h hstart hs
      rw [budgeted, decide_eq_false_iff_not] at hb
      have hlater : now t < now (RetryPolicy.paused (.budgeted timeout p.throttle) t) :=
        RetryPolicy.lt_now_paused hthrottle (by omega)
      have hbegan := hqs.start_le_finish
      simp only at hbegan
      obtain ⟨hmore, last, hmem, hend⟩ := ih (by omega) (by omega)
      refine ⟨hqs.append hmore hlater, last, ?_, hend⟩
      rw [List.getLast?_append, hmem]
      rfl

/-! ### Streams of answers -/

/-- An answer of a condition, and the time it takes. -/
structure Reply where
  answer : Except InteractionFault Bool
  takes : Nat

/-- The condition that gives the answers of a stream in their order.  Beside the clock it counts the
answers it gave. -/
def replying (replies : Nat → Reply) : Act (Nat × Nat) InteractionFault Bool := fun (time, n) =>
  ((replies n).answer, (Clock.after time (replies n).takes, n + 1))

/-- Questions that are answered by a stream, from its `n`-th answer on. -/
def Replied (replies : Nat → Reply) (n : Nat) (qs : List Question) : Prop :=
  ∀ i q, qs[i]? = some q → q.answer = (replies (n + i)).answer ∧
    q.ended = Clock.after q.began (replies (n + i)).takes

variable {replies : Nat → Reply}

theorem Replied.append {n : Nat} {qs more : List Question} (h : Replied replies n qs)
    (hmore : Replied replies (n + qs.length) more) : Replied replies n (qs ++ more) := by
  intro i q hq
  by_cases hi : i < qs.length
  · rw [List.getElem?_append_left hi] at hq
    exact h i q hq
  · rw [List.getElem?_append_right (by omega)] at hq
    have hindex : n + qs.length + (i - qs.length) = n + i := by omega
    exact hindex ▸ hmore _ q hq

theorem le_now_replying (replies : Nat → Reply) (s : Nat × Nat) :
    now s ≤ now (replying replies s).2 :=
  Clock.le_after _ _

theorem Polls.replied {interval deadline : Nat} {late : InteractionFault} {s : Nat × Nat}
    {qs : List Question} {out : Except InteractionFault Unit × Nat × Nat}
    (h : Polls interval deadline late (replying replies) s qs out) :
    Replied replies s.2 qs ∧ out.2.2 = s.2 + qs.length := by
  have asked {s t : Nat × Nat} {a : Except InteractionFault Bool}
      (h : replying replies s = (a, t)) :
      Replied replies s.2 [.between s t a] ∧ t.2 = s.2 + 1 := by
    cases h
    refine ⟨fun i q hq => ?_, rfl⟩
    obtain ⟨rfl, rfl⟩ : i = 0 ∧ _ = q := by simpa using List.getElem?_eq_some_iff.1 hq
    exact ⟨rfl, rfl⟩
  induction h with
  | failed h => exact asked h
  | held h => exact asked h
  | late h hd => exact asked h
  | @again s t qs out h hd rest ih =>
      obtain ⟨hq, hcount⟩ := asked h
      obtain ⟨hqs, hlast⟩ := ih
      -- the pause between the questions does not count
      have hpaused (pause : Nat) : (sleep pause t).2 = s.2 + 1 := hcount
      rw [hpaused] at hqs hlast
      refine ⟨hq.append hqs, ?_⟩
      rw [hlast, List.length_cons]
      omega

theorem replied_of_retries {p : RetryPolicy} {reason : Option String}
    {waits : WaitPolicy} {timeout started number : Nat} {s : Nat × Nat} {qs : List Question}
    {out : Except InteractionFault Unit × Nat × Nat}
    (h : Retry.Course p (Round waits reason timeout (replying replies)) started number s qs out) :
    Replied replies s.2 qs ∧ out.2.2 = s.2 + qs.length := by
  have hpaused (t : Nat × Nat) : (p.paused t).2 = t.2 := by
    unfold RetryPolicy.paused
    split <;> rfl
  induction h with
  | done h => exact Polls.replied h
  | failed h he => exact Polls.replied h
  | spent h he hn hb =>
      obtain ⟨hqs, hcount⟩ := Polls.replied h
      exact ⟨hqs, (hpaused _).trans hcount⟩
  | again h he hn hb rest ih =>
      obtain ⟨hqs, hcount⟩ := Polls.replied h
      obtain ⟨hmore, hlast⟩ := ih
      rw [hpaused, hcount] at hmore hlast
      refine ⟨hqs.append hmore, ?_⟩
      rw [hlast, List.length_append]
      omega

/-- **A wait ends in time.**  Whatever a condition answers, and however long its answers take, a
wait that begins at zero has a course, which is the one it takes.  The first question is asked at
once, each other one strictly later than the one before, and none after the timeout, so there is one
question more than the timeout has ticks at most.  The wait ends as its last answer says, and
if it fails by itself the timeout has passed; after the last answer it takes one throttle interval
at most. -/
theorem waitFor_in_time (p : WaitPolicy) (hthrottle : 1 ≤ p.throttle) (reason : Option String)
    (timeout : Nat) (htimeout : timeout < Retry.maxTries) (replies : Nat → Reply) :
    ∃ qs r elapsed,
      waitFor p reason timeout (replying replies) (0, 0) = (r, elapsed, qs.length) ∧
      Course p reason timeout (replying replies) (0, 0) qs (r, elapsed, qs.length) ∧
      Replied replies 0 qs ∧
      (qs.map Question.began).head? = some 0 ∧
      (qs.map Question.began).Pairwise (· < ·) ∧
      (∀ q ∈ qs, q.began ≤ timeout) ∧
      qs.length ≤ timeout + 1 ∧
      Settles reason timeout elapsed (replies (qs.length - 1)).answer r ∧
      elapsed ≤ timeout + (replies (qs.length - 1)).takes + p.throttle := by
  have hlast : 0 + timeout ≤ Clock.lastTick := by
    have : Retry.maxTries ≤ Clock.lastTick := by decide
    omega
  obtain ⟨qs, hcourse⟩ :=
    course_waitFor hthrottle reason htimeout (le_now_replying replies) (s := (0, 0)) hlast
  generalize hout : waitFor p reason timeout (replying replies) (0, 0) = out at hcourse
  cases hcourse with
  | @mk r t h =>
      obtain ⟨hreplied, hcount⟩ := replied_of_retries h
      obtain ⟨htimely, last, hmem, hended, hsettles⟩ := timely_of_retries hthrottle hlast
        (le_now_replying replies) h (Nat.le_refl _) (Nat.zero_le _)
      have hend : t = (t.1, qs.length) := Prod.ext rfl (hcount.trans (Nat.zero_add _))
      have hreply := hreplied (qs.length - 1) last (List.getLast?_eq_getElem? ▸ hmem)
      rw [Nat.zero_add] at hreply
      have hbegan := (htimely.bounds last (List.mem_of_getLast? hmem)).2.1
      have htakes := Clock.after_le last.began (replies (qs.length - 1)).takes
      refine ⟨qs, outcome reason timeout r, t.1, hend ▸ rfl, hend ▸ .mk h, hreplied, htimely.first,
        htimely.increasing, fun q hq => ?_, ?_, hreply.1 ▸ hsettles, ?_⟩
      · exact Nat.zero_add timeout ▸ (htimely.bounds q hq).2.1
      · exact Nat.zero_add timeout ▸ htimely.length_le
      · have : t.1 ≤ last.ended + p.throttle := hended
        omega

/-- Answers that are no, and then a failure that may pass, by turns. -/
def wavering (n : Nat) : Reply :=
  if n % 2 = 0 then ⟨.ok false, 10⟩ else ⟨.error (.browser (.stale "el-1")), 5⟩

/-- A wait of a hundred milliseconds whose last question fails when they have just passed: it takes
the longest that it can. -/
theorem wavering_in_time :
    waitFor ⟨1000, 40, 20⟩ none 100 (replying wavering) (0, 0) =
        (.error (.timedOut "condition" 100 (some "Driver error: stale element reference: el-1")),
          145, 4) ∧
      ∃ qs r elapsed,
        waitFor ⟨1000, 40, 20⟩ none 100 (replying wavering) (0, 0) = (r, elapsed, qs.length) ∧
        Course ⟨1000, 40, 20⟩ none 100 (replying wavering) (0, 0) qs (r, elapsed, qs.length) ∧
        Replied wavering 0 qs ∧
        (qs.map Question.began).head? = some 0 ∧
        (qs.map Question.began).Pairwise (· < ·) ∧
        (∀ q ∈ qs, q.began ≤ 100) ∧
        qs.length ≤ 100 + 1 ∧
        Settles none 100 elapsed (wavering (qs.length - 1)).answer r ∧
        elapsed ≤ 100 + (wavering (qs.length - 1)).takes + 40 :=
  ⟨rfl, waitFor_in_time ⟨1000, 40, 20⟩ (by decide) none 100 (by decide) wavering⟩

end Bindery.Wait
