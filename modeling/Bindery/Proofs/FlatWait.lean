import Bindery.Proofs.WaitTime

/-!
# Bindery — Proofs — Flat wait

A wait as a single loop.  `Flat` asks the condition, and decides after each answer alone whether the
wait is over or how long it pauses; the deadline is fixed from the start.  The rounds of a wait and
the tries around them come to the same (`flat_iff_course`): what is left of the budget when a round
begins puts its deadline at the end of the wait, whichever round it is (`Round.polls`).

The loops that run count their rounds.  Where a clock can show the end of the wait the counter of a
round never runs out, and the one of the tries only where so many of them failed
(`Retry.course_of_run`, `Retry.run_of_course`).  To say which questions were asked, `noting` keeps
them beside the state.
-/

namespace Bindery

variable {σ α β : Type} [Timed σ]

open Timed (now sleep)

/-! ### Tries that are counted -/

namespace Retry

variable {p : RetryPolicy} {started : Nat}
  {Tried : Try → σ → List β → Except InteractionFault α × σ → Prop}
  {op : Try → Act σ InteractionFault α} {InTime : σ → Prop}

/-- Trying again takes its course, unless the count of the tries runs out. -/
theorem course_of_run
    (hop : ∀ number s, InTime s →
      ∃ l, Tried (p.nth started number s) s l (op (p.nth started number s) s))
    (hnext : ∀ {number s e t}, InTime s → op (p.nth started number s) s = (.error e, t) →
      p.budgetUsed (now (p.paused t) - started) = false → InTime (p.paused t)) :
    ∀ n number s, InTime s → (run p op started n number s).1 ≠ .error uncounted →
      ∃ l, Course p Tried started number s l (run p op started n number s)
  | 0, _, _, _, hcount => absurd rfl hcount
  | n + 1, number, s, hs, hcount => by
      obtain ⟨l, hl⟩ := hop number s hs
      refine course_step hl fun hrun he hu hb => ?_
      rw [run_again hrun he hu hb] at hcount
      exact course_of_run hop hnext n (number + 1) _ (hnext hs hrun hb) hcount

/-- Trying again ends as its course does, if a count is left for each try that failed in a way that
may pass. -/
theorem run_of_course {isFailure : β → Bool}
    (hop : ∀ {number s l out}, InTime s → Tried (p.nth started number s) s l out →
      op (p.nth started number s) s = out)
    (hnext : ∀ {number s l e t}, InTime s → Tried (p.nth started number s) s l (.error e, t) →
      p.budgetUsed (now (p.paused t) - started) = false → InTime (p.paused t))
    (hcount : ∀ {t s l e u}, Tried t s l (.error e, u) → e.isRetryable = true →
      1 ≤ l.countP isFailure)
    {number : Nat} {s : σ} {l : List β} {out : Except InteractionFault α × σ}
    (h : Course p Tried started number s l out) (hs : InTime s) :
    ∀ n, l.countP isFailure ≤ n → run p op started (n + 1) number s = out := by
  induction h with
  | done h => exact fun n _ => run_done (hop hs h)
  | failed h he => exact fun n _ => run_failed (hop hs h) he
  | spent h he hu hb => exact fun n _ => run_spent (hop hs h) he hu hb
  | again h he hu hb _ ih =>
      intro n hn
      have hone := hcount h he
      rw [List.countP_append] at hn
      obtain ⟨n, rfl⟩ := Nat.exists_eq_succ_of_ne_zero (by omega : n ≠ 0)
      rw [run_again (hop hs h) he hu hb]
      exact ih (hnext hs h hb) n (by omega)

end Retry

/-! ### The flat loop -/

/-- Whether a question failed in a way that may pass. -/
def Question.isPassing (q : Question) : Bool :=
  match q.answer with
  | .error e => e.isRetryable
  | .ok _ => false

namespace Wait

/-- The state after the pause that follows a failure that may pass. -/
def throttled (p : WaitPolicy) (s : σ) : σ :=
  if p.throttle = 0 then s else sleep p.throttle s

/-- A wait as one loop: the condition is asked, and it is over where it holds, where it fails for
good, or where the deadline has passed once it did not hold or once the pause after a failure is
over. -/
inductive Flat (p : WaitPolicy) (reason : Option String) (timeout : Nat)
    (condition : Act σ InteractionFault Bool) (deadline : Nat) :
    σ → List Question → Except InteractionFault Unit × σ → Prop where
  /-- The condition holds. -/
  | held {s t : σ} (h : condition s = (.ok true, t)) :
      Flat p reason timeout condition deadline s [.between s t (.ok true)] (.ok (), t)
  /-- The question fails for good. -/
  | failed {s t : σ} {e : InteractionFault} (h : condition s = (.error e, t))
      (he : e.isRetryable = false) :
      Flat p reason timeout condition deadline s [.between s t (.error e)] (.error e, t)
  /-- The condition does not hold, and the deadline has passed. -/
  | late {s t : σ} (h : condition s = (.ok false, t)) (hd : deadline ≤ now t) :
      Flat p reason timeout condition deadline s [.between s t (.ok false)]
        (.error (.timedOut (shownReason reason) (shownTimeout timeout) none), t)
  /-- The condition does not hold yet, and is asked again after a pause that ends with the deadline
  at the latest. -/
  | again {s t : σ} {qs : List Question} {out : Except InteractionFault Unit × σ}
      (h : condition s = (.ok false, t)) (hd : now t < deadline)
      (rest : Flat p reason timeout condition deadline
        (sleep (min p.interval (deadline - now t)) t) qs out) :
      Flat p reason timeout condition deadline s (.between s t (.ok false) :: qs) out
  /-- The question fails in a way that may pass, and the deadline has passed after the pause. -/
  | spent {s t : σ} {e : InteractionFault} (h : condition s = (.error e, t))
      (he : e.isRetryable = true) (hd : deadline ≤ now (throttled p t)) :
      Flat p reason timeout condition deadline s [.between s t (.error e)]
        (.error (.timedOut (shownReason reason) (shownTimeout timeout) (some e.message)),
          throttled p t)
  /-- The question fails in a way that may pass, and is asked again after the pause. -/
  | retry {s t : σ} {e : InteractionFault} {qs : List Question}
      {out : Except InteractionFault Unit × σ} (h : condition s = (.error e, t))
      (he : e.isRetryable = true) (hd : now (throttled p t) < deadline)
      (rest : Flat p reason timeout condition deadline (throttled p t) qs out) :
      Flat p reason timeout condition deadline s (.between s t (.error e) :: qs) out

variable {p : WaitPolicy} {reason : Option String} {timeout deadline : Nat}
  {condition : Act σ InteractionFault Bool} {s t : σ} {qs : List Question}
  {out : Except InteractionFault Unit × σ}

/-- How long a wait pauses after a question that does not end it. -/
def pauseAfter (p : WaitPolicy) (deadline : Nat) (q : Question) : Nat :=
  match q.answer with
  | .ok _ => min p.interval (deadline - q.ended)
  | .error _ => p.throttle

namespace Flat

/-- The first question is asked at once. -/
theorem head? (h : Flat p reason timeout condition deadline s qs out) :
    qs.head?.map Question.began = some (now s) := by
  cases h <;> rfl

/-- No wait ends with a failure that may pass. -/
theorem isRetryable_eq_false {e : InteractionFault}
    (h : Flat p reason timeout condition deadline s qs out) (hout : out.1 = .error e) :
    e.isRetryable = false := by
  induction h with
  | held => cases hout
  | failed _ he =>
      cases hout
      exact he
  | late =>
      cases hout
      rfl
  | again _ _ _ ih => exact ih hout
  | spent =>
      cases hout
      rfl
  | retry _ _ _ _ ih => exact ih hout

end Flat

/-! ### Rounds and tries as one loop -/

/-- Every round of a wait has the end of the wait as its deadline. -/
theorem Round.polls {start number : Nat} {s : σ} {l : List Question}
    {mid : Except InteractionFault Unit × σ} (hs : start ≤ now s)
    (hd : now s ≤ start + timeout) : Round p reason timeout condition
      (RetryPolicy.nth (.budgeted timeout p.throttle) start number s) s l mid ↔
    Polls p.interval (start + timeout)
      (.timedOut (shownReason reason) (shownTimeout timeout) none) condition s l mid := by
  have hdeadline : now s + (timeout - (now s - start)) = start + timeout := by omega
  rw [← hdeadline]
  rfl

theorem paused_eq_throttled (p : WaitPolicy) (timeout : Nat) (t : σ) :
    RetryPolicy.paused (.budgeted timeout p.throttle) t = throttled p t := rfl

theorem outcome_error_of_eq_false {e : InteractionFault} (he : e.isRetryable = false) :
    outcome reason timeout (.error e) = .error e := by
  simp [outcome, failure, he]

theorem outcome_error_of_eq_true {e : InteractionFault} (he : e.isRetryable = true) :
    outcome reason timeout (.error e) =
      .error (.timedOut (shownReason reason) (shownTimeout timeout) (some e.message)) := by
  simp [outcome, failure, he]

/-- What follows a round of a flat wait: nothing but a pause, or another question after it. -/
inductive Onward (p : WaitPolicy) (reason : Option String) (timeout : Nat)
    (condition : Act σ InteractionFault Bool) (deadline : Nat) :
    Except InteractionFault Unit × σ → List Question → Except InteractionFault Unit × σ → Prop where
  | held {t : σ} : Onward p reason timeout condition deadline (.ok (), t) [] (.ok (), t)
  | failed {t : σ} {e : InteractionFault} (he : e.isRetryable = false) :
      Onward p reason timeout condition deadline (.error e, t) [] (.error e, t)
  | spent {t : σ} {e : InteractionFault} (he : e.isRetryable = true)
      (hd : deadline ≤ now (throttled p t)) :
      Onward p reason timeout condition deadline (.error e, t) []
        (.error (.timedOut (shownReason reason) (shownTimeout timeout) (some e.message)),
          throttled p t)
  | retry {t : σ} {e : InteractionFault} {qs : List Question}
      {out : Except InteractionFault Unit × σ} (he : e.isRetryable = true)
      (hd : now (throttled p t) < deadline)
      (rest : Flat p reason timeout condition deadline (throttled p t) qs out) :
      Onward p reason timeout condition deadline (.error e, t) qs out

/-- A round and what follows it are a flat wait. -/
theorem Polls.flat {l : List Question} {mid : Except InteractionFault Unit × σ}
    (h : Polls p.interval deadline (.timedOut (shownReason reason) (shownTimeout timeout) none)
      condition s l mid)
    (hrest : Onward p reason timeout condition deadline mid qs out) :
    Flat p reason timeout condition deadline s (l ++ qs) out := by
  induction h with
  | failed h =>
      cases hrest with
      | failed he => exact .failed h he
      | spent he hd => exact .spent h he hd
      | retry he hd rest => exact .retry h he hd rest
  | held h =>
      cases hrest
      exact .held h
  | late h hd =>
      cases hrest with
      | failed he => exact .late h hd
      | spent he => cases he
      | retry he => cases he
  | again h hd _ ih => exact .again h hd (ih hrest)

theorem le_now_of_asked (hclock : ∀ s, now s ≤ now (condition s).2)
    {r : Except InteractionFault Bool} (h : condition s = (r, t)) : now s ≤ now t := by
  have hle := hclock s
  rwa [h] at hle

theorem Polls.le_now {interval : Nat} {late : InteractionFault}
    (hclock : ∀ s, now s ≤ now (condition s).2)
    (h : Polls interval deadline late condition s qs out) : now s ≤ now out.2 := by
  induction h with
  | failed h => exact le_now_of_asked hclock h
  | held h => exact le_now_of_asked hclock h
  | late h => exact le_now_of_asked hclock h
  | again h _ _ ih =>
      refine (le_now_of_asked hclock h).trans (le_trans ?_ ih)
      rw [Timed.now_sleep]
      exact Clock.le_after _ _

/-- The course of a wait is a flat one. -/
theorem flat_of_tries {start number : Nat}
    (hclock : ∀ s, now s ≤ now (condition s).2)
    (h : Retry.Course (.budgeted timeout p.throttle) (Round p reason timeout condition) start number
      s qs out)
    (hs : start ≤ now s) (hd : now s ≤ start + timeout) :
    Flat p reason timeout condition (start + timeout) s qs
      (outcome reason timeout out.1, out.2) := by
  induction h with
  | done h =>
      have hflat := ((Round.polls hs hd).1 h).flat .held
      rwa [List.append_nil] at hflat
  | failed h he =>
      have he := he.resolve_right Bool.false_ne_true
      have hflat := ((Round.polls hs hd).1 h).flat (.failed he)
      rwa [List.append_nil, ← outcome_error_of_eq_false he] at hflat
  -- the budget is measured from the start, so it is used up just when the deadline has passed
  | @spent _ _ t _ e h he _ hb =>
      have hpolls := (Round.polls hs hd).1 h
      have hstart : now _ ≤ now t := hpolls.le_now hclock
      have hpaused := RetryPolicy.le_now_paused (.budgeted timeout p.throttle) t
      rw [RetryPolicy.budgetUsed_eq rfl, decide_eq_true_eq] at hb
      rw [paused_eq_throttled] at hb hpaused ⊢
      have hflat := hpolls.flat (.spent he (by omega))
      rwa [List.append_nil, ← outcome_error_of_eq_true he] at hflat
  | @again _ _ t _ _ e _ h he _ hb _ ih =>
      have hpolls := (Round.polls hs hd).1 h
      have hstart : now _ ≤ now t := hpolls.le_now hclock
      have hpaused := RetryPolicy.le_now_paused (.budgeted timeout p.throttle) t
      rw [RetryPolicy.budgetUsed_eq rfl, decide_eq_false_iff_not] at hb
      rw [paused_eq_throttled] at hb hpaused ih
      exact hpolls.flat (.retry he (by omega) (ih (by omega) (by omega)))

/-- A question that does not end its round goes before the first round of a course. -/
theorem tries_cons {start number : Nat} {q : Question} {s' : σ}
    (h : Retry.Course (.budgeted timeout p.throttle) (Round p reason timeout condition) start number
      s' qs out)
    (hround : ∀ {l mid}, Round p reason timeout condition
        (RetryPolicy.nth (.budgeted timeout p.throttle) start number s') s' l mid →
      Round p reason timeout condition
        (RetryPolicy.nth (.budgeted timeout p.throttle) start number s) s (q :: l) mid) :
    Retry.Course (.budgeted timeout p.throttle) (Round p reason timeout condition) start number
      s (q :: qs) out := by
  cases h with
  | done h => exact .done (hround h)
  | failed h he => exact .failed (hround h) he
  | spent h he hn hb => exact .spent (hround h) he hn hb
  | again h he hn hb rest => exact .again (l := q :: _) (hround h) he hn hb rest

/-- A flat wait is the course of one. -/
theorem tries_of_flat {start : Nat} (hclock : ∀ s, now s ≤ now (condition s).2)
    (h : Flat p reason timeout condition (start + timeout) s qs out) (hs : start ≤ now s)
    (hd : now s ≤ start + timeout) (number : Nat) :
    ∃ r, outcome reason timeout r = out.1 ∧
      Retry.Course (.budgeted timeout p.throttle) (Round p reason timeout condition) start number s
        qs (r, out.2) := by
  induction h generalizing number with
  | held h => exact ⟨.ok (), rfl, .done ((Round.polls hs hd).2 (.held h))⟩
  | @failed _ _ e h he =>
      exact ⟨.error e, outcome_error_of_eq_false he,
        .failed ((Round.polls hs hd).2 (.failed h)) (.inl he)⟩
  | late h hlate =>
      exact ⟨_, outcome_error_of_eq_false rfl,
        .failed ((Round.polls hs hd).2 (.late h hlate)) (.inl rfl)⟩
  | @again s t qs out h hmore _ ih =>
      have hstart := le_now_of_asked hclock h
      have hle := Clock.le_after (now t) (min p.interval (start + timeout - now t))
      have hge := Clock.after_le (now t) (min p.interval (start + timeout - now t))
      rw [← Timed.now_sleep] at hle hge
      -- the pause ends with the deadline at the latest, so the same round goes on after it
      obtain ⟨r, hr, hcourse⟩ := ih (by omega) (by omega) number
      refine ⟨r, hr, tries_cons hcourse fun hround => ?_⟩
      exact (Round.polls hs hd).2
        (.again h hmore ((Round.polls (by omega) (by omega)).1 hround))
  | @spent s t e h he hspent =>
      refine ⟨.error e, outcome_error_of_eq_true he,
        .spent ((Round.polls hs hd).2 (.failed h)) he rfl ?_⟩
      rw [RetryPolicy.budgetUsed_eq rfl, paused_eq_throttled, decide_eq_true_eq]
      omega
  | @retry s t e qs out h he hmore _ ih =>
      have hstart := le_now_of_asked hclock h
      have hpaused := RetryPolicy.le_now_paused (.budgeted timeout p.throttle) t
      rw [paused_eq_throttled] at hpaused
      -- the question after the pause is the first one of the next try
      obtain ⟨r, hr, hcourse⟩ := ih (by omega) (by omega) (number + 1)
      refine ⟨r, hr, .again (l := [_]) ((Round.polls hs hd).2 (.failed h)) he rfl ?_ hcourse⟩
      rw [RetryPolicy.budgetUsed_eq rfl, paused_eq_throttled, decide_eq_false_iff_not]
      omega

/-- The rounds of a wait and the tries around them are one flat loop. -/
theorem flat_iff_course (hclock : ∀ s, now s ≤ now (condition s).2) :
    Flat p reason timeout condition (now s + timeout) s qs out ↔
      Course p reason timeout condition s qs out := by
  constructor
  · intro h
    obtain ⟨r, hr, htries⟩ := tries_of_flat hclock h (Nat.le_refl _) (Nat.le_add_right _ _) 1
    have hout : out = (outcome reason timeout r, out.2) := Prod.ext hr.symm rfl
    exact hout ▸ .mk htries
  · rintro ⟨h⟩
    exact flat_of_tries hclock h (Nat.le_refl _) (Nat.le_add_right _ _)

/-! ### When questions are asked -/

theorem now_throttled_of_lt (h : now (throttled p t) < Clock.lastTick) :
    now (throttled p t) = now t + p.throttle := by
  unfold throttled at h ⊢
  split
  next hzero => rw [hzero, Nat.add_zero]
  next hpos =>
    rw [if_neg hpos, Timed.now_sleep, Clock.after] at h
    rw [Timed.now_sleep, Clock.after]
    omega

/-- Each question but the first is asked when the pause after the one before it is over. -/
theorem Flat.isChain (h : Flat p reason timeout condition deadline s qs out)
    (hlast : deadline ≤ Clock.lastTick) :
    qs.IsChain fun q q' => q'.began = q.ended + pauseAfter p deadline q := by
  induction h with
  | held | failed | late | spent => exact List.isChain_singleton _
  | @again s t qs out h hd rest ih =>
      refine List.isChain_cons.2 ⟨fun q' hq' => ?_, ih⟩
      have hbegan : q'.began = _ := Option.some_inj.1 (by
        rw [← rest.head?, Option.mem_def.1 hq', Option.map_some])
      rw [hbegan, now_sleep_min p.interval hd hlast]
      rfl
  | @retry s t e qs out h he hd rest ih =>
      refine List.isChain_cons.2 ⟨fun q' hq' => ?_, ih⟩
      have hbegan : q'.began = _ := Option.some_inj.1 (by
        rw [← rest.head?, Option.mem_def.1 hq', Option.map_some])
      rw [hbegan, now_throttled_of_lt (by omega)]
      rfl

/-! ### The loops that run -/

/-- A round ends as its course does, if a count is left for every moment up to the deadline. -/
theorem poll_of_polls {interval : Nat} {late : InteractionFault} (hinterval : 1 ≤ interval)
    (hlast : deadline ≤ Clock.lastTick) (hclock : ∀ s, now s ≤ now (condition s).2)
    (h : Polls interval deadline late condition s qs out) (hs : now s ≤ deadline) :
    ∀ n, deadline ≤ now s + n → poll interval deadline late condition (n + 1) s = out := by
  induction h with
  | failed h =>
      intro n _
      rw [poll_succ, h]
  | held h =>
      intro n _
      rw [poll_succ, h]
  | late h hd =>
      intro n _
      rw [poll_succ, h]
      exact if_pos hd
  | @again s t qs out h hd rest ih =>
      intro n hn
      have hstart := le_now_of_asked hclock h
      have hnext := now_sleep_min interval hd hlast
      obtain ⟨n, rfl⟩ := Nat.exists_eq_succ_of_ne_zero (by omega : n ≠ 0)
      rw [poll_succ, h]
      exact (if_neg (by omega)).trans (ih (by omega) n (by omega))

/-- A round that ends with a failure that may pass has a question that failed so. -/
theorem Polls.countP_isPassing {interval : Nat} {late e : InteractionFault}
    (hlate : late.isRetryable = false)
    (h : Polls interval deadline late condition s qs out) (hout : out.1 = .error e)
    (he : e.isRetryable = true) : 1 ≤ qs.countP Question.isPassing := by
  induction h with
  | failed h =>
      cases hout
      exact List.countP_pos_iff.2 ⟨_, List.mem_singleton_self _, he⟩
  | held => cases hout
  | late =>
      cases hout
      rw [hlate] at he
      cases he
  | again _ _ _ ih => exact (ih hout).trans (List.sublist_cons_self _ _).countP_le

section Loops

variable {start : Nat} {r : Except InteractionFault Unit}

/-- A state in which a round of a wait may begin. -/
def InTime (start timeout : Nat) (s : σ) : Prop := start ≤ now s ∧ now s ≤ start + timeout

theorem InTime.throttled (hclock : now s ≤ now t) (hs : InTime start timeout s)
    (hb : RetryPolicy.budgetUsed (.budgeted timeout p.throttle)
      (now (RetryPolicy.paused (.budgeted timeout p.throttle) t) - start) = false) :
    InTime start timeout (RetryPolicy.paused (.budgeted timeout p.throttle) t) := by
  have hpaused := RetryPolicy.le_now_paused (.budgeted timeout p.throttle) t
  rw [RetryPolicy.budgetUsed_eq rfl, decide_eq_false_iff_not] at hb
  unfold InTime at hs ⊢
  omega

/-- A wait whose count of tries does not run out is a flat one. -/
theorem flat_of_waitFor (hclock : ∀ s, now s ≤ now (condition s).2)
    (hlast : now s + timeout ≤ Clock.lastTick) (h : waitFor p reason timeout condition s = (r, t))
    (hr : r ≠ .error Retry.uncounted) :
    ∃ qs, Flat p reason timeout condition (now s + timeout) s qs (r, t) := by
  have hop (number : Nat) (s' : σ) (hs : InTime (now s) timeout s') :
      ∃ qs, Round p reason timeout condition
        (RetryPolicy.nth (.budgeted timeout p.throttle) (now s) number s') s' qs
        (round p reason timeout condition
          (RetryPolicy.nth (.budgeted timeout p.throttle) (now s) number s') s') := by
    have hdeadline : now s' + (timeout - (now s' - now s)) = now s + timeout := by
      unfold InTime at hs
      omega
    exact polls_poll (Nat.le_max_right _ _) (hdeadline ▸ hlast) hclock _ s' (Nat.le_add_right _ _)
      (Nat.lt_succ_self _)
  rw [waitFor_run] at h
  obtain ⟨hr', ht⟩ := Prod.mk.inj h
  have hcount : (Retry.attempt (.budgeted timeout p.throttle) (round p reason timeout condition)
      s).1 ≠ .error Retry.uncounted := by
    intro heq
    rw [heq] at hr'
    exact hr hr'.symm
  have hnext {number : Nat} {s' t' : σ} {e : InteractionFault} (hs : InTime (now s) timeout s')
      (hrun : round p reason timeout condition
        (RetryPolicy.nth (.budgeted timeout p.throttle) (now s) number s') s' = (.error e, t'))
      (hb : RetryPolicy.budgetUsed (.budgeted timeout p.throttle)
        (now (RetryPolicy.paused (.budgeted timeout p.throttle) t') - now s) = false) :
      InTime (now s) timeout (RetryPolicy.paused (.budgeted timeout p.throttle) t') := by
    have hle := le_now_round hclock p reason timeout
      (RetryPolicy.nth (.budgeted timeout p.throttle) (now s) number s') s'
    rw [hrun] at hle
    exact InTime.throttled hle hs hb
  obtain ⟨qs, htries⟩ := Retry.course_of_run hop hnext Retry.maxTries 1 s
    ⟨Nat.le_refl _, Nat.le_add_right _ _⟩ hcount
  exact ⟨qs, h ▸ (flat_iff_course hclock).2 ⟨htries⟩⟩

/-- A wait does what a flat one does, if a count is left for each try. -/
theorem waitFor_of_flat (hclock : ∀ s, now s ≤ now (condition s).2)
    (hlast : now s + timeout ≤ Clock.lastTick)
    (h : Flat p reason timeout condition (now s + timeout) s qs out)
    (hcount : qs.countP Question.isPassing < Retry.maxTries) :
    waitFor p reason timeout condition s = out := by
  have hop {number : Nat} {s' : σ} {l : List Question} {mid : Except InteractionFault Unit × σ}
      (_ : InTime (now s) timeout s')
      (hround : Round p reason timeout condition
        (RetryPolicy.nth (.budgeted timeout p.throttle) (now s) number s') s' l mid) :
      round p reason timeout condition
        (RetryPolicy.nth (.budgeted timeout p.throttle) (now s) number s') s' = mid := by
    have hdeadline : now s' + (timeout - (now s' - now s)) ≤ Clock.lastTick := by
      unfold InTime at *
      omega
    exact poll_of_polls (Nat.le_max_right _ _) hdeadline hclock hround (Nat.le_add_right _ _) _
      (Nat.le_refl _)
  have hnext {number : Nat} {s' t' : σ} {l : List Question} {e : InteractionFault}
      (hs : InTime (now s) timeout s')
      (hround : Round p reason timeout condition
        (RetryPolicy.nth (.budgeted timeout p.throttle) (now s) number s') s' l (.error e, t'))
      (hb : RetryPolicy.budgetUsed (.budgeted timeout p.throttle)
        (now (RetryPolicy.paused (.budgeted timeout p.throttle) t') - now s) = false) :
      InTime (now s) timeout (RetryPolicy.paused (.budgeted timeout p.throttle) t') :=
    InTime.throttled (Polls.le_now hclock hround) hs hb
  obtain @⟨r, u, htries⟩ := (flat_iff_course hclock).1 h
  have hrun : Retry.attempt (.budgeted timeout p.throttle)
      (round p reason timeout condition) s = (r, u) := Retry.run_of_course hop hnext
    (fun hround he => Polls.countP_isPassing rfl hround rfl he) htries
    ⟨Nat.le_refl _, Nat.le_add_right _ _⟩ (Retry.maxTries - 1) (by omega)
  rw [waitFor_run, hrun]

end Loops

/-! ### The questions that were asked -/

/-- A condition that keeps the questions it was asked beside the state. -/
def noting (condition : Act σ InteractionFault Bool) :
    Act (σ × List Question) InteractionFault Bool := fun s =>
  ((condition s.1).1, (condition s.1).2, s.2 ++ [.between s.1 (condition s.1).2 (condition s.1).1])

theorem noting_run {log : List Question} {r : Except InteractionFault Bool}
    (h : condition s = (r, t)) :
    noting condition (s, log) = (r, t, log ++ [.between s t r]) := by
  unfold noting
  rw [h]

theorem of_noting_run {s t : σ × List Question} {r : Except InteractionFault Bool}
    (h : noting condition s = (r, t)) :
    condition s.1 = (r, t.1) ∧ t.2 = s.2 ++ [.between s.1 t.1 r] := by
  cases h
  exact ⟨rfl, rfl⟩

theorem throttled_noting (p : WaitPolicy) (t : σ × List Question) :
    throttled p t = (throttled p t.1, t.2) := by
  unfold throttled
  split <;> rfl

/-- A flat wait is the same where its questions are noted, and they are what is noted. -/
theorem Flat.noting (h : Flat p reason timeout condition deadline s qs out) (log : List Question) :
    Flat p reason timeout (noting condition) deadline (s, log) qs
      (out.1, out.2, log ++ qs) := by
  induction h generalizing log with
  | held h => exact .held (noting_run h)
  | failed h he => exact .failed (noting_run h) he
  | late h hd => exact .late (noting_run h) hd
  | @again s t qs out h hd _ ih =>
      have hrest := ih (log ++ [.between s t (.ok false)])
      rw [List.append_assoc] at hrest
      exact .again (noting_run h) hd hrest
  | @spent s t e h he hd =>
      have hpaused : throttled p (t, log ++ [.between s t (.error e)]) =
          (throttled p t, log ++ [.between s t (.error e)]) := throttled_noting p _
      rw [← hpaused]
      exact .spent (noting_run h) he (hpaused ▸ hd)
  | @retry s t e qs out h he hd _ ih =>
      have hpaused : throttled p (t, log ++ [.between s t (.error e)]) =
          (throttled p t, log ++ [.between s t (.error e)]) := throttled_noting p _
      have hrest := ih (log ++ [.between s t (.error e)])
      rw [List.append_assoc, ← hpaused] at hrest
      exact .retry (noting_run h) he (hpaused ▸ hd) hrest

/-- A flat wait whose questions are noted is one without that. -/
theorem Flat.of_noting {s : σ × List Question}
    {out : Except InteractionFault Unit × σ × List Question}
    (h : Flat p reason timeout (Wait.noting condition) deadline s qs out) :
    Flat p reason timeout condition deadline s.1 qs (out.1, out.2.1) ∧ out.2.2 = s.2 ++ qs := by
  induction h with
  | held h =>
      obtain ⟨h, hlog⟩ := of_noting_run h
      exact ⟨.held h, hlog⟩
  | failed h he =>
      obtain ⟨h, hlog⟩ := of_noting_run h
      exact ⟨.failed h he, hlog⟩
  | late h hd =>
      obtain ⟨h, hlog⟩ := of_noting_run h
      exact ⟨.late h hd, hlog⟩
  | @again s t qs out h hd _ ih =>
      obtain ⟨h, hlog⟩ := of_noting_run h
      have hrest : out.2.2 = t.2 ++ qs := ih.2
      exact ⟨.again h hd ih.1, by rw [hrest, hlog, List.append_assoc]; rfl⟩
  | @spent s t e h he hd =>
      obtain ⟨h, hlog⟩ := of_noting_run h
      rw [throttled_noting] at hd ⊢
      exact ⟨.spent h he hd, hlog⟩
  | @retry s t e qs out h he hd _ ih =>
      obtain ⟨h, hlog⟩ := of_noting_run h
      rw [throttled_noting] at hd ih
      have hrest : out.2.2 = t.2 ++ qs := ih.2
      exact ⟨.retry h he hd ih.1, by rw [hrest, hlog, List.append_assoc]; rfl⟩

theorem le_now_noting (hclock : ∀ s, now s ≤ now (condition s).2) (s : σ × List Question) :
    now s ≤ now (noting condition s).2 :=
  hclock s.1

/-- **A wait is one flat loop.**  Take any condition in which the clock does not go back, and a
clock that can show the end of the wait.  A wait that ends, unless its count of tries runs out, ends
as a flat one does, with the same questions at the same times; and a wait ends so wherever a flat
one does, if fewer questions fail in a way that may pass than tries can be counted.  A flat wait
asks its first question at once, whatever the timeout, and each other one when the pause after the
answer to the one before is over; and it never ends with a failure that may pass. -/
theorem waitFor_flat (p : WaitPolicy) (reason : Option String) {timeout : Nat}
    {condition : Act σ InteractionFault Bool} (hclock : ∀ s, now s ≤ now (condition s).2) {s : σ}
    (hlast : now s + timeout ≤ Clock.lastTick) :
    (∀ r t qs, waitFor p reason timeout (noting condition) (s, []) = (r, t, qs) →
      r ≠ .error Retry.uncounted →
      Flat p reason timeout condition (now s + timeout) s qs (r, t)) ∧
    ∀ r t qs, Flat p reason timeout condition (now s + timeout) s qs (r, t) →
      (qs.countP Question.isPassing < Retry.maxTries →
        waitFor p reason timeout (noting condition) (s, []) = (r, t, qs) ∧
        waitFor p reason timeout condition s = (r, t)) ∧
      qs.head?.map Question.began = some (now s) ∧
      (qs.IsChain fun q q' => q'.began = q.ended + pauseAfter p (now s + timeout) q) ∧
      ∀ e, r = .error e → e.isRetryable = false := by
  refine ⟨fun r t qs h hr => ?_, fun r t qs h =>
    ⟨fun hcount => ⟨?_, ?_⟩, h.head?, h.isChain hlast, fun e he => h.isRetryable_eq_false he⟩⟩
  · obtain ⟨asked, hflat⟩ := flat_of_waitFor (le_now_noting hclock) hlast h hr
    obtain ⟨hflat, hlog⟩ := hflat.of_noting
    have hasked : qs = asked := hlog
    exact hasked ▸ hflat
  · exact waitFor_of_flat (le_now_noting hclock) hlast (h.noting []) hcount
  · exact waitFor_of_flat hclock hlast h hcount

/-- The wait of a hundred milliseconds for wavering answers, with its four questions. -/
theorem waitFor_flat_wavering :
    waitFor ⟨1000, 40, 20⟩ none 100 (noting (replying wavering)) ((0, 0), []) =
      (.error (.timedOut "condition" 100 (some "Driver error: stale element reference: el-1")),
        (145, 4), [⟨0, .ok false, 10⟩, ⟨30, .error (.browser (.stale "el-1")), 35⟩,
          ⟨75, .ok false, 85⟩, ⟨100, .error (.browser (.stale "el-1")), 105⟩]) ∧
    Flat ⟨1000, 40, 20⟩ none 100 (replying wavering) 100 (0, 0)
      [⟨0, .ok false, 10⟩, ⟨30, .error (.browser (.stale "el-1")), 35⟩,
          ⟨75, .ok false, 85⟩, ⟨100, .error (.browser (.stale "el-1")), 105⟩]
      (.error (.timedOut "condition" 100 (some "Driver error: stale element reference: el-1")),
        145, 4) := by
  have hrun : waitFor ⟨1000, 40, 20⟩ none 100 (noting (replying wavering)) ((0, 0), []) =
      (.error (.timedOut "condition" 100 (some "Driver error: stale element reference: el-1")),
        (145, 4), [⟨0, .ok false, 10⟩, ⟨30, .error (.browser (.stale "el-1")), 35⟩,
          ⟨75, .ok false, 85⟩, ⟨100, .error (.browser (.stale "el-1")), 105⟩]) := rfl
  have hflat := (waitFor_flat ⟨1000, 40, 20⟩ none (le_now_replying wavering) (s := (0, 0))
    (by decide)).1 _ _ _ hrun (by simp [Retry.uncounted])
  exact ⟨hrun, hflat⟩

end Wait

end Bindery
