import Bindery.Proofs.WaitCourse

/-!
# Bindery — Proofs — Asking

What a wait asks, whatever the times of its policy are.  Where a clock stands still or no throttle
is set, the counters of a wait may run out before its time does, and then it does not take its
course (`Wait.Course`).  But in any case all that it does is to ask, at once, and again after an
answer that is not the one it waits for, and to let time pass (`Asked`, `asked_waitFor`).  So it
ends well exactly if one of the answers is the one it waits for (`Asked.ok_iff`).

The induction for a round is on the questions that are left to it, and that for the whole wait on
the tries that are left; what is common to both is that after an answer that does not do, asking
goes on (`Asked.append`) or is given up (`Asked.givenUp`).
-/

namespace Bindery

namespace Wait

variable {σ α : Type}

/-- Something that is asked while something is waited for: when, and what the answer is. -/
structure Asking (α : Type) where
  began : Nat
  answer : Except InteractionFault α

/-- The answer is the one that is waited for. -/
def Asking.Held (good : α → Bool) (q : Asking α) : Prop :=
  ∃ a, q.answer = .ok a ∧ good a = true

/-- The condition that an answer is the one that is waited for. -/
def asking (ask : Act σ InteractionFault α) (good : α → Bool) : Act σ InteractionFault Bool := do
  return good (← ask)

section

variable {ask : Act σ InteractionFault α} {good : α → Bool} {s t : σ}

theorem asking_of_ok {a : α} (h : ask s = (.ok a, t)) : asking ask good s = (.ok (good a), t) :=
  Act.bind_run_ok h

theorem asking_of_error {e : InteractionFault} (h : ask s = (.error e, t)) :
    asking ask good s = (.error e, t) :=
  Act.bind_run_error h

end

variable [Timed σ]

open Timed (now sleep)

/-- Time passes, in pauses. -/
inductive Idle : σ → σ → Prop where
  /-- No time passes. -/
  | still (s : σ) : Idle s s
  /-- A pause passes first. -/
  | pause {s t : σ} (ms : Nat) (h : Idle (sleep ms s) t) : Idle s t

theorem Idle.sleep (ms : Nat) (s : σ) : Idle s (sleep ms s) :=
  .pause ms (.still _)

theorem Idle.trans {s t u : σ} (h : Idle s t) (h' : Idle t u) : Idle s u := by
  induction h with
  | still s => exact h'
  | pause ms h ih => exact .pause ms (ih h')

theorem Idle.le_now {s t : σ} (h : Idle s t) : now s ≤ now t := by
  induction h with
  | still s => exact Nat.le_refl _
  | @pause s t ms h ih =>
      have hsleep : now s ≤ now (Timed.sleep ms s) := by
        rw [Timed.now_sleep]
        exact Clock.le_after _ _
      exact Nat.le_trans hsleep ih

theorem Idle.paused (p : RetryPolicy) (s : σ) : Idle s (p.paused s) := by
  unfold RetryPolicy.paused
  split
  · exact .still s
  · exact .sleep _ s

/-- Something is asked, at once and again while the answer is not the one that is waited for.  Time
passes between the questions, and before it is given up. -/
inductive Asked (ask : Act σ InteractionFault α) (good : α → Bool) :
    σ → List (Asking α) → Except InteractionFault Unit × σ → Prop where
  /-- The answer is the one that is waited for. -/
  | held {s t : σ} {a : α} (h : ask s = (.ok a, t)) (ha : good a = true) :
      Asked ask good s [⟨now s, .ok a⟩] (.ok (), t)
  /-- The answer is another one, and it is given up. -/
  | givenUp {s t u : σ} {r : Except InteractionFault α} (e : InteractionFault) (h : ask s = (r, t))
      (hr : ¬ (Asking.mk (now s) r).Held good) (hidle : Idle t u) :
      Asked ask good s [⟨now s, r⟩] (.error e, u)
  /-- The answer is another one, and it is asked again. -/
  | again {s t s' : σ} {r : Except InteractionFault α} {qs : List (Asking α)}
      {out : Except InteractionFault Unit × σ} (h : ask s = (r, t))
      (hr : ¬ (Asking.mk (now s) r).Held good) (hidle : Idle t s')
      (rest : Asked ask good s' qs out) :
      Asked ask good s (⟨now s, r⟩ :: qs) out

namespace Asked

variable {ask : Act σ InteractionFault α} {good : α → Bool} {s t u : σ} {qs : List (Asking α)}
  {out : Except InteractionFault Unit × σ} {e : InteractionFault}

/-- Asking that failed was given up, and could have been later and for another reason. -/
theorem later (h : Asked ask good s qs (.error e, t)) (hidle : Idle t u) (f : InteractionFault) :
    Asked ask good s qs (.error f, u) := by
  generalize hout : (Except.error e, t) = out at h
  induction h with
  | held h ha => cases hout
  | givenUp e' h hr hi =>
      cases hout
      exact .givenUp f h hr (hi.trans hidle)
  | again h hr hi rest ih => exact .again h hr hi (ih hout)

/-- After asking that failed it is asked again. -/
theorem append {qs' : List (Asking α)} (h : Asked ask good s qs (.error e, t)) (hidle : Idle t u)
    (rest : Asked ask good u qs' out) : Asked ask good s (qs ++ qs') out := by
  generalize hmid : (Except.error e, t) = mid at h
  induction h with
  | held h ha => cases hmid
  | givenUp e' h hr hi =>
      cases hmid
      exact .again h hr (hi.trans hidle) rest
  | again h hr hi _ ih => exact .again h hr hi (ih hmid)

/-- It ends well exactly if an answer is the one that is waited for. -/
theorem ok_iff (h : Asked ask good s qs out) : out.1 = .ok () ↔ ∃ q ∈ qs, q.Held good := by
  induction h with
  | held h ha => simpa [Asking.Held] using ha
  | givenUp e h hr hi => simpa using hr
  | again h hr hi rest ih => simpa [hr] using ih

/-- No question is asked before the first one, if asking does not turn the clock back. -/
theorem le_began (hclock : ∀ s, now s ≤ now (ask s).2) (h : Asked ask good s qs out) :
    ∀ q ∈ qs, now s ≤ q.began := by
  induction h with
  | held h ha => simp
  | givenUp e h hr hi => simp
  | @again s t s' r qs out h hr hi rest ih =>
      have hask := hclock s
      rw [h] at hask
      have hnext : now s ≤ now s' := Nat.le_trans hask hi.le_now
      intro q hq
      rcases List.mem_cons.1 hq with rfl | hq
      · exact Nat.le_refl _
      · exact Nat.le_trans hnext (ih q hq)

end Asked

variable {ask : Act σ InteractionFault α} {good : α → Bool}

theorem not_held_of_false {n : Nat} {a : α} (ha : good a = false) :
    ¬ (Asking.mk n (.ok a)).Held good := by
  rintro ⟨b, hb, hgood⟩
  cases hb
  rw [ha] at hgood
  cases hgood

theorem not_held_error {n : Nat} {e : InteractionFault} :
    ¬ (Asking.mk n (.error e)).Held good := by
  rintro ⟨b, hb, -⟩
  cases hb

section Poll

variable {interval deadline : Nat} {late : InteractionFault}

/-- A round asks once, and is over or goes on in what is left of it. -/
theorem asked_poll_succ {n : Nat} {s : σ}
    (hrest : ∀ {r t u}, ask s = (r, t) → ¬ (Asking.mk (now s) r).Held good → Idle t u →
      ∃ qs, Asked ask good s qs (poll interval deadline late (asking ask good) n u)) :
    ∃ qs, Asked ask good s qs (poll interval deadline late (asking ask good) (n + 1) s) := by
  rw [poll_succ]
  rcases h : ask s with ⟨e | a, t⟩
  · rw [asking_of_error h]
    exact ⟨_, .givenUp e h not_held_error (.still t)⟩
  · rw [asking_of_ok h]
    cases ha : good a with
    | true => exact ⟨_, .held h ha⟩
    | false =>
        simp only
        by_cases hlate : deadline ≤ now t
        · rw [if_pos hlate]
          exact ⟨_, .givenUp late h (not_held_of_false ha) (.still t)⟩
        · rw [if_neg hlate]
          exact hrest h (not_held_of_false ha) (.sleep _ t)

theorem asked_poll (n : Nat) (s : σ) :
    ∃ qs, Asked ask good s qs (poll interval deadline late (asking ask good) (n + 1) s) := by
  induction n generalizing s with
  | zero => exact asked_poll_succ fun h hr hidle => ⟨_, .givenUp late h hr hidle⟩
  | succ n ih =>
      refine asked_poll_succ fun {r t u} h hr hidle => ?_
      obtain ⟨qs, hqs⟩ := ih u
      exact ⟨_, .again h hr hidle hqs⟩

end Poll

section Run

variable {p : RetryPolicy} {op : Try → Act σ InteractionFault Unit} {started : Nat}

/-- A try asks, and is the last one or another one follows. -/
theorem asked_run_succ {n number : Nat} {s : σ}
    (hop : ∀ t s, ∃ qs, Asked ask good s qs (op t s))
    (hrest : ∀ {qs e t u}, Asked ask good s qs (.error e, t) → Idle t u →
      ∃ qs, Asked ask good s qs (Retry.run p op started n (number + 1) u)) :
    ∃ qs, Asked ask good s qs (Retry.run p op started (n + 1) number s) := by
  rw [Retry.run_succ]
  obtain ⟨qs, hqs⟩ := hop (p.nth started number s) s
  rcases h : op (p.nth started number s) s with ⟨e | ⟨⟩, t⟩
  · rw [h] at hqs
    simp only
    split
    · exact ⟨qs, hqs⟩
    · split
      · exact ⟨qs, hqs.later (.paused p t) e⟩
      · exact hrest hqs (.paused p t)
  · rw [h] at hqs
    exact ⟨qs, hqs⟩

theorem asked_run (hop : ∀ t s, ∃ qs, Asked ask good s qs (op t s)) (n number : Nat) (s : σ) :
    ∃ qs, Asked ask good s qs (Retry.run p op started (n + 1) number s) := by
  induction n generalizing number s with
  | zero => exact asked_run_succ hop fun hqs hidle => ⟨_, hqs.later hidle Retry.uncounted⟩
  | succ n ih =>
      refine asked_run_succ hop fun {qs e t u} hqs hidle => ?_
      obtain ⟨more, hmore⟩ := ih (number + 1) u
      exact ⟨qs ++ more, hqs.append hidle hmore⟩

end Run

/-- All that a wait does is to ask, whatever the times of its policy are. -/
theorem asked_waitFor (p : WaitPolicy) (reason : Option String) (timeout : Nat)
    (ask : Act σ InteractionFault α) (good : α → Bool) (s : σ) :
    ∃ qs, Asked ask good s qs (waitFor p reason timeout (asking ask good) s) := by
  have hround : ∀ t s, ∃ qs, Asked ask good s qs
      (round p reason timeout (asking ask good) t s) := fun t s => asked_poll _ s
  obtain ⟨n, hn⟩ : ∃ n, Retry.maxTries = n + 1 := ⟨4294967294, rfl⟩
  have htries : ∃ qs, Asked ask good s qs (Retry.attempt (.budgeted timeout p.throttle)
      (round p reason timeout (asking ask good)) s) := by
    unfold Retry.attempt
    rw [hn]
    exact asked_run hround n 1 s
  obtain ⟨qs, hqs⟩ := htries
  refine ⟨qs, ?_⟩
  rw [waitFor_run]
  rcases h : Retry.attempt (.budgeted timeout p.throttle)
    (round p reason timeout (asking ask good)) s with ⟨e | ⟨⟩, t⟩
  · rw [h] at hqs
    exact hqs.later (.still t) _
  · rw [h] at hqs
    exact hqs

end Wait

end Bindery
