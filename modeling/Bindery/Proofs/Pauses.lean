import Bindery.Proofs.Outcome
import Bindery.Proofs.Significands

/-!
# Bindery — Proofs — Pauses

What is made of the pause that is bound for the time after an action.  A text binds a pause if it
writes a finite number that is not negative (`IsPause`).  Any other text is refused, and a number of
`2 ^ 64` seconds or more is none that a pause can have: it is not refused, and ends in a crash
(`parseWait_of_isEndless`).  Rounding to nanoseconds takes no number past that bound, as numbers of
that size have no fraction (`secondsBound_le_nanosOf_iff`).

Nothing else in the time after an action crashes, so an action on an element does so exactly if it
was done and such a pause is bound for it.
-/

namespace Bindery

/-- An end with a failure of some kind. -/
def FailsWith {ε α : Type} (kind : ε → Bool) (r : Except ε α) : Prop :=
  ∃ f, r = .error f ∧ kind f = true

section FailsWith

variable {ε α β : Type} {kind : ε → Bool}

@[simp] theorem failsWith_error {f : ε} :
    FailsWith kind (.error f : Except ε α) ↔ kind f = true := by
  constructor
  · rintro ⟨g, hg, hkind⟩
    cases hg
    exact hkind
  · intro hkind
    exact ⟨f, rfl, hkind⟩

@[simp] theorem not_failsWith_ok {a : α} : ¬ FailsWith kind (.ok a : Except ε α) := by
  rintro ⟨f, hf, -⟩
  cases hf

@[simp] theorem failsWith_map {g : α → β} {r : Except ε α} :
    FailsWith kind (r.map g) ↔ FailsWith kind r := by
  cases r <;> simp [Except.map]

end FailsWith

namespace Gate

open Bindery.Decimal
open Clock (secondNanos)

/-! ### Numbers of seconds -/

/-- A text writes a number of seconds that is not negative. -/
def IsPause (raw : String) (x : Binary64) : Prop :=
  read? (Text.trim raw) = some (.finite x) ∧ (x.negative = false ∨ x.isZero = true)

/-- A number of seconds that no pause can have. -/
def IsEndless (x : Binary64) : Prop :=
  2 ^ 64 * x.ratio.2 ≤ x.ratio.1

instance : DecidablePred IsEndless := fun _ => inferInstanceAs (Decidable (_ ≤ _))

theorem seconds?_eq_some_iff {raw : String} {x : Binary64} :
    seconds? raw = some x ↔ IsPause raw x := by
  rw [seconds?, Option.filter_eq_some_iff, Option.bind_eq_some_iff, IsPause, Bool.or_eq_true,
    Bool.not_eq_true']
  refine and_congr_left fun _ => ⟨?_, fun h => ⟨_, h, rfl⟩⟩
  rintro ⟨parsed, hread, hx⟩
  cases parsed with
  | finite y =>
      cases hx
      exact hread
  | infinite negative => cases hx
  | notANumber => cases hx

theorem IsPause.significand_lt {raw : String} {x : Binary64} (h : IsPause raw x) :
    x.significand < 2 ^ 53 :=
  significand_lt_of_read? h.1

/-- A text writes one number. -/
theorem IsPause.unique {raw : String} {x y : Binary64} (h : IsPause raw x) (h' : IsPause raw y) :
    x = y :=
  Parsed.finite.inj (Option.some.inj (h.1.symm.trans h'.1))

/-- In nanoseconds a number of seconds is past the bound exactly if it is in seconds. -/
theorem secondsBound_le_nanosOf_iff {x : Binary64} (hx : x.significand < 2 ^ 53) :
    secondsBound ≤ nanosOf x / secondNanos ↔ IsEndless x := by
  have hbound : secondsBound = 2 ^ 64 := by decide
  have hnanos : secondNanos = 1000000000 := rfl
  rw [nanosOf, IsEndless, Binary64.ratio_eq, hbound, hnanos]
  simp only
  by_cases hexponent : 0 ≤ x.exponent
  · -- a whole number of seconds
    have hone : (-x.exponent).toNat = 0 := by omega
    rw [hone, Nat.pow_zero, roundDiv_one, Nat.mul_div_cancel _ (by decide), Nat.mul_one]
  · have hone : x.exponent.toNat = 0 := by omega
    have hden : 1 ≤ 2 ^ (-x.exponent).toNat := Nat.one_le_two_pow
    have hround := roundDiv_le (x.significand * 1000000000) (2 ^ (-x.exponent).toNat)
    have hdiv := Nat.div_le_self (x.significand * 1000000000) (2 ^ (-x.exponent).toNat)
    rw [hone, Nat.pow_zero, Nat.mul_one]
    constructor
    · intro h
      omega
    · intro h
      omega

variable {key raw : String} {x : Binary64}

theorem parseWait_of_isPause (h : IsPause raw x) (hx : ¬ IsEndless x) :
    parseWait key raw = .ok (nanosOf x) := by
  have hlt : nanosOf x / secondNanos < secondsBound := by
    rw [← secondsBound_le_nanosOf_iff h.significand_lt] at hx
    exact Nat.lt_of_not_le hx
  unfold parseWait
  simp only [seconds?_eq_some_iff.2 h, if_pos hlt]

theorem parseWait_of_isEndless (h : IsPause raw x) (hx : IsEndless x) :
    parseWait key raw = .error (.endlessWait key raw) := by
  have hle : ¬ nanosOf x / secondNanos < secondsBound := by
    rw [← secondsBound_le_nanosOf_iff h.significand_lt] at hx
    exact Nat.not_lt_of_le hx
  unfold parseWait
  simp only [seconds?_eq_some_iff.2 h, if_neg hle]

theorem parseWait_of_not_isPause (h : ¬ ∃ x, IsPause raw x) :
    parseWait key raw = .error (.invalidWait key raw) := by
  have hnone : seconds? raw = none := by
    cases hx : seconds? raw with
    | none => rfl
    | some x => exact absurd ⟨x, seconds?_eq_some_iff.1 hx⟩ h
  unfold parseWait
  simp only [hnone]

/-- How a text that is bound as a pause is taken. -/
inductive Taken (key raw : String) : Except GateFault Nat → Prop where
  /-- It is a pause. -/
  | pause {n : Binary64} (hn : IsPause raw n) (hlt : ¬ IsEndless n) :
      Taken key raw (.ok (nanosOf n))
  /-- It is too long for one. -/
  | endless {n : Binary64} (hn : IsPause raw n) (hle : IsEndless n) :
      Taken key raw (.error (.endlessWait key raw))
  /-- It is none, and refused. -/
  | refused (h : ¬ ∃ n, IsPause raw n) : Taken key raw (.error (.invalidWait key raw))

theorem taken_parseWait (key raw : String) : Taken key raw (parseWait key raw) := by
  by_cases hnumber : ∃ n, IsPause raw n
  · obtain ⟨n, hn⟩ := hnumber
    by_cases hendless : IsEndless n
    · rw [parseWait_of_isEndless hn hendless]
      exact .endless hn hendless
    · rw [parseWait_of_isPause hn hendless]
      exact .pause hn hendless
  · rw [parseWait_of_not_isPause hnumber]
    exact .refused hnumber

theorem parseWait_eq_ok_iff {nanos : Nat} :
    parseWait key raw = .ok nanos ↔ ∃ n, IsPause raw n ∧ ¬ IsEndless n ∧ nanosOf n = nanos := by
  constructor
  · intro h
    have htaken := taken_parseWait key raw
    rw [h] at htaken
    cases htaken with
    | pause hn hlt => exact ⟨_, hn, hlt, rfl⟩
  · rintro ⟨n, hn, hlt, rfl⟩
    exact parseWait_of_isPause hn hlt

theorem parseWait_eq_invalid_iff :
    parseWait key raw = .error (.invalidWait key raw) ↔ ¬ ∃ n, IsPause raw n := by
  constructor
  · intro h
    have htaken := taken_parseWait key raw
    rw [h] at htaken
    cases htaken with
    | refused hnumber => exact hnumber
  · exact parseWait_of_not_isPause

theorem parseWait_eq_endless_iff :
    parseWait key raw = .error (.endlessWait key raw) ↔ ∃ n, IsPause raw n ∧ IsEndless n := by
  constructor
  · intro h
    have htaken := taken_parseWait key raw
    rw [h] at htaken
    cases htaken with
    | endless hn hle => exact ⟨_, hn, hle⟩
  · rintro ⟨n, hn, hle⟩
    exact parseWait_of_isEndless hn hle

/-- Blanks write no number. -/
theorem IsPause.not_blank (h : IsPause raw x) : Text.blank raw = false := by
  rw [Bool.eq_false_iff]
  intro hblank
  have hread := h.1
  rw [Text.trim_eq_empty_iff.2 hblank] at hread
  cases hread

/-! ### The parts of the time after an action -/

section Parts

variable {s : State} {element action : String} {waits : WaitPolicy}

theorem pauseAfter_of_none (h : notBlank? s.store (Key.wait element action) = none) :
    pauseAfter element action s = (.ok (), s) := by
  unfold pauseAfter
  rw [Act.bind_run_ok (Act.get_run s), h]
  rfl

theorem pauseAfter_of_error (h : notBlank? s.store (Key.wait element action) = some raw)
    {f : GateFault} (hparse : parseWait (Key.wait element action) raw = .error f) :
    pauseAfter element action s = (.error f, s) := by
  unfold pauseAfter
  rw [Act.bind_run_ok (Act.get_run s), h]
  simp only
  rw [Act.bind_run_error (Act.ofExcept_run _ s |>.trans (by rw [hparse]))]

theorem pauseAfter_of_ok (h : notBlank? s.store (Key.wait element action) = some raw)
    {nanos : Nat} (hparse : parseWait (Key.wait element action) raw = .ok nanos) :
    pauseAfter element action s =
      (.ok (), { s with
        world := s.world.sleep (pauseMillis (Timed.reading s.world) nanos) }) := by
  unfold pauseAfter
  rw [Act.bind_run_ok (Act.get_run s), h]
  simp only
  rw [Act.bind_run_ok (Act.ofExcept_run _ s |>.trans (by rw [hparse]))]
  rfl

theorem awaitAfter_of_none (h : notBlank? s.store (Key.condition element action) = none) :
    awaitAfter waits element action s = (.ok (), s) := by
  unfold awaitAfter
  rw [Act.bind_run_ok (Act.get_run s), h]
  rfl

theorem awaitAfter_of_error {condition : String} {f : GateFault}
    (h : notBlank? s.store (Key.condition element action) = some condition)
    (hscript : conditionScript s.store condition = .error f) :
    awaitAfter waits element action s = (.error f, s) := by
  unfold awaitAfter
  rw [Act.bind_run_ok (Act.get_run s), h]
  simp only
  rw [Act.bind_run_ok (Act.get_run s), hscript, Act.bind_run_error (Act.ofExcept_run _ s)]

theorem awaitAfter_of_ok {condition script : String}
    (h : notBlank? s.store (Key.condition element action) = some condition)
    (hscript : conditionScript s.store condition = .ok script) :
    awaitAfter waits element action s =
      ((Wait.untilDefault waits (some condition) (holds script) s.world).1.mapError .interaction,
        { s with world :=
          (Wait.untilDefault waits (some condition) (holds script) s.world).2 }) := by
  unfold awaitAfter
  rw [Act.bind_run_ok (Act.get_run s), h]
  simp only
  rw [Act.bind_run_ok (Act.get_run s), hscript, Act.bind_run_ok (Act.ofExcept_run _ s),
    State.inWorld_run, Act.failingAs]
  rcases Wait.untilDefault waits (some condition) (holds script) s.world with ⟨_ | _, _⟩ <;> rfl

theorem conditionScript_of_none {σ : ScopeStack} {condition : String}
    (h : notBlank? σ (Key.javascript condition) = none) :
    conditionScript σ condition =
      .error (.conditionUnbound condition (Key.javascript condition)) := by
  simp only [conditionScript, h]

theorem conditionScript_of_some {σ : ScopeStack} {condition script : String}
    (h : notBlank? σ (Key.javascript condition) = some script) :
    conditionScript σ condition = .ok (Script.predicate script) := by
  simp only [conditionScript, h]

/-- Waiting for a condition does not crash. -/
theorem not_crash_awaitAfter :
    ¬ FailsWith GateFault.isCrash (awaitAfter waits element action s).1 := by
  cases hbound : notBlank? s.store (Key.condition element action) with
  | none => simp [awaitAfter_of_none hbound]
  | some condition =>
      cases hscript : notBlank? s.store (Key.javascript condition) with
      | none =>
          rw [awaitAfter_of_error hbound (conditionScript_of_none hscript)]
          simp [GateFault.isCrash]
      | some script =>
          rw [awaitAfter_of_ok hbound (conditionScript_of_some hscript)]
          cases (Wait.untilDefault waits (some condition)
            (holds (Script.predicate script)) s.world).1 with
          | error g => simp [Except.mapError, GateFault.isCrash]
          | ok _ => simp [Except.mapError]

end Parts

/-! ### Crashes -/

/-- A pause is bound for the time after an action that no pause can have. -/
def BindsEndless (σ : ScopeStack) (element action : String) : Prop :=
  ∃ raw x, σ.find? (Key.wait element action) = some raw ∧ IsPause raw x ∧ IsEndless x

theorem notBlank?_eq_some_iff {σ : ScopeStack} {key v : String} :
    notBlank? σ key = some v ↔ σ.find? key = some v ∧ Text.blank v = false := by
  rw [notBlank?, Option.filter_eq_some_iff, Bool.not_eq_true']

/-- The pause after an action crashes exactly if it is too long for one. -/
theorem crash_pauseAfter_iff (element action : String) (s : State) :
    FailsWith GateFault.isCrash (pauseAfter element action s).1 ↔
      BindsEndless s.store element action := by
  constructor
  · intro h
    cases hbound : notBlank? s.store (Key.wait element action) with
    | none => simp [pauseAfter_of_none hbound] at h
    | some raw =>
        have htaken := taken_parseWait (Key.wait element action) raw
        cases hparse : parseWait (Key.wait element action) raw with
        | ok nanos => simp [pauseAfter_of_ok hbound hparse] at h
        | error f =>
            rw [pauseAfter_of_error hbound hparse, failsWith_error] at h
            rw [hparse] at htaken
            cases htaken with
            | endless hn hle => exact ⟨raw, _, (notBlank?_eq_some_iff.1 hbound).1, hn, hle⟩
            | refused hnumber => cases h
  · rintro ⟨raw, x, hraw, hx, hendless⟩
    have hbound := notBlank?_eq_some_iff.2 ⟨hraw, hx.not_blank⟩
    rw [pauseAfter_of_error hbound (parseWait_of_isEndless hx hendless)]
    simp [GateFault.isCrash]

/-- The value of an action is bound before the time after it passes. -/
theorem bindAndWait_run (waits : WaitPolicy) (element action value : String) (s : State) :
    bindAndWait waits element action value s =
      (do
        pauseAfter element action
        awaitAfter waits element action : State.Act GateFault Unit)
        { s with store := s.store.set (Key.action element action) value } := by
  unfold bindAndWait
  rw [State.bind, Act.bind_run_ok (Act.modify_run _ s)]

theorem wait_ne_action (element action : String) :
    Key.wait element action ≠ Key.action element action := by
  intro h
  have hlength := congrArg String.length h
  simp [Key.wait, Key.action, toString, String.length_append] at hlength

/-- The pause that is bound is not that of another key. -/
theorem bindsEndless_set (σ : ScopeStack) (element action value : String) :
    BindsEndless (σ.set (Key.action element action) value) element action ↔
      BindsEndless σ element action := by
  rw [BindsEndless, ScopeStack.find?_set_other (wait_ne_action element action), BindsEndless]

theorem crash_bindAndWait_iff (waits : WaitPolicy) (element action value : String) (s : State) :
    FailsWith GateFault.isCrash (bindAndWait waits element action value s).1 ↔
      BindsEndless s.store element action := by
  have hpause := crash_pauseAfter_iff element action
    { s with store := s.store.set (Key.action element action) value }
  rw [bindsEndless_set] at hpause
  rw [bindAndWait_run, ← hpause]
  rcases hrun : pauseAfter element action
    { s with store := s.store.set (Key.action element action) value } with ⟨g | ⟨⟩, u⟩
  · rw [Act.bind_run_error hrun]
  · rw [Act.bind_run_ok hrun]
    simp [not_crash_awaitAfter]

end Gate

namespace Session

open Gate

/-! ### Steps that crash -/

variable {x : Session} {s : State}

theorem crash_bindAndWait_iff {element action value : String} :
    FailsWith StepFault.isCrash (x.bindAndWait element action value s).1 ↔
      x.settings.dryRun = false ∧ BindsEndless s.store element action := by
  rw [bindAndWait]
  cases hdry : x.settings.dryRun with
  | true =>
      rw [if_pos rfl, State.bind, Act.modify_run]
      simp
  | false =>
      rw [if_neg Bool.false_ne_true,
        ← Gate.crash_bindAndWait_iff x.settings.waits element action value s]
      rcases hrun : Gate.bindAndWait x.settings.waits element action value s with ⟨g | _, t⟩
      · rw [Act.failingAs_run_error _ hrun]
        simp [StepFault.isCrash]
      · rw [Act.failingAs_run_ok _ hrun]
        simp

/-- What the time after an action leaves of the bindings. -/
theorem store_bindAndWait {element action value : String} :
    (x.bindAndWait element action value s).2.store =
      s.store.set (Key.action element action) value := by
  cases hdry : x.settings.dryRun with
  | true =>
      rw [bindAndWait, hdry, if_pos rfl]
      rfl
  | false => exact (bindAndWait_outcome hdry element action value s).2

/-- In a dry run an action on an element that is found only binds its value. -/
theorem act_of_dryRun {element action value : String}
    {deed : ElementId → World.Act InteractionFault Unit} {l : Locator} {t : State}
    (hdry : x.settings.dryRun = true) (hl : x.resolver.locator element s = (.ok l, t)) :
    x.act element action value deed s = x.bindAndWait element action value t := by
  unfold act
  rw [resolving, Act.bind_run_ok (Act.failingAs_run_ok _ hl)]
  simp only [hdry, Bool.not_true, Bool.false_eq_true, if_false]

/-- An operation on an element crashes exactly if it was done and the pause that is bound for the
time after it is too long for one. -/
theorem crash_perform_iff {op : Operation} {d : Deed} (hop : op.deed? = some d) :
    FailsWith StepFault.isCrash (x.perform op s).1 ↔
      x.settings.dryRun = false ∧ x.Done d s ∧
        BindsEndless (x.perform op s).2.store d.element d.action := by
  have hperform := congrFun (Operation.perform_of_deed? x hop) s
  rw [quietly_run] at hperform
  rw [hperform, failsWith_map]
  simp only
  rcases hl : x.resolver.locator d.element s with ⟨e | l, t⟩
  · -- the element is not found
    have hnot : ¬ x.Done d s := by
      rintro ⟨l, u, w, hl', -⟩
      cases hl.symm.trans hl'
    rw [act_of_locator_error hl]
    simp [StepFault.isCrash, hnot]
  · cases hlive : x.settings.dryRun with
    | true =>
        rw [act_of_dryRun hlive hl, crash_bindAndWait_iff, hlive]
        simp
    | false =>
        rcases hd : x.resolver.interactor.withElement (some d.action) l d.act t.world with
          ⟨f | ⟨⟩, w⟩
        · -- what is to be done to it fails
          have hnot : ¬ x.Done d s := by
            rintro ⟨l', u, w', hl', hd'⟩
            cases hl.symm.trans hl'
            cases hd.symm.trans hd'
          rw [act_of_deed_error hlive hl hd]
          simp [StepFault.isCrash, hnot]
        · have hdone : x.Done d s := ⟨l, t, w, hl, hd⟩
          rw [act_of_deed_ok hlive hl hd, crash_bindAndWait_iff, store_bindAndWait,
            bindsEndless_set, hlive]
          simp [hdone]

/-- **A bound pause crashes exactly if no pause can be that long.**  A text that is bound as a pause
gives its nanoseconds, is refused, or crashes: it gives them if it writes a finite number of seconds
that is not negative and is less than `2 ^ 64`, it is refused if it writes no number that is finite
and not negative, and it crashes if it writes one that is not less.  The time after an action
crashes exactly if the pause that is bound for it does, and an operation on an element exactly if
the element was found and acted on besides; none crashes in a dry run. -/
theorem crash_iff_endless (x : Session) {op : Operation} {d : Deed} (hop : op.deed? = some d)
    (s : State) :
    (∀ key raw,
      (∀ nanos, parseWait key raw = .ok nanos ↔
        ∃ n, IsPause raw n ∧ ¬ IsEndless n ∧ nanosOf n = nanos) ∧
      (parseWait key raw = .error (.invalidWait key raw) ↔ ¬ ∃ n, IsPause raw n) ∧
      (parseWait key raw = .error (.endlessWait key raw) ↔ ∃ n, IsPause raw n ∧ IsEndless n)) ∧
    (∀ waits element action value,
      FailsWith GateFault.isCrash (Gate.bindAndWait waits element action value s).1 ↔
        BindsEndless s.store element action) ∧
    (∀ element action value,
      FailsWith StepFault.isCrash (x.perform (.bindAndWait element action value) s).1 ↔
        x.settings.dryRun = false ∧ BindsEndless s.store element action) ∧
    (FailsWith StepFault.isCrash (x.perform op s).1 ↔
      x.settings.dryRun = false ∧ x.Done d s ∧
        BindsEndless (x.perform op s).2.store d.element d.action) := by
  refine ⟨fun key raw => ⟨fun nanos => parseWait_eq_ok_iff, parseWait_eq_invalid_iff,
    parseWait_eq_endless_iff⟩, fun waits element action value =>
      Gate.crash_bindAndWait_iff waits element action value s, fun element action value => ?_,
    crash_perform_iff hop⟩
  rw [perform, quietly_run, failsWith_map, crash_bindAndWait_iff]

/-- A note is to be clicked on, and the pause after it is far longer than any pause can be. -/
def endlessNote : State :=
  begin ⟨[], [("note/locator", "id"), ("note/locator/id", "n"), ("note/click/wait", "1e20")]⟩
    noteWorld

/-- The number of seconds that is bound as the pause after the click. -/
def endlessSeconds : Decimal.Binary64 := ⟨false, 6103515625000000, 14⟩

theorem isPause_endlessSeconds : IsPause "1e20" endlessSeconds :=
  ⟨by decide +kernel, .inl rfl⟩

/-- What a click does to the note. -/
def noteClick : Deed := ⟨"note", "click", "true", fun id => World.browse (Browser.click id)⟩

/-- The click is done, and crashes. -/
theorem endless_note_crashes :
    (Operation.click "note").deed? = some noteClick ∧
      FailsWith StepFault.isCrash (standard.perform (.click "note") endlessNote).1 := by
  have hop : (Operation.click "note").deed? = some noteClick := rfl
  have hend : EndsBound (standard.perform (.click "note") endlessNote).1 := by decide +kernel
  have hdone : standard.Done noteClick endlessNote := by
    by_contra hnot
    exact not_endsEarly_of_endsBound hend (endsEarly_of_not_done rfl hop hnot).1
  have hbound :
      BindsEndless (standard.perform (.click "note") endlessNote).2.store "note" "click" :=
    ⟨"1e20", endlessSeconds, by decide +kernel, isPause_endlessSeconds, by decide⟩
  obtain ⟨-, -, -, hcrash⟩ := crash_iff_endless standard hop endlessNote
  exact ⟨hop, hcrash.2 ⟨rfl, hdone, hbound⟩⟩

/-- The pause is written as a number that is finite and not negative, and yet it is neither had nor
refused. -/
theorem endless_pause_not_refused :
    IsPause "1e20" endlessSeconds ∧
      parseWait "note/click/wait" "1e20" = .error (.endlessWait "note/click/wait" "1e20") ∧
      (Gate.bindAndWait .standard "note" "click" "true" endlessNote).1 =
        .error (.endlessWait "note/click/wait" "1e20") :=
  ⟨isPause_endlessSeconds, by decide +kernel, by decide +kernel⟩

end Session

end Bindery
