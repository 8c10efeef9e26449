import Bindery.Proofs.Asking
import Bindery.Proofs.Pauses
import Bindery.Proofs.SparedPage

/-!
# Bindery — Proofs — Aftermath

The time after an action from end to end (`Gate.Aftermath`): what is bound, how much time passes
before anything else happens, which scripts are run, and how it ends.  Its pause comes first
(`Gate.Paused`), and the page may change in it by itself, but nothing is run (`World.ran_sleep`).
What is run after it is the script of its condition, and nothing else: the log of calls grows by one
line for each time it is asked (`Wait.Asked.ran`).

A pause passes in full if the clocks can tell (`Gate.Elapsed`).  One whose end the clock of the
machine cannot show is cut to thirty years, though it is not refused.
-/

namespace Bindery

/-! ### Scripts that are run -/

namespace World

variable {script : String} {w w' w'' : World}

theorem browse_time {α : Type} (a : Browser.Act α) (w : World) : (browse a w).2.time = w.time := by
  rcases e : a w.browser with ⟨f | x, b⟩ <;> simp only [browse, e]

/-- The line in the log of calls that running a script makes. -/
def scriptCall : Except InteractionFault Json → BrowserOp × Option BrowserFault
  | .error (.browser f) => (.executeScript, some f)
  | _ => (.executeScript, none)

/-- Between two worlds a script was run, with some results, and the browser did nothing else.  One
that fails is not written into the log of scripts. -/
structure Ran (script : String) (results : List (Except InteractionFault Json)) (w w' : World) :
    Prop where
  calls : w'.calls = (results.map scriptCall).reverse ++ w.calls
  scripts : w'.browser.scripts =
    List.replicate (results.countP (·.isOk)) (script, []) ++ w.browser.scripts

theorem Ran.append {results more : List (Except InteractionFault Json)}
    (h : Ran script results w w') (h' : Ran script more w' w'') :
    Ran script (results ++ more) w w'' where
  calls := by
    rw [h'.calls, h.calls, List.map_append, List.reverse_append, List.append_assoc]
  scripts := by
    rw [h'.scripts, h.scripts, ← List.append_assoc, List.replicate_append_replicate,
      List.countP_append, Nat.add_comm]

/-- A page that changes by itself runs nothing. -/
theorem scripts_apply (changes : List PageChange) (b : Browser) :
    (changes.foldl Browser.apply b).scripts = b.scripts := by
  induction changes generalizing b with
  | nil => rfl
  | cons c rest ih =>
      rw [List.foldl_cons, ih]
      cases c <;> rfl

/-- Nothing is run while time passes. -/
theorem ran_sleep (script : String) (pause : Nat) (w : World) :
    Ran script [] w (w.sleep pause) where
  calls := (onward_sleep pause w).1.calls
  scripts := by
    obtain ⟨changes, -, hhappened⟩ :=
      exists_happened (Clock.after w.time pause) w.browser w.coming
    show (happen _ w.browser w.coming).1.scripts = w.browser.scripts
    rw [hhappened, scripts_apply]

theorem ran_idle (h : Wait.Idle w w') : Ran script [] w w' := by
  induction h with
  | still w => exact ⟨rfl, rfl⟩
  | pause ms h ih => exact (ran_sleep script ms _).append ih

/-- A script that is run is written into the log of scripts, unless a failure is queued for it. -/
theorem scripts_executeScript (script : String) (b : Browser) :
    (Browser.executeScript script [] b).2.scripts =
      List.replicate ([(Browser.executeScript script [] b).1].countP (·.isOk)) (script, []) ++
        b.scripts := by
  rw [Browser.executeScript, Act.bind_run, Browser.enter_run]
  rcases Browser.takeFailure .executeScript b.failures with _ | ⟨f, left⟩ <;> rfl

theorem ran_browse {r : Except InteractionFault Json}
    (h : browse (Browser.executeScript script []) w = (r, w')) : Ran script [r] w w' := by
  have hlog := (Browser.Call.executeScript script []).logged w.browser
  have hscripts := scripts_executeScript script w.browser
  unfold browse at h
  rcases e : Browser.executeScript script [] w.browser with ⟨f | v, b⟩
  all_goals
    rw [e] at h hlog hscripts
    cases h
    refine ⟨?_, hscripts⟩
    simp only at hlog
    simp only [World.calls, hlog, List.zip_cons_cons]
    rfl

end World

theorem Wait.Asked.ran {script : String} {good : Json → Bool} {w : World} {qs : List (Asking Json)}
    {out : Except InteractionFault Unit × World}
    (h : Asked (World.browse (Browser.executeScript script [])) good w qs out) :
    World.Ran script (qs.map Asking.answer) w out.2 := by
  induction h with
  | held h ha => exact World.ran_browse h
  | givenUp e h hr hidle => exact (World.ran_browse h).append (World.ran_idle hidle)
  | again h hr hidle rest ih =>
      exact (World.ran_browse h).append ((World.ran_idle hidle).append ih)

namespace Gate

open Clock (lastTick milliNanos readingBound)

/-! ### The pause -/

/-- The pause that is bound for the time after an action has passed, if one is bound. -/
inductive Paused (σ : ScopeStack) (element action : String) (w : World) : World → Prop where
  /-- None is bound, and no time passes. -/
  | still (h : notBlank? σ (Key.wait element action) = none) : Paused σ element action w w
  /-- One is bound, and it passes. -/
  | passed {raw : String} {n : Decimal.Binary64}
      (h : notBlank? σ (Key.wait element action) = some raw) (hn : IsPause raw n)
      (hlt : ¬ IsEndless n) :
      Paused σ element action w (w.sleep (pauseMillis (Timed.reading w) (nanosOf n)))

/-- Between two times a pause of some nanoseconds has passed that began where the clock of the
machine had some reading. -/
structure Elapsed (reading nanos time later : Nat) : Prop where
  /-- A pause passes in full, and ends with the tick in which it is over. -/
  full : reading + nanos < readingBound → time * milliNanos + nanos ≤ lastTick * milliNanos →
    time * milliNanos + nanos ≤ later * milliNanos ∧
      later * milliNanos < time * milliNanos + nanos + milliNanos
  /-- One that would end after the last tick lasts until then. -/
  last : reading + nanos < readingBound → lastTick * milliNanos < time * milliNanos + nanos →
    later = max time lastTick
  /-- One whose end the clock of the machine cannot show lasts thirty years. -/
  far : readingBound ≤ reading + nanos → later = Clock.after time farPause

/-- The milliseconds of a pause that is not too far off are the fewest in which it is over. -/
theorem pauseMillis_bounds {reading nanos : Nat} (h : reading + nanos < readingBound) :
    nanos ≤ pauseMillis reading nanos * milliNanos ∧
      pauseMillis reading nanos * milliNanos < nanos + milliNanos := by
  rw [pauseMillis, if_neg (Nat.not_le_of_lt h)]
  unfold milliNanos
  omega

theorem elapsed_after (reading nanos time : Nat) :
    Elapsed reading nanos time (Clock.after time (pauseMillis reading nanos)) where
  full hreading hlast := by
    obtain ⟨hle, hlt⟩ := pauseMillis_bounds hreading
    have hlater :
        (time + pauseMillis reading nanos) * milliNanos < (lastTick + 1) * milliNanos := by
      rw [Nat.add_mul, Nat.add_mul, Nat.one_mul]
      omega
    rw [Clock.after_of_le (Nat.le_of_lt_succ (Nat.lt_of_mul_lt_mul_right hlater)), Nat.add_mul]
    omega
  last hreading hlast := by
    obtain ⟨hle, -⟩ := pauseMillis_bounds hreading
    have hlater : lastTick * milliNanos < (time + pauseMillis reading nanos) * milliNanos := by
      rw [Nat.add_mul]
      omega
    exact Clock.after_of_lt (Nat.lt_of_mul_lt_mul_right hlater)
  far hreading := by rw [pauseMillis, if_pos hreading]

/-- A pause is refused, it crashes, or it passes. -/
theorem exists_paused (σ : ScopeStack) (element action : String) (w : World) :
    (∃ raw, notBlank? σ (Key.wait element action) = some raw ∧ ¬ ∃ n, IsPause raw n) ∨
      BindsEndless σ element action ∨ ∃ w', Paused σ element action w w' := by
  cases hraw : notBlank? σ (Key.wait element action) with
  | none => exact .inr (.inr ⟨w, .still hraw⟩)
  | some raw =>
      have htaken := taken_parseWait (Key.wait element action) raw
      generalize parseWait (Key.wait element action) raw = r at htaken
      cases htaken with
      | pause hn hlt => exact .inr (.inr ⟨_, .passed hraw hn hlt⟩)
      | endless hn hle =>
          exact .inr (.inl ⟨raw, _, (notBlank?_eq_some_iff.1 hraw).1, hn, hle⟩)
      | refused hnumber => exact .inl ⟨raw, rfl, hnumber⟩

theorem Paused.elapsed {σ : ScopeStack} {element action raw : String} {n : Decimal.Binary64}
    {w w' : World} (h : Paused σ element action w w')
    (hraw : notBlank? σ (Key.wait element action) = some raw) (hn : IsPause raw n) :
    Elapsed (Timed.reading w) (nanosOf n) w.time w'.time := by
  cases h with
  | still hnone => cases hnone.symm.trans hraw
  | passed hraw' hn' hlt =>
      cases hraw'.symm.trans hraw
      rw [hn'.unique hn]
      exact elapsed_after (Timed.reading w) (nanosOf n) w.time

theorem Paused.ran {σ : ScopeStack} {element action : String} {w w' : World}
    (h : Paused σ element action w w') (script : String) : World.Ran script [] w w' := by
  cases h with
  | still => exact ⟨rfl, rfl⟩
  | passed => exact World.ran_sleep script _ w

section

variable {s : State} {element action value : String} {w : World}

theorem pauseAfter_of_paused (h : Paused s.store element action s.world w) :
    pauseAfter element action s = (.ok (), { s with world := w }) := by
  cases h with
  | still h => exact pauseAfter_of_none h
  | passed h hn hlt => exact pauseAfter_of_ok h (parseWait_of_isPause hn hlt)

/-- After the pause the condition is waited for. -/
theorem bindAndWait_of_paused {waits : WaitPolicy}
    (h : Paused (s.store.set (Key.action element action) value) element action s.world w) :
    bindAndWait waits element action value s = awaitAfter waits element action
      { s with store := s.store.set (Key.action element action) value, world := w } := by
  have hpause := pauseAfter_of_paused
    (s := { s with store := s.store.set (Key.action element action) value }) h
  rw [bindAndWait_run, Act.bind_run_ok hpause]

theorem bindAndWait_of_refused {waits : WaitPolicy} {raw : String}
    (h : notBlank? (s.store.set (Key.action element action) value) (Key.wait element action) =
      some raw) (hraw : ¬ ∃ n, IsPause raw n) :
    bindAndWait waits element action value s =
      (.error (.invalidWait (Key.wait element action) raw),
        { s with store := s.store.set (Key.action element action) value }) := by
  have hpause := pauseAfter_of_error
    (s := { s with store := s.store.set (Key.action element action) value }) h
    (parseWait_of_not_isPause hraw)
  rw [bindAndWait_run, Act.bind_run_error hpause]

/-- The bounds of what changes nothing but the world. -/
def worldly : Bounds State :=
  .ofRelation (fun s t => t = { s with world := t.world }) (fun _ => rfl) fun s t u hst htu => by
    rw [htu, hst]

theorem within_worldly_inWorld {ε α : Type} (a : World.Act ε α) :
    Act.Within worldly (State.inWorld a) :=
  Act.Within.ofRelation_iff.2 fun s => by rw [State.inWorld_run]

/-- Only the value of the action is bound, and nothing else but the world changes. -/
theorem bindAndWait_frame (waits : WaitPolicy) (element action value : String) (s : State) :
    (bindAndWait waits element action value s).2 = { s with
      store := s.store.set (Key.action element action) value,
      world := (bindAndWait waits element action value s).2.world } := by
  have hafter : Act.Within worldly (do
      pauseAfter element action
      awaitAfter waits element action) :=
    .bind (within_pauseAfter fun _ => within_worldly_inWorld _) fun _ =>
      within_awaitAfter fun _ _ => within_worldly_inWorld _
  rw [bindAndWait_run]
  exact Act.Within.ofRelation_iff.1 hafter _

end

/-! ### End to end -/

/-- The result of the script of a condition that counts as true: the value true, or the word in any
case with blanks around it. -/
def IsTrue (v : Json) : Prop :=
  v = .bool true ∨ ∃ s, v = .string s ∧ Text.lowerAscii (Text.trim s) = "true"

theorem resultIsTrue_iff (v : Json) : Script.resultIsTrue v = true ↔ IsTrue v := by
  cases v <;> simp [Script.resultIsTrue, IsTrue]

/-- What is promised of the time after an action that began in one state and ended, in some way, in
another one. -/
structure Aftermath (element action value : String) (s : State) (r : Except GateFault Unit)
    (t : State) : Prop where
  /-- The value of the action is bound in the innermost scope, and nothing but that and the world
  changes, however it ends. -/
  bound : t = { s with
    store := s.store.set (Key.action element action) value, world := t.world }
  /-- The pause is refused, it crashes, or it passes. -/
  begun : (∃ raw, notBlank? t.store (Key.wait element action) = some raw ∧ ¬ ∃ n, IsPause raw n) ∨
    BindsEndless t.store element action ∨ ∃ w, Paused t.store element action s.world w
  /-- A pause that is no number of seconds is refused.  No time passes, and nothing is run. -/
  refused : ∀ {raw}, notBlank? t.store (Key.wait element action) = some raw →
    (¬ ∃ n, IsPause raw n) →
      r = .error (.invalidWait (Key.wait element action) raw) ∧ t.world = s.world
  /-- Nothing is run while any other pause passes, -/
  silent : ∀ {w}, Paused t.store element action s.world w →
    w.calls = s.world.calls ∧ w.browser.scripts = s.world.browser.scripts
  /-- and it passes in full, if the clocks can tell. -/
  elapsed : ∀ {raw n w}, notBlank? t.store (Key.wait element action) = some raw → IsPause raw n →
    Paused t.store element action s.world w →
      Elapsed (Timed.reading s.world) (nanosOf n) s.world.time w.time
  /-- Without a condition it ends well with the pause. -/
  done : ∀ {w}, Paused t.store element action s.world w →
    notBlank? t.store (Key.condition element action) = none → r = .ok () ∧ t.world = w
  /-- A condition without a script fails with the pause. -/
  unbound : ∀ {w condition}, Paused t.store element action s.world w →
    notBlank? t.store (Key.condition element action) = some condition →
      notBlank? t.store (Key.javascript condition) = none →
        r = .error (.conditionUnbound condition (Key.javascript condition)) ∧ t.world = w
  /-- The script of a condition is run after the pause, and nothing else is.  It ends well exactly
  if one of the results counts as true. -/
  polled : ∀ {w condition script}, Paused t.store element action s.world w →
    notBlank? t.store (Key.condition element action) = some condition →
      notBlank? t.store (Key.javascript condition) = some script →
        ∃ (runs : List (Wait.Asking Json)) (out : Except InteractionFault Unit),
          r = out.mapError .interaction ∧
            Wait.Asked (World.browse (Browser.executeScript (Script.predicate script) []))
              Script.resultIsTrue w runs (out, t.world) ∧
            World.Ran (Script.predicate script) (runs.map Wait.Asking.answer) w t.world ∧
            (∀ run ∈ runs, w.time ≤ run.began) ∧
            (r = .ok () ↔ ∃ run ∈ runs, ∃ v, run.answer = .ok v ∧ IsTrue v)

/-- What is asked while a condition is waited for. -/
theorem holds_eq_asking (script : String) :
    holds script =
      Wait.asking (World.browse (Browser.executeScript script [])) Script.resultIsTrue := rfl

/-- A condition that is waited for from some world on: its script is run, and nothing else is. -/
theorem polled_of_untilDefault {waits : WaitPolicy} {reason : Option String} {script : String}
    {w u : World} {out : Except InteractionFault Unit}
    (h : Wait.untilDefault waits reason (holds script) w = (out, u)) :
    ∃ runs : List (Wait.Asking Json),
      Wait.Asked (World.browse (Browser.executeScript script [])) Script.resultIsTrue w runs
          (out, u) ∧
        World.Ran script (runs.map Wait.Asking.answer) w u ∧
        (∀ run ∈ runs, w.time ≤ run.began) ∧
        (out = .ok () ↔ ∃ run ∈ runs, ∃ v, run.answer = .ok v ∧ IsTrue v) := by
  rw [holds_eq_asking, Wait.untilDefault] at h
  obtain ⟨runs, hruns⟩ := Wait.asked_waitFor waits reason waits.defaultTimeout
    (World.browse (Browser.executeScript script [])) Script.resultIsTrue w
  rw [h] at hruns
  refine ⟨runs, hruns, hruns.ran, hruns.le_began fun w => ?_, ?_⟩
  · exact Nat.le_of_eq (World.browse_time _ w).symm
  · simp only [← resultIsTrue_iff]
    exact hruns.ok_iff

/-- **The time after an action, end to end.**  Its value is bound however it ends.  A pause that is
no number of seconds is refused at once; any other passes in full, if the clocks can tell, before
anything else happens.  Then it ends well if there is no condition, fails if the condition has no
script, and otherwise runs that script until a result counts as true or the wait is over. -/
theorem aftermath_bindAndWait (waits : WaitPolicy) (element action value : String) (s : State) :
    Aftermath element action value s (bindAndWait waits element action value s).1
      (bindAndWait waits element action value s).2 := by
  have hframe := bindAndWait_frame waits element action value s
  have hstore : (bindAndWait waits element action value s).2.store =
      s.store.set (Key.action element action) value := congrArg State.store hframe
  refine ⟨hframe, ?_, ?_, ?_, ?_, ?_, ?_, ?_⟩ <;> rw [hstore]
  · exact exists_paused _ element action s.world
  · intro raw hraw hnumber
    rw [bindAndWait_of_refused hraw hnumber]
    exact ⟨rfl, rfl⟩
  · intro w hpaused
    obtain ⟨hcalls, hscripts⟩ := hpaused.ran ""
    exact ⟨hcalls, hscripts⟩
  · intro raw n w hraw hn hpaused
    exact hpaused.elapsed hraw hn
  · intro w hpaused hcondition
    rw [bindAndWait_of_paused hpaused, awaitAfter_of_none hcondition]
    exact ⟨rfl, rfl⟩
  · intro w condition hpaused hcondition hscript
    rw [bindAndWait_of_paused hpaused,
      awaitAfter_of_error hcondition (conditionScript_of_none hscript)]
    exact ⟨rfl, rfl⟩
  · intro w condition script hpaused hcondition hscript
    rw [bindAndWait_of_paused hpaused,
      awaitAfter_of_ok hcondition (conditionScript_of_some hscript)]
    rcases hrun : Wait.untilDefault waits (some condition) (holds (Script.predicate script)) w with
      ⟨out, u⟩
    obtain ⟨runs, hasked, hran, hbegan, hok⟩ := polled_of_untilDefault hrun
    refine ⟨runs, out, rfl, hasked, hran, hbegan, ?_⟩
    rw [← hok]
    cases out <;> simp [Except.mapError]

/-- A pause of ten quintillion seconds is bound for the time after a click, and a condition that
holds at once. -/
def farNote : State :=
  let browser := Browser.opened.apply (.onScript "ready" [.bool true])
  ⟨⟨[], [("note/click/wait", "1e19"), ("note/click/condition", "ready"),
    ("ready/javascript", "ready()")]⟩, [], { World.fresh .bare [] with browser }, []⟩

/-- The number of seconds that is bound as the pause. -/
def farAway : Decimal.Binary64 := ⟨false, 4882812500000000, 11⟩

/-- The pause is neither refused nor does it pass in full before the script is run: it is cut to
thirty years. -/
theorem far_pause_cut_short :
    IsPause "1e19" farAway ∧ (bindAndWait .standard "note" "click" "true" farNote).1 = .ok () ∧
      (bindAndWait .standard "note" "click" "true" farNote).2.world.browser.scripts.map Prod.fst =
        ["return ready()"] ∧
      (bindAndWait .standard "note" "click" "true" farNote).2.world.time = farPause ∧
      farPause * milliNanos < nanosOf farAway :=
  ⟨⟨by decide +kernel, .inl rfl⟩, by decide +kernel, by decide +kernel, by decide +kernel,
    by decide +kernel⟩

end Gate

end Bindery
