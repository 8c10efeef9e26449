import Bindery.Proofs.ActiveFrame
import Bindery.Proofs.Reading
import Bindery.Proofs.Steps
import Bindery.Proofs.Turns

/-!
# Bindery — Proofs — Frame leak

No frame leaks out of an operation.  Whatever is done with an element keeps the active frame as it
is, so by `Interactor.within_frameless_withElement` an operation leaves a frame active only where
the last switch back failed; waits keep that too (`astray_untilDefault`).  An operation is taken
apart once, and each of its parts is one of these (`ends_perform`).
-/

namespace Bindery

open World (browse Still Astray Waiting still frameless)

/-! ### What is done with an element -/

namespace Interaction

theorem within_still_readText (id : ElementId) : (readText id).Within still := by
  unfold readText
  refine .bind (World.within_still_browse (.readElement _ _ _) rfl) fun text => .ite (.pure _) ?_
  exact .bind (World.within_still_browse (.readElement _ _ _) rfl) fun _ => .pure _

theorem within_still_typeText (text : String) (clearFirst sendEnter : Bool) (id : ElementId) :
    (typeText text clearFirst sendEnter id).Within still := by
  have keys (keys : String) : Act.Within still (browse (Browser.sendKeys id keys)) :=
    World.within_still_browse (.onElement _ _ _) rfl
  have type : Act.Within still (do
      browse (Browser.sendKeys id text)
      if sendEnter then browse (Browser.sendKeys id (String.singleton Browser.enterKey))) :=
    .bind (keys _) fun _ => .ite (keys _) (.pure _)
  unfold typeText
  exact .ite (.bind (World.within_still_browse (.onElement _ _ _) rfl) fun _ => type) type

theorem within_still_setChecked (checked : Bool) (id : ElementId) :
    (setChecked checked id).Within still := by
  refine .bind (World.within_still_browse (.readElement _ _ _) rfl) fun selected => ?_
  exact .ite (World.within_still_browse (.onElement _ _ _) rfl) (.pure _)

theorem within_still_runOn (id : ElementId) (script : String) (args : List ScriptArgument) :
    (runOn id script args).Within still :=
  World.within_still_browse (.executeScript _ _) rfl

theorem within_still_scrollIntoView (throttle : Nat) (id : ElementId) :
    (scrollIntoView throttle id).Within still :=
  .bind (within_still_runOn _ _ _) fun _ => World.within_still_pause _

theorem within_still_highlight (style : String) (time : Nat) (id : ElementId) :
    (highlight style time id).Within still :=
  .bind (within_still_runOn _ _ _) fun _ => .bind (World.within_still_pause _) fun _ =>
    .bind (within_still_runOn _ _ _) fun _ => .pure _

theorem within_still_hasState (state : ElementState) (id : ElementId) :
    (hasState state id).Within still := by
  have read (op : BrowserOp) (f : PageElement → Bool) (h : op.changesFrame = false) :
      Act.Within still (browse (Browser.readElement op id f)) :=
    World.within_still_browse (.readElement _ _ _) h
  cases state with
  | displayed => exact read .isDisplayed _ rfl
  | hidden => exact .bind (read .isDisplayed _ rfl) fun _ => .pure _
  | checked => exact read .isSelected _ rfl
  | unchecked => exact .bind (read .isSelected _ rfl) fun _ => .pure _
  | enabled => exact read .isEnabled _ rfl
  | disabled => exact .bind (read .isEnabled _ rfl) fun _ => .pure _

end Interaction

/-! ### Who answers queries -/

namespace Evaluators

/-- Evaluators that activate no frame, as they are to run scripts at most. -/
def KeepStill (e : Evaluators) : Prop := ∀ q, (e q).Within still

theorem within_still_runScript (script : String) (args : List ScriptArgument) :
    (runScript script args).Within still :=
  .failingAs _ (World.within_still_browse (.executeScript _ _) rfl)

theorem within_still_processText (command : String) : (processText command).Within still := by
  refine Act.Within.ofRelation_iff.2 fun w => ?_
  unfold processText
  split
  · exact .refl w
  · simp only
    split <;> exact .beside w _ w.shots w.asked

theorem keepStill_standard : KeepStill standard := by
  intro q
  cases q with
  | script s => exact .bind (within_still_runScript _ _) fun _ => .pure _
  | xpath e s t => exact .bind (within_still_runScript _ _) fun _ => .ofExcept _
  | regex e s => exact .ofExcept _
  | jsonPath e s => exact .ofExcept _
  | process c => exact within_still_processText c
  | file p => exact .bind .get fun _ => .ofExcept _

theorem keepStill_echo : KeepStill echo := by
  intro q
  cases q with
  | file p => exact .throw _
  | _ => exact .pure _

theorem within_still_consult {e : Evaluators} (h : e.KeepStill) (q : Query) :
    (consult e q).Within still :=
  .bind (.modify fun w => .beside w w.host w.shots (q :: w.asked)) fun _ => h q

end Evaluators

/-! ### Waits -/

/-- A wait leaves no frame active unless the way back was lost, if each of its questions goes on
with it. -/
theorem Wait.astray_untilDefault {inside : Prop} {condition : World.Act InteractionFault Bool}
    {w : World} (hcond : ∀ w', Waiting inside w w' → Waiting inside w (condition w').2)
    (p : WaitPolicy) (reason : Option String) :
    Astray w (Wait.untilDefault p reason condition w).2 := by
  have h : (Wait.untilDefault p reason condition).Within (.keeping (Waiting inside w)) :=
    Wait.within_untilDefault (fun pause _ h => h.sleep pause) p reason
      (Act.Within.ofRelation_iff.2 hcond)
  exact Waiting.astray fun hw => Act.Within.ofRelation_iff.1 h w (.refl hw)

namespace Session

variable {x : Session}

theorem stateOf_world (state : ElementState) (l : Locator) (w : World) :
    (x.stateOf state l w).2 =
      (x.resolver.interactor.withElement none l (Interaction.hasState state) w).2 := by
  unfold stateOf
  rcases x.resolver.interactor.withElement none l (Interaction.hasState state) w with ⟨f | b, w'⟩
  · simp only
    split
    · rfl
    · split <;> rfl
  · rfl

theorem waiting_stateOf {state : ElementState} {l : Locator} {w w' : World}
    (h : Waiting (l.container.isSome = true) w w') :
    Waiting (l.container.isSome = true) w (x.stateOf state l w').2 := by
  rw [stateOf_world]
  exact x.resolver.interactor.waiting_withElement none (Interaction.within_still_hasState state) h

theorem waiting_showsText {l : Locator} {w w' : World}
    (h : Waiting (l.container.isSome = true) w w') :
    Waiting (l.container.isSome = true) w (x.showsText l w').2 := by
  have hread := x.resolver.interactor.waiting_withElement none Interaction.within_still_readText h
  unfold showsText
  rw [Act.bind_run]
  rcases e : x.resolver.interactor.withElement none l Interaction.readText w' with ⟨f | text, w''⟩
  · rwa [e] at hread
  · rwa [e] at hread

/-! ### Lookups and steps -/

/-- The bounds of a session that leaves no frame active. -/
def frameless : Bounds State := World.frameless.comap State.world

theorem within_frameless_inWorld {ε α : Type} {a : World.Act ε α} (ha : a.Within World.frameless) :
    Act.Within frameless (State.inWorld a) :=
  .inPart ha (fun _ _ h => h) fun _ _ h => h

theorem within_frameless_still {ε α : Type} {a : World.Act ε α} (ha : a.Within still) :
    Act.Within frameless (State.inWorld a) :=
  within_frameless_inWorld (World.frameless_of_still ha)

theorem permits_frameless {r : Resolver Interactor} (he : r.evaluators.KeepStill) :
    r.Permits frameless where
  url := by
    refine .bind (.ite (.pure _) ?_) fun _ => .modify fun s => .refl s.world
    exact within_frameless_still (.failingAs _ (World.within_still_browse .currentUrl rfl))
  ask _ _ _ := .ite (.pure _)
    (.failingAs _ (within_frameless_still (Evaluators.within_still_consult he _)))
  file _ _ := .failingAs _ (within_frameless_still (Evaluators.within_still_consult he _))
  text := by
    intro room name l s t _ _ _ h
    refine .after h ?_
    rw [Resolver.liveText_run]
    split
    · exact .done (.refl t.world)
    · have hread : World.frameless.Allows t.world (PageReader.text r.interactor l t.world) :=
        r.interactor.within_frameless_withElement none Interaction.within_still_readText t.world
      rcases e : PageReader.text r.interactor l t.world with ⟨f | text, w⟩
      · rw [e] at hread
        exact .failed hread.of_error
      · rw [e] at hread
        exact .done hread.of_ok

theorem within_frameless_interacting {α : Type} {action : Option String} {l : Locator}
    {deed : ElementId → World.Act InteractionFault α} (hdeed : ∀ id, (deed id).Within still) :
    Act.Within frameless (interacting (x.resolver.interactor.withElement action l deed)) :=
  within_frameless_inWorld
    (.failingAs _ (x.resolver.interactor.within_frameless_withElement action hdeed))

theorem within_frameless_bindAndWait (element action value : String) :
    Act.Within frameless (x.bindAndWait element action value) := by
  refine within_bindAndWait (fun s => .refl s.world)
    (fun _ => within_frameless_still (.modify fun w => World.still_sleep _ w))
    fun condition script => ?_
  refine within_frameless_still (.failingAs _ ?_)
  refine Wait.within_untilDefault World.still_sleep _ _ ?_
  exact .bind (World.within_still_browse (.executeScript _ _) rfl) fun _ => .pure _

theorem within_frameless_act (he : x.resolver.evaluators.KeepStill) (element action value : String)
    {deed : ElementId → World.Act InteractionFault Unit} (hdeed : ∀ id, (deed id).Within still) :
    Act.Within frameless (x.act element action value deed) := by
  refine within_act ((permits_frameless he).within_locator element)
    (fun l => within_frameless_interacting hdeed) (fun s => ?_)
    (within_frameless_bindAndWait element action value)
  show Still s.world (invalidateText element s).world
  rw [world_invalidateText]
  exact .refl s.world

/-- What is asked of an element may lose the way back and not say so. -/
theorem ends_withLocated {α : Type} (he : x.resolver.evaluators.KeepStill) {element : String}
    {inDryRun : α} {deed : Locator → World.Act InteractionFault α}
    (hdeed : ∀ l w, Astray w (deed l w).2) :
    Act.Ends frameless (x.withLocated element inDryRun deed) := by
  unfold withLocated
  refine .bind (within_resolving ((permits_frameless he).within_locator element)) fun l =>
    .ite (.of_within (.pure _)) fun s => ?_
  rw [interacting_run]
  exact hdeed l s.world

theorem ends_awaitState (he : x.resolver.evaluators.KeepStill) (element : String)
    (state : ElementState) : Act.Ends frameless (x.awaitState element state) := by
  have h (l : Locator) (w : World) : Astray w (Wait.untilDefault x.settings.waits
      (some s!"{element} to be {state.word}") (x.stateOf state l) w).2 :=
    Wait.astray_untilDefault (fun _ h => waiting_stateOf h) _ _
  exact ends_withLocated he h

theorem ends_awaitText (he : x.resolver.evaluators.KeepStill) (element : String) :
    Act.Ends frameless (x.awaitText element) := by
  have h (l : Locator) (w : World) : Astray w (Wait.untilDefault x.settings.waits
      (some s!"text in {element}") (x.showsText l) w).2 :=
    Wait.astray_untilDefault (fun _ h => waiting_showsText h) _ _
  exact ends_withLocated he h

/-- However an operation ends, it leaves no frame active, unless the way back was lost. -/
theorem ends_perform (he : x.resolver.evaluators.KeepStill) (op : Operation) :
    Act.Ends frameless (x.perform op) := by
  have lookups := permits_frameless he
  have acts (element action value : String) {deed : ElementId → World.Act InteractionFault Unit}
      (hdeed : ∀ id, (deed id).Within still) :
      Act.Ends frameless (quietly (x.act element action value deed)) :=
    .of_within (within_quietly (within_frameless_act he element action value hdeed))
  have located (element : String) {deed : ElementId → World.Act InteractionFault Unit}
      (hdeed : ∀ id, (deed id).Within still) :
      Act.Ends frameless (quietly (x.withLocated element () fun l =>
        x.resolver.interactor.withElement none l deed)) :=
    .of_within (within_quietly (within_withLocated (lookups.within_locator element)
      fun l => within_frameless_interacting hdeed))
  have rescoped (f : ScopeStack → Except ScopeFault ScopeStack) :
      Act.Ends frameless (quietly (rebinding f)) :=
    .of_within (within_quietly (within_rebinding fun s _ _ => .refl s.world))
  -- what asks for a state or waits may lose the way back and not say so; all others fail then
  cases op with
  | bind key value => exact .of_within (within_quietly (.modify fun s => .refl s.world))
  | bindIn kind key value => exact rescoped _
  | beginFeature name => exact rescoped _
  | endFeature => exact rescoped _
  | resetPage => exact .of_within (within_quietly (.modify fun s => .refl s.world))
  | locator element =>
      exact .of_within (.bind (within_resolving (lookups.within_locator element)) fun _ => .pure _)
  | value name => exact .of_within (within_saying (lookups.within_value name))
  | reference name => exact .of_within (within_saying (lookups.within_referenceValue name))
  | interpolate template => exact .of_within (within_saying (lookups.within_interpolate template))
  | selection name facet =>
      refine .of_within (within_saying (Resolver.within_selection (lookups.within_locator name)
        (fun l => ?_) fun v => .modify fun s => .refl s.world))
      refine within_frameless_inWorld (.failingAs _ ?_)
      exact x.resolver.interactor.within_frameless_withElement none fun id =>
        World.within_still_browse (.readElement _ _ _) rfl
  | bindAndWait element action value =>
      exact .of_within (within_quietly (within_frameless_bindAndWait element action value))
  | sendKeys element text clearFirst sendEnter =>
      exact acts _ _ _ (Interaction.within_still_typeText _ _ _)
  | clearText element =>
      exact acts _ _ _ fun _ => World.within_still_browse (.onElement _ _ _) rfl
  | click element => exact acts _ _ _ fun _ => World.within_still_browse (.onElement _ _ _) rfl
  | submit element => exact acts _ _ _ fun _ => World.within_still_browse (.readElement _ _ _) rfl
  | check element => exact acts _ _ _ (Interaction.within_still_setChecked _)
  | uncheck element => exact acts _ _ _ (Interaction.within_still_setChecked _)
  | select element choice =>
      exact acts _ _ _ fun _ => World.within_still_browse (.onElement _ _ _) rfl
  | moveTo element => exact located _ (Interaction.within_still_scrollIntoView _)
  | highlight element => exact located _ (Interaction.within_still_highlight _ _)
  | isInState element state =>
      have h (l : Locator) (w : World) : Astray w (x.stateOf state l w).2 :=
        Waiting.astray fun hw => waiting_stateOf (.refl hw)
      exact .map (ends_withLocated he h) Answer.truth
  | awaitState element state => exact ends_quietly (ends_awaitState he element state)
  | awaitText element => exact ends_quietly (ends_awaitText he element)
  | navigate url =>
      refine .of_within (within_quietly (within_navigate (lookups.within_interpolate url)
        (fun url => ?_) (.modify fun s => .refl s.world)))
      exact within_frameless_still (.failingAs _ (World.within_still_navigateTo url))
  | runScript script =>
      exact .of_within (.bind (within_runScript (lookups.within_interpolate script) fun q =>
        within_frameless_still (Evaluators.within_still_consult he q)) fun _ => .pure _)

/-! ### Runs -/

/-- A turn that neither activates a frame from outside nor injects a failure of switching to a
window. -/
def Turn.Harmless : Turn → Prop
  | .perform _ => True
  | .outside change => ∀ w, (w.browser.frame = none → (change w).browser.frame = none) ∧
      ∀ f, (change w).Injected .switchToWindow f → w.Injected .switchToWindow f

/-- A turn leaves no frame active where no failure of switching to a window is injected, and there
is none after it. -/
theorem take_frameless (he : x.resolver.evaluators.KeepStill) {turn : Turn} (hturn : turn.Harmless)
    {s : State} (hframe : s.world.browser.frame = none)
    (hsafe : ∀ f, ¬ s.world.Injected .switchToWindow f) :
    (x.take s turn).world.browser.frame = none ∧
      ∀ f, ¬ (x.take s turn).world.Injected .switchToWindow f := by
  cases turn with
  | perform op =>
      obtain ⟨made, h, hleft⟩ := ends_perform he op s hframe
      refine ⟨?_, fun f hf => hsafe f (h.injected _ _ hf)⟩
      rcases hleft with hnone | ⟨f, unanswered, earlier, rfl, -⟩
      · exact hnone
      · exact absurd (h.switched f (by simp)) (hsafe f)
  | outside change =>
      exact ⟨(hturn s.world).1 hframe, fun f hf => hsafe f ((hturn s.world).2 f hf)⟩

theorem after_frameless (he : x.resolver.evaluators.KeepStill) {turns : List Turn}
    (hturns : ∀ turn ∈ turns, turn.Harmless) {s : State} (hframe : s.world.browser.frame = none)
    (hsafe : ∀ f, ¬ s.world.Injected .switchToWindow f) :
    (x.after turns s).world.browser.frame = none := by
  induction turns generalizing s with
  | nil => exact hframe
  | cons turn turns ih =>
      obtain ⟨hturn, hturns⟩ := List.forall_mem_cons.1 hturns
      obtain ⟨hframe, hsafe⟩ := take_frameless he hturn hframe hsafe
      exact ih hturns hframe hsafe

/-- **No frame leaks out of an operation.**  After every operation no frame is active, unless the
last call of the operation was a switch to a window that failed; only failed questions for the
current window may come after it, whose failures have to be injected while the operation runs.  So
no frame is active between the operations of a run in which no failure of switching to a window is
injected. -/
theorem perform_leaks_no_frame (x : Session) (he : x.resolver.evaluators.KeepStill) :
    (∀ (op : Operation) (s : State), s.world.browser.frame = none →
      ∃ made, (x.perform op s).2.world.calls = made ++ s.world.calls ∧
        ((x.perform op s).2.world.browser.frame = none ∨ s.world.Lost made)) ∧
      ∀ (turns : List Turn) (s : State), s.world.browser.frame = none →
        (∀ f, ¬ s.world.Injected .switchToWindow f) → (∀ turn ∈ turns, turn.Harmless) →
        (x.after turns s).world.browser.frame = none := by
  refine ⟨fun op s hframe => ?_, fun turns s hframe hsafe hturns => ?_⟩
  · obtain ⟨made, h, hleft⟩ := ends_perform he op s hframe
    exact ⟨made, h.calls, hleft⟩
  · exact after_frameless he hturns hframe hsafe

/-- A page with a field inside of a frame, where switching to a window is going to fail. -/
def framedField : State :=
  let store : ScopeStack := ⟨[⟨.page, pageName, [("field/locator", "id"), ("field/locator/id", "f"),
    ("field/locator/id/container", "box"), ("box/locator", "id"), ("box/locator/id", "b")]⟩], []⟩
  let world := World.fresh .bare []
  begin store { world with browser := { world.browser with
    elements := [⟨"el-1", .id, "b", none, "iframe", "", [], true, true, false, [], none, false⟩,
      ⟨"el-2", .id, "f", none, "input", "", [], true, true, false, [], none, false⟩]
    failures := [(.switchToWindow, .session "gone")] } }

/-- A click on the field leaves its frame active, and the last call is the switch that failed. -/
theorem click_in_frame_lost :
    (standard.perform (.click "field") framedField).2.world.browser.frame = some "el-1" ∧
      ∃ made, (standard.perform (.click "field") framedField).2.world.calls =
          made ++ framedField.world.calls ∧
        ((standard.perform (.click "field") framedField).2.world.browser.frame = none ∨
          framedField.world.Lost made) :=
  ⟨by decide +kernel, (perform_leaks_no_frame standard Evaluators.keepStill_standard).1
    (.click "field") framedField rfl⟩

end Session

end Bindery
