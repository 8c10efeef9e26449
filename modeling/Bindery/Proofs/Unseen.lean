import Bindery.Proofs.Course
import Bindery.Proofs.Levels
import Bindery.Proofs.Lockstep
import Bindery.Proofs.Operations
import Bindery.Proofs.Reading
import Mathlib.Data.List.Forall2

/-!
# Bindery — Proofs — Unseen

Nothing looks at photographs.  Two worlds are twins when they are the same but for the photographs,
of which the one shows some and the other one others (`World.Twins`); so are two states
(`State.Twins`).  An action that goes in lockstep with itself from all twins neither looks at
photographs nor takes any, as the photographs that are shown are the same before and after it
(`World.Blind`, `State.Blind`).

Only an interaction for an action that has a name takes a photograph, and that is the last thing it
does (`withElement_photographed`).  So everything a session is made of goes in lockstep with what
another session is made of that has other means to take photographs: every lookup
(`Resolver.alike_levels`) and every operation but those that act on an element
(`Session.alike_perform`).
-/

namespace Bindery

variable {here there : List Shot} {ε α : Type}

/-! ### Worlds that are the same but for their photographs -/

namespace World

/-- The one world shows these photographs and the other one those; in all else they are the same. -/
def Twins (here there : List Shot) (w v : World) : Prop :=
  w.shots = here ∧ v = { w with shots := there }

/-- An action that neither looks at photographs nor takes any. -/
def Blind (a : Act ε α) : Prop := ∀ here there, a.Lockstep (Twins here there) a

theorem synchronous_twins : Synchronous (Twins here there) where
  now := by
    rintro w v ⟨rfl, rfl⟩
    rfl
  origin := by
    rintro w v ⟨rfl, rfl⟩
    rfl
  sleep := by
    rintro pause w v ⟨rfl, rfl⟩
    exact ⟨rfl, rfl⟩

theorem blind_modify {f : World → World}
    (h : ∀ w shots, f { w with shots } = { f w with shots }) :
    Blind (modify f : Act ε Unit) := by
  refine fun here there => .modify ?_
  rintro w v ⟨rfl, rfl⟩
  have hshots := congrArg World.shots (h w w.shots)
  exact ⟨hshots, h w there⟩

theorem blind_browse (a : Browser.Act α) : Blind (browse a) := by
  rintro here there w v ⟨rfl, rfl⟩
  unfold browse
  rcases a w.browser with ⟨f | x, b⟩
  · exact ⟨rfl, rfl, rfl⟩
  · exact ⟨rfl, rfl, rfl⟩

theorem blind_pause (ms : Nat) : Blind (pause ms : Act ε Unit) := blind_modify fun _ _ => rfl

end World

/-- Evaluators that neither look at photographs nor take any. -/
def Evaluators.Blind (e : Evaluators) : Prop := ∀ q, World.Blind (e q)

namespace Evaluators

theorem blind_runScript (script : String) (args : List ScriptArgument) :
    World.Blind (runScript script args) := fun _ _ => .failingAs _ (World.blind_browse _ _ _)

theorem blind_processText (command : String) : World.Blind (processText command) := by
  rintro here there w v ⟨rfl, rfl⟩
  unfold processText
  split
  · exact ⟨rfl, rfl, rfl⟩
  · rcases Shell.runLine command w.host with ⟨result, host⟩
    dsimp only
    split
    · exact ⟨rfl, rfl, rfl⟩
    · exact ⟨rfl, rfl, rfl⟩

theorem blind_standard : standard.Blind := by
  intro q here there
  cases q with
  | script s => exact .bind (blind_runScript _ _ _ _) fun _ => .pure _
  | xpath e s t => exact .bind (blind_runScript _ _ _ _) fun _ => .ofExcept _
  | regex e s => exact .ofExcept _
  | jsonPath e s => exact .ofExcept _
  | process c => exact blind_processText c here there
  | file p =>
      refine .get ?_
      rintro w v ⟨rfl, rfl⟩
      exact .ofExcept _

theorem blind_echo : echo.Blind := by
  intro q here there
  cases q with
  | file p => exact .throw _
  | _ => exact .pure _

theorem blind_consult {e : Evaluators} (he : e.Blind) (q : Query) : World.Blind (consult e q) :=
  fun here there => .bind (World.blind_modify (fun _ _ => rfl) here there) fun _ => he q here there

end Evaluators

/-! ### Interactions -/

namespace Interaction

open World (Twins Blind browse blind_browse)

theorem lockstep_isFrame (id : ElementId) :
    (isFrame id).Lockstep (Twins here there) (isFrame id) :=
  .bind (blind_browse _ _ _) fun _ => .pure _

theorem lockstep_locate : ∀ l : Locator, (locate l).Lockstep (Twins here there) (locate l)
  | .mk _ _ _ none => blind_browse _ _ _
  | .mk _ _ _ (some container) => by
      rw [locate]
      refine .bind (lockstep_locate container) fun around =>
        .bind (lockstep_isFrame around) fun framed => ?_
      exact .ite (.bind (blind_browse _ _ _) fun _ => blind_browse _ _ _) (blind_browse _ _ _)

theorem lockstep_restore (kept : Option String) :
    (restore kept).Lockstep (Twins here there) (restore kept) := by
  cases kept with
  | none => exact .pure _
  | some window => exact blind_browse _ _ _

theorem lockstep_keptWindow (l : Locator) :
    (keptWindow l).Lockstep (Twins here there) (keptWindow l) := by
  unfold keptWindow
  cases l.container with
  | none => exact .pure _
  | some container => exact .bind (blind_browse _ _ _) fun _ => .pure _

theorem lockstep_tryOn (l : Locator) (kept : Option String)
    {deed : ElementId → World.Act InteractionFault α} (hdeed : ∀ id, Blind (deed id)) (t : Try) :
    (tryOn l kept deed t).Lockstep (Twins here there) (tryOn l kept deed t) := by
  have htry : (locate l >>= deed).Lockstep (Twins here there) (locate l >>= deed) :=
    .bind (lockstep_locate l) fun id => hdeed id here there
  unfold tryOn
  exact .ite (.bind (lockstep_restore kept) fun _ => htry) htry

theorem blind_readText (id : ElementId) : Blind (readText id) := by
  refine fun _ _ => .bind (blind_browse _ _ _) fun text => .ite (.pure _) ?_
  exact .bind (blind_browse _ _ _) fun _ => .pure _

theorem blind_typeText (text : String) (clearFirst sendEnter : Bool) (id : ElementId) :
    Blind (typeText text clearFirst sendEnter id) := by
  intro here there
  have htype : (do
      browse (Browser.sendKeys id text)
      if sendEnter then browse (Browser.sendKeys id (String.singleton Browser.enterKey)) :
        World.Act InteractionFault Unit).Lockstep (Twins here there) _ :=
    .bind (blind_browse _ _ _) fun _ => .ite (blind_browse _ _ _) (.pure _)
  unfold typeText
  exact .ite (.bind (blind_browse _ _ _) fun _ => htype) htype

theorem blind_setChecked (checked : Bool) (id : ElementId) : Blind (setChecked checked id) :=
  fun _ _ => .bind (blind_browse _ _ _) fun _ => .ite (blind_browse _ _ _) (.pure _)

theorem blind_scrollIntoView (throttle : Nat) (id : ElementId) :
    Blind (scrollIntoView throttle id) :=
  fun _ _ => .bind (blind_browse _ _ _) fun _ => World.blind_pause _ _ _

theorem blind_highlight (style : String) (time : Nat) (id : ElementId) :
    Blind (highlight style time id) :=
  fun _ _ => .bind (blind_browse _ _ _) fun _ => .bind (World.blind_pause _ _ _) fun _ =>
    .bind (blind_browse _ _ _) fun _ => .pure _

theorem blind_hasState (state : ElementState) (id : ElementId) : Blind (hasState state id) := by
  intro here there
  cases state with
  | displayed | checked | enabled => exact blind_browse _ _ _
  | hidden | unchecked | disabled => exact .bind (blind_browse _ _ _) fun _ => .pure _

end Interaction

/-- What is done to an element by an operation neither looks at photographs nor takes any. -/
theorem Operation.blind_of_deed? {op : Operation} {d : Deed} (h : op.deed? = some d)
    (id : ElementId) : World.Blind (d.act id) := by
  cases op <;> cases h <;>
    first
    | exact World.blind_browse _
    | exact Interaction.blind_typeText _ _ _ _
    | exact Interaction.blind_setChecked _ _

namespace Interactor

open Interaction
open World (Twins Blind)

variable {l : Locator} {deed : ElementId → World.Act InteractionFault α}

/-- An interaction without a name goes on alike whatever photographs would be taken with. -/
theorem lockstep_withElement (i i' : Interactor) (l : Locator)
    {deed : ElementId → World.Act InteractionFault α} (hdeed : ∀ id, Blind (deed id)) :
    (i.withElement none l deed).Lockstep (Twins here there) (i'.withElement none l deed) := by
  have tried (kept : Option String) : (Retry.attempt .once (tryOn l kept deed)).Lockstep
      (Twins here there) (Retry.attempt .once (tryOn l kept deed)) :=
    Retry.lockstep_attempt World.synchronous_twins _ fun t => lockstep_tryOn l kept hdeed t
  refine .bind (lockstep_keptWindow l) fun kept => .bind (.outcome (tried kept)) fun result =>
    .bind (.outcome (lockstep_restore kept)) fun restored => ?_
  cases result with
  | error e => exact .throw e
  | ok a =>
      cases restored with
      | error e => exact .throw e
      | ok => exact .bind (.pure ()) fun _ => .pure a

theorem photographed_none (i : Interactor) (l : Locator) (r : Except InteractionFault α)
    (w : World) : photographed i none l r w = w := by
  cases r <;> rfl

/-- A named interaction is one without a name and then a photograph, if it succeeded. -/
theorem withElement_photographed (i : Interactor) (action : Option String) (l : Locator)
    (deed : ElementId → World.Act InteractionFault α) (w : World) :
    i.withElement action l deed w =
      ((i.withElement none l deed w).1,
        photographed i action l (i.withElement none l deed w).1
          (i.withElement none l deed w).2) := by
  obtain ⟨out, hout⟩ := exists_course i none l deed w
  rw [withElement_of_course hout]
  cases hout with
  | plain hc ht => rw [photographed_none]; exact withElement_of_course (.plain hc ht)
  | unkept hc hk => exact withElement_of_course (.unkept hc hk)
  | kept hc hk ht hb => rw [photographed_none]; exact withElement_of_course (.kept hc hk ht hb)

end Interactor

/-! ### States that are the same but for their photographs -/

/-- Readings of the same text, that were made in worlds that differ in their photographs only. -/
def LiveReading.Twins (ρ ρ' : LiveReading) : Prop :=
  ∃ shots, ρ' = { ρ with world := { ρ.world with shots } }

namespace State

/-- The world of the one state shows these photographs and that of the other one those; in all else
they are the same, but for the photographs in the worlds that the log of readings tells of. -/
structure Twins (here there : List Shot) (s t : State) : Prop where
  store : t.store = s.store
  liveReads : t.liveReads = s.liveReads
  world : World.Twins here there s.world t.world
  readings : List.Forall₂ LiveReading.Twins s.readings t.readings

/-- An action that neither looks at photographs nor takes any. -/
def Blind (a : Act ε α) : Prop := ∀ here there, a.Lockstep (Twins here there) a

theorem Twins.refl (s : State) : Twins s.world.shots s.world.shots s s :=
  ⟨rfl, rfl, ⟨rfl, rfl⟩, List.forall₂_same.2 fun ρ _ => ⟨ρ.world.shots, rfl⟩⟩

variable {s t : State}

theorem Twins.setWorld {here' there' : List Shot} (h : Twins here there s t) {w v : World}
    (hw : World.Twins here' there' w v) :
    Twins here' there' { s with world := w } { t with world := v } :=
  ⟨h.store, h.liveReads, hw, h.readings⟩

/-- What is done to the bindings alone is done to both states alike. -/
theorem Twins.rebind (h : Twins here there s t) (f : ScopeStack → Entries → ScopeStack)
    (g : Entries → Entries) :
    Twins here there { s with store := f s.store s.liveReads, liveReads := g s.liveReads }
      { t with store := f t.store t.liveReads, liveReads := g t.liveReads } :=
  ⟨by rw [h.store, h.liveReads], by rw [h.liveReads], h.world, h.readings⟩

theorem Twins.setStore (h : Twins here there s t) (f : ScopeStack → ScopeStack) :
    Twins here there { s with store := f s.store } { t with store := f t.store } :=
  h.rebind (fun store _ => f store) id

theorem Twins.forgetLiveText (h : Twins here there s t) :
    Twins here there s.forgetLiveText t.forgetLiveText :=
  h.rebind (fun store reads => reads.foldl Resolver.forget store) fun _ => []

/-- Readings made in twins are twins. -/
theorem Twins.reading (h : Twins here there s t) (l : Locator) (text : String) :
    LiveReading.Twins ⟨l, s.store, s.world, text⟩ ⟨l, t.store, t.world, text⟩ := by
  obtain ⟨-, hworld⟩ := h.world
  exact ⟨there, by rw [h.store, hworld]⟩

theorem Twins.log (h : Twins here there s t) {ρ ρ' : LiveReading} (hρ : ρ.Twins ρ')
    (f : Entries → Entries) :
    Twins here there { s with liveReads := f s.liveReads, readings := ρ :: s.readings }
      { t with liveReads := f t.liveReads, readings := ρ' :: t.readings } :=
  ⟨h.store, congrArg f h.liveReads, h.world, .cons hρ h.readings⟩

theorem lockstep_inWorld {a b : World.Act ε α} (h : a.Lockstep (World.Twins here there) b) :
    Act.Lockstep (Twins here there) (inWorld a) (inWorld b) :=
  .inPart h (fun _ _ h => h.world) fun _ _ _ _ h hw => h.setWorld hw

theorem lockstep_bind (key value : String) :
    Act.Lockstep (Twins here there) (State.bind key value : Act ε Unit) (State.bind key value) :=
  .modify fun _ _ h => h.setStore fun store => store.set key value

/-- From all twins, two actions go in lockstep. -/
abbrev Alike (here there : List Shot) (a b : Act ε α) : Prop := Act.Lockstep (Twins here there) a b

end State

/-! ### Lookups -/

namespace Resolver

open State (Alike)

/-- The same means with others to interact with elements. -/
def through (r : Resolver Interactor) (i : Interactor) : Resolver Interactor :=
  { r with interactor := i }

variable {r : Resolver Interactor} {i : Interactor}
  {value value' source source' : String → Lookup String}
  {locator locator' : String → Lookup Locator}

theorem alike_tooDeep (name : String) :
    Alike here there (r.tooDeep name : Lookup α) ((r.through i).tooDeep name) := .throw _

theorem alike_expand (h : ∀ name, Alike here there (value name) (value' name)) :
    ∀ segments, Alike here there (expand value segments) (expand value' segments)
  | [] => .pure _
  | .text s :: rest => .bind (alike_expand h rest) fun _ => .pure _
  | .reference name :: rest => by
      rw [expand, expand]
      exact .ite (.bind (alike_expand h rest) fun _ => .pure _)
        (.bind (h name) fun _ => .bind (alike_expand h rest) fun _ => .pure _)

theorem alike_bindCurrentUrl :
    Alike here there r.bindCurrentUrl (r.through i).bindCurrentUrl := by
  have hurl : Alike here there r.pageUrl (r.through i).pageUrl :=
    .ite (.pure _) (State.lockstep_inWorld (.failingAs _ (World.blind_browse _ _ _)))
  exact .bind hurl fun _ => State.lockstep_bind _ _

theorem alike_reference {name : String} (h : Alike here there (value name) (value' name)) :
    Alike here there (r.reference value name) ((r.through i).reference value' name) := by
  unfold reference
  exact .ite (.bind alike_bindCurrentUrl fun _ => h) h

theorem alike_consult (he : r.evaluators.Blind) (q : Query) :
    Alike here there (State.inWorld (Evaluators.consult r.evaluators q))
      (State.inWorld (Evaluators.consult (r.through i).evaluators q)) :=
  State.lockstep_inWorld (Evaluators.blind_consult he q _ _)

theorem alike_ask (he : r.evaluators.Blind) (name : String) (kind : AttributeKind) (q : Query) :
    Alike here there (r.ask name kind q) ((r.through i).ask name kind q) :=
  .ite (.pure _) (.failingAs _ (alike_consult he q))

theorem alike_evaluate (he : r.evaluators.Blind)
    (hv : ∀ name, Alike here there (value name) (value' name))
    (hs : ∀ name, Alike here there (source name) (source' name)) (name : String)
    (b : BoundAttribute) :
    Alike here there (r.evaluate value source name b)
      ((r.through i).evaluate value' source' name b) := by
  have expanded (template : String) : Alike here there (expand value (Template.parse template))
      (expand value' (Template.parse template)) := alike_expand hv _
  cases b with
  | literal v => exact .pure v
  | script s => exact .bind (expanded s) fun _ => alike_ask he _ _ _
  | xpath s e t =>
      refine .bind (expanded s) fun _ => .bind (hs _) fun _ => .bind (expanded e) fun _ =>
        .bind (expanded t) fun word => ?_
      cases TargetType.read word with
      | error w => exact .throw _
      | ok target => exact alike_ask he _ _ _
  | regex s e | jsonPath s e =>
      exact .bind (expanded s) fun _ => .bind (hs _) fun _ => .bind (expanded e) fun _ =>
        alike_ask he _ _ _
  | process c => exact .bind (expanded c) fun _ => alike_ask he _ _ _
  | file p => exact .bind (expanded p) fun _ => .failingAs _ (alike_consult he _)

/-- Reading a text takes no photograph, so it does not matter what they are taken with. -/
theorem alike_liveText (l : Locator) :
    Alike here there (r.liveText l) ((r.through i).liveText l) := by
  have hread : Alike here there
      (State.inWorld ((PageReader.text r.interactor l).failingAs ResolutionFault.interaction))
      (State.inWorld ((PageReader.text i l).failingAs .interaction)) :=
    State.lockstep_inWorld (.failingAs _
      (Interactor.lockstep_withElement _ _ l Interaction.blind_readText))
  unfold liveText
  -- the log keeps the bindings and the world as they were before the reading
  refine .ite (.pure _) (.get fun s t hst => .bind hread fun text =>
    .bind (State.lockstep_bind _ _) fun _ => .bind (.modify fun u v huv => ?_) fun _ => .pure _)
  exact huv.log (hst.reading l text) fun reads => reads.put (Key.text l.element) text

theorem alike_valueStep (he : r.evaluators.Blind)
    (hv : ∀ name, Alike here there (value name) (value' name))
    (hs : ∀ name, Alike here there (source name) (source' name))
    (hl : ∀ element, Alike here there (locator element) (locator' element)) (name : String) :
    Alike here there (r.valueStep value source locator name)
      ((r.through i).valueStep value' source' locator' name) := by
  refine .get fun s t hst => ?_
  rw [hst.store]
  refine .bind (.ofExcept _) fun binding => ?_
  cases binding with
  | some b => exact alike_evaluate he hv hs name b
  | none =>
      have hdefaults : (r.through i).defaults = r.defaults := rfl
      show Alike here there (r.unboundValue locator name)
        ((r.through i).unboundValue locator' name)
      unfold unboundValue
      rw [hdefaults]
      cases r.defaults name with
      | some v => exact .pure v
      | none => exact .bind (.failingAs _ (hl name)) fun l => alike_liveText l

theorem alike_word? (key : String) : Alike here there (word? key) (word? key) := by
  refine .get fun s t hst => ?_
  rw [hst.store]
  exact .pure _

theorem alike_locatorWord (element key : String) :
    Alike here there (locatorWord element key) (locatorWord element key) := by
  refine .bind (alike_word? key) fun word => ?_
  cases word with
  | none => exact .throw _
  | some v => exact .pure v

theorem alike_strategyOf (element word : String) :
    Alike here there (strategyOf element word) (strategyOf element word) := by
  unfold strategyOf
  cases Strategy.read word with
  | error u => exact .throw _
  | ok s => exact .pure s

theorem alike_locatorStep (hv : ∀ name, Alike here there (value name) (value' name))
    (hl : ∀ element, Alike here there (locator element) (locator' element)) (element : String) :
    Alike here there (r.locatorStep value locator element)
      ((r.through i).locatorStep value' locator' element) := by
  refine .bind (alike_locatorWord _ _) fun word => .bind (alike_strategyOf _ _) fun strategy =>
    .bind (alike_locatorWord _ _) fun template => .bind (alike_expand hv _) fun expression =>
    .bind (alike_word? _) fun container => ?_
  cases container with
  | none => exact .pure _
  | some c =>
      exact .ite (.bind (alike_locatorWord _ _) fun _ => .pure _)
        (.bind (hl c) fun _ => .pure _)

/-- Lookups of every depth go alike, whatever photographs would be taken with. -/
theorem alike_levels (he : r.evaluators.Blind) (i : Interactor) (room : Nat) :
    (∀ name, Alike here there (r.valueAt room name) ((r.through i).valueAt room name)) ∧
      ∀ element, Alike here there (r.locatorAt room element)
        ((r.through i).locatorAt room element) := by
  induction room using Nat.strongRecOn with
  | ind room ih =>
      cases room with
      | zero =>
          simp only [valueAt_zero, locatorAt_zero]
          exact ⟨fun name => alike_tooDeep name, fun element => alike_tooDeep element⟩
      | succ room =>
          have hsource (name : String) :
              Alike here there (r.innerSource room name) ((r.through i).innerSource room name) :=
            alike_reference ((ih (room - 1) (by omega)).1 _)
          have hinner (name : String) :
              Alike here there (r.inner room name) ((r.through i).inner room name) := by
            cases room with
            | zero => exact alike_tooDeep name
            | succ room => exact alike_reference ((ih room (by omega)).1 _)
          have hlocator := (ih room (by omega)).2
          simp only [valueAt_succ, locatorAt_succ]
          exact ⟨alike_valueStep he hinner hsource hlocator, alike_locatorStep hinner hlocator⟩

theorem alike_value (he : r.evaluators.Blind) (name : String) :
    Alike here there (r.value name) ((r.through i).value name) :=
  (alike_levels he i _).1 name

theorem alike_locator (he : r.evaluators.Blind) (element : String) :
    Alike here there (r.locator element) ((r.through i).locator element) :=
  (alike_levels he i _).2 element

theorem alike_interpolate (he : r.evaluators.Blind) (template : String) :
    Alike here there (r.interpolate template) ((r.through i).interpolate template) :=
  alike_expand (fun _ => alike_reference ((alike_levels he i _).1 _)) _

theorem alike_selection (he : r.evaluators.Blind) (name : String) (facet : Facet) :
    Alike here there (r.selection name facet) ((r.through i).selection name facet) := by
  refine .bind (alike_locator he name) fun l => .ite ?_ (.bind ?_ fun selected => ?_)
  · exact .bind (State.lockstep_bind _ _) fun _ => .pure _
  · exact State.lockstep_inWorld (.failingAs _
      (Interactor.lockstep_withElement _ _ l fun _ => World.blind_browse _))
  · cases selected with
    | none => exact .throw _
    | some v => exact .bind (State.lockstep_bind _ _) fun _ => .pure _

end Resolver

/-! ### The time after an action -/

namespace Gate

open State (Alike)

theorem blind_holds (script : String) : World.Blind (holds script) :=
  fun _ _ => .bind (World.blind_browse _ _ _) fun _ => .pure _

theorem blind_pass (nanos : Nat) : World.Blind (pass nanos) := World.blind_modify fun _ _ => rfl

theorem alike_pauseAfter (element action : String) :
    Alike here there (pauseAfter element action) (pauseAfter element action) := by
  refine .get fun s t hst => ?_
  rw [hst.store]
  split
  · exact .pure _
  · exact .bind (.ofExcept _) fun nanos => State.lockstep_inWorld (blind_pass nanos _ _)

theorem alike_awaitAfter (waits : WaitPolicy) (element action : String) :
    Alike here there (awaitAfter waits element action) (awaitAfter waits element action) := by
  refine .get fun s t hst => ?_
  rw [hst.store]
  split
  · exact .pure _
  · refine .get fun s t hst => ?_
    rw [hst.store]
    exact .bind (.ofExcept _) fun script => State.lockstep_inWorld (.failingAs _
      (Wait.lockstep_untilDefault World.synchronous_twins _ _ (blind_holds script _ _)))

theorem alike_bindAndWait (waits : WaitPolicy) (element action value : String) :
    Alike here there (bindAndWait waits element action value)
      (bindAndWait waits element action value) :=
  .bind (State.lockstep_bind _ _) fun _ => .bind (alike_pauseAfter _ _) fun _ =>
    alike_awaitAfter _ _ _

end Gate

/-! ### Steps -/

namespace Session

open State (Alike)
open World (Blind)

/-- The same session with other means to take photographs: whether they are to be taken, and what
with. -/
def photographing (x : Session) (captureScreenshots : Bool) (camera : Camera) : Session :=
  ⟨{ x.settings with captureScreenshots },
    x.resolver.through ⟨{ x.resolver.interactor.policy with captureScreenshots }, camera⟩⟩

/-- Sessions of settings that differ in nothing else are such sessions. -/
theorem photographing_ofSettings (settings : Settings) (e : Evaluators)
    (defaults : String → Option String) (before camera : Camera) (captureScreenshots : Bool) :
    (ofSettings settings e defaults before).photographing captureScreenshots camera =
      ofSettings { settings with captureScreenshots } e defaults camera := rfl

variable {x : Session} {on : Bool} {camera : Camera}

theorem alike_interacting {a b : World.Act InteractionFault α}
    (h : a.Lockstep (World.Twins here there) b) :
    Alike here there (interacting a) (interacting b) :=
  State.lockstep_inWorld (.failingAs _ h)

theorem alike_quietly {a b : Step Unit} (h : Alike here there a b) :
    Alike here there (quietly a) (quietly b) := .bind h fun _ => .pure _

theorem alike_saying {a b : Resolver.Lookup String} (h : Alike here there a b) :
    Alike here there (saying a) (saying b) := .bind (.failingAs _ h) fun _ => .pure _

theorem alike_rebinding (f : ScopeStack → Except ScopeFault ScopeStack) :
    Alike here there (rebinding f) (rebinding f) := by
  refine .get fun s t hst => ?_
  rw [hst.store]
  cases f s.store with
  | ok store => exact .modify fun _ _ h => h.setStore fun _ => store
  | error e => exact .throw _

theorem twins_invalidateText {s t : State} (h : State.Twins here there s t) (element : String) :
    State.Twins here there (invalidateText element s) (invalidateText element t) := by
  have hforget := h.forgetLiveText
  unfold invalidateText
  simp only [hforget.store]
  split
  · exact hforget
  · exact hforget
  · exact hforget.setStore fun _ => s.forgetLiveText.store.set (Key.text element) ""

theorem alike_resetPage : Alike here there resetPage resetPage :=
  .modify fun _ _ h => h.forgetLiveText.setStore emptyPage

theorem alike_bindAndWait (element action value : String) :
    Alike here there (x.bindAndWait element action value)
      ((x.photographing on camera).bindAndWait element action value) :=
  .ite (State.lockstep_bind _ _) (.failingAs _ (Gate.alike_bindAndWait _ _ _ _))

theorem alike_withLocated (he : x.resolver.evaluators.Blind) (element : String) (inDryRun : α)
    {deed deed' : Locator → World.Act InteractionFault α}
    (hdeed : ∀ l, (deed l).Lockstep (World.Twins here there) (deed' l)) :
    Alike here there (x.withLocated element inDryRun deed)
      ((x.photographing on camera).withLocated element inDryRun deed') :=
  .bind (.failingAs _ (Resolver.alike_locator he element)) fun l =>
    .ite (.pure _) (alike_interacting (hdeed l))

theorem lockstep_stateOf (state : ElementState) (l : Locator) :
    (x.stateOf state l).Lockstep (World.Twins here there)
      ((x.photographing on camera).stateOf state l) := by
  intro w v hwv
  have hstate : (x.resolver.interactor.withElement none l (Interaction.hasState state)).Lockstep
      (World.Twins here there) ((x.photographing on camera).resolver.interactor.withElement none l
        (Interaction.hasState state)) :=
    Interactor.lockstep_withElement _ _ l (Interaction.blind_hasState state)
  unfold stateOf
  rcases hw : x.resolver.interactor.withElement none l (Interaction.hasState state) w with
    ⟨e | b, w'⟩
  · obtain ⟨v', hv, htwins⟩ := hstate.run hwv hw
    simp only [hv]
    split
    · exact ⟨rfl, htwins⟩
    · split
      · exact ⟨rfl, htwins⟩
      · exact ⟨rfl, htwins⟩
  · obtain ⟨v', hv, htwins⟩ := hstate.run hwv hw
    simp only [hv]
    exact ⟨trivial, htwins⟩

theorem lockstep_showsText (l : Locator) :
    (x.showsText l).Lockstep (World.Twins here there)
      ((x.photographing on camera).showsText l) :=
  .bind (Interactor.lockstep_withElement _ _ l Interaction.blind_readText) fun _ => .pure _

theorem alike_navigate (he : x.resolver.evaluators.Blind) (url : String) :
    Alike here there (x.navigate url) ((x.photographing on camera).navigate url) := by
  unfold navigate
  refine .bind (.failingAs _ (Resolver.alike_interpolate he url)) fun url => .ite ?_ alike_resetPage
  exact .bind (alike_interacting (World.blind_browse _ _ _)) fun _ => alike_resetPage

theorem alike_runScript (he : x.resolver.evaluators.Blind) (script : String) :
    Alike here there (x.runScript script) ((x.photographing on camera).runScript script) := by
  unfold runScript
  refine .bind (.failingAs _ (Resolver.alike_interpolate he script)) fun script =>
    .ite (.pure _) (.failingAs _ (.failingAs _ ?_))
  exact Resolver.alike_consult he _

/-- An operation that does not act on an element goes alike whatever photographs would be taken
with, and takes none. -/
theorem alike_perform (he : x.resolver.evaluators.Blind) {op : Operation} (hop : op.deed? = none) :
    Alike here there (x.perform op) ((x.photographing on camera).perform op) := by
  have unnamed {β : Type} (l : Locator) {deed : ElementId → World.Act InteractionFault β}
      (hdeed : ∀ id, Blind (deed id)) :
      (x.resolver.interactor.withElement none l deed).Lockstep (World.Twins here there)
        ((x.photographing on camera).resolver.interactor.withElement none l deed) :=
    Interactor.lockstep_withElement _ _ l hdeed
  cases op with
  | bind key value => exact alike_quietly (State.lockstep_bind key value)
  | bindIn | beginFeature | endFeature => exact alike_quietly (alike_rebinding _)
  | resetPage => exact alike_quietly alike_resetPage
  | locator element =>
      exact .bind (.failingAs _ (Resolver.alike_locator he element)) fun _ => .pure _
  | value name => exact alike_saying (Resolver.alike_value he name)
  | reference name => exact alike_saying (Resolver.alike_reference (Resolver.alike_value he name))
  | interpolate template => exact alike_saying (Resolver.alike_interpolate he template)
  | selection name facet => exact alike_saying (Resolver.alike_selection he name facet)
  | bindAndWait element action value => exact alike_quietly (alike_bindAndWait _ _ _)
  | moveTo element =>
      exact alike_quietly (alike_withLocated he _ _ fun l =>
        unnamed l (Interaction.blind_scrollIntoView _))
  | highlight element =>
      exact alike_quietly (alike_withLocated he _ _ fun l =>
        unnamed l (Interaction.blind_highlight _ _))
  | isInState element state =>
      exact .bind (alike_withLocated he _ _ (lockstep_stateOf state)) fun _ => .pure _
  | awaitState element state =>
      exact alike_quietly (alike_withLocated he _ _ fun l =>
        Wait.lockstep_untilDefault World.synchronous_twins _ _ (lockstep_stateOf state l))
  | awaitText element =>
      exact alike_quietly (alike_withLocated he _ _ fun l =>
        Wait.lockstep_untilDefault World.synchronous_twins _ _ (lockstep_showsText l))
  | navigate url => exact alike_quietly (alike_navigate he url)
  | runScript script => exact .bind (alike_runScript he script) fun _ => .pure _
  | _ => cases hop

end Session

end Bindery
