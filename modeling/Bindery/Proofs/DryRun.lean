import Bindery.Proofs.Operations
import Bindery.Proofs.Turns

/-!
# Bindery — Proofs — DryRun

What a dry run does to the world: it has files read, and nothing else.  Each step asks for itself
whether the run is dry, some before their lookups and some after them; the equations here say what
is left of each where it is.

`FilesRead` says of two worlds that an evaluator was asked for files between them.  Every lookup
and every step of a dry run leaves such a world (`within_reading_perform`), and so does a whole
run.  Evaluators that read files without touching anything but files (`ReadsQuietly`) leave the
browser, the time and the changes still to come as they were.
-/

namespace Bindery

/-! ### Files that are read -/

namespace Evaluators

/-- Reading a file changes at most the files and what else is around the browser. -/
def ReadsQuietly (e : Evaluators) : Prop :=
  ∀ path w, ∃ host, (e (.file path) w).2 = { w with host }

theorem readsQuietly_standard : ReadsQuietly standard := fun _ w => ⟨w.host, rfl⟩

theorem readsQuietly_echo : ReadsQuietly echo := fun _ w => ⟨w.host, rfl⟩

/-- Between two worlds, evaluators were asked for these files, the latest first, and nothing else
happened. -/
inductive FilesRead (e : Evaluators) (w : World) : List String → World → Prop where
  | none : FilesRead e w [] w
  | more {paths : List String} {w' : World} (path : String) :
      FilesRead e w paths w' → FilesRead e w (path :: paths) (consult e (.file path) w').2

namespace FilesRead

variable {e : Evaluators} {w w' w'' : World} {paths later : List String}

theorem append (h : FilesRead e w paths w') (h' : FilesRead e w' later w'') :
    FilesRead e w (later ++ paths) w'' := by
  induction h' with
  | none => exact h
  | more path _ ih => exact ih.more path

/-- What is left of a world by evaluators that read quietly: the questions for the files are in the
log, and all but the files is as it was. -/
theorem eq_of_readsQuietly (he : e.ReadsQuietly) (h : FilesRead e w paths w') :
    ∃ host, w' = { w with host, asked := paths.map Query.file ++ w.asked } := by
  induction h with
  | none => exact ⟨w.host, rfl⟩
  | more path _ ih =>
      obtain ⟨host, rfl⟩ := ih
      -- the question is written into the log before the evaluator is asked
      exact he path _

end FilesRead

/-- The bounds of a world in which evaluators are only asked for files. -/
def reading (e : Evaluators) : Bounds World :=
  .ofRelation (fun w w' => ∃ paths, e.FilesRead w paths w') (fun _ => ⟨[], .none⟩)
    fun _ _ _ ⟨_, h⟩ ⟨_, h'⟩ => ⟨_, h.append h'⟩

theorem within_reading_consult (e : Evaluators) (path : String) :
    Act.Within e.reading (consult e (.file path)) :=
  Act.Within.ofRelation_iff.2 fun _ => ⟨[path], .more path .none⟩

end Evaluators

/-- The bounds of a session that only has files read. -/
def reading (e : Evaluators) : Bounds State := e.reading.comap State.world

/-- What happens to the bindings is of no concern to the world. -/
theorem within_reading_modify {e : Evaluators} {ε : Type} {f : State → State}
    (h : ∀ s, (f s).world = s.world) : Act.Within (reading e) (modify f : State.Act ε Unit) := by
  refine .modify fun s => ?_
  show e.reading.done s.world (f s).world
  rw [h s]
  exact e.reading.refl s.world

theorem within_reading_bind {e : Evaluators} {ε : Type} (key value : String) :
    Act.Within (reading e) (State.bind key value : State.Act ε Unit) :=
  within_reading_modify fun _ => rfl

/-! ### Lookups -/

namespace Resolver

variable {ι : Type} {r : Resolver ι}

theorem ask_dry (h : r.dryRun = true) (name : String) (kind : AttributeKind) (q : Query) :
    r.ask name kind q = pure (Template.placeholder name) :=
  if_pos h

variable [PageReader ι]

theorem bindCurrentUrl_dry (h : r.dryRun = true) :
    r.bindCurrentUrl = State.bind Key.currentUrl (Template.placeholder Key.currentUrl) := by
  unfold bindCurrentUrl pageUrl
  rw [if_pos h, pure_bind]

theorem liveText_dry (h : r.dryRun = true) (l : Locator) :
    r.liveText l = pure (Template.placeholder l.element) :=
  if_pos h

theorem selection_dry (h : r.dryRun = true) (name : String) (facet : Facet) :
    r.selection name facet = (do
      let _ ← r.locator name
      State.bind (Key.selection name facet) (Template.placeholder (Key.selection name facet))
      return Template.placeholder (Key.selection name facet)) := by
  unfold selection
  simp only [if_pos h]

/-- Lookups of every depth only have files read in a dry run. -/
theorem permits_reading (h : r.dryRun = true) : r.Permits (reading r.evaluators) where
  url := by
    rw [bindCurrentUrl_dry h]
    exact within_reading_bind _ _
  ask name kind q := by
    rw [ask_dry h]
    exact .pure _
  file name path :=
    .failingAs _ (.inPart (Evaluators.within_reading_consult _ path) (fun _ _ h => h)
      fun _ _ h => h)
  text := by
    intro room name l s t _ _ _ hdone
    rw [liveText_dry h]
    exact .done hdone

end Resolver

/-! ### Steps -/

namespace Session

variable {x : Session}

/-- A session that runs dry, in its lookups as in its steps. -/
structure Dry (x : Session) : Prop where
  lookups : x.resolver.dryRun = true
  steps : x.settings.dryRun = true

theorem dry_ofSettings {settings : Settings} (h : settings.dryRun = true) (e : Evaluators)
    (defaults : String → Option String) (camera : Camera) :
    (ofSettings settings e defaults camera).Dry := ⟨h, h⟩

namespace Dry

theorem bindAndWait_eq (h : x.Dry) (element action value : String) :
    x.bindAndWait element action value = State.bind (Key.action element action) value :=
  if_pos h.steps

theorem act_eq (h : x.Dry) (element action value : String)
    (deed : ElementId → World.Act InteractionFault Unit) :
    x.act element action value deed = (do
      let _ ← resolving (x.resolver.locator element)
      State.bind (Key.action element action) value) := by
  unfold act
  simp only [h.steps, h.bindAndWait_eq, Bool.not_true, Bool.false_eq_true, if_false]

theorem withLocated_eq {α : Type} (h : x.Dry) (element : String) (inDryRun : α)
    (deed : Locator → World.Act InteractionFault α) :
    x.withLocated element inDryRun deed = (do
      let _ ← resolving (x.resolver.locator element)
      return inDryRun) := by
  unfold withLocated
  simp only [if_pos h.steps]

theorem navigate_eq (h : x.Dry) (url : String) :
    x.navigate url = (do
      let _ ← resolving (x.resolver.interpolate url)
      resetPage) := by
  unfold navigate
  simp only [h.steps, Bool.not_true, Bool.false_eq_true, if_false]

theorem runScript_eq (h : x.Dry) (script : String) :
    x.runScript script = (do
      let _ ← resolving (x.resolver.interpolate script)
      return Template.placeholder "javascript") := by
  unfold runScript
  simp only [if_pos h.steps]

end Dry

theorem within_reading_act (h : x.Dry) (element action value : String)
    (deed : ElementId → World.Act InteractionFault Unit) :
    Act.Within (reading x.resolver.evaluators) (x.act element action value deed) := by
  rw [h.act_eq]
  exact .bind (within_resolving ((Resolver.permits_reading h.lookups).within_locator element))
    fun _ => within_reading_bind _ _

theorem within_reading_withLocated {α : Type} (h : x.Dry) (element : String) (inDryRun : α)
    (deed : Locator → World.Act InteractionFault α) :
    Act.Within (reading x.resolver.evaluators) (x.withLocated element inDryRun deed) := by
  rw [h.withLocated_eq]
  exact .bind (within_resolving ((Resolver.permits_reading h.lookups).within_locator element))
    fun _ => .pure _

/-- Every operation of a dry run only has files read, however it ends. -/
theorem within_reading_perform (h : x.Dry) (op : Operation) :
    Act.Within (reading x.resolver.evaluators) (x.perform op) := by
  have lookups := Resolver.permits_reading h.lookups
  have located (element : String) (deed : Locator → World.Act InteractionFault Unit) :=
    within_quietly (within_reading_withLocated h element () deed)
  have rescoped (f : ScopeStack → Except ScopeFault ScopeStack) :
      Act.Within (reading x.resolver.evaluators) (quietly (rebinding f)) :=
    within_quietly (within_rebinding fun s _ _ => x.resolver.evaluators.reading.refl s.world)
  have reset : Act.Within (reading x.resolver.evaluators) resetPage :=
    within_reading_modify fun _ => rfl
  cases hdeed : op.deed? with
  | some d =>
      rw [Operation.perform_of_deed? x hdeed]
      exact within_quietly (within_reading_act h d.element d.action d.value d.act)
  | none =>
      cases op with
      | bind key value => exact within_quietly (within_reading_bind key value)
      | bindIn kind key value => exact rescoped _
      | beginFeature name => exact rescoped _
      | endFeature => exact rescoped _
      | resetPage => exact within_quietly reset
      | locator element =>
          exact .bind (within_resolving (lookups.within_locator element)) fun _ => .pure _
      | value name => exact within_saying (lookups.within_value name)
      | reference name => exact within_saying (lookups.within_referenceValue name)
      | interpolate template => exact within_saying (lookups.within_interpolate template)
      | selection name facet =>
          refine within_saying ?_
          rw [Resolver.selection_dry h.lookups]
          exact .bind (lookups.within_locator name) fun _ =>
            .bind (within_reading_bind _ _) fun _ => .pure _
      | bindAndWait element action value =>
          refine within_quietly ?_
          rw [h.bindAndWait_eq]
          exact within_reading_bind _ _
      | moveTo element => exact located _ _
      | highlight element => exact located _ _
      | isInState element state =>
          exact .bind (within_reading_withLocated h element true _) fun _ => .pure _
      | awaitState element state => exact located _ _
      | awaitText element => exact located _ _
      | navigate url =>
          refine within_quietly ?_
          rw [h.navigate_eq]
          exact .bind (within_resolving (lookups.within_interpolate url)) fun _ => reset
      | runScript script =>
          refine .bind ?_ fun _ => .pure _
          rw [h.runScript_eq]
          exact .bind (within_resolving (lookups.within_interpolate script)) fun _ => .pure _
      | _ => cases hdeed

/-! ### Runs -/

/-- A run of operations, whatever they answer, only has files read. -/
theorem after_reading (h : x.Dry) (ops : List Operation) (s : State) :
    ∃ paths, x.resolver.evaluators.FilesRead s.world paths
      (x.after (ops.map .perform) s).world := by
  induction ops generalizing s with
  | nil => exact ⟨[], .none⟩
  | cons op ops ih =>
      obtain ⟨paths, hop⟩ : ∃ paths, x.resolver.evaluators.FilesRead s.world paths
          (x.perform op s).2.world := Act.Ends.of_within (within_reading_perform h op) s
      obtain ⟨later, hops⟩ := ih (x.perform op s).2
      exact ⟨later ++ paths, hop.append hops⟩

/-- **A dry run never touches the browser.**  Whatever is bound, whoever answers queries and
whatever operations are performed, between the world before and the world after evaluators were
asked for files, and nothing else happened.  If they read files without touching the browser, then
all but the files is as it was, and nothing was asked for but files: no call of the browser was
made, no script ran in it, and no time passed. -/
theorem dry_run_only_reads_files (settings : Settings) (hdry : settings.dryRun = true)
    (e : Evaluators) (defaults : String → Option String) (camera : Camera)
    (ops : List Operation) (s : State) :
    (∃ paths, e.FilesRead s.world paths
        ((ofSettings settings e defaults camera).after (ops.map .perform) s).world) ∧
      (e.ReadsQuietly → ∃ (paths : List String) (host : Host),
        ((ofSettings settings e defaults camera).after (ops.map .perform) s).world =
          { s.world with host, asked := paths.map Query.file ++ s.world.asked }) := by
  obtain ⟨paths, h⟩ := after_reading (dry_ofSettings hdry e defaults camera) ops s
  refine ⟨⟨paths, h⟩, fun he => ?_⟩
  obtain ⟨host, hworld⟩ := h.eq_of_readsQuietly he
  exact ⟨paths, host, hworld⟩

/-- A dry run with evaluators that say what they are asked. -/
def echoDry : Session :=
  .ofSettings { Settings.standard with dryRun := true } Evaluators.echo (fun _ => none) .none

/-- A button that is found by a motto, which stands in a file. -/
def mottoState : State :=
  begin ⟨[⟨.page, pageName, [("motto/file", "motto.txt"), ("button/locator", "id"),
    ("button/locator/id", "$[motto]")]⟩], []⟩ (World.fresh .bare [])

/-- Steps that would find the button, read its text, run a script and leave the page. -/
def mottoSteps : List Operation :=
  [.click "button", .awaitText "button", .value "button", .runScript "$[motto]",
    .navigate "$[the current URL]"]

/-- Of these steps a dry run leaves four questions for the file. -/
theorem motto_asked_dry :
    (echoDry.after (mottoSteps.map .perform) mottoState).world.asked =
        List.replicate 4 (.file "motto.txt") ∧
      ∃ (paths : List String) (host : Host),
        (echoDry.after (mottoSteps.map .perform) mottoState).world =
          { mottoState.world with
            host, asked := paths.map Query.file ++ mottoState.world.asked } :=
  ⟨by decide +kernel, (dry_run_only_reads_files { Settings.standard with dryRun := true } rfl
    Evaluators.echo (fun _ => none) .none mottoSteps mottoState).2 Evaluators.readsQuietly_echo⟩

end Session

end Bindery
