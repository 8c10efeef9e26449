import Bindery.Gate.After
import Bindery.Resolution.Resolver
import Bindery.Session.Fault
import Bindery.Settings.Basic

/-!
# Bindery — Session — Basic

A session: steps that bind values, look them up, and act on elements of a page.  It begins with a
page scope on top of its bindings, a feature puts a scope of its own below a new page scope, and
going to another address empties the page scope.

An action on an element finds it, does what it is to do, forgets what was read from the page, and
then binds its value and lets the time after it pass.  In a dry run only the binding is done.
-/

namespace Bindery

/-- Means to take steps. -/
structure Session where
  settings : Settings
  resolver : Resolver Interactor

namespace Session

/-- A session with these settings. -/
def ofSettings (settings : Settings) (evaluators : Evaluators)
    (defaults : String → Option String) (camera : Camera) : Session :=
  ⟨settings, ⟨⟨settings.interaction, camera⟩, evaluators, defaults, settings.dryRun,
    settings.maxDepth⟩⟩

/-- The name of every page scope. -/
def pageName : String := "page"

/-- Bindings with a page scope on top. -/
def withPage (s : ScopeStack) : ScopeStack :=
  if s.current.kind = .page then s else s.push .page pageName

/-- The state in which a session begins. -/
def begin (store : ScopeStack) (world : World) : State :=
  ⟨withPage store, [], world, []⟩

/-- A step. -/
abbrev Step (α : Type) : Type := State.Act StepFault α

/-- An interaction in a step. -/
def interacting {α : Type} (a : World.Act InteractionFault α) : Step α :=
  State.inWorld (a.failingAs .interaction)

/-- A lookup in a step. -/
def resolving {α : Type} (a : Resolver.Lookup α) : Step α :=
  a.failingAs .resolution

/-- A change of the bindings in a step. -/
def rebinding (f : ScopeStack → Except ScopeFault ScopeStack) : Step Unit := do
  match f (← get).store with
  | .ok store => modify fun s => { s with store }
  | .error e => throw (.scope e)

/-- Bindings after a feature began: the page scope gives way to a feature scope and a new page
scope. -/
def beginFeature (name : String) (s : ScopeStack) : ScopeStack :=
  let s := match s.pop .page with
    | .ok (_, s) => s
    | .error _ => s
  (s.push .feature name).push .page pageName

/-- Bindings after a feature ended. -/
def endFeature (s : ScopeStack) : Except ScopeFault ScopeStack :=
  (s.pop .feature).map fun (_, s) => s.push .page pageName

/-- Bindings with an empty page scope. -/
def emptyPage (s : ScopeStack) : ScopeStack :=
  match s.reset .page with
  | .ok s => s
  | .error _ => s.push .page pageName

/-- Forgets what was read from the page and empties the page scope. -/
def resetPage : Step Unit :=
  modify fun s =>
    let s := s.forgetLiveText
    { s with store := emptyPage s.store }

/-- The state after an action on an element: what was read is forgotten, and a text that is bound
for the element is emptied. -/
def invalidateText (element : String) (s : State) : State :=
  let s := s.forgetLiveText
  let key := Key.text element
  match s.store.find? key with
  | none => s
  | some "" => s
  | some _ => { s with store := s.store.set key "" }

variable (x : Session)

/-- Binds the value of an action and lets the time after it pass. -/
def bindAndWait (element action value : String) : Step Unit :=
  if x.settings.dryRun then State.bind (Key.action element action) value
  else (Gate.bindAndWait x.settings.waits element action value).failingAs .gate

/-- Acts on an element. -/
def act (element action value : String)
    (deed : ElementId → World.Act InteractionFault Unit) : Step Unit := do
  let l ← resolving (x.resolver.locator element)
  if !x.settings.dryRun then
    interacting (x.resolver.interactor.withElement (some action) l deed)
    modify (invalidateText element)
  x.bindAndWait element action value

/-- Does something with an element that binds nothing. -/
def withElement {α : Type} (action : Option String) (element : String)
    (deed : ElementId → World.Act InteractionFault α) : Step α := do
  let l ← resolving (x.resolver.locator element)
  interacting (x.resolver.interactor.withElement action l deed)

/-- Does something with a located element, except in a dry run. -/
def withLocated {α : Type} (element : String) (inDryRun : α)
    (deed : Locator → World.Act InteractionFault α) : Step α := do
  let l ← resolving (x.resolver.locator element)
  if x.settings.dryRun then return inDryRun
  interacting (deed l)

/-- Whether an element is in a state; one that is not there is hidden. -/
def stateOf (state : ElementState) (l : Locator) : World.Act InteractionFault Bool := fun w =>
  match x.resolver.interactor.withElement none l (Interaction.hasState state) w with
  | (.error e, w) =>
    if e.isNotFound ∧ state = .hidden then (.ok true, w)
    else if e.isNotFound ∧ state = .displayed then (.ok false, w)
    else (.error e, w)
  | done => done

/-- Whether an element shows a text that is not blank. -/
def showsText (l : Locator) : World.Act InteractionFault Bool := do
  return !Text.blank (← x.resolver.interactor.withElement none l Interaction.readText)

/-- Waits for an element to be in a state. -/
def awaitState (element : String) (state : ElementState) : Step Unit :=
  x.withLocated element () fun l =>
    Wait.untilDefault x.settings.waits (some s!"{element} to be {state.word}")
      (x.stateOf state l)

/-- Waits for an element to show a text. -/
def awaitText (element : String) : Step Unit :=
  x.withLocated element () fun l =>
    Wait.untilDefault x.settings.waits (some s!"text in {element}") (x.showsText l)

/-- Waits for a condition of the caller's own, up to a time that the machine's clock can show. -/
def waitFor {σ : Type} [Timed σ] (reason : Option String) (seconds : Nat)
    (condition : Bindery.Act σ InteractionFault Bool) : Bindery.Act σ StepFault Unit := do
  let s ← get
  if Clock.readingBound ≤ Timed.reading s + seconds * Clock.secondNanos then throw .endlessTimeout
  else (Wait.waitFor x.settings.waits reason (seconds * 1000) condition).failingAs .interaction

/-- Goes to an address and begins with an empty page scope there. -/
def navigate (url : String) : Step Unit := do
  let url ← resolving (x.resolver.interpolate url)
  if !x.settings.dryRun then interacting (World.browse (Browser.navigateTo url))
  resetPage

/-- Runs a script and gives the text of its result. -/
def runScript (script : String) : Step String := do
  let script ← resolving (x.resolver.interpolate script)
  if x.settings.dryRun then return Template.placeholder "javascript"
  resolving ((State.inWorld (Evaluators.consult x.resolver.evaluators (.script script))).failingAs
    (.ofEvaluation "script" "javascript"))

end Session

end Bindery
