import Bindery.Session.Basic

/-!
# Bindery — Session — Operation

The operations of a session as data, and what performing one answers.  The two operations that
run a deed or a condition of the caller's own are not among them: those are `Session.withElement`
and `Session.waitFor`.
-/

namespace Bindery

/-- An operation of a session. -/
inductive Operation where
  | bind (key value : String)
  | bindIn (kind : ScopeKind) (key value : String)
  | beginFeature (name : String)
  | endFeature
  | resetPage
  | locator (element : String)
  | value (name : String)
  | reference (name : String)
  | interpolate (template : String)
  | selection (name : String) (facet : Facet)
  | bindAndWait (element action value : String)
  | sendKeys (element text : String) (clearFirst sendEnter : Bool)
  | clearText (element : String)
  | click (element : String)
  | submit (element : String)
  | check (element : String)
  | uncheck (element : String)
  | select (element : String) (choice : Choice)
  | moveTo (element : String)
  | highlight (element : String)
  | isInState (element : String) (state : ElementState)
  | awaitState (element : String) (state : ElementState)
  | awaitText (element : String)
  | navigate (url : String)
  | runScript (script : String)
deriving DecidableEq, Repr

/-- What an operation answers. -/
inductive Answer where
  | nothing
  | text (s : String)
  | truth (b : Bool)
  | locator (l : Locator)

namespace Session

variable (x : Session)

/-- A step that answers nothing. -/
def quietly (a : Step Unit) : Step Answer := do
  a
  return .nothing

/-- A step that answers a text. -/
def saying (a : Resolver.Lookup String) : Step Answer :=
  return .text (← resolving a)

/-- Performs an operation. -/
def perform : Operation → Step Answer
  | .bind key value => quietly (State.bind key value)
  | .bindIn kind key value => quietly (rebinding fun s => s.setIn kind key value)
  | .beginFeature name => quietly (rebinding fun s => .ok (beginFeature name s))
  | .endFeature => quietly (rebinding endFeature)
  | .resetPage => quietly resetPage
  | .locator element => return .locator (← resolving (x.resolver.locator element))
  | .value name => saying (x.resolver.value name)
  | .reference name => saying (x.resolver.referenceValue name)
  | .interpolate template => saying (x.resolver.interpolate template)
  | .selection name facet => saying (x.resolver.selection name facet)
  | .bindAndWait element action value => quietly (x.bindAndWait element action value)
  | .sendKeys element text clearFirst sendEnter =>
    quietly (x.act element "type" text (Interaction.typeText text clearFirst sendEnter))
  | .clearText element =>
    quietly (x.act element "clear" "true" fun id => World.browse (Browser.clear id))
  | .click element =>
    quietly (x.act element "click" "true" fun id => World.browse (Browser.click id))
  | .submit element =>
    quietly (x.act element "submit" "true" fun id => World.browse (Browser.submit id))
  | .check element => quietly (x.act element "check" "true" (Interaction.setChecked true))
  | .uncheck element => quietly (x.act element "uncheck" "true" (Interaction.setChecked false))
  | .select element choice =>
    quietly (x.act element "select" choice.bound fun id =>
      World.browse (Browser.selectOption id choice))
  | .moveTo element =>
    quietly (x.withLocated element () fun l => x.resolver.interactor.withElement none l
      (Interaction.scrollIntoView x.settings.throttle))
  | .highlight element =>
    quietly (x.withLocated element () fun l => x.resolver.interactor.withElement none l
      (Interaction.highlight x.settings.highlightStyle x.settings.highlightTime))
  | .isInState element state =>
    return .truth (← x.withLocated element true (x.stateOf state))
  | .awaitState element state => quietly (x.awaitState element state)
  | .awaitText element => quietly (x.awaitText element)
  | .navigate url => quietly (x.navigate url)
  | .runScript script => return .text (← x.runScript script)

end Session

end Bindery
