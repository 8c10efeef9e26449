import Bindery.Evaluation.Evaluators
import Bindery.Interaction.Primitive
import Bindery.Resolution.Scan
import Bindery.State
import Bindery.Template

/-!
# Bindery — Resolution — Resolver

The values of names and the locators of elements.  A name takes its value from its binding, then
from the defaults and at last from the text of the element it names; what is read from the page is
bound, so that it is read once.  References in templates, sources of lookups and containers of
elements are looked up one level deeper, and a lookup that runs out of levels fails.  The page is
read by whatever can read one (`PageReader`), as an interactor does by finding an element first.

Levels are counted by the room that is left: `valueAt` and `locatorAt` recur on it, so they
end whatever the bindings are.
-/

namespace Bindery

open Template (Segment)

/-- What reads a page: its address, the text of the element that a locator finds, and the text or
the value of what is selected in it. -/
class PageReader (ι : Type) where
  address : ι → World.Act InteractionFault String
  text : ι → Locator → World.Act InteractionFault String
  selected : ι → Locator → Facet → World.Act InteractionFault (Option String)

instance : PageReader Interactor where
  address _ := World.browse Browser.currentUrl
  text i l := i.withElement none l Interaction.readText
  selected i l facet :=
    i.withElement none l fun id => World.browse (Browser.selectedOption id facet)

/-- Means to look up names.  In a dry run nothing is read from the page, and a placeholder stands
for each value that only the page has. -/
structure Resolver (ι : Type) where
  interactor : ι
  evaluators : Evaluators
  defaults : String → Option String
  dryRun : Bool
  maxDepth : Nat

namespace Resolver

/-- An action that looks something up. -/
abbrev Lookup (α : Type) : Type := State.Act ResolutionFault α

variable {ι : Type} (r : Resolver ι)

/-- The failure of a lookup that runs out of levels. -/
def tooDeep {α : Type} (name : String) : Lookup α :=
  throw (.tooDeep name r.maxDepth)

/-- The text of segments, with the value of each reference in its place.  A placeholder stays as
it is. -/
def expand (value : String → Lookup String) : List Segment → Lookup String
  | [] => return ""
  | .text s :: rest => do return s ++ (← expand value rest)
  | .reference name :: rest => do
    if Template.isPlaceholder name then
      return (Segment.reference name).write ++ (← expand value rest)
    else
      let v ← value name
      return v ++ (← expand value rest)

/-- Asks an evaluator for the value of a name; in a dry run a placeholder stands for it. -/
def ask (name : String) (kind : AttributeKind) (q : Query) : Lookup String :=
  if r.dryRun then return Template.placeholder name
  else
    (State.inWorld (Evaluators.consult r.evaluators q)).failingAs
      (.ofEvaluation name kind.word)

/-- Reads the file that gives a name its value. -/
def askFile (name path : String) : Lookup String :=
  (State.inWorld (Evaluators.consult r.evaluators (.file path))).failingAs
    (.ofEvaluation name AttributeKind.file.word)

/-- The value of a binding.  `value` gives the values of references in it, `source` that of the
name a lookup is made in. -/
def evaluate (value source : String → Lookup String) (name : String) :
    BoundAttribute → Lookup String
  | .literal v => return v
  | .script s => do
    let script ← expand value (Template.parse s)
    r.ask name .javaScript (.script (Script.returning script))
  | .xpath s e t => do
    let text ← source (← expand value (Template.parse s))
    let expression ← expand value (Template.parse e)
    match TargetType.read (← expand value (Template.parse t)) with
    | .error word => throw (.evaluation name AttributeKind.xpath.word (.unknownTarget word))
    | .ok target => r.ask name .xpath (.xpath expression text target)
  | .regex s e => do
    let text ← source (← expand value (Template.parse s))
    let expression ← expand value (Template.parse e)
    r.ask name .regex (.regex expression text)
  | .jsonPath s e => do
    let text ← source (← expand value (Template.parse s))
    let expression ← expand value (Template.parse e)
    r.ask name .jsonPath (.jsonPath expression text)
  | .process c => do
    let command ← expand value (Template.parse c)
    r.ask name .process (.process command)
  | .file p => do
    let path ← expand value (Template.parse p)
    r.askFile name path

/-- The value of a key without the blanks around it, if anything is left. -/
def word? (key : String) : Lookup (Option String) := do
  return (← get).store.findWord? key

/-- The value of a key that a locator cannot do without. -/
def locatorWord (element key : String) : Lookup String := do
  match ← word? key with
  | some v => return v
  | none => throw (.locatorUnbound element key)

/-- The strategy that a word bound for an element names. -/
def strategyOf (element word : String) : Lookup Strategy :=
  match Strategy.read word with
  | .ok s => return s
  | .error u => throw (.evaluation element "locator" (.unknownWord u))

/-- What a name has no value for when its element has no locator. -/
def asUnbound (name : String) : ResolutionFault → ResolutionFault
  | .locatorUnbound .. => .unbound name
  | f => f

/-- A locator inside its container, if one is bound for the strategy; in a dry run that container
only has to have a strategy. -/
def inContainer (locator : String → Lookup Locator) (word : String) (l : Locator) :
    Lookup Locator := do
  match ← word? (Key.container l.element word) with
  | none => return l
  | some container =>
    if r.dryRun then
      let _ ← locatorWord container (Key.locator container)
      return l
    else
      return l.within (← locator container)

/-- The locator of an element.  `value` gives the values of references in its expression, and
`locator` the locator of its container. -/
def locatorStep (value : String → Lookup String) (locator : String → Lookup Locator)
    (element : String) : Lookup Locator := do
  let word ← locatorWord element (Key.locator element)
  let strategy ← strategyOf element word
  let template ← locatorWord element (Key.expression element word)
  let expression ← expand value (Template.parse template)
  r.inContainer locator word (Locator.plain element strategy expression)

variable [PageReader ι]

/-- The address of the page; in a dry run a placeholder stands for it. -/
def pageUrl : Lookup String :=
  if r.dryRun then return Template.placeholder Key.currentUrl
  else State.inWorld ((PageReader.address r.interactor).failingAs .interaction)

/-- Binds the address of the page, read anew. -/
def bindCurrentUrl : Lookup Unit := do
  State.bind Key.currentUrl (← r.pageUrl)

/-- The value of a reference; the address of the page is read anew first. -/
def reference (value : String → Lookup String) (name : String) : Lookup String := do
  if name = Key.currentUrl then r.bindCurrentUrl
  value name

/-- The text of the element that a locator finds; it is bound, and remembered as read. -/
def liveText (l : Locator) : Lookup String := do
  if r.dryRun then return Template.placeholder l.element
  let before ← get
  let text ← State.inWorld ((PageReader.text r.interactor l).failingAs .interaction)
  let key := Key.text l.element
  State.bind key text
  modify fun s => { s with
    liveReads := s.liveReads.put key text
    readings := ⟨l, before.store, before.world, text⟩ :: s.readings }
  return text

/-- A reference as it is written in a template; blanks around a name do not count. -/
def written (value : String → Lookup String) (name : String) : Lookup String :=
  r.reference value (Text.trim name)

/-- The value of a name that no binding gives one: a default, or the text of its element. -/
def unboundValue (locator : String → Lookup Locator) (name : String) : Lookup String :=
  match r.defaults name with
  | some v => return v
  | none => do
    let l ← (locator name).failingAs (asUnbound name)
    r.liveText l

/-- The value of a name.  `value` gives the values of references in its binding, `source` that of
the name the binding is looked up in, and `locator` the locator of an element. -/
def valueStep (value source : String → Lookup String) (locator : String → Lookup Locator)
    (name : String) : Lookup String := do
  match ← Act.ofExcept ((← get).store.scan name) with
  | some binding => r.evaluate value source name binding
  | none => r.unboundValue locator name

mutual
/-- The value of a name, with room for so many levels. -/
def valueAt : Nat → String → Lookup String
  | 0, name => r.tooDeep name
  | 1, name => r.valueStep r.tooDeep (r.written r.tooDeep) (locatorAt 0) name
  | room + 2, name =>
    r.valueStep (r.written (valueAt room)) (r.written (valueAt room)) (locatorAt (room + 1)) name

/-- The locator of an element, with room for so many levels. -/
def locatorAt : Nat → String → Lookup Locator
  | 0, element => r.tooDeep element
  | 1, element => r.locatorStep r.tooDeep (locatorAt 0) element
  | room + 2, element =>
    r.locatorStep (r.written (valueAt room)) (locatorAt (room + 1)) element
end

/-- The value of a name. -/
def value (name : String) : Lookup String :=
  r.valueAt (r.maxDepth + 1) name

/-- The locator of an element. -/
def locator (element : String) : Lookup Locator :=
  r.locatorAt (r.maxDepth + 1) element

/-- The value of a reference. -/
def referenceValue (name : String) : Lookup String :=
  r.reference r.value name

/-- The text of a template. -/
def interpolate (template : String) : Lookup String :=
  expand (r.written (r.valueAt r.maxDepth)) (Template.parse template)

/-- The text or the value of what is selected in an element; it is bound. -/
def selection (name : String) (facet : Facet) : Lookup String := do
  let key := Key.selection name facet
  let l ← r.locator name
  if r.dryRun then
    let v := Template.placeholder key
    State.bind key v
    return v
  let selected ← State.inWorld
    ((PageReader.selected r.interactor l facet).failingAs .interaction)
  match selected with
  | none => throw (.unbound key)
  | some v =>
    State.bind key v
    return v

/-- Bindings with one of them emptied if it is still what was read. -/
def forget (store : ScopeStack) (read : String × String) : ScopeStack :=
  if store.find? read.1 = some read.2 then store.set read.1 "" else store

end Resolver

/-- The state after every text that was read from the page is forgotten: each binding that still
holds it is emptied. -/
def State.forgetLiveText (s : State) : State :=
  { s with store := s.liveReads.foldl Resolver.forget s.store, liveReads := [] }

end Bindery
