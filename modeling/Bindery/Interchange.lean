import Bindery.Choice
import Bindery.Json.Reading
import Bindery.Json.Text
import Bindery.Locator

/-!
# Bindery — Interchange

Locators and choices as JSON.  A locator is an object with the fields `element`,
`locator_strategy`, `expression` and `container`, or an array of these four in this order; a field
that no locator has is skipped, one that occurs twice is refused, and a container may be null or
missing.  A strategy is its name, or an object with that one name and null.
-/

namespace Bindery

namespace Strategy

/-- The name of a strategy in JSON. -/
def jsonName : Strategy → String
  | .id => "Id"
  | .name => "Name"
  | .tagName => "TagName"
  | .cssSelector => "CssSelector"
  | .xpath => "XPath"
  | .className => "ClassName"
  | .linkText => "LinkText"
  | .partialLinkText => "PartialLinkText"
  | .javaScript => "JavaScript"

/-- The strategy with a name in JSON. -/
def ofJsonName? : String → Option Strategy
  | "Id" => some .id
  | "Name" => some .name
  | "TagName" => some .tagName
  | "CssSelector" => some .cssSelector
  | "XPath" => some .xpath
  | "ClassName" => some .className
  | "LinkText" => some .linkText
  | "PartialLinkText" => some .partialLinkText
  | "JavaScript" => some .javaScript
  | _ => none

/-- The strategy that a JSON value is. -/
def ofJson? : Json → Option Strategy
  | .string s => ofJsonName? s
  | .object [(s, .null)] => ofJsonName? s
  | _ => none

theorem ofJson?_jsonName (s : Strategy) : ofJson? (.string s.jsonName) = some s := by
  cases s <;> rfl

end Strategy

namespace Locator

/-- The JSON value of a locator. -/
def toJson : Locator → Json
  | mk e s x none =>
    .object [("element", .string e), ("locator_strategy", .string s.jsonName),
      ("expression", .string x), ("container", .null)]
  | mk e s x (some c) =>
    .object [("element", .string e), ("locator_strategy", .string s.jsonName),
      ("expression", .string x), ("container", toJson c)]

/-- The fields of a locator that were read so far. -/
structure Fields where
  element : Option String
  strategy : Option Strategy
  expression : Option String
  container : Option (Option Locator)

/-- No field was read. -/
def Fields.none : Fields := ⟨.none, .none, .none, .none⟩

/-- The locator that fields make up; the container alone may be missing. -/
def Fields.locator? (f : Fields) : Option Locator :=
  f.element.bind fun e => f.strategy.bind fun s => f.expression.map fun x =>
    Locator.mk e s x (f.container.getD .none)

mutual
/-- The locator that a JSON value is, or null. -/
def orNullOfJson? : Json → Option (Option Locator)
  | .null => some .none
  | .array [.string e, s, .string x, c] =>
    (Strategy.ofJson? s).bind fun s => (orNullOfJson? c).map fun c => some (mk e s x c)
  | .object fields => (readFields Fields.none fields).bind fun f => f.locator?.map some
  | _ => .none

/-- Reads fields one after the other. -/
def readFields (f : Fields) : List (String × Json) → Option Fields
  | [] => some f
  | (key, v) :: rest =>
    if key = "element" then
      match f.element, v with
      | .none, .string e => readFields { f with element := some e } rest
      | _, _ => .none
    else if key = "locator_strategy" then
      match f.strategy, Strategy.ofJson? v with
      | .none, some s => readFields { f with strategy := some s } rest
      | _, _ => .none
    else if key = "expression" then
      match f.expression, v with
      | .none, .string x => readFields { f with expression := some x } rest
      | _, _ => .none
    else if key = "container" then
      match f.container, orNullOfJson? v with
      | .none, some c => readFields { f with container := some c } rest
      | _, _ => .none
    else readFields f rest
end

/-- The locator that a JSON value is. -/
def ofJson? (v : Json) : Option Locator :=
  (orNullOfJson? v).join

/-- The locator that a JSON text writes. -/
def ofJsonText? (s : String) : Option Locator :=
  (Json.asWritten? s).bind ofJson?

end Locator

namespace Choice

/-- The JSON value of a choice. -/
def toJson : Choice → Json
  | .text t => .object [("Text", .string t)]
  | .value v => .object [("Value", .string v)]
  | .index n => .object [("Index", .number (.int n))]

/-- The choice that a JSON value is. -/
def ofJson? : Json → Option Choice
  | .object [("Text", .string t)] => some (.text t)
  | .object [("Value", .string v)] => some (.value v)
  | .object [("Index", .number (.int n))] => if 0 ≤ n then some (.index n.toNat) else none
  | _ => none

/-- The choice that a JSON text writes. -/
def ofJsonText? (s : String) : Option Choice :=
  (Json.asWritten? s).bind ofJson?

end Choice

end Bindery
