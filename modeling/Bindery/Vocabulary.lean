import Bindery.Text.Blank

/-!
# Bindery — Vocabulary

The words that steps use for ways to find elements, for states of elements and for parts of a
selection.  A word is read without the blanks around it and without regard to the case of ASCII
letters; one that names nothing is reported as it was written.
-/

namespace Bindery

open Bindery.Text

/-- A word that names nothing. -/
inductive Unknown where
  | strategy (raw : String)
  | state (raw : String)
  | facet (raw : String)
deriving DecidableEq, Repr

/-- What is said of a word that names nothing. -/
def Unknown.message : Unknown → String
  | .strategy raw => s!"unknown locator strategy: {raw}"
  | .state raw => s!"unknown element state: {raw}"
  | .facet raw => s!"unknown selection kind: {raw}"

/-- A word as it is compared: without blanks around it, in lower case. -/
def normalWord (raw : String) : String :=
  lowerAscii (trim raw)

/-- A way to find an element of a page. -/
inductive Strategy where
  | id
  | name
  | tagName
  | cssSelector
  | xpath
  | className
  | linkText
  | partialLinkText
  | javaScript
deriving DecidableEq, Repr, Inhabited

namespace Strategy

/-- The name a strategy is bound and shown by. -/
def word : Strategy → String
  | .id => "id"
  | .name => "name"
  | .tagName => "tag name"
  | .cssSelector => "css selector"
  | .xpath => "xpath"
  | .className => "class name"
  | .linkText => "link text"
  | .partialLinkText => "partial link text"
  | .javaScript => "javascript"

/-- The strategy that a normal word names; four of them have a short name too. -/
def ofWord? : String → Option Strategy
  | "id" => some .id
  | "name" => some .name
  | "tag name" => some .tagName
  | "tag" => some .tagName
  | "css selector" => some .cssSelector
  | "css" => some .cssSelector
  | "xpath" => some .xpath
  | "class name" => some .className
  | "class" => some .className
  | "link text" => some .linkText
  | "partial link text" => some .partialLinkText
  | "javascript" => some .javaScript
  | "js" => some .javaScript
  | _ => none

/-- The strategy that a word names. -/
def read (raw : String) : Except Unknown Strategy :=
  match ofWord? (normalWord raw) with
  | some s => .ok s
  | none => .error (.strategy raw)

end Strategy

/-- A state of an element that a step checks or waits for. -/
inductive ElementState where
  | displayed
  | hidden
  | checked
  | unchecked
  | enabled
  | disabled
deriving DecidableEq, Repr, Inhabited

namespace ElementState

/-- The name of a state. -/
def word : ElementState → String
  | .displayed => "displayed"
  | .hidden => "hidden"
  | .checked => "checked"
  | .unchecked => "unchecked"
  | .enabled => "enabled"
  | .disabled => "disabled"

/-- The state that a normal word names; the first four have a second name. -/
def ofWord? : String → Option ElementState
  | "displayed" => some .displayed
  | "visible" => some .displayed
  | "hidden" => some .hidden
  | "invisible" => some .hidden
  | "checked" => some .checked
  | "ticked" => some .checked
  | "unchecked" => some .unchecked
  | "unticked" => some .unchecked
  | "enabled" => some .enabled
  | "disabled" => some .disabled
  | _ => none

/-- The state that a word names. -/
def read (raw : String) : Except Unknown ElementState :=
  match ofWord? (normalWord raw) with
  | some s => .ok s
  | none => .error (.state raw)

/-- The state that holds when this one does not. -/
def opposite : ElementState → ElementState
  | .displayed => .hidden
  | .hidden => .displayed
  | .checked => .unchecked
  | .unchecked => .checked
  | .enabled => .disabled
  | .disabled => .enabled

theorem opposite_opposite (s : ElementState) : s.opposite.opposite = s := by
  cases s <;> rfl

end ElementState

/-- The part of a selected option that is read. -/
inductive Facet where
  | text
  | value
deriving DecidableEq, Repr, Inhabited

namespace Facet

/-- The last part of the key that a read selection is bound under. -/
def keyPart : Facet → String
  | .text => "selectedText"
  | .value => "selectedValue"

/-- The facet that a normal word names. -/
def ofWord? : String → Option Facet
  | "text" => some .text
  | "selected text" => some .text
  | "value" => some .value
  | "selected value" => some .value
  | _ => none

/-- The facet that a word names. -/
def read (raw : String) : Except Unknown Facet :=
  match ofWord? (normalWord raw) with
  | some f => .ok f
  | none => .error (.facet raw)

end Facet

end Bindery
