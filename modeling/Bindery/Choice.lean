import Bindery.Text.Numeral
import Bindery.Text.Quoted

/-!
# Bindery — Choice

Which option of a list is selected: the first one with a text, the first one with a value, or the
one at an index.
-/

namespace Bindery

open Bindery.Text

/-- Which option of a list is selected. -/
inductive Choice where
  | text (t : String)
  | value (v : String)
  | index (n : Nat)
deriving DecidableEq, Repr

namespace Choice

/-- What is bound for a choice once it was made. -/
def bound : Choice → String
  | .text t => t
  | .value v => v
  | .index n => decimal n

/-- A choice as a message shows it. -/
def shown : Choice → String
  | .text t => s!"Text({Quoted.quote t})"
  | .value v => s!"Value({Quoted.quote v})"
  | .index n => s!"Index({decimal n})"

/-- An option of a list: its text and its value. -/
abbrev Item := String × String

/-- Where the chosen one of some options is. -/
def find? (options : List Item) : Choice → Option Nat
  | .text t => options.findIdx? fun o => o.1 = t
  | .value v => options.findIdx? fun o => o.2 = v
  | .index n => if n < options.length then some n else none

end Choice

end Bindery
