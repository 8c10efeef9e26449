import Bindery.Vocabulary

/-!
# Bindery — Locator

How an element of a page is found: a strategy, the expression the strategy takes and, for an
element inside another one, how that other one is found.
-/

namespace Bindery

/-- How an element is found.  `container` is the element around it, found first. -/
inductive Locator where
  | mk (element : String) (strategy : Strategy) (expression : String)
      (container : Option Locator)
deriving Repr, Inhabited

namespace Locator

/-- One locator of a chain: the element, the strategy and the expression. -/
abbrev Link : Type := String × Strategy × String

/-- The name of the element. -/
def element : Locator → String
  | mk e _ _ _ => e

/-- The way to find the element. -/
def strategy : Locator → Strategy
  | mk _ s _ _ => s

/-- What the strategy is given. -/
def expression : Locator → String
  | mk _ _ x _ => x

/-- The element around it. -/
def container : Locator → Option Locator
  | mk _ _ _ c => c

/-- An element that is not looked for inside another one. -/
def plain (element : String) (strategy : Strategy) (expression : String) : Locator :=
  mk element strategy expression none

/-- The element looked for inside another one. -/
def within : Locator → Locator → Locator
  | mk e s x _, c => mk e s x (some c)

/-- A locator and those of its containers, from the element outwards. -/
def chain : Locator → List (String × Strategy × String)
  | mk e s x none => [(e, s, x)]
  | mk e s x (some c) => (e, s, x) :: chain c

/-- A locator as people read it, the element first and its containers after it. -/
def text : Locator → String
  | mk e s x none => s!"{e} [{s.word}: {x}]"
  | mk e s x (some c) => s!"{e} [{s.word}: {x}] in {text c}"

end Locator

end Bindery
