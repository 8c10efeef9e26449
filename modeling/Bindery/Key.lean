import Bindery.Vocabulary

/-!
# Bindery — Key

The keys that bindings stand under.  A key is a flat text; the slashes in it are for the reader
and have no meaning of their own, so a name may hold slashes too.
-/

namespace Bindery.Key

/-- The name under which the address of the page is bound. -/
def currentUrl : String := "the current URL"

/-- Where the strategy of an element is bound. -/
def locator (element : String) : String := s!"{element}/locator"

/-- Where the expression of an element is bound for a strategy. -/
def expression (element strategy : String) : String := s!"{element}/locator/{strategy}"

/-- Where the container of an element is bound for a strategy. -/
def container (element strategy : String) : String :=
  s!"{element}/locator/{strategy}/container"

/-- Where the value of an action on an element is bound. -/
def action (element act : String) : String := s!"{element}/{act}"

/-- Where the pause after an action is bound. -/
def wait (element act : String) : String := s!"{element}/{act}/wait"

/-- Where the condition after an action is bound. -/
def condition (element act : String) : String := s!"{element}/{act}/condition"

/-- Where the text of a name is bound. -/
def text (name : String) : String := s!"{name}/text"

/-- Where the script of a name is bound. -/
def javascript (name : String) : String := s!"{name}/javascript"

/-- Where a field of an XPath lookup is bound. -/
def xpath (name field : String) : String := s!"{name}/xpath/{field}"

/-- Where a field of a regular expression lookup is bound. -/
def regex (name field : String) : String := s!"{name}/regex/{field}"

/-- Where a field of a JSON path lookup is bound. -/
def jsonPath (name field : String) : String := s!"{name}/json path/{field}"

/-- Where a selection that was read is bound. -/
def selection (name : String) (facet : Facet) : String := s!"{name}/{facet.keyPart}"

end Bindery.Key
