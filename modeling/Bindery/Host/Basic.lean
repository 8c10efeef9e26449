import Bindery.Entries
import Bindery.Host.Files

/-!
# Bindery — Host — Basic

What is around a session: files, and environment variables in the order in which they were set.
-/

namespace Bindery

/-- Files and environment variables.  A variable occurs once; setting it again leaves it in its
place. -/
structure Host where
  files : Files
  environment : List (String × String)
deriving DecidableEq, Inhabited

namespace Host

/-- No file and no variable. -/
def bare : Host := ⟨[], []⟩

/-- Variables with one set, in its place if it was there and at the end otherwise. -/
def setVariable (name value : String) : List (String × String) → List (String × String)
  | [] => [(name, value)]
  | (n, v) :: rest =>
    if n = name then (name, value) :: rest else (n, v) :: setVariable name value rest

/-- Whether an environment variable can have a name. -/
def isVariableName (name : String) : Bool :=
  !name.isEmpty && name.toList.all fun c => c ≠ '=' && c ≠ '\x00'

/-- The value of an environment variable. -/
def lookup? (h : Host) (name : String) : Option String :=
  if isVariableName name then h.environment.lookup name else none

end Host

end Bindery
