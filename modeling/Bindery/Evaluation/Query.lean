import Bindery.Attribute

/-!
# Bindery — Evaluation — Query

What an evaluator is asked: to run a script, to look something up in a source, to run a command
or to read a file.  Every reference in it has been replaced by its value.
-/

namespace Bindery

/-- What an evaluator is asked. -/
inductive Query where
  | script (script : String)
  | xpath (expression source : String) (target : TargetType)
  | regex (expression source : String)
  | jsonPath (expression source : String)
  | process (command : String)
  | file (path : String)
deriving DecidableEq, Repr

/-- A query as a record shows it. -/
def Query.text : Query → String
  | script s => s!"javascript: {s}"
  | xpath e s t => s!"xpath: {e} on {s} as {t.word}"
  | regex e s => s!"regex: {e} on {s}"
  | jsonPath e s => s!"json path: {e} on {s}"
  | process c => s!"sysproc: {c}"
  | file p => s!"file: {p}"

end Bindery
