import Bindery.Attribute
import Bindery.Host.Files
import Bindery.Host.Status
import Bindery.Interaction.Fault
import Bindery.Json.Path

/-!
# Bindery — Evaluation — Fault

Why an evaluator gives no value.
-/

namespace Bindery

/-- What an evaluator finds wrong with what it was asked. -/
inductive EvaluationCause where
  | noNode (expression : String)
  | invalidRegex (expression : String)
  | noMatch (expression : String)
  | noPath (f : Json.Path.Failure)
  | notStarted (command reason : String)
  | ended (command : String) (status : Status) (complaint : String)
  | unreadable (path : String) (f : FileFault)
  | unknownTarget (word : String)
  | unknownWord (u : Unknown)
  | stated (reason : String)
deriving DecidableEq, Repr

/-- What is said of a path that gives no text. -/
def Json.Path.Failure.message : Json.Path.Failure → String
  | .notJson => "source is not JSON"
  | .invalid f => f.message
  | .nothing expression => s!"json path '{expression}' matched nothing"

/-- What is said of a cause. -/
def EvaluationCause.message : EvaluationCause → String
  | noNode expression => s!"xpath '{expression}' matched no node"
  | invalidRegex expression => s!"invalid regex '{expression}'"
  | noMatch expression => s!"regex '{expression}' did not match"
  | noPath f => f.message
  | notStarted command reason => s!"failed to start '{command}': {reason}"
  | ended command status complaint => s!"'{command}' exited with {status.text}: {complaint}"
  | unreadable path f => s!"cannot read '{path}': {f.message}"
  | unknownTarget word => TargetType.unknownMessage word
  | unknownWord u => u.message
  | stated reason => reason

/-- Why an evaluator gives no value. -/
inductive EvaluationFault where
  | failed (cause : EvaluationCause)
  | fileMissing (path : String)
  | interaction (f : InteractionFault)
deriving DecidableEq, Repr

end Bindery
