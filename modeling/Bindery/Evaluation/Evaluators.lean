import Bindery.Evaluation.Fault
import Bindery.Host.Shell
import Bindery.Regex.Machine
import Bindery.Script
import Bindery.World

/-!
# Bindery — Evaluation — Evaluators

Those who answer queries.  The standard ones run scripts and XPath lookups in the page, and look
up regular expressions, JSON paths, commands and files by themselves; the echoing ones say what
they were asked.  Whoever answers, the query is written into the log first (`consult`).
-/

namespace Bindery

/-- Those who answer queries. -/
abbrev Evaluators := Query → World.Act EvaluationFault String

namespace Evaluators

/-- A script that an evaluator runs in the page. -/
def runScript (script : String) (args : List ScriptArgument) :
    World.Act EvaluationFault Json :=
  (World.browse (Browser.executeScript script args)).failingAs .interaction

/-- The text of an XPath result; null stands for no node. -/
def xpathText (expression : String) : Json → Except EvaluationFault String
  | .null => .error (.failed (.noNode expression))
  | v => .ok v.plainText

/-- The text that a regular expression extracts from a source. -/
def regexText (expression source : String) : Except EvaluationFault String :=
  match Regex.extract expression source with
  | .ok s => .ok s
  | .error .invalid => .error (.failed (.invalidRegex expression))
  | .error .noMatch => .error (.failed (.noMatch expression))

/-- The text that a JSON path leads to in a source. -/
def jsonText (expression source : String) : Except EvaluationFault String :=
  match Json.Path.extract expression source with
  | .ok s => .ok s
  | .error f => .error (.failed (.noPath f))

/-- The text that a command prints. -/
def processText (command : String) : World.Act EvaluationFault String := fun w =>
  if command.toList.contains '\x00' then
    (.error (.failed (.notStarted command "nul byte found in provided data")), w)
  else
    let (result, host) := Shell.runLine command w.host
    let w := { w with host }
    if result.status.isSuccess then
      (.ok (Text.trim (Text.Utf8.lossy result.output)), w)
    else
      let complaint := Text.trim (Text.Utf8.lossy result.errors)
      (.error (.failed (.ended command result.status complaint)), w)

/-- The text of a file. -/
def fileText (files : Files) (path : String) : Except EvaluationFault String :=
  match files.readText path with
  | .ok s => .ok s
  | .error .missing => .error (.fileMissing path)
  | .error f => .error (.failed (.unreadable path f))

/-- The evaluators that do what they are asked. -/
def standard : Evaluators
  | .script s => do return (← runScript s []).plainText
  | .xpath e s t => do
    let v ← runScript Script.xpath [.text s, .text e, .text t.word]
    Act.ofExcept (xpathText e v)
  | .regex e s => Act.ofExcept (regexText e s)
  | .jsonPath e s => Act.ofExcept (jsonText e s)
  | .process c => processText c
  | .file p => do Act.ofExcept (fileText (← get).host.files p)

/-- The evaluators that say what they are asked and find no file. -/
def echo : Evaluators
  | .script s => return s!"evaluated({s})"
  | .xpath e _ _ => return s!"xpath({e})"
  | .regex e _ => return s!"regex({e})"
  | .jsonPath e _ => return s!"json({e})"
  | .process c => return s!"ran({c})"
  | .file p => throw (.fileMissing p)

/-- Asks for the answer to a query, which is written into the log. -/
def consult (e : Evaluators) (q : Query) : World.Act EvaluationFault String := do
  modify fun w => { w with asked := q :: w.asked }
  e q

end Evaluators

end Bindery
