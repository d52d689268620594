import Assay.Json.Basic
import Assay.Hash.Sha256
import Assay.Review.Answer
import Assay.Rule.Script

/-!
# Run records

A scenario runs its steps in order up to the first one that is not passed, and skips the rest; the
next scenario runs all the same. The record of a run holds every scenario with the status of each
of its steps, and for a failed step the wording of what was found, with the characters that markup
would take for its own escaped.

## Main definitions

* `StepStatus`, `StepResult`, `ScenarioResult`, `RunRecord`: What a run records.
* `Step.run`, `Scenario.run`, `runAll`: The run of a step, of a scenario and of many.
* `RunRecord.hash`: The content hash of a record.
-/

namespace Assay

/-- How a step ended. -/
inductive StepStatus
  | passed
  | failed
  | notApplicable
  | skipped
  deriving DecidableEq, Repr

/-- The word for a status. -/
def StepStatus.word : StepStatus → String
  | passed => "passed"
  | failed => "failed"
  | notApplicable => "not_applicable"
  | skipped => "skipped"

/-- What a run records of a step. -/
structure StepResult where
  text : String
  status : StepStatus
  message : Option String
  deriving DecidableEq, Repr

/-- What a run records of a scenario. -/
structure ScenarioResult where
  name : String
  description : String
  steps : List StepResult
  deriving DecidableEq, Repr

/-- What a run records. -/
structure RunRecord where
  scenarios : List ScenarioResult
  deriving DecidableEq, Repr

/-- A character with a meaning in markup, escaped. -/
def escapeMarkupChar : Char → List Char
  | '&' => "&amp;".toList
  | '<' => "&lt;".toList
  | '>' => "&gt;".toList
  | c => [c]

/-- A text that markup shows as it stands. -/
def escapeMarkup (s : String) : String :=
  String.ofList (s.toList.flatMap escapeMarkupChar)

/-- The status that an answer gives a step. -/
def Answer.status : Answer → StepStatus
  | passed => .passed
  | failed _ => .failed
  | notApplicable => .notApplicable

/-- The message that an answer gives a step. -/
def Answer.message? : Answer → Option String
  | failed f => some (escapeMarkup f.message)
  | _ => none

/-- What a run records of a step, given the answer of its check. -/
def Step.result (s : Step) (a : Answer) : StepResult :=
  ⟨s.text, a.status, a.message?⟩

/-- The run of a step. -/
def Step.run (b : Brief) (n : Notes) (s : Step) : Except Fault (StepResult × Notes) := do
  let (answer, notes) ← s.check.answer b n
  return (s.result answer, notes)

/-- What a run records of a step that it does not come to. -/
def Step.skip (s : Step) : StepResult :=
  ⟨s.text, .skipped, none⟩

/-- The run of steps in order, up to the first one that is not passed. -/
def runSteps (b : Brief) : Notes → List Step → Except Fault (List StepResult × Notes)
  | n, [] => .ok ([], n)
  | n, s :: rest => do
    let (result, notes) ← s.run b n
    if result.status = .passed then
      let (results, final) ← runSteps b notes rest
      return (result :: results, final)
    else return (result :: rest.map Step.skip, notes)

/-- The run of a scenario. -/
def Scenario.run (b : Brief) (n : Notes) (s : Scenario) : Except Fault (ScenarioResult × Notes) := do
  let (results, notes) ← runSteps b n s.steps
  return (⟨s.name, s.description, results⟩, notes)

/-- The runs of scenarios in order, each with the notes of those before it. -/
def runScenarios (b : Brief) : Notes → List Scenario → Except Fault (List ScenarioResult × Notes)
  | n, [] => .ok ([], n)
  | n, s :: rest => do
    let (result, notes) ← s.run b n
    let (results, final) ← runScenarios b notes rest
    return (result :: results, final)

/-- The record of a run of scenarios, with the notes after it. -/
def runAll (b : Brief) (n : Notes) (scenarios : List Scenario) : Except Fault (RunRecord × Notes) := do
  let (results, notes) ← runScenarios b n scenarios
  return (⟨results⟩, notes)

/-- The first step of a scenario that failed. -/
def ScenarioResult.failedStep? (s : ScenarioResult) : Option StepResult :=
  s.steps.find? fun step => step.status = .failed

/-- A step of a record as data. -/
def StepResult.toJson (s : StepResult) : Json :=
  .object [("text", .text s.text), ("status", .text s.status.word),
    ("message", (s.message.map Json.text).getD .null)]

/-- A scenario of a record as data. -/
def ScenarioResult.toJson (s : ScenarioResult) : Json :=
  .object [("name", .text s.name), ("description", .text s.description),
    ("steps", .array (s.steps.map StepResult.toJson))]

namespace RunRecord

/-- A record as data. -/
def toJson (r : RunRecord) : Json :=
  .object [("scenarios", .array (r.scenarios.map ScenarioResult.toJson))]

/-- The canonical text of a record. -/
def canonical (r : RunRecord) : String :=
  r.toJson.canonical

/-- The content hash of a record. -/
def hash (r : RunRecord) : String :=
  Hash.contentHash r.canonical

end RunRecord

end Assay
