import Assay.Metadata.Manifest
import Assay.Review.Record

/-!
# Verdicts

A run comes down to a verdict: a comment, labels and a state. Requirements are counted by their
descriptions, which scenarios may share; a requirement has failed when a step of one of its
scenarios has, and the comment lists the hints of each failed requirement once. A submission for a
release that is not published yet is pending, whatever its run found.

## Main definitions

* `VerdictState`, `Verdict`: What a run comes down to.
* `RequirementSummary`, `descriptions`, `failures`: The requirements of a record and the failed ones
  among them.
* `Verdict.ofRun`: The verdict on a run.
-/

namespace Assay

open Text

/-- The outcome of a review. -/
inductive VerdictState
  | success
  | failure
  | pending
  deriving DecidableEq, Repr

/-- The word for a state. -/
def VerdictState.word : VerdictState → String
  | success => "success"
  | failure => "failure"
  | pending => "pending"

/-- What a run comes down to. -/
structure Verdict where
  comment : String
  labels : List String
  state : VerdictState
  deriving DecidableEq, Repr

/-- A failed requirement with what its steps said. -/
structure RequirementSummary where
  description : String
  hints : List String
  deriving DecidableEq, Repr

/-- An item at the end of a list, unless it is there already. -/
def addOnce (item : String) (items : List String) : List String :=
  if items.contains item then items else items ++ [item]

/-- The description of a scenario as requirements are told apart by it. -/
def ScenarioResult.requirement (s : ScenarioResult) : String :=
  strip s.description

/-- What the failed steps of a scenario said. -/
def ScenarioResult.hints (s : ScenarioResult) : List String :=
  (s.steps.filter fun step => step.status = .failed).map fun step => step.message.getD ""

/-- The requirements of a record, each once. -/
def RunRecord.descriptions (r : RunRecord) : List String :=
  r.scenarios.foldl (fun seen s => addOnce s.requirement seen) []

/-- The failed requirements with a hint added to one of them. -/
def addHint (description hint : String) : List RequirementSummary → List RequirementSummary
  | [] => [⟨description, [hint]⟩]
  | s :: rest =>
    if s.description = description then ⟨description, addOnce hint s.hints⟩ :: rest
    else s :: addHint description hint rest

/-- The failed requirements of a record, in the order of their first failure. -/
def RunRecord.failures (r : RunRecord) : List RequirementSummary :=
  (r.scenarios.flatMap fun s => s.hints.map fun hint => (s.requirement, hint)).foldl
    (fun failed e => addHint e.1 e.2 failed) []

/-- Where the documentation is found. -/
def docsTrailer : String :=
  "for a full list of requirements, please refer to these sections of the docs: " ++
    "[_content of the PR_](https://github.com/cncf/k8s-conformance/blob/master/instructions.md" ++
    "#contents-of-the-pr), and [_requirements_](https://github.com/cncf/k8s-conformance/blob/" ++
    "master/instructions.md#requirements)."

/-- The lines of the comment on a failed requirement. -/
def RequirementSummary.lines (s : RequirementSummary) : List String :=
  ("- [FAIL] " ++ s.description) :: s.hints.map fun hint => "  - " ++ hint

/-- The comment on `total` requirements of which some failed. -/
def renderComment (total : Nat) (failed : List RequirementSummary) : String :=
  if failed.isEmpty then
    "All requirements (" ++ toString total ++ ") have passed for the submission!\n"
  else
    let first := toString ((total : Int) - failed.length) ++ " of " ++ toString total ++
      " requirements have passed. Please review the following:"
    String.intercalate "\n"
      (first :: failed.flatMap RequirementSummary.lines ++ ["", " " ++ docsTrailer]) ++ "\n"

namespace Verdict

/-- The label of a submission that cannot be processed yet. -/
def unableToProcess : String := "unable-to-process"

/-- The label of a submission with a failed requirement. -/
def notVerifiable : String := "not-verifiable"

/-- The label of a submission without a failed requirement. -/
def documentsChecked : String := "release-documents-checked"

/-- The verdict on a submission for a release that is not published yet. -/
def notPublished (target : String) : Verdict :=
  ⟨"The release version " ++ target ++ " is unable to be processed at this time; " ++
      "Please wait as this version may become available soon.",
    [baseLabel, unableToProcess], .pending⟩

/-- Whether the release of a review lies at or past the latest one and has no manifest. A latest
    release that cannot be read is a finding. -/
def isUnpublished (b : Brief) : Except (Halt Finding) Bool :=
  if b.target.isEmpty || b.latest.isEmpty then .ok false
  else match Version.parse b.target with
    | .error _ => .ok false
    | .ok target => do
      let latest ← reporting (Version.parse b.latest)
      if target.lt latest then return false
      let published ← breaking (Manifest.isPublished b.disk b.metadata b.target)
      return !published

/-- The verdict on a record by its failed requirements: the labels that the run has given, that of
    the release and that of the outcome. -/
def ofRecord (target : String) (labels : List String) (r : RunRecord) : Verdict :=
  let failed := r.failures
  let release := if target.isEmpty then [] else ["release-" ++ target]
  let comment := renderComment r.descriptions.length failed
  if failed.isEmpty then ⟨comment, labels ++ release ++ [documentsChecked], .success⟩
  else ⟨comment, labels ++ release ++ [notVerifiable], .failure⟩

/-- The verdict on a run. -/
def ofRun (b : Brief) (labels : List String) (r : RunRecord) : Except (Halt Finding) Verdict := do
  if ← isUnpublished b then return notPublished b.target
  return ofRecord b.target labels r

/-- A verdict as data. -/
def toJson (v : Verdict) : Json :=
  .object [("comment", .text v.comment), ("labels", Json.texts v.labels),
    ("state", .text v.state.word)]

/-- The content hash of a verdict. -/
def hash (v : Verdict) : String :=
  Hash.contentHash v.toJson.canonical

end Verdict

end Assay
