import Assay.Review.Plan
import Assay.Review.Verdict
import Assay.Settings
import Assay.Submission.Document

/-!
# Reviews

A review runs the rules over a submission, comes to a verdict and plans the labels. It cannot be
held when the latest release or a rule script is not usable; what is wrong with the submission
itself shows in the verdict.

## Main definitions

* `Problem`: What can be reported instead of a review, with its wording.
* `Review`: A review that was held.
* `Review.hold`: The review of a submission with given scenarios and latest release.
* `Review.ofSubmission`: The review of a submission under some settings.
-/

namespace Assay

/-- What can be reported instead of a review. -/
inductive Problem
  | finding (f : Finding)
  | script (p : ScriptProblem)
  | document (p : DocumentProblem)

/-- The wording of a problem. -/
def Problem.message : Problem → String
  | finding f => f.message
  | script p => p.message
  | document p => p.message

/-- A review that was held. -/
structure Review where
  brief : Brief
  notes : Notes
  record : RunRecord
  verdict : Verdict
  plan : LabelPlan

namespace Review

/-- The labels that the verdict of a review leads to. -/
def planLabels (b : Brief) (n : Notes) (v : Verdict) : LabelPlan :=
  LabelPlan.make b.target n.missingFiles b.submission.labels v.labels

/-- The review that a brief asks for, with given scenarios. -/
def ofBrief (scenarios : List Scenario) (b : Brief) : Except (Halt Problem) Review := do
  let (record, notes) ← breaking (runAll b .start scenarios)
  let verdict ← reportingAs Problem.finding (Verdict.ofRun b notes.labels record)
  return ⟨b, notes, record, verdict, planLabels b notes verdict⟩

/-- The review of a submission with given scenarios and latest release. -/
def hold (d : Disk) (settings : Settings) (scenarios : List Scenario) (latest : String)
    (s : Submission) : Except (Halt Problem) Review :=
  ofBrief scenarios (.ofSubmission s d settings.metadata latest settings.lookback)

/-- The review of a submission under some settings. -/
def ofSubmission (d : Disk) (settings : Settings) (s : Submission) : Except (Halt Problem) Review := do
  let latest ← reportingAs Problem.finding (settings.latest d)
  let scenarios ← reportingAs Problem.script (settings.rules.load d)
  hold d settings scenarios latest s

/-- A review as data. -/
def toJson (r : Review) : Json :=
  .object [("number", .int r.brief.submission.number), ("title", .text r.brief.submission.title),
    ("release_version", .text r.brief.target), ("product_name", .text r.brief.submission.product),
    ("verdict", r.verdict.toJson), ("verdict_hash", .text r.verdict.hash),
    ("run_record_hash", .text r.record.hash), ("label_plan", r.plan.toJson)]

end Review

end Assay
