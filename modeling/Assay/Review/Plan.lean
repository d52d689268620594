import Assay.Json.Basic
import Assay.Review.Brief

/-!
# Label plans

A verdict's labels replace those that earlier reviews have put on the submission, and leave all
others alone. The labels that a review manages are a fixed set, those that name the release, and
those that name a file the review has missed.

## Main definitions

* `isManaged`: Whether a review manages a label.
* `LabelPlan`: The labels to put on and to take off.
* `LabelPlan.make`: The plan that leads from some labels to those of a verdict.
-/

namespace Assay

/-- The managed labels that name nothing. -/
def managedLabels : List String :=
  [baseLabel, "not-verifiable", "release-documents-checked", "required-tests-missing",
    "evidence-missing", "unable-to-process"]

/-- How the managed labels begin that name a release. -/
def releaseLabels : List String := ["release-", "no-failed-tests-", "tests-verified-"]

/-- Whether a review manages a label, given its release and the files that it missed. -/
def isManaged (release : String) (missingFiles : List String) (label : String) : Bool :=
  managedLabels.contains label ||
    (!release.isEmpty && releaseLabels.any fun start => start ++ release == label) ||
    missingFiles.any fun file => "missing-file-" ++ file == label

/-- The labels to put on a submission and to take off it. -/
structure LabelPlan where
  add : List String
  remove : List String
  deriving DecidableEq, Repr

namespace LabelPlan

/-- The managed labels of one list that another does not hold, each once. -/
def difference (managed : String → Bool) (labels others : List String) : List String :=
  (labels.filter fun label => managed label && !others.contains label).eraseDups

/-- The plan that leads from some labels to those of a verdict. -/
def make (release : String) (missingFiles current wanted : List String) : LabelPlan :=
  let managed := isManaged release missingFiles
  ⟨difference managed wanted current, difference managed current wanted⟩

/-- Whether a plan changes nothing. -/
def isEmpty (p : LabelPlan) : Bool :=
  p.add.isEmpty && p.remove.isEmpty

/-- A plan as data. -/
def toJson (p : LabelPlan) : Json :=
  .object [("add", Json.texts p.add), ("remove", Json.texts p.remove)]

end LabelPlan

end Assay
