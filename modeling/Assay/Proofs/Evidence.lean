import Assay.Proofs.Halt
import Assay.Evidence.Outcome

/-!
# Evidence

What the report of a submission says of its tests. The outcomes that are reconciled with the
required tests are read off the test cases that count, and everything that is said of outcomes is
said here of those test cases: a test passed if its case has neither a failure nor an error in it.

A submission has one report at most, so what its report shows is never contradicted by another one.

## Main definitions

* `Evidence.Passes`: A test case that has neither a failure nor an error in it.
* `Submission.HoldsReport`: The report that a submission holds.
* `Submission.ShowsFailure`, `Submission.ShowsNoFailure`: Whether a test case that counts failed.

## Theorems

* `submitted_eq_ok_iff`: The outcomes of a submission are those of the cases that count.
* `showsNoFailure_iff`, `showsFailure_iff`: What outcomes show of the report they were read off.
* `not_showsFailure_of_showsNoFailure`: A report does not show both.
-/

namespace Assay

/-- A test case of a report that counts and passed. -/
def Evidence.Passes (case : Xml.Node) : Prop :=
  case.find? "failure" = none ∧ case.find? "error" = none

/-- The root of the report that a submission holds as evidence. -/
def Submission.HoldsReport (s : Submission) (root : Xml.Node) : Prop :=
  ∃ f, s.file? evidenceFileName = some f ∧ Xml.read f.contents = some root ∧
    root.name?.getD "" ∈ Evidence.rootNames

/-- A test case that counts failed. -/
def Submission.ShowsFailure (s : Submission) : Prop :=
  ∃ root, s.HoldsReport root ∧ ∃ case ∈ root.descendants "testcase",
    Evidence.counts case = true ∧ ¬ Evidence.Passes case

/-- There is a report, and no test case in it that counts failed. -/
def Submission.ShowsNoFailure (s : Submission) : Prop :=
  ∃ root, s.HoldsReport root ∧ ∀ case ∈ root.descendants "testcase",
    Evidence.counts case = true → Evidence.Passes case

/-! ## Reports -/

theorem holdsReport_unique {s : Submission} {root root' : Xml.Node} (h : s.HoldsReport root)
    (h' : s.HoldsReport root') : root' = root := by
  rcases h with ⟨f, hf, hread, -⟩
  rcases h' with ⟨f', hf', hread', -⟩
  rw [hf, Option.some.injEq] at hf'
  subst hf'
  rw [hread, Option.some.injEq] at hread'
  exact hread'.symm

/-- A report does not both show a failure and show none. -/
theorem not_showsFailure_of_showsNoFailure {s : Submission} (h : s.ShowsNoFailure) :
    ¬ s.ShowsFailure := by
  rintro ⟨root, hroot, case, hcase, hcounts, hfails⟩
  rcases h with ⟨root', hroot', hall⟩
  rw [holdsReport_unique hroot hroot'] at hall
  exact hfails (hall case hcase hcounts)

/-! ## Outcomes -/

theorem outcome_name (case : Xml.Node) :
    (Evidence.outcome case).name = normalizeName (Evidence.rawName case) := by
  simp only [Evidence.outcome]

theorem outcome_passed_iff {case : Xml.Node} :
    (Evidence.outcome case).passed = true ↔ Evidence.Passes case := by
  unfold Outcome.passed Evidence.outcome Evidence.failure? Evidence.Passes
  cases hf : case.find? "failure" with
  | some n => simp only [Option.isNone_some, Bool.false_eq_true, reduceCtorEq, false_and]
  | none =>
      cases he : case.find? "error" with
      | some n => simp only [Option.map_some, Option.isNone_some, Bool.false_eq_true, reduceCtorEq,
          and_false]
      | none => simp only [Option.map_none, Option.isNone_none, and_self]

/-- The outcomes of a submission are those of the test cases of its report that count. -/
theorem submitted_eq_ok_iff {s : Submission} {outcomes : List Outcome} :
    Evidence.submitted s = .ok outcomes ↔ ∃ root, s.HoldsReport root ∧
      outcomes = ((root.descendants "testcase").filter Evidence.counts).map Evidence.outcome := by
  unfold Evidence.submitted Submission.HoldsReport
  cases hf : s.file? evidenceFileName with
  | none => simp only [reduceCtorEq, false_and, exists_false]
  | some f =>
      unfold Evidence.outcomes
      cases hr : Xml.read f.contents with
      | none => simp [hr]
      | some root =>
          by_cases hn : root.name?.getD "" ∈ Evidence.rootNames
          · simp [hr, hn, eq_comm]
          · simp [hr, hn]

/-- The outcomes of a report all passed where it shows no failure. -/
theorem showsNoFailure_iff {s : Submission} {outcomes : List Outcome}
    (h : Evidence.submitted s = .ok outcomes) :
    s.ShowsNoFailure ↔ ∀ o ∈ outcomes, o.passed = true := by
  rcases submitted_eq_ok_iff.mp h with ⟨root, hroot, rfl⟩
  simp only [List.forall_mem_map, List.mem_filter, and_imp, outcome_passed_iff]
  constructor
  · rintro ⟨root', hroot', hall⟩
    rwa [holdsReport_unique hroot hroot'] at hall
  · intro hall
    exact ⟨root, hroot, hall⟩

/-- Some outcome of a report did not pass where it shows a failure. -/
theorem showsFailure_iff {s : Submission} {outcomes : List Outcome}
    (h : Evidence.submitted s = .ok outcomes) :
    s.ShowsFailure ↔ ¬ ∀ o ∈ outcomes, o.passed = true := by
  rw [← showsNoFailure_iff h]
  constructor
  · intro hfailure hnone
    exact not_showsFailure_of_showsNoFailure hnone hfailure
  · intro hnone
    rcases submitted_eq_ok_iff.mp h with ⟨root, hroot, -⟩
    by_contra hfailure
    refine hnone ⟨root, hroot, fun case hcase hcounts => ?_⟩
    by_contra hfails
    exact hfailure ⟨root, hroot, case, hcase, hcounts, hfails⟩

end Assay
