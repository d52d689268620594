import Assay.Proofs.List
import Assay.Proofs.Notes
import Assay.Proofs.Reconciliation
import Assay.Proofs.Review

/-!
# Reports by their results

Two steps read the report of a submission. What they find goes by its results, which are the names of
the tests, each with whether a test of that name passed or failed. A report may hold a result any
number of times, in any order and with any account of what went wrong; and where a test was tried
more than once, it may hold both results of one name.

The two steps do not take the two results of a name against each other. A name fails where some test
of it failed, and a required name is there where some test of it passed. Both are membership in the
set of results, so a report with more results has more names that fail and leaves fewer names missing
(`failingNames_subset`, `passedNames_subset`). The names are then listed in order, and that there is
one way to do so (`Lists.unique`) is what makes the wording and the labels the same as well.

## Main definitions

* `results`: The results of some tests.
* `Brief.about`: A brief with another submission.
* `Check.ReadsReport`: The checks that read the report.
* `Answer.tests`, `Check.tests`: The tests that an answer finds wrong.

## Theorems

* `failingNames_congr`, `passedNames_congr`: The names depend on the set of the results only.
* `tests_testsPass`, `tests_testsComplete`: What the two checks find wrong in a report.
* `testsPass_subset`, `testsComplete_subset`: With more results they find more and fewer tests wrong.
* `reports_by_results`: The steps on the report see the set of its results, and more of them show more
  failing tests and leave fewer missing.
-/

namespace Assay

/-! ## Results -/

/-- The results of some tests: their names, each with whether the test passed. -/
def results (outcomes : List Outcome) : List (String × Bool) :=
  outcomes.map fun o => (o.name, o.passed)

theorem mem_results_iff {outcomes : List Outcome} {name : String} {passed : Bool} :
    (name, passed) ∈ results outcomes ↔ ∃ o ∈ outcomes, o.passed = passed ∧ o.name = name := by
  simp only [results, List.mem_map, Prod.mk.injEq]
  exact exists_congr fun o => and_congr_right fun _ => and_comm

theorem mem_passedNames_iff_mem_results {outcomes : List Outcome} {name : String} :
    name ∈ passedNames outcomes ↔ (name, true) ∈ results outcomes := by
  rw [mem_results_iff, passedNames, List.mem_map]
  refine exists_congr fun o => ?_
  rw [List.mem_filter, and_assoc]

/-! ## Names in order, each once -/

theorem Lists.congr {names : List String} {kind kind' : String → Prop} (h : Lists names kind)
    (hkind : ∀ name, kind name ↔ kind' name) : Lists names kind' where
  mem_iff := fun name => (h.mem_iff name).trans (hkind name)
  ascending := h.ascending

theorem lists_sortedNames (names : List String) : Lists (Check.sortedNames names) (· ∈ names) :=
  (lists_mergeSort (nodup_eraseDups names)).congr fun _ => List.mem_eraseDups

/-- The failing names are those of which some test failed, in order. -/
theorem lists_failingNames (outcomes : List Outcome) :
    Lists (Check.failingNames outcomes) fun name => (name, false) ∈ results outcomes := by
  refine (lists_sortedNames _).congr fun name => ?_
  rw [mem_results_iff, List.mem_map]
  refine exists_congr fun o => ?_
  rw [List.mem_filter, and_assoc, Bool.not_eq_true']

section Results

variable {outcomes outcomes' : List Outcome}

/-- With more results more names fail. -/
theorem failingNames_subset (h : results outcomes ⊆ results outcomes') :
    Check.failingNames outcomes ⊆ Check.failingNames outcomes' := by
  intro name hname
  rw [(lists_failingNames _).mem_iff] at hname ⊢
  exact h hname

/-- With more results more names pass. -/
theorem passedNames_subset (h : results outcomes ⊆ results outcomes') :
    passedNames outcomes ⊆ passedNames outcomes' := by
  intro name hname
  rw [mem_passedNames_iff_mem_results] at hname ⊢
  exact h hname

theorem failingNames_congr (h : ∀ result, result ∈ results outcomes ↔ result ∈ results outcomes') :
    Check.failingNames outcomes = Check.failingNames outcomes' :=
  (lists_failingNames outcomes).unique
    ((lists_failingNames outcomes').congr fun name => (h (name, false)).symm)

theorem passedNames_congr (h : ∀ result, result ∈ results outcomes ↔ result ∈ results outcomes')
    (name : String) : name ∈ passedNames outcomes ↔ name ∈ passedNames outcomes' := by
  rw [mem_passedNames_iff_mem_results, mem_passedNames_iff_mem_results, h]

end Results

/-! ## The two checks -/

/-- A brief with another submission, of which its release and its metadata are not asked. Two briefs
    that differ in nothing but the contents of a report are the same brief about two submissions. -/
def Brief.about (b : Brief) (s : Submission) : Brief :=
  { b with submission := s }

/-- The checks that read the report. -/
def Check.ReadsReport (c : Check) : Prop :=
  c = .testsPass ∨ c = .testsComplete

/-- The tests that an answer finds wrong: those that fail, or those that are missing. -/
def Answer.tests : Answer → List String
  | .failed (.failingTests names) => names
  | .failed (.missingTests names) => names
  | _ => []

/-- The tests that a check finds wrong. -/
def Check.tests (c : Check) (b : Brief) (n : Notes) : Except Fault (List String) :=
  (fun p => p.1.tests) <$> c.answer b n

section Checks

variable {b : Brief} {n : Notes} {s s' : Submission} {outcomes outcomes' : List Outcome}

/-- The missing tests are those of the release that no passing test of the report answers. -/
theorem missingTests_about (h : Evidence.submitted s = .ok outcomes) :
    Check.missingTests (b.about s) = (fun required => (required.reconcile outcomes).missing) <$>
      Requirement.resolve b.disk b.metadata b.target := by
  unfold Check.missingTests Brief.about
  rw [h]
  cases Requirement.resolve b.disk b.metadata b.target <;> rfl

/-- The first check goes by the names that fail. -/
theorem answerTestsPass_about (h : Evidence.submitted s = .ok outcomes) :
    Check.answerTestsPass (b.about s) n =
      if b.target.isEmpty then (.notApplicable, n)
      else if (Check.failingNames outcomes).isEmpty then
        (.passed, n.label ("no-failed-tests-" ++ b.target))
      else (.failed (.failingTests (Check.failingNames outcomes)), n.label "evidence-missing") := by
  unfold Check.answerTestsPass Brief.about
  rw [h]

/-- The second check goes by the names that are missing. -/
theorem answerTestsComplete_congr {b b' : Brief} (htarget : b.target = b'.target)
    (hmissing : Check.missingTests b = Check.missingTests b') :
    Check.answerTestsComplete b n = Check.answerTestsComplete b' n := by
  unfold Check.answerTestsComplete
  rw [htarget, hmissing]

/-- The answers to the two checks are the same where the sets of results are. -/
theorem answer_about_congr (h : Evidence.submitted s = .ok outcomes)
    (h' : Evidence.submitted s' = .ok outcomes')
    (hsame : ∀ result, result ∈ results outcomes ↔ result ∈ results outcomes') {c : Check}
    (hc : c.ReadsReport) : c.answer (b.about s) n = c.answer (b.about s') n := by
  rcases hc with rfl | rfl
  · change Except.ok (Check.answerTestsPass (b.about s) n) = .ok (Check.answerTestsPass (b.about s') n)
    rw [answerTestsPass_about h, answerTestsPass_about h', failingNames_congr hsame]
  · -- The required tests are read off the metadata, so only what is made of them is in question.
    have hreconcile (required : RequirementSet) :
        required.reconcile outcomes = required.reconcile outcomes' :=
      required.reconcile_congr (passedNames_congr hsame)
    have hmissing : Check.missingTests (b.about s) = Check.missingTests (b.about s') := by
      rw [missingTests_about h, missingTests_about h']
      simp only [hreconcile]
    exact answerTestsComplete_congr rfl hmissing

/-- An answer that fails where there are names, with these, finds just these wrong. -/
theorem tests_ite {find : List String → Finding}
    (hfind : ∀ names, (Answer.failed (find names)).tests = names) (names : List String)
    (passing failing : Notes) :
    (if names.isEmpty then (Answer.passed, passing) else (.failed (find names), failing)).1.tests =
      names := by
  by_cases hnone : names.isEmpty
  · rw [if_pos hnone, List.isEmpty_iff.mp hnone]
    rfl
  · rw [if_neg hnone, hfind]

/-- What the first check finds wrong in a report. -/
theorem tests_testsPass (h : Evidence.submitted s = .ok outcomes) :
    Check.testsPass.tests (b.about s) n =
      .ok (if b.target.isEmpty then [] else Check.failingNames outcomes) := by
  change Except.ok (Check.answerTestsPass (b.about s) n).1.tests = _
  rw [answerTestsPass_about h]
  by_cases hempty : b.target.isEmpty
  · rw [if_pos hempty, if_pos hempty]
    rfl
  · rw [if_neg hempty, if_neg hempty]
    exact congrArg Except.ok (tests_ite (fun _ => rfl) _ _ _)

/-- What the second check finds wrong in a report, where the release is shown. -/
theorem tests_testsComplete (h : Evidence.submitted s = .ok outcomes) (hrelease : ¬ b.target.isEmpty) :
    Check.testsComplete.tests (b.about s) n =
      match Requirement.resolve b.disk b.metadata b.target with
      | .error (.fault f) => .error f
      | .error (.report f) => .ok (Answer.failed f).tests
      | .ok required => .ok (required.reconcile outcomes).missing := by
  have hmissing : Check.missingTests (b.about s) = _ := missingTests_about h
  have htarget : (b.about s).target = b.target := rfl
  change (fun p : Answer × Notes => p.1.tests) <$> Check.answerTestsComplete (b.about s) n = _
  unfold Check.answerTestsComplete
  rw [hmissing, htarget, if_neg hrelease]
  -- Without the required tests the check has a finding or breaks off, and names no tests.
  rcases Requirement.resolve b.disk b.metadata b.target with (f | f) | required
  · rfl
  · rfl
  · change (fun p : Answer × Notes => p.1.tests) <$>
      (if (required.reconcile outcomes).missing.isEmpty then Except.ok _ else .ok _) = .ok _
    rw [← apply_ite Except.ok]
    exact congrArg Except.ok (tests_ite (fun _ => rfl) _ _ _)

theorem tests_testsComplete_of_no_release (hrelease : b.target.isEmpty) :
    Check.testsComplete.tests (b.about s) n = .ok [] := by
  have hempty : (b.about s).target.isEmpty := hrelease
  change (fun p : Answer × Notes => p.1.tests) <$> Check.answerTestsComplete (b.about s) n = _
  unfold Check.answerTestsComplete
  rw [if_pos hempty]
  rfl

/-- With more results the first check finds more tests wrong. -/
theorem testsPass_subset (h : Evidence.submitted s = .ok outcomes)
    (h' : Evidence.submitted s' = .ok outcomes') (hmore : results outcomes ⊆ results outcomes') :
    ∃ names names', Check.testsPass.tests (b.about s) n = .ok names ∧
      Check.testsPass.tests (b.about s') n = .ok names' ∧ names ⊆ names' := by
  refine ⟨_, _, tests_testsPass h, tests_testsPass h', ?_⟩
  by_cases hempty : b.target.isEmpty
  · rw [if_pos hempty, if_pos hempty]
    exact List.Subset.refl _
  · rw [if_neg hempty, if_neg hempty]
    exact failingNames_subset hmore

/-- With more results the second check finds fewer tests wrong. The metadata on which it can break off
    are the same for both reports. -/
theorem testsComplete_subset (h : Evidence.submitted s = .ok outcomes)
    (h' : Evidence.submitted s' = .ok outcomes') (hmore : results outcomes ⊆ results outcomes') :
    (∃ f, Check.testsComplete.tests (b.about s) n = .error f ∧
        Check.testsComplete.tests (b.about s') n = .error f) ∨
      ∃ names names', Check.testsComplete.tests (b.about s) n = .ok names ∧
        Check.testsComplete.tests (b.about s') n = .ok names' ∧ names' ⊆ names := by
  by_cases hempty : b.target.isEmpty
  · have hnone (s : Submission) : Check.testsComplete.tests (b.about s) n = .ok [] :=
      tests_testsComplete_of_no_release hempty
    exact Or.inr ⟨[], [], hnone s, hnone s', List.Subset.refl _⟩
  · rw [tests_testsComplete h hempty, tests_testsComplete h' hempty]
    -- Where there are no required tests to be had, both answers are the one to that.
    rcases Requirement.resolve b.disk b.metadata b.target with (f | f) | required
    · exact Or.inr ⟨_, _, rfl, rfl, List.Subset.refl _⟩
    · exact Or.inl ⟨f, rfl, rfl⟩
    · have hmissing : (required.reconcile outcomes').missing ⊆ (required.reconcile outcomes).missing :=
        required.missing_reconcile_subset (passedNames_subset hmore)
      exact Or.inr ⟨_, _, rfl, rfl, hmissing⟩

end Checks

/-- The two steps on the report see the set of its results. Two reports with the same set, in whatever
    order and however often, have the same status and wording and the same labels. Where all results of
    one are among those of the other, its failing names are among those of the other too, and the
    missing names of the other are among its own; and the two steps find just these names. -/
theorem reports_by_results (b : Brief) (n : Notes) {s s' : Submission}
    {outcomes outcomes' : List Outcome} (h : Evidence.submitted s = .ok outcomes)
    (h' : Evidence.submitted s' = .ok outcomes') :
    ((∀ result, result ∈ results outcomes ↔ result ∈ results outcomes') →
        ∀ step : Step, step.check.ReadsReport → step.run (b.about s) n = step.run (b.about s') n) ∧
      (results outcomes ⊆ results outcomes' →
        Check.failingNames outcomes ⊆ Check.failingNames outcomes' ∧
          (∀ required : RequirementSet,
            (required.reconcile outcomes').missing ⊆ (required.reconcile outcomes).missing) ∧
          (∃ names names', Check.testsPass.tests (b.about s) n = .ok names ∧
            Check.testsPass.tests (b.about s') n = .ok names' ∧ names ⊆ names') ∧
          ((∃ f, Check.testsComplete.tests (b.about s) n = .error f ∧
              Check.testsComplete.tests (b.about s') n = .error f) ∨
            ∃ names names', Check.testsComplete.tests (b.about s) n = .ok names ∧
              Check.testsComplete.tests (b.about s') n = .ok names' ∧ names' ⊆ names)) := by
  constructor
  · intro hsame step hreads
    unfold Step.run
    rw [answer_about_congr h h' hsame hreads]
  · intro hmore
    have hpassed : passedNames outcomes ⊆ passedNames outcomes' := passedNames_subset hmore
    exact ⟨failingNames_subset hmore, fun required => required.missing_reconcile_subset hpassed,
      testsPass_subset h h' hmore, testsComplete_subset h h' hmore⟩

/-- A submission of a report alone. -/
def Submission.ofCases (cases : String) : Submission :=
  { Submission.blank with
    files := [⟨"v1.30/p/junit_01.xml", "<testsuite>" ++ cases ++ "</testsuite>", none⟩] }

/-- A report of a test that passed. -/
def Submission.passedOnce : Submission :=
  .ofCases "<testcase name='[Conformance]'/>"

/-- A report of a test that failed and then passed. -/
def Submission.retried : Submission :=
  .ofCases "<testcase name='[Conformance]'><failure/></testcase><testcase name='[Conformance]'/>"

/-- The same in another order, with a result given twice and another account of the failure. -/
def Submission.reordered : Submission :=
  .ofCases ("<testcase name='[Conformance]'/>" ++
    "<testcase name='[Conformance]'><error message='m'/></testcase><testcase name='[Conformance]'/>")

theorem passedOnce_results : (Evidence.submitted .passedOnce).toOption.map results =
    some [("[Conformance]", true)] := by
  decide +kernel

theorem retried_results : (Evidence.submitted .retried).toOption.map results =
    some [("[Conformance]", false), ("[Conformance]", true)] := by
  decide +kernel

theorem reordered_results : (Evidence.submitted .reordered).toOption.map results =
    some [("[Conformance]", true), ("[Conformance]", false), ("[Conformance]", true)] := by
  decide +kernel

/-- A brief for a release that is shown and requires a test. -/
def Brief.ofOneTest : Brief :=
  Review.briefOf .ofOneTest (.given "v1.30") "v1.30" .retried

theorem reports_by_results_of_retried :
    (∃ outcomes outcomes', Evidence.submitted .retried = .ok outcomes ∧
      Evidence.submitted .reordered = .ok outcomes' ∧
      (∀ result, result ∈ results outcomes ↔ result ∈ results outcomes') ∧
      ∀ step : Step, step.check.ReadsReport →
        step.run (Brief.ofOneTest.about .retried) .start =
          step.run (Brief.ofOneTest.about .reordered) .start) ∧
      ∃ outcomes outcomes', Evidence.submitted .passedOnce = .ok outcomes ∧
        Evidence.submitted .retried = .ok outcomes' ∧ results outcomes ⊆ results outcomes' ∧
        Check.failingNames outcomes ⊆ Check.failingNames outcomes' := by
  rcases exists_of_map_toOption passedOnce_results with ⟨once, honce, hresults⟩
  rcases exists_of_map_toOption retried_results with ⟨outcomes, hretried, hresults'⟩
  rcases exists_of_map_toOption reordered_results with ⟨outcomes', hreordered, hresults''⟩
  have hsame (result : String × Bool) : result ∈ results outcomes ↔ result ∈ results outcomes' := by
    rw [hresults', hresults'']
    -- The two differ in their order and in one result that the second has twice.
    simp only [List.mem_cons, List.not_mem_nil, or_false]
    grind
  have hmore : results once ⊆ results outcomes := by
    rw [hresults, hresults']
    exact List.subset_cons_self _ _
  exact ⟨⟨outcomes, outcomes', hretried, hreordered, hsame,
    (reports_by_results .ofOneTest .start hretried hreordered).1 hsame⟩,
    once, outcomes, honce, hretried, hmore,
    ((reports_by_results .ofOneTest .start honce hretried).2 hmore).1⟩

end Assay
