import Assay.Proofs.Notes
import Assay.Proofs.Review

/-!
# Labels that tell the truth

What the labels of a run say is so, whatever scenarios were run and however often a step came up in
them. A label of a missed file names a file that is not there, a label on the tests says what the
report shows, and a label that names a release names the release of the submission. Two labels that
say the opposite of each other are never given by the same run, though one step gives either of
them: which one it gives is up to the submission, and the submission does not change.

The marks of a run carry the proof. A label that is asked for is the label of one mark only, so the
mark is among those that the notes bear, and those are true.

## Main definitions

* `namesMissedFile`: A label begins as those of missed files do.
* `Notes.Truthful`: What the labels of some notes say is so.

## Theorems

* `Bears.truthful`: Notes that bear marks are truthful.
* `labels_truthful`: The notes of a run are truthful.
-/

namespace Assay

/-- A label begins as those of missed files do. -/
def namesMissedFile (label : String) : Bool :=
  "missing-file-".toList.isPrefixOf label.toList

/-- What the labels of some notes say is so. -/
structure Notes.Truthful (b : Brief) (n : Notes) : Prop where
  /-- The labels of missed files are those of the files that were missed, one for each. -/
  missed : n.labels.filter namesMissedFile = n.missingFiles.map ("missing-file-" ++ ·)
  /-- The files that were missed are not there. -/
  absent : ∀ file ∈ n.missingFiles, b.submission.file? file = none
  /-- A test that counts failed. -/
  failing : "evidence-missing" ∈ n.labels → b.submission.ShowsFailure
  /-- No test that counts failed, and the release is the one that is named. -/
  passing : ∀ release, "no-failed-tests-" ++ release ∈ n.labels →
    release = b.target ∧ b.submission.ShowsNoFailure
  /-- Some required test is left unsatisfied. -/
  lacking : "required-tests-missing" ∈ n.labels → ∃ missing, b.LeavesMissing missing ∧ missing ≠ []
  /-- No required test is left unsatisfied, and the release is the one that is named. -/
  complete : ∀ release, "tests-verified-" ++ release ∈ n.labels →
    release = b.target ∧ b.LeavesMissing []
  /-- There is the base label, and after it there are no other labels than these. -/
  known : ∃ given, n.labels = baseLabel :: given ∧ ∀ label ∈ given,
    (∃ file ∈ n.missingFiles, label = "missing-file-" ++ file) ∨
      label ∈ ["evidence-missing", "no-failed-tests-" ++ b.target, "required-tests-missing",
        "tests-verified-" ++ b.target]
  /-- The tests did not both fail and pass. -/
  failing_or_passing : "evidence-missing" ∈ n.labels →
    ∀ release, "no-failed-tests-" ++ release ∉ n.labels
  /-- The required tests are not both missing and complete. -/
  lacking_or_complete : "required-tests-missing" ∈ n.labels →
    ∀ release, "tests-verified-" ++ release ∉ n.labels

namespace Mark

/-- Of the labels of some marks those of missed files are the labels of the files they name. -/
theorem filter_namesMissedFile (marks : List Mark) :
    (marks.map label).filter namesMissedFile =
      (marks.filterMap file?).map ("missing-file-" ++ ·) := by
  induction marks with
  | nil => rfl
  | cons m rest ih =>
      cases m with
      | missed file =>
          -- The beginning tells the label of a missed file from every other label, whatever names are in
          -- them.
          have hnames : namesMissedFile ("missing-file-" ++ file) = true := by
            simp [namesMissedFile]
          simp only [List.map_cons, label_missed, List.filter_cons_of_pos hnames, ih,
            List.filterMap_cons, file?]
      | failing => exact ih
      | lacking => exact ih
      | passing release =>
          have hnames : ¬ namesMissedFile ("no-failed-tests-" ++ release) = true := by
            simp [namesMissedFile, List.isPrefixOf]
          simpa only [List.map_cons, label_passing, List.filter_cons_of_neg hnames,
            List.filterMap_cons, file?] using ih
      | complete release =>
          have hnames : ¬ namesMissedFile ("tests-verified-" ++ release) = true := by
            simp [namesMissedFile, List.isPrefixOf]
          simpa only [List.map_cons, label_complete, List.filter_cons_of_neg hnames,
            List.filterMap_cons, file?] using ih

end Mark

namespace Notes

variable {b : Brief} {n : Notes} {marks : List Mark}

/-- A label of a mark is on the submission only where the mark is true. -/
theorem Bears.holds_of_label (h : n.Bears b marks) {m : Mark} (hm : m.label ∈ n.labels) :
    m.Holds b :=
  h.holds m (h.label_mem_iff.mp hm)

/-- The label of a mark that is borne names a missed file, or it is one of those of the release. -/
theorem Bears.label_cases (h : n.Bears b marks) {m : Mark} (hm : m ∈ marks) :
    (∃ file ∈ n.missingFiles, m.label = "missing-file-" ++ file) ∨
      m.label ∈ ["evidence-missing", "no-failed-tests-" ++ b.target, "required-tests-missing",
        "tests-verified-" ++ b.target] := by
  have hholds := h.holds m hm
  cases m with
  | missed file => exact Or.inl ⟨file, h.file_mem_iff.mpr hm, rfl⟩
  | failing => exact Or.inr List.mem_cons_self
  | passing release =>
      rw [hholds.1]
      exact Or.inr (List.mem_cons_of_mem _ List.mem_cons_self)
  | lacking => exact Or.inr (List.mem_cons_of_mem _ (List.mem_cons_of_mem _ List.mem_cons_self))
  | complete release =>
      rw [hholds.1]
      exact Or.inr (by simp)

/-- Notes that bear marks are truthful. -/
theorem Bears.truthful (h : n.Bears b marks) : n.Truthful b := by
  have hfailing : "evidence-missing" ∈ n.labels → b.submission.ShowsFailure :=
    fun hlabel => h.holds_of_label (m := .failing) hlabel
  have hpassing : ∀ release, "no-failed-tests-" ++ release ∈ n.labels →
      release = b.target ∧ b.submission.ShowsNoFailure := by
    intro release hlabel
    rcases h.holds_of_label (m := .passing release) hlabel with ⟨hrelease, -, hnone⟩
    exact ⟨hrelease, hnone⟩
  have hlacking : "required-tests-missing" ∈ n.labels →
      ∃ missing, b.LeavesMissing missing ∧ missing ≠ [] :=
    fun hlabel => h.holds_of_label (m := .lacking) hlabel
  have hcomplete : ∀ release, "tests-verified-" ++ release ∈ n.labels →
      release = b.target ∧ b.LeavesMissing [] := by
    intro release hlabel
    rcases h.holds_of_label (m := .complete release) hlabel with ⟨hrelease, -, hnone⟩
    exact ⟨hrelease, hnone⟩
  exact {
    missed := by
      -- The base label names no file, so only the marks are left to look at.
      have hbase : ¬ namesMissedFile baseLabel = true := by decide
      rw [h.labels, h.missingFiles, List.filter_cons_of_neg hbase, Mark.filter_namesMissedFile]
    absent := fun file hfile => h.holds (.missed file) (h.file_mem_iff.mp hfile)
    failing := hfailing
    passing := hpassing
    lacking := hlacking
    complete := hcomplete
    known := ⟨marks.map Mark.label, h.labels, List.forall_mem_map.mpr fun _ hm => h.label_cases hm⟩
    failing_or_passing := fun hlabel release hother =>
      not_showsFailure_of_showsNoFailure (hpassing release hother).2 (hfailing hlabel)
    lacking_or_complete := by
      intro hlabel release hother
      rcases hlacking hlabel with ⟨missing, hmissing, hne⟩
      exact hne (leavesMissing_unique (hcomplete release hother).2 hmissing) }

end Notes

/-- The notes of a run are truthful, whatever scenarios it is a run of. -/
theorem labels_truthful {b : Brief} {scenarios : List Scenario} {record : RunRecord} {n : Notes}
    (h : runAll b .start scenarios = .ok (record, n)) : n.Truthful b := by
  rcases Notes.exists_bears_of_runAll h with ⟨marks, hmarks⟩
  exact hmarks.truthful

/-- A submission of a report alone, with a failed test in it. -/
def Submission.failing : Submission :=
  { Submission.blank with
    files := [⟨"v1.30/p/junit_01.xml",
      "<testsuite><testcase name='[Conformance]'><failure/></testcase></testsuite>", none⟩] }

theorem failing_labels : ((runAll
    (Review.briefOf .ofOneTest (Settings.given "v1.30") "v1.30" .failing) .start
      Packaged.compiled).toOption.map fun result => result.2.labels) =
    some [baseLabel, "missing-file-README.md", "missing-file-PRODUCT.yaml", "missing-file-e2e.log",
      "evidence-missing", "required-tests-missing"] := by
  decide +kernel

theorem labels_truthful_of_failing : ∃ record n,
    runAll (Review.briefOf .ofOneTest (Settings.given "v1.30") "v1.30" .failing) .start
      Packaged.compiled = .ok (record, n) ∧
    "evidence-missing" ∈ n.labels ∧ "required-tests-missing" ∈ n.labels ∧
      n.Truthful (Review.briefOf .ofOneTest (Settings.given "v1.30") "v1.30" .failing) := by
  have hlabels := failing_labels
  rcases hrun : runAll (Review.briefOf .ofOneTest (Settings.given "v1.30") "v1.30" .failing) .start
      Packaged.compiled with f | ⟨record, n⟩
  · rw [hrun] at hlabels
    cases hlabels
  · rw [hrun] at hlabels
    have heq : n.labels = _ := Option.some.inj hlabels
    refine ⟨record, n, rfl, ?_, ?_, labels_truthful hrun⟩
    · rw [heq]
      decide
    · rw [heq]
      decide

end Assay
