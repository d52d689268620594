import Assay.Proofs.Labels
import Assay.Proofs.Notes
import Assay.Proofs.Placement

/-!
# Labels that are managed

A plan passes over every label that its review does not manage, so a label of the verdict comes to
the submission only where it is a managed one. The labels are given in one place and the managed
ones are listed in another. What joins the two is that the labels of a run are those of true marks:
a mark names a file that the run has missed, or the release that it was held for, or nothing.

Of the three labels that tell the outcome a verdict has the one of its state. No mark has any of
them, and the label of the release is none either, though `release-documents-checked` begins like
one: a release begins with a `v`.

## Main definitions

* `VerdictState.label`, `outcomeLabels`: The label of an outcome, and of all of them.
* `Review.LabelsExclusive`: What the labels of a review come to on its submission.

## Theorems

* `Mark.isManaged_label_iff`: The marks whose labels are managed.
* `Bears.isManaged`: The labels of a run are managed.
* `review_labels_exclusive`: The labels of a review are managed, and one tells the outcome.
-/

namespace Assay

/-- The label of a verdict with a state. -/
def VerdictState.label : VerdictState → String
  | success => Verdict.documentsChecked
  | failure => Verdict.notVerifiable
  | pending => Verdict.unableToProcess

/-- The labels that tell the outcome of a review. -/
def outcomeLabels : List String :=
  [Verdict.notVerifiable, Verdict.documentsChecked, Verdict.unableToProcess]

theorem VerdictState.label_mem (state : VerdictState) : state.label ∈ outcomeLabels := by
  cases state <;> decide

/-! ## Managed labels -/

theorem isManaged_iff {release : String} {missingFiles : List String} {label : String} :
    isManaged release missingFiles label = true ↔ label ∈ managedLabels ∨
      (release ≠ "" ∧ ∃ start ∈ releaseLabels, start ++ release = label) ∨
        ∃ file ∈ missingFiles, "missing-file-" ++ file = label := by
  simp only [isManaged, Bool.or_eq_true, Bool.and_eq_true, Bool.not_eq_true', List.any_eq_true,
    List.contains_iff_mem, beq_iff_eq, ← Bool.not_eq_true, String.isEmpty_iff, or_assoc, ne_eq]

theorem isManaged_of_mem {label : String} (h : label ∈ managedLabels) (release : String)
    (missingFiles : List String) : isManaged release missingFiles label = true :=
  isManaged_iff.mpr (Or.inl h)

theorem mem_managedLabels_iff {label : String} : label ∈ managedLabels ↔ label = baseLabel ∨
    label ∈ outcomeLabels ∨ label = "required-tests-missing" ∨ label = "evidence-missing" := by
  simp only [managedLabels, outcomeLabels, Verdict.notVerifiable, Verdict.documentsChecked,
    Verdict.unableToProcess, List.mem_cons, List.not_mem_nil, or_false]
  tauto

namespace Mark

theorem label_not_mem_outcomeLabels (m : Mark) : m.label ∉ outcomeLabels := by
  intro h
  simp only [outcomeLabels, List.mem_cons, List.not_mem_nil, or_false] at h
  rcases h with h | h | h
  all_goals
    replace h := congrArg String.toList h
    cases m <;> simp [Verdict.notVerifiable, Verdict.documentsChecked, Verdict.unableToProcess] at h

theorem label_ne_release (m : Mark) (release : String) : "release-" ++ release ≠ m.label := by
  intro h
  replace h := congrArg String.toList h
  cases m <;> simp at h

/-- The marks whose labels are managed: those that name nothing, those that name the release, and
    those that name a file that was missed. -/
theorem isManaged_label_iff {release : String} {missingFiles : List String} {m : Mark} :
    isManaged release missingFiles m.label = true ↔ (m = lacking ∨ m = failing) ∨
      (release ≠ "" ∧ (m = passing release ∨ m = complete release)) ∨
        ∃ file ∈ missingFiles, m = missed file := by
  -- Each way to be managed comes down to the marks that have such a label.
  have hfixed : m.label ∈ managedLabels ↔ m = lacking ∨ m = failing := by
    rw [mem_managedLabels_iff, or_iff_right m.label_ne_baseLabel,
      or_iff_right m.label_not_mem_outcomeLabels]
    exact or_congr (label_injective.eq_iff (b := lacking)) (label_injective.eq_iff (b := failing))
  have hrelease : (∃ start ∈ releaseLabels, start ++ release = m.label) ↔
      m = passing release ∨ m = complete release := by
    simp only [releaseLabels, List.mem_cons, List.not_mem_nil, or_false, exists_eq_or_imp,
      exists_eq_left, m.label_ne_release, false_or]
    rw [eq_comm (b := m.label), eq_comm (b := m.label)]
    exact or_congr (label_injective.eq_iff (b := passing release))
      (label_injective.eq_iff (b := complete release))
  have hfile : (∃ file ∈ missingFiles, "missing-file-" ++ file = m.label) ↔
      ∃ file ∈ missingFiles, m = missed file := by
    refine exists_congr fun file => and_congr_right fun _ => ?_
    rw [eq_comm]
    exact label_injective.eq_iff (b := missed file)
  rw [isManaged_iff, hfixed, hrelease, hfile]

end Mark

/-- The labels of a run are managed, by the release and the missed files of that run. -/
theorem Notes.Bears.isManaged {b : Brief} {n : Notes} {marks : List Mark} (h : n.Bears b marks)
    {label : String} (hlabel : label ∈ n.labels) :
    Assay.isManaged b.target n.missingFiles label = true := by
  rw [h.labels, List.mem_cons, List.mem_map] at hlabel
  rcases hlabel with rfl | ⟨m, hm, rfl⟩
  · exact isManaged_of_mem List.mem_cons_self _ _
  · rw [Mark.isManaged_label_iff]
    -- The marks name the release and the missed files of the notes they are borne by, and no others.
    have hholds := h.holds m hm
    cases m with
    | missed file => exact Or.inr (Or.inr ⟨file, h.file_mem_iff.mpr hm, rfl⟩)
    | failing => exact Or.inl (Or.inr rfl)
    | passing release =>
        rw [hholds.1]
        exact Or.inr (Or.inl ⟨hholds.2.1, Or.inl rfl⟩)
    | lacking => exact Or.inl (Or.inl rfl)
    | complete release =>
        rw [hholds.1]
        exact Or.inr (Or.inl ⟨hholds.2.1, Or.inr rfl⟩)

/-- No label of a run tells the outcome. -/
theorem Notes.Bears.not_mem_outcomeLabels {b : Brief} {n : Notes} {marks : List Mark}
    (h : n.Bears b marks) {label : String} (hlabel : label ∈ n.labels) : label ∉ outcomeLabels := by
  rw [h.labels, List.mem_cons, List.mem_map] at hlabel
  rcases hlabel with rfl | ⟨m, -, rfl⟩
  · decide
  · exact m.label_not_mem_outcomeLabels

/-! ## Labels of verdicts -/

theorem Packaged.IsRelease.label_not_mem_outcomeLabels {kind : List Char → Prop} {release : String}
    (h : IsRelease kind release.toList) : "release-" ++ release ∉ outcomeLabels := by
  -- After `release-` comes a `v`, where `release-documents-checked` has a `d`.
  rcases h with ⟨major, rest, -, -, heq⟩
  intro hmem
  simp only [outcomeLabels, List.mem_cons, List.not_mem_nil, or_false] at hmem
  rcases hmem with hmem | hmem | hmem
  all_goals
    replace hmem := congrArg String.toList hmem
    simp [heq, Verdict.notVerifiable, Verdict.documentsChecked, Verdict.unableToProcess] at hmem

namespace Verdict

/-- The verdict on a record ends with the label of its state. -/
theorem labels_ofRecord (target : String) (labels : List String) (r : RunRecord) :
    (ofRecord target labels r).labels = labels ++
      (if target.isEmpty then [] else ["release-" ++ target]) ++
        [(ofRecord target labels r).state.label] := by
  unfold ofRecord
  by_cases h : r.failures.isEmpty = true
  · simp only [h, if_true]
    rfl
  · simp only [h]
    rfl

variable {b : Brief} {n : Notes} {marks : List Mark} {record : RunRecord} {v : Verdict}

/-- The labels of a verdict are managed, by the release and the missed files of its run. -/
theorem isManaged_of_ofRun (hbears : n.Bears b marks) (h : ofRun b n.labels record = .ok v)
    {label : String} (hlabel : label ∈ v.labels) :
    isManaged b.target n.missingFiles label = true := by
  rcases ofRun_eq_ok_iff.mp h with ⟨-, rfl⟩ | ⟨-, rfl⟩
  · -- The verdict on a release that is not published has fixed labels only.
    have hfixed : ∀ label ∈ [baseLabel, unableToProcess], label ∈ managedLabels := by decide
    exact isManaged_of_mem (hfixed label hlabel) _ _
  · rw [labels_ofRecord, List.append_assoc, List.mem_append, List.mem_append,
      List.mem_singleton] at hlabel
    -- The labels of the run, that of the release where there is one, and that of the state.
    rcases hlabel with hgiven | hrelease | rfl
    · exact hbears.isManaged hgiven
    · by_cases ht : b.target = ""
      · rw [if_pos (String.isEmpty_iff.mpr ht)] at hrelease
        cases hrelease
      · rw [if_neg (by rwa [String.isEmpty_iff]), List.mem_singleton] at hrelease
        rw [hrelease]
        exact isManaged_iff.mpr (Or.inr (Or.inl ⟨ht, "release-", List.mem_cons_self, rfl⟩))
    · exact isManaged_of_mem (mem_managedLabels_iff.mpr (Or.inr (Or.inl (VerdictState.label_mem _)))) _ _

/-- Of the labels that tell the outcome a verdict has that of its state, once. -/
theorem filter_outcome_of_ofRun
    (htarget : b.target = "" ∨ Packaged.IsRelease Packaged.IsNumeral b.target.toList)
    (hbears : n.Bears b marks) (h : ofRun b n.labels record = .ok v) :
    v.labels.filter (outcomeLabels.contains ·) = [v.state.label] := by
  rcases ofRun_eq_ok_iff.mp h with ⟨-, rfl⟩ | ⟨-, rfl⟩
  · rfl
  · -- Neither the labels of the run nor that of the release are left, only the last one is.
    have hgiven : n.labels.filter (outcomeLabels.contains ·) = [] := by
      rw [List.filter_eq_nil_iff]
      intro label hlabel
      rw [List.contains_iff_mem]
      exact hbears.not_mem_outcomeLabels hlabel
    have hrelease : (if b.target.isEmpty then [] else ["release-" ++ b.target]).filter
        (outcomeLabels.contains ·) = [] := by
      rcases htarget with ht | ht
      · rw [if_pos (String.isEmpty_iff.mpr ht), List.filter_nil]
      · split
        · rfl
        · rw [List.filter_eq_nil_iff, List.forall_mem_singleton, List.contains_iff_mem]
          exact ht.label_not_mem_outcomeLabels
    have hstate : outcomeLabels.contains (ofRecord b.target n.labels record).state.label = true :=
      List.contains_iff_mem.mpr (VerdictState.label_mem _)
    rw [labels_ofRecord, List.filter_append, List.filter_append, hgiven, hrelease,
      List.filter_cons_of_pos hstate]
    rfl

end Verdict

/-! ## Labels of reviews -/

/-- What the labels of a review come to on its submission. -/
structure Review.LabelsExclusive (s : Submission) (r : Review) : Prop where
  /-- The labels of the verdict are managed, by the release and the missed files of the run. -/
  managed : ∀ label ∈ r.verdict.labels,
    isManaged r.brief.target r.notes.missingFiles label = true
  /-- Of the labels that tell the outcome the verdict has that of its state, once. -/
  outcome : r.verdict.labels.filter (outcomeLabels.contains ·) = [r.verdict.state.label]
  /-- After the plan the submission has no other of them. -/
  exclusive : ∀ label ∈ outcomeLabels,
    (label ∈ r.plan.apply s.labels ↔ label = r.verdict.state.label)
  /-- After the plan the submission has the labels of the verdict. -/
  carried : ∀ label ∈ r.verdict.labels, label ∈ r.plan.apply s.labels

/-- The labels of a review are managed, and one of them tells the outcome, whatever scenarios it was
    held with and whatever labels were on the submission before. -/
theorem review_labels_exclusive {d : Disk} {settings : Settings} {scenarios : List Scenario}
    {latest : String} {s : Submission} {r : Review}
    (h : Review.hold d settings scenarios latest s = .ok r) : r.LabelsExclusive s := by
  have hplan := Review.plan_of_hold h
  rcases Review.hold_eq_ok_iff.mp h with ⟨record, notes, verdict, hrun, hverdict, rfl⟩
  rcases Notes.exists_bears_of_runAll hrun with ⟨marks, hbears⟩
  have hmanaged : ∀ label ∈ verdict.labels,
      isManaged s.release notes.missingFiles label = true :=
    fun label => Verdict.isManaged_of_ofRun hbears hverdict
  have houtcome := Verdict.filter_outcome_of_ofRun s.release_eq_empty_or_isRelease hbears hverdict
  refine ⟨hmanaged, houtcome, ?_, ?_⟩
  · -- Labels of outcomes are managed, so the plan leaves those on that the verdict has.
    intro label hlabel
    have hfixed : label ∈ managedLabels := mem_managedLabels_iff.mpr (Or.inr (Or.inl hlabel))
    rw [hplan, LabelPlan.mem_make_apply_iff (isManaged_of_mem hfixed _ _),
      ← List.mem_singleton, ← houtcome, List.mem_filter, List.contains_iff_mem]
    exact (and_iff_left hlabel).symm
  · intro label hlabel
    rw [hplan]
    exact LabelPlan.mem_apply_of_wanted hlabel (hmanaged label hlabel)

/-- A submission that shows all that is asked for, with labels on it of a review that did not find
    it so. -/
def Submission.mended : Submission :=
  Submission.complete.relabel ["missing-file-README.md", "not-verifiable"]

theorem Review.exists_hold_mended : ∃ r,
    hold .ofOneTest (.given "v1.30") Packaged.compiled "v1.30" .mended = .ok r ∧
      r.verdict.state = .success := by
  rcases exists_hold_complete with ⟨r, hhold, hstate⟩
  exact ⟨_, hold_relabel (fun scenario hs step => Packaged.not_readsLabels hs) hhold _, hstate⟩

theorem review_labels_exclusive_of_mended : ∃ r,
    Review.hold .ofOneTest (.given "v1.30") Packaged.compiled "v1.30" .mended = .ok r ∧
      r.verdict.state = .success ∧ r.LabelsExclusive .mended := by
  rcases Review.exists_hold_mended with ⟨r, hhold, hstate⟩
  exact ⟨r, hhold, hstate, review_labels_exclusive hhold⟩

end Assay
