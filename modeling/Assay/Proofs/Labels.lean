import Assay.Proofs.Review

/-!
# Labels that settle

A review plans labels for its submission and never looks at those that are on it, so the labels can
be changed as planned without a change in what a second review finds. What the second review plans
is then nothing: every managed label of the verdict is on the submission, and no other managed
label is.

## Main definitions

* `LabelPlan.apply`: The labels of a submission after a plan.
* `Submission.relabel`, `Brief.relabel`: A submission under other labels, and a brief for it.
* `Check.ReadsLabels`: The checks that look at labels.

## Theorems

* `mem_make_apply_iff`, `mem_make_apply_iff_of_unmanaged`: The labels of a submission after a plan.
* `make_apply`: After a plan has been applied the same labels need no other.
* `answer_relabel`: The answer of a check that does not look at labels is the same under others.
* `review_applied_settles`: A review after the plan of another finds the same and plans nothing.
-/

namespace Assay

/-! ## Plans -/

namespace LabelPlan

/-- The labels of a submission after a plan: those that are not taken off, and those that are put
    on. -/
def apply (p : LabelPlan) (labels : List String) : List String :=
  labels.filter (fun label => !p.remove.contains label) ++ p.add

theorem mem_difference_iff {managed : String → Bool} {labels others : List String}
    {label : String} : label ∈ difference managed labels others ↔
      label ∈ labels ∧ managed label = true ∧ label ∉ others := by
  unfold difference
  rw [List.mem_eraseDups, List.mem_filter, Bool.and_eq_true, Bool.not_eq_true',
    List.contains_eq_mem, decide_eq_false_iff_not]

theorem difference_eq_nil_iff {managed : String → Bool} {labels others : List String} :
    difference managed labels others = [] ↔
      ∀ label ∈ labels, managed label = true → label ∈ others := by
  rw [List.eq_nil_iff_forall_not_mem]
  refine forall_congr' fun label => ?_
  rw [mem_difference_iff]
  constructor
  · intro h hlabel hmanaged
    by_contra hother
    exact h ⟨hlabel, hmanaged, hother⟩
  · rintro h ⟨hlabel, hmanaged, hother⟩
    exact hother (h hlabel hmanaged)

theorem mem_apply_iff {p : LabelPlan} {labels : List String} {label : String} :
    label ∈ p.apply labels ↔ (label ∈ labels ∧ label ∉ p.remove) ∨ label ∈ p.add := by
  unfold apply
  rw [List.mem_append, List.mem_filter, Bool.not_eq_true', List.contains_eq_mem,
    decide_eq_false_iff_not]

variable {release : String} {missingFiles current wanted : List String}

/-- After a plan every managed label that is wanted is there. -/
theorem mem_apply_of_wanted {label : String} (hwanted : label ∈ wanted)
    (hmanaged : isManaged release missingFiles label = true) :
    label ∈ (make release missingFiles current wanted).apply current := by
  rw [mem_apply_iff]
  by_cases hcurrent : label ∈ current
  · refine Or.inl ⟨hcurrent, fun hremove => ?_⟩
    exact (mem_difference_iff.mp hremove).2.2 hwanted
  · exact Or.inr (mem_difference_iff.mpr ⟨hwanted, hmanaged, hcurrent⟩)

/-- After a plan every managed label that is there is wanted. -/
theorem wanted_of_mem_apply {label : String}
    (hmanaged : isManaged release missingFiles label = true)
    (h : label ∈ (make release missingFiles current wanted).apply current) : label ∈ wanted := by
  rcases mem_apply_iff.mp h with ⟨hcurrent, hremove⟩ | hadd
  · by_contra hwanted
    exact hremove (mem_difference_iff.mpr ⟨hcurrent, hmanaged, hwanted⟩)
  · exact (mem_difference_iff.mp hadd).1

/-- After a plan the managed labels are those that are wanted. -/
theorem mem_make_apply_iff {label : String}
    (hmanaged : isManaged release missingFiles label = true) :
    label ∈ (make release missingFiles current wanted).apply current ↔ label ∈ wanted :=
  ⟨wanted_of_mem_apply hmanaged, fun h => mem_apply_of_wanted h hmanaged⟩

/-- A plan leaves the labels alone that are not managed. -/
theorem mem_make_apply_iff_of_unmanaged {label : String}
    (h : isManaged release missingFiles label = false) :
    label ∈ (make release missingFiles current wanted).apply current ↔ label ∈ current := by
  have hnot : ∀ labels others, label ∉ difference (isManaged release missingFiles) labels others := by
    intro labels others hmem
    rw [mem_difference_iff, h] at hmem
    exact Bool.false_ne_true hmem.2.1
  rw [mem_apply_iff]
  constructor
  · rintro (⟨hcurrent, -⟩ | hadd)
    · exact hcurrent
    · exact absurd hadd (hnot _ _)
  · intro hcurrent
    exact Or.inl ⟨hcurrent, hnot _ _⟩

/-- After a plan has been applied the same labels need no other. -/
theorem make_apply :
    make release missingFiles ((make release missingFiles current wanted).apply current) wanted =
      ⟨[], []⟩ := by
  have hadd : difference (isManaged release missingFiles) wanted
      ((make release missingFiles current wanted).apply current) = [] :=
    difference_eq_nil_iff.mpr fun label hwanted hmanaged => mem_apply_of_wanted hwanted hmanaged
  have hremove : difference (isManaged release missingFiles)
      ((make release missingFiles current wanted).apply current) wanted = [] :=
    difference_eq_nil_iff.mpr fun label hlabel hmanaged => wanted_of_mem_apply hmanaged hlabel
  change LabelPlan.mk _ _ = _
  rw [hadd, hremove]

end LabelPlan

/-! ## Reviews under other labels -/

/-- A submission under other labels. -/
def Submission.relabel (s : Submission) (labels : List String) : Submission :=
  { s with labels := labels }

/-- A brief for its submission under other labels. -/
def Brief.relabel (b : Brief) (labels : List String) : Brief :=
  { b with submission := b.submission.relabel labels }

/-- The checks that look at labels. -/
def Check.ReadsLabels : Check → Prop
  | labelsGiven | releaseLabelled _ => True
  | _ => False

/-- The answer of a check that does not look at labels is the same under others. -/
theorem Check.answer_relabel {c : Check} (hc : ¬ c.ReadsLabels) (b : Brief) (n : Notes)
    (labels : List String) : c.answer (b.relabel labels) n = c.answer b n := by
  cases c with
  | labelsGiven => exact absurd trivial hc
  | releaseLabelled start => exact absurd trivial hc
  | _ => rfl

namespace Review

variable {d : Disk} {settings : Settings} {scenarios : List Scenario} {latest : String}
  {s : Submission}

/-- A review of scenarios that do not look at labels finds the same under others. -/
theorem hold_relabel (hscenarios : ∀ scenario ∈ scenarios, ∀ step ∈ scenario.steps,
      ¬ step.check.ReadsLabels) {r : Review} (h : hold d settings scenarios latest s = .ok r)
    (labels : List String) :
    hold d settings scenarios latest (s.relabel labels) =
      .ok ⟨r.brief.relabel labels, r.notes, r.record, r.verdict,
        planLabels (r.brief.relabel labels) r.notes r.verdict⟩ := by
  rcases hold_eq_ok_iff.mp h with ⟨record, notes, verdict, hrun, hverdict, rfl⟩
  refine hold_eq_ok_iff.mpr ⟨record, notes, verdict, ?_, hverdict, rfl⟩
  rw [← hrun]
  refine runAll_congr (fun scenario hs step hstep n => ?_) .start
  exact Check.answer_relabel (hscenarios scenario hs step hstep) (briefOf d settings latest s) n
    labels

/-- A review plans from the labels that its submission has. -/
theorem plan_of_hold {r : Review} (h : hold d settings scenarios latest s = .ok r) :
    r.plan = LabelPlan.make r.brief.target r.notes.missingFiles s.labels r.verdict.labels := by
  rcases hold_eq_ok_iff.mp h with ⟨record, notes, verdict, -, -, rfl⟩
  rfl

end Review

theorem Packaged.not_readsLabels {scenario : Scenario} (hs : scenario ∈ compiled) {step : Step}
    (h : step ∈ scenario.steps) : ¬ step.check.ReadsLabels := by
  have hmem := check_mem_checks hs h
  intro hreads
  generalize step.check = c at hmem hreads
  cases c with
  | labelsGiven =>
      simp only [checks, List.mem_append, List.mem_cons, List.mem_map, reduceCtorEq, and_false,
        exists_false, List.not_mem_nil, or_false] at hmem
  | releaseLabelled start =>
      simp only [checks, List.mem_append, List.mem_cons, List.mem_map, reduceCtorEq, and_false,
        exists_false, List.not_mem_nil, or_false] at hmem
  | _ => exact hreads

/-- A review after the plan of another has been applied to the labels finds the same, comes to the
    same verdict and plans nothing. -/
theorem review_applied_settles {d : Disk} {settings : Settings} {s : Submission} {r : Review}
    (hrules : settings.rules = .packaged) (h : Review.ofSubmission d settings s = .ok r) :
    ∃ r', Review.ofSubmission d settings (s.relabel (r.plan.apply s.labels)) = .ok r' ∧
      r'.record = r.record ∧ r'.verdict = r.verdict ∧ r'.plan = ⟨[], []⟩ := by
  rcases Review.exists_hold_of_packaged hrules h with ⟨latest, hlatest, hhold⟩
  rw [Review.ofSubmission_eq_hold (Settings.load_of_packaged hrules) hlatest]
  have hagain := Review.hold_relabel (fun scenario hs step => Packaged.not_readsLabels hs) hhold
    (r.plan.apply s.labels)
  refine ⟨_, hagain, rfl, rfl, ?_⟩
  -- The second plan starts from the labels that the first one led to.
  rw [Review.plan_of_hold hhold]
  exact LabelPlan.make_apply

/-- A submission with labels of earlier reviews on it, and one that no review manages. -/
def Submission.labelled : Submission :=
  Submission.blank.relabel ["missing-file-README.md", "release-documents-checked", "needs-triage"]

theorem review_applied_settles_of_labelled : (Settings.given "v1.30").rules = .packaged ∧
    ∃ r, Review.ofSubmission ⟨[]⟩ (Settings.given "v1.30") .labelled = .ok r ∧
      ∃ r', Review.ofSubmission ⟨[]⟩ (Settings.given "v1.30")
          (Submission.labelled.relabel (r.plan.apply Submission.labelled.labels)) = .ok r' ∧
        r'.record = r.record ∧ r'.verdict = r.verdict ∧ r'.plan = ⟨[], []⟩ := by
  rcases Review.exists_hold_blank with ⟨blank, hblank⟩
  have hlabelled := Review.hold_relabel (fun scenario hs step => Packaged.not_readsLabels hs) hblank
    ["missing-file-README.md", "release-documents-checked", "needs-triage"]
  rw [← Review.ofSubmission_eq_hold (Settings.load_of_packaged rfl) (Settings.given_latest _)]
    at hlabelled
  exact ⟨rfl, _, hlabelled, review_applied_settles rfl hlabelled⟩

end Assay
