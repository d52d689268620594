import Assay.Proofs.Managed

/-!
# Labels that stay

Which labels of missed files are on a submission after the plan of a review. The plan takes off what
is managed and not wanted, and the label of a missed file is managed where this very review has
missed the file. So the label of a file that is there is not managed, and the plan leaves it as it
was, put on by an earlier review or not. The label of a file that is not there is managed, and it is
wanted too unless the verdict is pending. The one review that takes such a label off is a pending
one, and it takes off those of files that are not there.

## Theorems

* `file_mem_missingFiles_iff`: A file that is asked for is missed where it is not there.
* `missed_label_apply_iff`: When the label of a required file is on a submission after a plan.
-/

namespace Assay

open Notes

/-! ## Missed files -/

/-- A file that was missed stays so. -/
theorem Notes.mem_missingFiles_of_entries {b : Brief} {n n' : Notes} (h : Entries b n n')
    {file : String} (hfile : file ∈ n.missingFiles) : file ∈ n'.missingFiles := by
  induction h with
  | refl => exact hfile
  | tail _ hlast ih =>
      cases hlast with
      | mark m hm => exact List.mem_append_left _ ih
      | version v hv => exact ih

/-- A file that some scenario asks for at its start is missed exactly where it is not there. -/
theorem file_mem_missingFiles_iff {b : Brief} {scenarios : List Scenario} {record : RunRecord}
    {n : Notes} (h : runAll b .start scenarios = .ok (record, n)) {scenario : Scenario}
    (hs : scenario ∈ scenarios) {step : Step} {rest : List Step}
    (hsteps : scenario.steps = step :: rest) {file : String} (hcheck : step.check = .fileListed file) :
    file ∈ n.missingFiles ↔ b.submission.file? file = none := by
  constructor
  · intro hfile
    rcases exists_bears_of_runAll h with ⟨marks, hbears⟩
    exact hbears.holds (.missed file) (hbears.file_mem_iff.mp hfile)
  · intro hnone
    rcases exists_run_between (runAll_eq_ok_iff.mp h) hs with ⟨r, m, m', -, hrun, hafter⟩
    rcases Scenario.run_eq_ok_iff.mp hrun with ⟨results, hresults, -⟩
    rw [hsteps] at hresults
    rcases runSteps_cons_eq_ok_iff.mp hresults with ⟨r', first, hstep, hcase⟩
    -- The first step misses the file, and whatever the scenario and the run do after it adds to that.
    have hfirst : file ∈ first.missingFiles := by
      rcases Step.run_eq_ok_iff.mp hstep with ⟨a, ha, -⟩
      have hnotes : (Check.answerFileListed b m file).2 = first := by
        rw [hcheck] at ha
        exact congrArg Prod.snd (Except.ok.inj ha)
      rw [← hnotes, Check.answerFileListed, hnone]
      exact List.mem_append_right _ List.mem_cons_self
    have hbelow : Entries b first m' := by
      rcases hcase with ⟨-, below, hbelow, -⟩ | ⟨-, -, rfl⟩
      · exact entries_of_runSteps hbelow
      · exact .refl
    exact mem_missingFiles_of_entries (hbelow.trans hafter) hfirst

/-- The packaged rules miss a required file exactly where it is not there. -/
theorem Packaged.file_mem_missingFiles_iff {b : Brief} {record : RunRecord} {n : Notes}
    (h : runAll b .start compiled = .ok (record, n)) {file : String} (hfile : file ∈ requiredFiles) :
    file ∈ n.missingFiles ↔ b.submission.file? file = none := by
  have hmem : fileScenario file ∈ compiled := by
    simp only [compiled, submissionScenarios, List.mem_append]
    exact Or.inl (Or.inl (Or.inl (Or.inr (List.mem_map_of_mem hfile))))
  exact Assay.file_mem_missingFiles_iff h hmem rfl rfl

/-! ## Labels after a plan -/

/-- The label of a missed file is managed where the review has missed that file. -/
theorem isManaged_missed_iff {release : String} {missingFiles : List String} {file : String} :
    isManaged release missingFiles ("missing-file-" ++ file) = true ↔ file ∈ missingFiles := by
  rw [← Mark.label_missed, Mark.isManaged_label_iff]
  simp only [reduceCtorEq, or_self, and_false, false_or, Mark.missed.injEq, exists_eq_right']

/-- A verdict takes over the labels of the marks unless it is pending. -/
theorem Verdict.label_mem_iff_of_ofRun {b : Brief} {n : Notes} {record : RunRecord} {v : Verdict}
    (h : ofRun b n.labels record = .ok v) {m : Mark} (hm : m.label ∈ n.labels) :
    m.label ∈ v.labels ↔ v.state ≠ .pending := by
  rcases ofRun_eq_ok_iff.mp h with ⟨-, rfl⟩ | ⟨-, rfl⟩
  · have hother : m.label ∉ (notPublished b.target).labels := by
      intro hmem
      rcases List.mem_cons.mp hmem with hbase | hmem
      · exact m.label_ne_baseLabel hbase
      · refine m.label_not_mem_outcomeLabels ?_
        rw [List.mem_singleton.mp hmem]
        exact VerdictState.label_mem .pending
    exact iff_of_false hother fun hstate => hstate rfl
  · refine iff_of_true ?_ (state_ofRecord_ne_pending _ _ _)
    rw [labels_ofRecord, List.append_assoc]
    exact List.mem_append_left _ hm

/-- A label of a required file that is there is on the submission after a plan exactly where it was
    before. One of a file that is not there is on it after the plan unless the verdict is pending. -/
theorem missed_label_apply_iff {d : Disk} {settings : Settings} {s : Submission} {r : Review}
    (hrules : settings.rules = .packaged) (h : Review.ofSubmission d settings s = .ok r)
    {file : String} (hfile : file ∈ Packaged.requiredFiles) :
    (s.file? file ≠ none →
        ("missing-file-" ++ file ∈ r.plan.apply s.labels ↔ "missing-file-" ++ file ∈ s.labels)) ∧
      (s.file? file = none →
        ("missing-file-" ++ file ∈ r.plan.apply s.labels ↔ r.verdict.state ≠ .pending)) := by
  rcases Review.exists_hold_of_packaged hrules h with ⟨latest, -, hhold⟩
  have hplan := Review.plan_of_hold hhold
  rcases Review.hold_eq_ok_iff.mp hhold with ⟨record, notes, verdict, hrun, hverdict, rfl⟩
  have hmissed : file ∈ notes.missingFiles ↔ s.file? file = none :=
    Packaged.file_mem_missingFiles_iff hrun hfile
  rw [hplan]
  constructor
  · intro hfound
    refine LabelPlan.mem_make_apply_iff_of_unmanaged ?_
    rw [← Bool.not_eq_true, isManaged_missed_iff]
    exact fun hmem => hfound (hmissed.mp hmem)
  · intro hnone
    have hmem : file ∈ notes.missingFiles := hmissed.mpr hnone
    rw [LabelPlan.mem_make_apply_iff (isManaged_missed_iff.mpr hmem)]
    -- The run has put the label on, so it is up to the verdict to take it over.
    rcases exists_bears_of_runAll hrun with ⟨marks, hbears⟩
    have hlabel : (Mark.missed file).label ∈ notes.labels :=
      hbears.label_mem_iff.mpr (hbears.file_mem_iff.mp hmem)
    exact Verdict.label_mem_iff_of_ofRun hverdict hlabel

/-- A submission without anything in it is not waiting for its release. -/
theorem Review.state_ne_pending_of_blank {d : Disk} {settings : Settings} {scenarios : List Scenario}
    {latest : String} {r : Review} (h : hold d settings scenarios latest .blank = .ok r) :
    r.verdict.state ≠ .pending := by
  rcases hold_eq_ok_iff.mp h with ⟨record, notes, verdict, -, hverdict, rfl⟩
  rcases Verdict.ofRun_eq_ok_iff.mp hverdict with ⟨hunpublished, -⟩ | ⟨-, rfl⟩
  · cases hunpublished
  · exact Verdict.state_ofRecord_ne_pending _ _ _

theorem missed_label_apply_iff_of_completed : ∃ r,
    Review.ofSubmission ⟨[]⟩ (Settings.given "v1.30") .blank = .ok r ∧ ∃ r',
      Review.ofSubmission .ofOneTest (Settings.given "v1.30")
          (Submission.complete.relabel (r.plan.apply Submission.blank.labels)) = .ok r' ∧
        r'.verdict.state = .success ∧
          "missing-file-README.md" ∈ r'.plan.apply (r.plan.apply Submission.blank.labels) := by
  have hfile : "README.md" ∈ Packaged.requiredFiles := List.mem_cons_self
  rcases Review.exists_hold_blank with ⟨blank, hblank⟩
  rcases Review.exists_hold_complete with ⟨complete, hcomplete, hstate⟩
  have hmended := Review.hold_relabel (fun scenario hs step => Packaged.not_readsLabels hs) hcomplete
    (blank.plan.apply Submission.blank.labels)
  have hpending := Review.state_ne_pending_of_blank hblank
  rw [← Review.ofSubmission_eq_hold (Settings.load_of_packaged rfl) (Settings.given_latest _)]
    at hblank hmended
  -- The first review puts the label on, and the second finds the file and leaves it on.
  have hput := ((missed_label_apply_iff rfl hblank hfile).2 rfl).mpr hpending
  have hfound : Submission.complete.file? "README.md" ≠ none := by decide
  exact ⟨blank, hblank, _, hmended, hstate,
    ((missed_label_apply_iff rfl hmended hfile).1 hfound).mpr hput⟩

end Assay
