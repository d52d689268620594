import Assay.Proofs.Evidence
import Assay.Proofs.Run

/-!
# What notes say

The notes of a review only ever grow, and they grow in two ways: a step marks the submission, or it
notes the version that the evidence shows. `Mark` lists what a step can say by a mark, and each mark
has a meaning of its own, `Mark.Holds`, which speaks of the submission and the metadata and not of
the step that gave it. A step marks a submission whether it is passed or fails, so the meaning can
not be read off the answers.

`Entry` says all that one step can do to the notes, and everything that is known of the notes of a
run follows from it by induction on the entries: whatever the scenarios were, the labels are the
base label and those of some true marks, and the missed files are the files of the same marks.

## Main definitions

* `Mark`: What a step can say by a label.
* `Mark.Holds`: What makes a mark true.
* `Entry`, `Entries`: What a step, and a run, does to the notes.
* `Notes.Bears`: The notes are made of some marks, all of them true.

## Theorems

* `label_injective`: The label of a mark says what the mark does.
* `entries_of_answer`: An answer makes one entry at most.
* `entries_of_runScenarios`: A run makes entries.
* `exists_run_between`: A run of many scenarios runs each of them, with entries before and after.
* `exists_bears_of_runAll`: The notes of a run bear marks.
-/

namespace Assay

/-- The required tests that the evidence leaves unsatisfied. -/
def Brief.LeavesMissing (b : Brief) (missing : List String) : Prop :=
  ∃ required outcomes, Requirement.resolve b.disk b.metadata b.target = .ok required ∧
    Evidence.submitted b.submission = .ok outcomes ∧ (required.reconcile outcomes).missing = missing

theorem leavesMissing_unique {b : Brief} {missing missing' : List String}
    (h : b.LeavesMissing missing) (h' : b.LeavesMissing missing') : missing' = missing := by
  have hok := Check.missingTests_eq_ok_iff.mpr h
  rw [Check.missingTests_eq_ok_iff.mpr h', Except.ok.injEq] at hok
  exact hok

/-! ## Marks -/

/-- What a step can say by a label. -/
inductive Mark
  /-- A file is not there. -/
  | missed (file : String)
  /-- A test of the evidence failed. -/
  | failing
  /-- No test of the evidence of a release failed. -/
  | passing (release : String)
  /-- A required test is missing from the evidence. -/
  | lacking
  /-- No test that a release requires is missing from the evidence. -/
  | complete (release : String)
  deriving DecidableEq

namespace Mark

/-- The label of a mark. -/
def label : Mark → String
  | missed file => "missing-file-" ++ file
  | failing => "evidence-missing"
  | passing release => "no-failed-tests-" ++ release
  | lacking => "required-tests-missing"
  | complete release => "tests-verified-" ++ release

@[simp]
theorem label_missed (file : String) : (missed file).label = "missing-file-" ++ file := rfl

@[simp]
theorem label_failing : failing.label = "evidence-missing" := rfl

@[simp]
theorem label_passing (release : String) : (passing release).label = "no-failed-tests-" ++ release :=
  rfl

@[simp]
theorem label_lacking : lacking.label = "required-tests-missing" := rfl

@[simp]
theorem label_complete (release : String) : (complete release).label = "tests-verified-" ++ release :=
  rfl

/-- The file that a mark says is not there. -/
def file? : Mark → Option String
  | missed file => some file
  | _ => none

/-- What makes a mark true. -/
def Holds (b : Brief) : Mark → Prop
  | missed file => b.submission.file? file = none
  | failing => b.submission.ShowsFailure
  | passing release => release = b.target ∧ b.target ≠ "" ∧ b.submission.ShowsNoFailure
  | lacking => ∃ missing, b.LeavesMissing missing ∧ missing ≠ []
  | complete release => release = b.target ∧ b.target ≠ "" ∧ b.LeavesMissing []

/-- The label of a mark says what the mark does: no two marks share one. -/
theorem label_injective : Function.Injective label := by
  intro m m' h
  replace h := congrArg String.toList h
  cases m <;> cases m' <;> simp at h ⊢
  all_goals exact String.toList_inj.mp h

theorem label_ne_baseLabel (m : Mark) : m.label ≠ baseLabel := by
  intro h
  replace h := congrArg String.toList h
  cases m <;> simp [baseLabel] at h

theorem mem_map_label_iff {m : Mark} {marks : List Mark} :
    m.label ∈ marks.map label ↔ m ∈ marks :=
  List.mem_map_of_injective label_injective

theorem mem_filterMap_file_iff {file : String} {marks : List Mark} :
    file ∈ marks.filterMap file? ↔ missed file ∈ marks := by
  rw [List.mem_filterMap]
  constructor
  · rintro ⟨m, hm, hfile⟩
    cases m with
    | missed f =>
        simp only [file?, Option.some.injEq] at hfile
        rwa [← hfile]
    | _ => cases hfile
  · intro h
    exact ⟨missed file, h, rfl⟩

end Mark

/-! ## Entries -/

namespace Notes

/-- The notes with a mark. -/
def mark (n : Notes) (m : Mark) : Notes :=
  { n with labels := n.labels ++ [m.label], missingFiles := n.missingFiles ++ m.file?.toList }

theorem mark_of_file_eq_none {n : Notes} {m : Mark} (h : m.file? = none) :
    n.mark m = n.label m.label := by
  unfold mark label
  rw [h, Option.toList_none, List.append_nil]

/-- What one step can do to the notes of a review. -/
inductive Entry (b : Brief) (n : Notes) : Notes → Prop
  /-- A true mark is added. -/
  | mark (m : Mark) (h : m.Holds b) : Entry b n (n.mark m)
  /-- The version that the evidence shows is noted. -/
  | version (v : String) (h : v ≠ "") : Entry b n { n with evidenceVersion := v }

/-- What steps can do to the notes of a review. -/
abbrev Entries (b : Brief) : Notes → Notes → Prop :=
  Relation.ReflTransGen (Entry b)

/-- A true mark that names no file only gives a label. -/
theorem entries_label {b : Brief} {m : Mark} (h : m.Holds b) (hfile : m.file? = none) (n : Notes) :
    Entries b n (n.label m.label) := by
  rw [← mark_of_file_eq_none hfile]
  exact .single (.mark m h)

end Notes

open Notes

namespace Check

theorem notes_eq_of_conclude {n n' : Notes} {e : Examination} {a : Answer}
    (h : conclude n e = .ok (a, n')) : n' = n := by
  rcases e with (f | f) | (_ | _) <;> simp [conclude] at h
  all_goals exact h.2.symm

theorem entries_of_answerFileListed (b : Brief) (n : Notes) (file : String) :
    Entries b n (answerFileListed b n file).2 := by
  unfold answerFileListed
  cases hf : b.submission.file? file with
  | some f => exact .refl
  | none =>
      -- The label and the missed file are one mark.
      have hmark : (Mark.missed file).Holds b := hf
      exact .single (.mark (.missed file) hmark)

theorem entries_of_answerLineMatches (b : Brief) (n : Notes) (file : String) (p : WrittenPattern) :
    Entries b n (answerLineMatches b n file p).2 := by
  unfold answerLineMatches
  cases hf : b.submission.file? file with
  | none => exact .refl
  | some f =>
      cases hg : firstMatch? p f.contents with
      | none =>
          simp only [hg]
          exact .refl
      | some groups =>
          simp only [hg]
          by_cases hv : firstFilled groups = ""
          · rw [if_pos (String.isEmpty_iff.mpr hv)]
          · rw [if_neg (by rwa [String.isEmpty_iff])]
            exact .single (.version _ hv)

/-- A step on the tests of the evidence marks the submission by what the report shows. -/
theorem entries_of_answerTestsPass (b : Brief) (n : Notes) :
    Entries b n (answerTestsPass b n).2 := by
  unfold answerTestsPass
  by_cases ht : b.target = ""
  · rw [if_pos (String.isEmpty_iff.mpr ht)]
  · rw [if_neg (by rwa [String.isEmpty_iff])]
    cases he : Evidence.submitted b.submission with
    -- A report that cannot be read is a finding, and nothing is noted.
    | error f => exact .refl
    | ok outcomes =>
        simp only
        by_cases hf : failingNames outcomes = []
        · have hnone : b.submission.ShowsNoFailure :=
            (showsNoFailure_iff he).mpr (failingNames_eq_nil_iff.mp hf)
          have hmark : (Mark.passing b.target).Holds b := ⟨rfl, ht, hnone⟩
          rw [if_pos (List.isEmpty_iff.mpr hf)]
          exact entries_label hmark rfl n
        · have hsome : b.submission.ShowsFailure :=
            (showsFailure_iff he).mpr fun hall => hf (failingNames_eq_nil_iff.mpr hall)
          have hmark : Mark.failing.Holds b := hsome
          rw [if_neg (by rwa [List.isEmpty_iff])]
          exact entries_label hmark rfl n

/-- A step on the required tests marks the submission by what reconciling leaves of them. -/
theorem entries_of_answerTestsComplete {b : Brief} {n n' : Notes} {a : Answer}
    (h : answerTestsComplete b n = .ok (a, n')) : Entries b n n' := by
  unfold answerTestsComplete at h
  by_cases ht : b.target = ""
  · rw [if_pos (String.isEmpty_iff.mpr ht), Except.ok.injEq, Prod.mk.injEq] at h
    rw [h.2]
  · rw [if_neg (by rwa [String.isEmpty_iff])] at h
    rcases hm : missingTests b with (f | f) | missing
    · simp only [hm, Except.ok.injEq, Prod.mk.injEq] at h
      rw [h.2]
    · simp only [hm, reduceCtorEq] at h
    · -- Whether any tests are missing is all that is noted, as one of two marks.
      have hleaves : b.LeavesMissing missing := missingTests_eq_ok_iff.mp hm
      simp only [hm] at h
      by_cases hnil : missing = []
      · have hmark : (Mark.complete b.target).Holds b := ⟨rfl, ht, hnil ▸ hleaves⟩
        rw [if_pos (List.isEmpty_iff.mpr hnil), Except.ok.injEq, Prod.mk.injEq] at h
        rw [← h.2]
        exact entries_label hmark rfl n
      · have hmark : Mark.lacking.Holds b := ⟨missing, hleaves, hnil⟩
        rw [if_neg (by rwa [List.isEmpty_iff]), Except.ok.injEq, Prod.mk.injEq] at h
        rw [← h.2]
        exact entries_label hmark rfl n

/-- An answer makes one entry at most. -/
theorem entries_of_answer {c : Check} {b : Brief} {n n' : Notes} {a : Answer}
    (h : c.answer b n = .ok (a, n')) : Entries b n n' := by
  by_cases hc : c.takesNotes = false
  · rw [answer_eq_conclude hc] at h
    rw [notes_eq_of_conclude h]
  · -- Of the checks that write notes only the last can break off.
    cases c with
    | fileListed file =>
        have hnotes : (answerFileListed b n file).2 = n' := congrArg Prod.snd (Except.ok.inj h)
        exact hnotes ▸ entries_of_answerFileListed b n file
    | lineMatches file p =>
        have hnotes : (answerLineMatches b n file p).2 = n' := congrArg Prod.snd (Except.ok.inj h)
        exact hnotes ▸ entries_of_answerLineMatches b n file p
    | testsPass =>
        have hnotes : (answerTestsPass b n).2 = n' := congrArg Prod.snd (Except.ok.inj h)
        exact hnotes ▸ entries_of_answerTestsPass b n
    | testsComplete => exact entries_of_answerTestsComplete h
    | _ => exact absurd rfl hc

end Check

/-! ## Entries of runs -/

section Runs

variable {b : Brief}

theorem entries_of_stepRun {n n' : Notes} {s : Step} {r : StepResult}
    (h : s.run b n = .ok (r, n')) : Entries b n n' := by
  rcases Step.run_eq_ok_iff.mp h with ⟨a, ha, -⟩
  exact Check.entries_of_answer ha

theorem entries_of_runSteps {steps : List Step} {n final : Notes} {results : List StepResult}
    (h : runSteps b n steps = .ok (results, final)) : Entries b n final := by
  induction steps generalizing n results with
  | nil =>
      rw [runSteps, Except.ok.injEq, Prod.mk.injEq] at h
      rw [h.2]
  | cons s rest ih =>
      rcases runSteps_cons_eq_ok_iff.mp h with ⟨r, m, hrun, hcase⟩
      have hstep : Entries b n m := entries_of_stepRun hrun
      rcases hcase with ⟨-, below, hbelow, -⟩ | ⟨-, -, rfl⟩
      · exact hstep.trans (ih hbelow)
      · exact hstep

theorem entries_of_scenarioRun {n n' : Notes} {s : Scenario} {r : ScenarioResult}
    (h : s.run b n = .ok (r, n')) : Entries b n n' := by
  rcases Scenario.run_eq_ok_iff.mp h with ⟨results, hresults, -⟩
  exact entries_of_runSteps hresults

theorem entries_of_runScenarios {scenarios : List Scenario} {n final : Notes}
    {results : List ScenarioResult} (h : runScenarios b n scenarios = .ok (results, final)) :
    Entries b n final := by
  induction scenarios generalizing n results with
  | nil =>
      rw [runScenarios, Except.ok.injEq, Prod.mk.injEq] at h
      rw [h.2]
  | cons s rest ih =>
      rcases runScenarios_cons_eq_ok_iff.mp h with ⟨r, m, below, hrun, hbelow, -⟩
      exact (entries_of_scenarioRun hrun).trans (ih hbelow)

/-- A run of many scenarios runs each of them, with entries before it and after it. -/
theorem exists_run_between {scenarios : List Scenario} {n final : Notes}
    {results : List ScenarioResult} (h : runScenarios b n scenarios = .ok (results, final))
    {s : Scenario} (hs : s ∈ scenarios) :
    ∃ r m m', Entries b n m ∧ s.run b m = .ok (r, m') ∧ Entries b m' final := by
  rcases List.append_of_mem hs with ⟨before, after, rfl⟩
  rcases runScenarios_append_eq_ok_iff.mp h with ⟨above, m, below, habove, hbelow, -⟩
  rcases runScenarios_cons_eq_ok_iff.mp hbelow with ⟨r, m', below', hrun, hafter, -⟩
  exact ⟨r, m, m', entries_of_runScenarios habove, hrun, entries_of_runScenarios hafter⟩

end Runs

/-! ## Marks of runs -/

namespace Notes

/-- Notes are made of some marks: the labels are the base label and those of the marks, the missed
    files are those that the marks name, and every mark is true. -/
structure Bears (b : Brief) (n : Notes) (marks : List Mark) : Prop where
  labels : n.labels = baseLabel :: marks.map Mark.label
  missingFiles : n.missingFiles = marks.filterMap Mark.file?
  holds : ∀ m ∈ marks, m.Holds b

variable {b : Brief} {n n' : Notes} {marks : List Mark}

theorem bears_start (b : Brief) : start.Bears b [] where
  labels := rfl
  missingFiles := rfl
  holds := fun _ hm => absurd hm List.not_mem_nil

/-- Notes with one more entry bear the same marks or one more. -/
theorem Bears.entry (h : n.Bears b marks) (he : Entry b n n') :
    ∃ more, n'.Bears b (marks ++ more) := by
  cases he with
  | mark m hm =>
      refine ⟨[m], ?_, ?_, ?_⟩
      · change n.labels ++ [m.label] = _
        rw [h.labels, List.map_append, List.cons_append]
        rfl
      · change n.missingFiles ++ m.file?.toList = _
        rw [h.missingFiles, List.filterMap_append]
        cases hfile : m.file? <;> simp [hfile]
      · intro m' hm'
        rcases List.mem_append.mp hm' with hold | hnew
        · exact h.holds m' hold
        · rwa [List.mem_singleton.mp hnew]
  | version v hv =>
      -- A version is noted beside the labels, and leaves them as they are.
      refine ⟨[], ?_⟩
      rw [List.append_nil]
      exact ⟨h.labels, h.missingFiles, h.holds⟩

theorem Bears.entries (h : n.Bears b marks) (he : Entries b n n') :
    ∃ more, n'.Bears b (marks ++ more) := by
  induction he with
  | refl =>
      refine ⟨[], ?_⟩
      rwa [List.append_nil]
  | tail _ hlast ih =>
      rcases ih with ⟨more, hmore⟩
      rcases hmore.entry hlast with ⟨last, hall⟩
      rw [List.append_assoc] at hall
      exact ⟨more ++ last, hall⟩

/-- The notes of a run bear marks, whatever scenarios it is a run of. -/
theorem exists_bears_of_runAll {scenarios : List Scenario} {record : RunRecord}
    (h : runAll b start scenarios = .ok (record, n)) : ∃ marks, n.Bears b marks := by
  rcases (bears_start b).entries (entries_of_runScenarios (runAll_eq_ok_iff.mp h)) with ⟨more, hmore⟩
  exact ⟨_, hmore⟩

/-- A mark is on the submission where its label is. -/
theorem Bears.label_mem_iff (h : n.Bears b marks) {m : Mark} : m.label ∈ n.labels ↔ m ∈ marks := by
  rw [h.labels, List.mem_cons, Mark.mem_map_label_iff, or_iff_right m.label_ne_baseLabel]

theorem Bears.file_mem_iff (h : n.Bears b marks) {file : String} :
    file ∈ n.missingFiles ↔ .missed file ∈ marks := by
  rw [h.missingFiles, Mark.mem_filterMap_file_iff]

end Notes

end Assay
