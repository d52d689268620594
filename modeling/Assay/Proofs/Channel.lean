import Assay.Proofs.Course
import Assay.Proofs.Independence

/-!
# The one channel between steps

Steps write three things into the notes of a run and read one of them back: the version that was
taken from a log. The labels and the missed files are written only. Nothing of this is a matter of
what the rules ask for, so it holds of every list of scenarios.

Comparing two runs step by step is not needed for it. The notes that a run starts with can be taken
away but for their version (`Notes.append_showing`), and the run then comes to the same and leaves
what it has added (`runScenarios_onto`). Two runs that start with the same version are thus both that
one run, each with its own labels and missed files in front. A run that breaks off comes to no
result, but it has added the same to the notes by then (`notesAfterScenarios_onto`).

## Theorems

* `runScenarios_onto`: A run of scenarios with other notes before its own.
* `notesAfterScenarios_onto`: The notes that a run leaves, with others before them.
* `version_only_channel`: Two runs with the same version come to the same and add the same.
-/

namespace Assay

open Notes

section Onto

variable {b : Brief} {m n : Notes}

/-- A scenario hands on notes that show the same version with others before them. -/
theorem Notes.Shows.scenarioRun {s : Scenario} {r : ScenarioResult} {n' : Notes} (h : m.Shows n)
    (hrun : s.run b n = .ok (r, n')) : m.Shows n' :=
  h.entries (entries_of_scenarioRun hrun)

/-- The results of scenarios are the same with other notes before, and so is what they add. -/
theorem runScenarios_onto {scenarios : List Scenario} (h : m.Shows n) :
    runScenarios b (m ++ n) scenarios = m.onto <$> runScenarios b n scenarios := by
  induction scenarios generalizing n with
  | nil => rfl
  | cons s rest ih =>
      have hscenario : s.run b (m ++ n) = m.onto <$> s.run b n := s.run_onto (Or.inl h) b
      rcases hrun : s.run b n with f | ⟨r, n'⟩
      · rw [runScenarios, runScenarios, hscenario, hrun]
        rfl
      · -- The rest starts with what the scenario leaves, and with the same notes before it.
        have hrest : runScenarios b (m ++ n') rest = m.onto <$> runScenarios b n' rest :=
          ih (h.scenarioRun hrun)
        rw [hrun] at hscenario
        rw [runScenarios_cons_of_ok hrun, runScenarios_cons_of_ok hscenario, hrest]
        cases runScenarios b n' rest <;> rfl

/-- The notes that steps leave are the same with other notes before, also where the steps break
    off. -/
theorem notesAfterSteps_onto {steps : List Step} (h : m.Shows n) :
    notesAfterSteps b (m ++ n) steps = m ++ notesAfterSteps b n steps := by
  induction steps generalizing n with
  | nil => rfl
  | cons s rest ih =>
      have hstep : s.run b (m ++ n) = m.onto <$> s.run b n := Step.run_onto (Or.inl h) b
      rcases hrun : s.run b n with f | ⟨r, n'⟩
      · rw [hrun] at hstep
        simp only [notesAfterSteps, hstep, hrun, Functor.map, Except.map]
      · -- After the step the version that is shown is still that of the later notes.
        have hshows : m.Shows n' := h.entries (entries_of_stepRun hrun)
        rw [hrun] at hstep
        simp only [notesAfterSteps, hstep, hrun, Functor.map, Except.map, onto]
        by_cases hp : r.status = .passed
        · simp only [hp, if_true, ih hshows]
        · simp only [hp, if_false]

/-- The notes that scenarios leave are the same with other notes before, also where one of them
    breaks off. -/
theorem notesAfterScenarios_onto {scenarios : List Scenario} (h : m.Shows n) :
    notesAfterScenarios b (m ++ n) scenarios = m ++ notesAfterScenarios b n scenarios := by
  induction scenarios generalizing n with
  | nil => rfl
  | cons s rest ih =>
      have hscenario : s.run b (m ++ n) = m.onto <$> s.run b n := s.run_onto (Or.inl h) b
      rcases hrun : s.run b n with f | ⟨r, n'⟩
      · -- There is no result here, so what the scenario adds is asked of its steps.
        have hbroken : s.notesAfter b (m ++ n) = m ++ s.notesAfter b n := notesAfterSteps_onto h
        rw [hrun] at hscenario
        simp only [notesAfterScenarios, hscenario, hrun, Functor.map, Except.map, hbroken]
      · rw [hrun] at hscenario
        simp only [notesAfterScenarios, hscenario, hrun, Functor.map, Except.map, onto]
        exact ih (h.scenarioRun hrun)

end Onto

section Channel

variable (b : Brief) (n : Notes) (scenarios : List Scenario)

/-- Any notes show the version that is shown without the rest of them. -/
theorem Notes.shows_showing : n.Shows (showing n.evidenceVersion) := by
  change (n ++ showing n.evidenceVersion).evidenceVersion = n.evidenceVersion
  rw [append_showing]

/-- A run is the run from its version alone, with the notes it starts with before the others. -/
theorem runScenarios_eq_onto : runScenarios b n scenarios =
    n.onto <$> runScenarios b (showing n.evidenceVersion) scenarios := by
  rw [← runScenarios_onto n.shows_showing, append_showing]

theorem notesAfterScenarios_eq_append : notesAfterScenarios b n scenarios =
    n ++ notesAfterScenarios b (showing n.evidenceVersion) scenarios := by
  rw [← notesAfterScenarios_onto n.shows_showing, append_showing]

end Channel

/-- Two runs of the same scenarios, for the same brief and from notes that show the same version, come
    to the same record or break off on the same fault. Whatever they come to, they add the same labels
    and the same missed files to the notes that they start with, and the same version is shown at the
    end. -/
theorem version_only_channel {b : Brief} {n n' : Notes}
    (h : n.evidenceVersion = n'.evidenceVersion) (scenarios : List Scenario) :
    ((∃ f, runAll b n scenarios = .error f ∧ runAll b n' scenarios = .error f) ∨
        ∃ record, runAll b n scenarios = .ok (record, notesAfterScenarios b n scenarios) ∧
          runAll b n' scenarios = .ok (record, notesAfterScenarios b n' scenarios)) ∧
      ∃ labels missed version,
        notesAfterScenarios b n scenarios =
            ⟨n.labels ++ labels, n.missingFiles ++ missed, version⟩ ∧
          notesAfterScenarios b n' scenarios =
            ⟨n'.labels ++ labels, n'.missingFiles ++ missed, version⟩ := by
  have hrun := runScenarios_eq_onto b n scenarios
  have hrun' := runScenarios_eq_onto b n' scenarios
  have hleft := notesAfterScenarios_eq_append b n scenarios
  have hleft' := notesAfterScenarios_eq_append b n' scenarios
  -- Both runs are the one from the version that they share.
  rw [← h] at hrun' hleft'
  constructor
  · rcases hshared : runScenarios b (showing n.evidenceVersion) scenarios with f | ⟨results, added⟩
    · rw [hshared] at hrun hrun'
      exact Or.inl ⟨f, runAll_eq_error_iff.mpr hrun, runAll_eq_error_iff.mpr hrun'⟩
    · rw [hshared] at hrun hrun'
      have hnotes := notesAfterScenarios_of_ok hrun
      have hnotes' := notesAfterScenarios_of_ok hrun'
      rw [hnotes, hnotes']
      exact Or.inr ⟨⟨results⟩, runAll_eq_ok_iff.mpr hrun, runAll_eq_ok_iff.mpr hrun'⟩
  · refine ⟨_, _, _, hleft, ?_⟩
    rw [hleft']
    change Notes.mk _ _ (if _ then n'.evidenceVersion else _) = Notes.mk _ _ (if _ then _ else _)
    rw [h]

/-- A scenario that misses a file and one that compares the version of the notes. -/
theorem taken_run : (runAll .ofLog .taken [.asking, .borrowing]).toOption.map
      (fun p => (p.1.scenarios.map fun r => r.steps.map StepResult.status, p.2)) =
    some ([[.passed, .failed, .skipped], [.passed]],
      ⟨["missing-file-a", "missing-file-README.md"], ["a", "README.md"], "v1.30.1"⟩) := by
  decide +kernel

theorem version_only_channel_of_taken :
    Notes.taken.evidenceVersion = (showing "v1.30.1").evidenceVersion ∧ ∃ record,
      (record.scenarios.map fun r => r.steps.map StepResult.status) =
          [[.passed, .failed, .skipped], [.passed]] ∧
        runAll .ofLog .taken [.asking, .borrowing] = .ok (record,
            ⟨["missing-file-a", "missing-file-README.md"], ["a", "README.md"], "v1.30.1"⟩) ∧
          runAll .ofLog (showing "v1.30.1") [.asking, .borrowing] =
            .ok (record, ⟨["missing-file-README.md"], ["README.md"], "v1.30.1"⟩) := by
  have hversion : Notes.taken.evidenceVersion = (showing "v1.30.1").evidenceVersion := rfl
  rcases exists_of_map_toOption taken_run with ⟨⟨record, final⟩, hfirst, hresult⟩
  rw [Prod.mk.injEq] at hresult
  rcases hresult with ⟨hstatuses, rfl⟩
  refine ⟨hversion, record, hstatuses, hfirst, ?_⟩
  rcases version_only_channel (b := .ofLog) hversion [.asking, .borrowing] with
    ⟨⟨f, hf, -⟩ | ⟨record', hrecord, hsecond⟩, labels, missed, version, hleft, hleft'⟩
  · rw [hf] at hfirst
    cases hfirst
  · rw [hfirst, Except.ok.injEq, Prod.mk.injEq] at hrecord
    -- What the first run has added is what it came to without what it started with.
    have hadded := hrecord.2.trans hleft
    simp only [Notes.taken, List.cons_append, List.nil_append, Notes.mk.injEq, List.cons.injEq,
      true_and] at hadded
    rw [hsecond, hleft', ← hadded.1, ← hadded.2.1, ← hadded.2.2, ← hrecord.1]
    rfl

end Assay
