import Assay.Proofs.Notes

/-!
# The course of a scenario

A scenario goes through its steps in order until one of them is not passed, and what it records has
the shape of that: steps that were passed, then at most one that failed or could not be applied, then
steps that were skipped. `Course` says so, and it says what the halt is worth: the notes after the
scenario are those after the steps that it came to, run one by one without any halt (`runEach`). The
steps behind the halt could as well not be there.

A step can write notes and fail all the same, and a step can break off, in which case there is no
result to read the notes from. `notesAfterSteps` therefore says what notes are left on every path,
and whatever the path is they have only grown. The brief is not among what a step hands on, so
whatever is run after a scenario is run for the same submission and against the same releases.

## Main definitions

* `Notes.GrowsInto`: Notes from which nothing has been taken back.
* `runEach`: The run of all of some steps, whatever comes of each.
* `notesAfterSteps`, `notesAfterScenarios`: The notes that a run leaves, also where it breaks off.
* `Course`: How the steps of a scenario ran.

## Theorems

* `Notes.growsInto_of_entries`: Notes grow with every entry.
* `course_of_runSteps`: The results of steps have the shape of a course.
* `exists_break_of_runSteps`: Steps that break off leave the notes of the passed steps before.
* `scenario_course`: What a scenario records and what notes it leaves.
-/

namespace Assay

/-! ## Notes that grow -/

namespace Notes

/-- Notes that have grown into others: every label and every missed file stands where it stood, and a
    version is shown where one was. -/
structure GrowsInto (n n' : Notes) : Prop where
  labels : n.labels <+: n'.labels
  missingFiles : n.missingFiles <+: n'.missingFiles
  evidenceVersion : n.evidenceVersion ≠ "" → n'.evidenceVersion ≠ ""

theorem GrowsInto.refl (n : Notes) : n.GrowsInto n where
  labels := List.prefix_rfl
  missingFiles := List.prefix_rfl
  evidenceVersion := id

theorem GrowsInto.trans {n m n' : Notes} (h : n.GrowsInto m) (h' : m.GrowsInto n') :
    n.GrowsInto n' where
  labels := h.labels.trans h'.labels
  missingFiles := h.missingFiles.trans h'.missingFiles
  evidenceVersion := fun hn => h'.evidenceVersion (h.evidenceVersion hn)

/-- A mark is added at the end, and a version that is noted is one. -/
theorem Entry.growsInto {b : Brief} {n n' : Notes} (h : Entry b n n') : n.GrowsInto n' := by
  cases h with
  | mark m _ => exact ⟨List.prefix_append _ _, List.prefix_append _ _, id⟩
  | version v hv => exact ⟨List.prefix_rfl, List.prefix_rfl, fun _ => hv⟩

theorem growsInto_of_entries {b : Brief} {n n' : Notes} (h : Entries b n n') : n.GrowsInto n' := by
  induction h with
  | refl => exact .refl n
  | tail _ hlast ih => exact ih.trans hlast.growsInto

end Notes

open Notes

/-! ## Notes that are left -/

section Left

variable (b : Brief)

/-- The notes that steps leave, up to the one that halts them or breaks off. -/
def notesAfterSteps : Notes → List Step → Notes
  | n, [] => n
  | n, s :: rest =>
    match s.run b n with
    | .error _ => n
    | .ok (result, notes) =>
      if result.status = .passed then notesAfterSteps notes rest else notes

/-- The notes that a scenario leaves. -/
def Scenario.notesAfter (n : Notes) (s : Scenario) : Notes :=
  notesAfterSteps b n s.steps

/-- The notes that scenarios leave, up to the one that breaks off. -/
def notesAfterScenarios : Notes → List Scenario → Notes
  | n, [] => n
  | n, s :: rest =>
    match s.run b n with
    | .error _ => s.notesAfter b n
    | .ok (_, notes) => notesAfterScenarios notes rest

end Left

section Growth

variable {b : Brief}

/-- Whatever becomes of some steps, the notes that they leave are entries to those before. -/
theorem entries_notesAfterSteps (steps : List Step) (n : Notes) :
    Entries b n (notesAfterSteps b n steps) := by
  induction steps generalizing n with
  | nil => exact .refl
  | cons s rest ih =>
      unfold notesAfterSteps
      rcases hrun : s.run b n with f | ⟨r, m⟩
      · exact .refl
      · have hstep : Entries b n m := entries_of_stepRun hrun
        by_cases hp : r.status = .passed
        · simp only [hp, if_true]
          exact hstep.trans (ih m)
        · simp only [hp, if_false]
          exact hstep

/-- Steps that come to results leave the notes that come with these. -/
theorem notesAfterSteps_of_ok {steps : List Step} {n final : Notes} {results : List StepResult}
    (h : runSteps b n steps = .ok (results, final)) : notesAfterSteps b n steps = final := by
  induction steps generalizing n results with
  | nil =>
      rw [runSteps, Except.ok.injEq, Prod.mk.injEq] at h
      exact h.2
  | cons s rest ih =>
      rcases runSteps_cons_eq_ok_iff.mp h with ⟨r, m, hrun, ⟨hp, below, hbelow, -⟩ | ⟨hp, -, rfl⟩⟩
      · simp only [notesAfterSteps, hrun, hp, if_true]
        exact ih hbelow
      · simp only [notesAfterSteps, hrun, hp, if_false]

theorem Scenario.notesAfter_of_ok {s : Scenario} {n final : Notes} {r : ScenarioResult}
    (h : s.run b n = .ok (r, final)) : s.notesAfter b n = final := by
  rcases Scenario.run_eq_ok_iff.mp h with ⟨results, hresults, -⟩
  exact notesAfterSteps_of_ok hresults

/-- Scenarios that come to results leave the notes that come with these. -/
theorem notesAfterScenarios_of_ok {scenarios : List Scenario} {n final : Notes}
    {results : List ScenarioResult} (h : runScenarios b n scenarios = .ok (results, final)) :
    notesAfterScenarios b n scenarios = final := by
  induction scenarios generalizing n results with
  | nil =>
      rw [runScenarios, Except.ok.injEq, Prod.mk.injEq] at h
      exact h.2
  | cons s rest ih =>
      rcases runScenarios_cons_eq_ok_iff.mp h with ⟨r, m, below, hrun, hbelow, -⟩
      simp only [notesAfterScenarios, hrun]
      exact ih hbelow

end Growth

/-! ## Steps without a halt -/

/-- The run of all of some steps in order, whatever comes of each. -/
def runEach (b : Brief) : Notes → List Step → Except Fault (List StepResult × Notes)
  | n, [] => .ok ([], n)
  | n, s :: rest => do
    let (result, notes) ← s.run b n
    let (results, final) ← runEach b notes rest
    return (result :: results, final)

section Courses

variable {b : Brief} {n final : Notes}

theorem runEach_cons {s : Step} {rest : List Step} {r : StepResult} {m : Notes}
    {results : List StepResult} (hrun : s.run b n = .ok (r, m))
    (hrest : runEach b m rest = .ok (results, final)) :
    runEach b n (s :: rest) = .ok (r :: results, final) := by
  simp only [runEach, hrun, ok_bind, hrest, pure_eq_ok]

/-! ## Courses -/

/-- How steps ran from some notes to others: which of the results are of steps that were passed, which
    one is of the step that halted the others, and which are of steps that were skipped. -/
structure Course (b : Brief) (n : Notes) (steps : List Step) (passed : List StepResult)
    (halting : Option StepResult) (skipped : List StepResult) (final : Notes) : Prop where
  /-- There is a result for each of the steps, in order and under its text. -/
  texts : (passed ++ halting.toList ++ skipped).map StepResult.text = steps.map Step.text
  are_passed : ∀ r ∈ passed, r.status = .passed
  is_halting : ∀ r ∈ halting, r.status = .failed ∨ r.status = .notApplicable
  are_skipped : ∀ r ∈ skipped, r.status = .skipped
  /-- Nothing is skipped where no step halted the others. -/
  complete : halting = none → skipped = []
  /-- There is a message on the step that failed and on no other. -/
  message : ∀ r ∈ passed ++ halting.toList ++ skipped, r.message ≠ none ↔ r.status = .failed
  /-- The steps up to the halt come to the same results and notes on their own, one by one. -/
  ran : runEach b n (steps.take (passed ++ halting.toList).length) =
    .ok (passed ++ halting.toList, final)

theorem Step.message_result_iff (s : Step) (a : Answer) :
    (s.result a).message ≠ none ↔ (s.result a).status = .failed := by
  cases a <;> simp [Step.result, Answer.message?, Answer.status]

theorem Step.status_result_of_not_passed {s : Step} {a : Answer} (h : (s.result a).status ≠ .passed) :
    (s.result a).status = .failed ∨ (s.result a).status = .notApplicable := by
  cases a with
  | passed => exact absurd rfl h
  | failed f => exact Or.inl rfl
  | notApplicable => exact Or.inr rfl

theorem Course.nil (b : Brief) (n : Notes) : Course b n [] [] none [] n where
  texts := rfl
  are_passed := fun _ hr => absurd hr List.not_mem_nil
  is_halting := fun _ hr => absurd hr (Option.not_mem_none _)
  are_skipped := fun _ hr => absurd hr List.not_mem_nil
  complete := fun _ => rfl
  message := fun _ hr => absurd hr List.not_mem_nil
  ran := rfl

/-- A step that is passed comes before the course of the rest. -/
theorem Course.cons {s : Step} {rest : List Step} {a : Answer} {m : Notes}
    {passed skipped : List StepResult} {halting : Option StepResult}
    (hrun : s.run b n = .ok (s.result a, m)) (hp : (s.result a).status = .passed)
    (h : Course b m rest passed halting skipped final) :
    Course b n (s :: rest) (s.result a :: passed) halting skipped final where
  texts := congrArg (s.text :: ·) h.texts
  are_passed := List.forall_mem_cons.mpr ⟨hp, h.are_passed⟩
  is_halting := h.is_halting
  are_skipped := h.are_skipped
  complete := h.complete
  message := List.forall_mem_cons.mpr ⟨s.message_result_iff a, h.message⟩
  ran := runEach_cons hrun h.ran

/-- A step that is not passed halts the rest. -/
theorem Course.halt {s : Step} {rest : List Step} {a : Answer}
    (hrun : s.run b n = .ok (s.result a, final)) (hp : (s.result a).status ≠ .passed) :
    Course b n (s :: rest) [] (some (s.result a)) (rest.map Step.skip) final where
  texts := by
    have hskip : (rest.map Step.skip).map StepResult.text = rest.map Step.text := by
      rw [List.map_map]
      rfl
    exact congrArg (s.text :: ·) hskip
  are_passed := fun _ hr => absurd hr List.not_mem_nil
  is_halting := by
    intro r hr
    rw [Option.mem_some_iff] at hr
    rw [← hr]
    exact Step.status_result_of_not_passed hp
  are_skipped := by
    rw [List.forall_mem_map]
    exact fun _ _ => rfl
  complete := fun hnone => absurd hnone (Option.some_ne_none _)
  message := by
    -- Skipped steps have no message and have not failed.
    have hrest : ∀ r ∈ rest.map Step.skip, r.message ≠ none ↔ r.status = .failed := by
      rw [List.forall_mem_map]
      intro step _
      simp only [Step.skip, ne_eq, not_true_eq_false, reduceCtorEq]
    exact List.forall_mem_cons.mpr ⟨s.message_result_iff a, hrest⟩
  ran := runEach_cons hrun rfl

/-- The results of steps have the shape of a course. -/
theorem course_of_runSteps {steps : List Step} {results : List StepResult}
    (h : runSteps b n steps = .ok (results, final)) :
    ∃ passed halting skipped, results = passed ++ halting.toList ++ skipped ∧
      Course b n steps passed halting skipped final := by
  induction steps generalizing n results with
  | nil =>
      rw [runSteps, Except.ok.injEq, Prod.mk.injEq] at h
      rcases h with ⟨rfl, rfl⟩
      exact ⟨[], none, [], rfl, .nil b n⟩
  | cons s rest ih =>
      rcases runSteps_cons_eq_ok_iff.mp h with ⟨r, m, hrun, hcase⟩
      rcases Step.run_eq_ok_iff.mp hrun with ⟨a, -, rfl⟩
      rcases hcase with ⟨hp, below, hbelow, rfl⟩ | ⟨hp, rfl, rfl⟩
      -- A step that is passed extends the course of the rest, and any other is a course by itself.
      · rcases ih hbelow with ⟨passed, halting, skipped, rfl, hcourse⟩
        exact ⟨s.result a :: passed, halting, skipped, rfl, hcourse.cons hrun hp⟩
      · exact ⟨[], some (s.result a), rest.map Step.skip, rfl, .halt hrun hp⟩

/-- Steps that break off leave the notes of the passed steps before the one that does. -/
theorem exists_break_of_runSteps {steps : List Step} {f : Fault}
    (h : runSteps b n steps = .error f) : ∃ before step after results,
      steps = before ++ step :: after ∧
        runEach b n before = .ok (results, notesAfterSteps b n steps) ∧
          (∀ r ∈ results, r.status = .passed) ∧
            step.run b (notesAfterSteps b n steps) = .error f := by
  induction steps generalizing n with
  | nil => cases h
  | cons s rest ih =>
      rcases hrun : s.run b n with f' | ⟨r, m⟩
      · -- The first step breaks off itself, with no passed step before it.
        have hleft : notesAfterSteps b n (s :: rest) = n := by
          simp only [notesAfterSteps, hrun]
        have hfault : f' = f := by
          rw [runSteps, hrun, error_bind] at h
          exact Except.error.inj h
        rw [hleft]
        refine ⟨[], s, rest, [], rfl, rfl, fun _ hr => absurd hr List.not_mem_nil, ?_⟩
        rw [hrun, hfault]
      · -- A step that is not passed ends the run without a break, so this one is passed.
        have hp : r.status = .passed := by
          by_contra hp
          simp only [runSteps, hrun, ok_bind, hp, if_false, pure_eq_ok, reduceCtorEq] at h
        have hleft : notesAfterSteps b n (s :: rest) = notesAfterSteps b m rest := by
          simp only [notesAfterSteps, hrun, hp, if_true]
        have hrest : runSteps b m rest = .error f := by
          simpa only [runSteps, hrun, ok_bind, hp, if_true, bind_eq_error_iff, pure_eq_ok,
            reduceCtorEq, and_false, exists_false, or_false] using h
        rcases ih hrest with ⟨before, step, after, results, rfl, hbefore, hpassed, hstep⟩
        rw [hleft]
        exact ⟨s :: before, step, after, r :: results, rfl, runEach_cons hrun hbefore,
          List.forall_mem_cons.mpr ⟨hp, hpassed⟩, hstep⟩

end Courses

/-! ## Scenarios -/

/-- What is run after a scenario goes on with its notes, and for the same brief. -/
theorem runScenarios_cons_of_ok {b : Brief} {n final : Notes} {s : Scenario} {r : ScenarioResult}
    (h : s.run b n = .ok (r, final)) (rest : List Scenario) :
    runScenarios b n (s :: rest) =
      (fun below => (r :: below.1, below.2)) <$> runScenarios b final rest := by
  simp only [runScenarios, h, ok_bind]
  cases runScenarios b final rest <;> rfl

/-- On every path a scenario leaves notes that have only grown. Where it comes to a result, this is
    the result of a course through its steps, and what is run after it goes on with the notes at the
    end of that course and for the same brief. Where it breaks off, the notes are those of the passed
    steps before the one that breaks off. -/
theorem scenario_course (b : Brief) (n : Notes) (s : Scenario) :
    n.GrowsInto (s.notesAfter b n) ∧
      (∀ r final, s.run b n = .ok (r, final) →
        r.name = s.name ∧ r.description = s.description ∧ final = s.notesAfter b n ∧
          (∃ passed halting skipped, r.steps = passed ++ halting.toList ++ skipped ∧
            Course b n s.steps passed halting skipped final) ∧
          ∀ rest, runScenarios b n (s :: rest) =
            (fun below => (r :: below.1, below.2)) <$> runScenarios b final rest) ∧
      ∀ f, s.run b n = .error f → ∃ before step after results,
        s.steps = before ++ step :: after ∧
          runEach b n before = .ok (results, s.notesAfter b n) ∧
            (∀ r ∈ results, r.status = .passed) ∧ step.run b (s.notesAfter b n) = .error f := by
  refine ⟨growsInto_of_entries (entries_notesAfterSteps s.steps n), ?_, ?_⟩
  · intro r final h
    have hnotes : final = s.notesAfter b n := (Scenario.notesAfter_of_ok h).symm
    have hnext := runScenarios_cons_of_ok h
    rcases Scenario.run_eq_ok_iff.mp h with ⟨results, hresults, rfl⟩
    exact ⟨rfl, rfl, hnotes, course_of_runSteps hresults, hnext⟩
  · intro f h
    have hsteps : runSteps b n s.steps = .error f := by
      simpa only [Scenario.run, bind_eq_error_iff, pure_eq_ok, reduceCtorEq, and_false, exists_false,
        or_false] using h
    exact exists_break_of_runSteps hsteps

/-- A scenario that asks for files, for one that has to be noted where it is not there, and for the
    same file again. -/
def Scenario.asking : Scenario :=
  ⟨"the README is there", "the submission must include the required files",
    [⟨"the files in the submission", .filesGiven⟩,
      ⟨"\"README.md\" is included in its file list", .fileListed "README.md"⟩,
      ⟨"a \"README.md\" file", .fileGiven "README.md"⟩]⟩

/-- The brief for a submission of a log alone. -/
def Brief.ofLog : Brief :=
  .ofSubmission ⟨0, "", "", "", "", [⟨"v1.30/p/e2e.log", "", none⟩], [], [], []⟩ ⟨[]⟩ ⟨0, []⟩ "v1.30" 2

/-- Notes with a label, a missed file and a version. -/
def Notes.taken : Notes := ⟨["missing-file-a"], ["a"], "v1.30.1"⟩

/-- The second step fails and writes notes all the same. -/
theorem asking_run : (Scenario.asking.run .ofLog .taken).toOption.map
      (fun p => (p.1.steps.map StepResult.status, p.2)) =
    some ([.passed, .failed, .skipped],
      ⟨["missing-file-a", "missing-file-README.md"], ["a", "README.md"], "v1.30.1"⟩) := by
  decide +kernel

theorem scenario_course_of_asking : ∃ r final, Scenario.asking.run .ofLog .taken = .ok (r, final) ∧
    r.steps.map StepResult.status = [.passed, .failed, .skipped] ∧
      final.missingFiles = ["a", "README.md"] ∧ Notes.taken.GrowsInto final ∧
        ∃ passed halting skipped, r.steps = passed ++ halting.toList ++ skipped ∧
          Course .ofLog .taken Scenario.asking.steps passed halting skipped final := by
  rcases exists_of_map_toOption asking_run with ⟨⟨r, final⟩, hrun, hresult⟩
  rcases scenario_course .ofLog .taken .asking with ⟨hgrown, hok, -⟩
  rcases hok r final hrun with ⟨-, -, hnotes, hcourse, -⟩
  rw [← hnotes] at hgrown
  rw [Prod.mk.injEq] at hresult
  exact ⟨r, final, hrun, hresult.1, congrArg Notes.missingFiles hresult.2, hgrown, hcourse⟩

end Assay
