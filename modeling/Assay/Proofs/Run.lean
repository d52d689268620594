import Assay.Proofs.Answer
import Assay.Proofs.List
import Assay.Review.Record

/-!
# Runs of scenarios

What the run of a scenario, and of many, comes to in terms of the answers of the single checks.

A run without a failed step is `Clear`: each step was passed, up to one that could not be applied.
A run breaks off only at a check that does, and since no fault depends on the notes, a scenario
whose first step breaks off takes every run down with it, wherever in the run it stands.

## Main definitions

* `Clear`: Steps that come to no finding.
* `Brief.CarriesTo`: What does not fail under one brief is the same under another.
* `notesAfterClear`: The notes that scenarios leave, if none of their steps fails.

## Theorems

* `clear_of_run`: A run without a failed step is clear.
* `runScenarios_append_eq_ok_iff`: A run of scenarios before others goes on with what they leave.
* `forall₂_run_of_runScenarios`: A run records its scenarios in order.
* `exists_run_of_mem`: A run of many scenarios runs each of them.
* `breaksOff_of_runScenarios_error`: A run breaks off at a check that does.
* `runScenarios_error_of_mem`: A first step that breaks off breaks the run off.
* `runScenarios_congr`: Runs agree where the answers do.
* `runAll_of_carriesTo`: A run without a failed step is the same where answers carry over.
-/

namespace Assay

/-- Steps that come to no finding: each is passed, up to one that cannot be applied. -/
def Clear (b : Brief) : Notes → List Step → Prop
  | _, [] => True
  | n, s :: rest => s.check.Waived b n.evidenceVersion ∨
      ∃ n', s.check.answer b n = .ok (.passed, n') ∧ Clear b n' rest

/-! ## Steps -/

theorem Step.run_eq_ok_iff {b : Brief} {n n' : Notes} {s : Step} {r : StepResult} :
    s.run b n = .ok (r, n') ↔ ∃ a, s.check.answer b n = .ok (a, n') ∧ s.result a = r := by
  simp only [Step.run, bind_eq_ok_iff, pure_eq_ok, Except.ok.injEq, Prod.mk.injEq, Prod.exists]
  constructor
  · rintro ⟨a, m, ha, hr, rfl⟩
    exact ⟨a, ha, hr⟩
  · rintro ⟨a, ha, hr⟩
    exact ⟨a, n', ha, hr, rfl⟩

theorem Step.run_eq_error_iff {b : Brief} {n : Notes} {s : Step} {f : Fault} :
    s.run b n = .error f ↔ s.check.BreaksOff b f := by
  simp [Step.run, bind_eq_error_iff, Check.answer_error_iff]

theorem Step.result_status (s : Step) (a : Answer) : (s.result a).status = a.status := rfl

theorem Answer.status_eq_passed_iff {a : Answer} : a.status = .passed ↔ a = .passed := by
  cases a <;> simp [Answer.status]

theorem runSteps_cons_eq_ok_iff {b : Brief} {n final : Notes} {s : Step} {rest : List Step}
    {results : List StepResult} :
    runSteps b n (s :: rest) = .ok (results, final) ↔ ∃ r m, s.run b n = .ok (r, m) ∧
      ((r.status = .passed ∧ ∃ below, runSteps b m rest = .ok (below, final) ∧ results = r :: below) ∨
        (r.status ≠ .passed ∧ results = r :: rest.map Step.skip ∧ final = m)) := by
  simp only [runSteps, bind_eq_ok_iff, Prod.exists]
  refine exists_congr fun r => exists_congr fun m => and_congr_right fun _ => ?_
  -- Only a passed step lets the next one run.
  by_cases h : r.status = .passed
  · simp only [h, if_true, true_and, ne_eq, not_true_eq_false, false_and, or_false, bind_eq_ok_iff,
      pure_eq_ok, Except.ok.injEq, Prod.mk.injEq, Prod.exists]
    constructor
    · rintro ⟨below, m', hb, hr, rfl⟩
      exact ⟨below, hb, hr.symm⟩
    · rintro ⟨below, hb, hr⟩
      exact ⟨below, final, hb, hr.symm, rfl⟩
  · simp only [h, if_false, false_and, ne_eq, not_false_eq_true, true_and, false_or, pure_eq_ok,
      Except.ok.injEq, Prod.mk.injEq]
    exact and_congr eq_comm eq_comm

/-- Behind a step that is passed the others run on, with the notes that it leaves. -/
theorem runSteps_cons_of_passed {b : Brief} {n m final : Notes} {s : Step} {rest : List Step}
    {below : List StepResult} (h : s.check.answer b n = .ok (.passed, m))
    (hrest : runSteps b m rest = .ok (below, final)) :
    runSteps b n (s :: rest) = .ok (s.result .passed :: below, final) :=
  runSteps_cons_eq_ok_iff.mpr
    ⟨_, m, Step.run_eq_ok_iff.mpr ⟨_, h, rfl⟩, Or.inl ⟨rfl, below, hrest, rfl⟩⟩

/-- Behind a step that fails the others are not come to. -/
theorem runSteps_cons_of_failed {b : Brief} {n m : Notes} {s : Step} {f : Finding}
    (h : s.check.answer b n = .ok (.failed f, m)) (rest : List Step) :
    runSteps b n (s :: rest) = .ok (s.result (.failed f) :: rest.map Step.skip, m) :=
  runSteps_cons_eq_ok_iff.mpr
    ⟨_, m, Step.run_eq_ok_iff.mpr ⟨_, h, rfl⟩, Or.inr ⟨StepStatus.noConfusion, rfl, rfl⟩⟩

/-- Steps that ran without a failed one are clear. -/
theorem clear_of_runSteps {b : Brief} {steps : List Step} {n final : Notes}
    {results : List StepResult} (h : runSteps b n steps = .ok (results, final))
    (hf : ∀ r ∈ results, r.status ≠ .failed) : Clear b n steps := by
  induction steps generalizing n results with
  | nil => trivial
  | cons s rest ih =>
      rcases runSteps_cons_eq_ok_iff.mp h with ⟨r, m, hrun, hcase⟩
      rcases Step.run_eq_ok_iff.mp hrun with ⟨a, ha, rfl⟩
      rw [Step.result_status] at hcase
      rcases hcase with ⟨hp, below, hbelow, rfl⟩ | ⟨hp, rfl, rfl⟩
      · rw [Answer.status_eq_passed_iff.mp hp] at ha
        exact Or.inr ⟨m, ha, ih hbelow fun r hr => hf r (List.mem_cons_of_mem _ hr)⟩
      · -- A step that is not passed and has not failed cannot be applied, and the rest is skipped.
        cases a with
        | passed => exact absurd rfl hp
        | failed f => exact absurd rfl (hf _ List.mem_cons_self)
        | notApplicable => exact Or.inl (Check.answer_notApplicable_iff.mp ⟨_, ha⟩)

theorem breaksOff_of_runSteps_error {b : Brief} {steps : List Step} {n : Notes} {f : Fault}
    (h : runSteps b n steps = .error f) : ∃ s ∈ steps, s.check.BreaksOff b f := by
  induction steps generalizing n with
  | nil => cases h
  | cons s rest ih =>
      rcases bind_eq_error_iff.mp h with hs | ⟨⟨r, m⟩, _, hr⟩
      · exact ⟨s, List.mem_cons_self, Step.run_eq_error_iff.mp hs⟩
      · -- Only a passed step is followed by others, and only those can break off now.
        by_cases hp : r.status = .passed
        · simp only [hp, if_true, bind_eq_error_iff, pure_eq_ok, reduceCtorEq, and_false,
            exists_false, or_false] at hr
          rcases ih hr with ⟨s', hs', hb⟩
          exact ⟨s', List.mem_cons_of_mem _ hs', hb⟩
        · simp only [hp, if_false, pure_eq_ok, reduceCtorEq] at hr

theorem runSteps_error_of_head {b : Brief} {s : Step} {rest : List Step} {f : Fault}
    (h : s.check.BreaksOff b f) (n : Notes) : runSteps b n (s :: rest) = .error f := by
  rw [runSteps, Step.run_eq_error_iff.mpr h, error_bind]

theorem runSteps_congr {b b' : Brief} {steps : List Step}
    (h : ∀ s ∈ steps, ∀ n, s.check.answer b n = s.check.answer b' n) (n : Notes) :
    runSteps b n steps = runSteps b' n steps := by
  induction steps generalizing n with
  | nil => rfl
  | cons s rest ih =>
      have hs : s.run b n = s.run b' n := by
        simp only [Step.run, h s List.mem_cons_self n]
      have hrest := ih fun s' hs' => h s' (List.mem_cons_of_mem _ hs')
      simp only [runSteps, hs, hrest]

/-- What does not fail under one brief is the same under another. -/
def Brief.CarriesTo (b b' : Brief) : Prop :=
  ∀ c n a m, Check.answer b n c = .ok (a, m) → a.status ≠ .failed → Check.answer b' n c = .ok (a, m)

/-- Steps that ran without a failed one run the same where answers carry over. -/
theorem runSteps_of_carriesTo {b b' : Brief} (h : b.CarriesTo b') {steps : List Step} {n final : Notes}
    {results : List StepResult} (hrun : runSteps b n steps = .ok (results, final))
    (hf : ∀ r ∈ results, r.status ≠ .failed) : runSteps b' n steps = .ok (results, final) := by
  -- Both runs stop at the same step with the same notes, since none of those they come to has failed.
  induction steps generalizing n results with
  | nil => exact hrun
  | cons s rest ih =>
      rcases runSteps_cons_eq_ok_iff.mp hrun with ⟨r, m, hstep, hcase⟩
      rcases Step.run_eq_ok_iff.mp hstep with ⟨a, hanswer, rfl⟩
      have hsame : (s.result a).status ≠ .failed → s.run b' n = .ok (s.result a, m) := fun hstatus =>
        Step.run_eq_ok_iff.mpr ⟨a, h s.check n a m hanswer hstatus, rfl⟩
      rcases hcase with ⟨hpassed, below, hbelow, rfl⟩ | ⟨hpassed, rfl, rfl⟩
      · rw [List.forall_mem_cons] at hf
        exact runSteps_cons_eq_ok_iff.mpr
          ⟨_, m, hsame hf.1, Or.inl ⟨hpassed, below, ih hbelow hf.2, rfl⟩⟩
      · rw [List.forall_mem_cons] at hf
        exact runSteps_cons_eq_ok_iff.mpr ⟨_, _, hsame hf.1, Or.inr ⟨hpassed, rfl, rfl⟩⟩

/-! ## Scenarios -/

theorem Scenario.run_eq_ok_iff {b : Brief} {n n' : Notes} {s : Scenario} {r : ScenarioResult} :
    s.run b n = .ok (r, n') ↔ ∃ results, runSteps b n s.steps = .ok (results, n') ∧
      r = ⟨s.name, s.description, results⟩ := by
  simp only [Scenario.run, bind_eq_ok_iff, pure_eq_ok, Except.ok.injEq, Prod.mk.injEq, Prod.exists]
  constructor
  · rintro ⟨results, m, hr, rfl, rfl⟩
    exact ⟨results, hr, rfl⟩
  · rintro ⟨results, hr, rfl⟩
    exact ⟨results, n', hr, rfl, rfl⟩

/-- A scenario that ran without a failed step is clear. -/
theorem clear_of_run {b : Brief} {n n' : Notes} {s : Scenario} {r : ScenarioResult}
    (h : s.run b n = .ok (r, n')) (hf : ∀ step ∈ r.steps, step.status ≠ .failed) :
    Clear b n s.steps := by
  rcases Scenario.run_eq_ok_iff.mp h with ⟨results, hr, rfl⟩
  exact clear_of_runSteps hr hf

theorem runScenarios_cons_eq_ok_iff {b : Brief} {n final : Notes} {s : Scenario}
    {rest : List Scenario} {results : List ScenarioResult} :
    runScenarios b n (s :: rest) = .ok (results, final) ↔ ∃ r m below, s.run b n = .ok (r, m) ∧
      runScenarios b m rest = .ok (below, final) ∧ results = r :: below := by
  simp only [runScenarios, bind_eq_ok_iff, pure_eq_ok, Except.ok.injEq, Prod.mk.injEq, Prod.exists]
  constructor
  · rintro ⟨r, m, hr, below, m', hb, h, rfl⟩
    exact ⟨r, m, below, hr, hb, h.symm⟩
  · rintro ⟨r, m, below, hr, hb, h⟩
    exact ⟨r, m, hr, below, final, hb, h.symm, rfl⟩

/-- A run of scenarios before others goes on with the notes that they leave. -/
theorem runScenarios_append_eq_ok_iff {b : Brief} {before after : List Scenario} {n final : Notes}
    {results : List ScenarioResult} :
    runScenarios b n (before ++ after) = .ok (results, final) ↔ ∃ above m below,
      runScenarios b n before = .ok (above, m) ∧ runScenarios b m after = .ok (below, final) ∧
        results = above ++ below := by
  induction before generalizing n results with
  | nil =>
      simp only [List.nil_append, runScenarios, Except.ok.injEq, Prod.mk.injEq]
      constructor
      · intro h
        exact ⟨[], n, results, ⟨rfl, rfl⟩, h, rfl⟩
      · rintro ⟨_, _, below, ⟨rfl, rfl⟩, h, rfl⟩
        exact h
  | cons s rest ih =>
      simp only [List.cons_append, runScenarios_cons_eq_ok_iff, ih]
      constructor
      · rintro ⟨r, m, _, hr, ⟨above, m', below, habove, hbelow, rfl⟩, rfl⟩
        exact ⟨r :: above, m', below, ⟨r, m, above, hr, habove, rfl⟩, hbelow, rfl⟩
      · rintro ⟨_, m', below, ⟨r, m, above, hr, habove, rfl⟩, hbelow, rfl⟩
        exact ⟨r, m, above ++ below, hr, ⟨above, m', below, habove, hbelow, rfl⟩, rfl⟩

/-- A run records its scenarios in order, each as it ran with the notes of those before it. -/
theorem forall₂_run_of_runScenarios {b : Brief} {scenarios : List Scenario} {n final : Notes}
    {results : List ScenarioResult} (h : runScenarios b n scenarios = .ok (results, final)) :
    List.Forall₂ (fun s r => ∃ m m', s.run b m = .ok (r, m')) scenarios results := by
  induction scenarios generalizing n results with
  | nil =>
      rw [runScenarios, Except.ok.injEq, Prod.mk.injEq] at h
      rw [← h.1]
      exact .nil
  | cons s rest ih =>
      rcases runScenarios_cons_eq_ok_iff.mp h with ⟨r, m, below, hrun, hbelow, rfl⟩
      exact .cons ⟨n, m, hrun⟩ (ih hbelow)

/-- A run of many scenarios runs each of them, with the notes of those before it, and records it. -/
theorem exists_run_of_mem {b : Brief} {scenarios : List Scenario} {n final : Notes}
    {results : List ScenarioResult} (h : runScenarios b n scenarios = .ok (results, final))
    {s : Scenario} (hs : s ∈ scenarios) : ∃ r ∈ results, ∃ m m', s.run b m = .ok (r, m') :=
  exists_of_mem_left (forall₂_run_of_runScenarios h) hs

/-- A run breaks off at a check that does. -/
theorem breaksOff_of_runScenarios_error {b : Brief} {scenarios : List Scenario} {n : Notes} {f : Fault}
    (h : runScenarios b n scenarios = .error f) :
    ∃ s ∈ scenarios, ∃ step ∈ s.steps, step.check.BreaksOff b f := by
  induction scenarios generalizing n with
  | nil => cases h
  | cons t rest ih =>
      rcases bind_eq_error_iff.mp h with ht | ⟨⟨r, m⟩, _, hr⟩
      · simp only [Scenario.run, bind_eq_error_iff, pure_eq_ok, reduceCtorEq, and_false,
          exists_false, or_false] at ht
        exact ⟨t, List.mem_cons_self, breaksOff_of_runSteps_error ht⟩
      · simp only [bind_eq_error_iff, pure_eq_ok, reduceCtorEq, and_false, exists_false,
          or_false] at hr
        rcases ih hr with ⟨s, hs, hb⟩
        exact ⟨s, List.mem_cons_of_mem _ hs, hb⟩

/-- A scenario whose first step breaks off breaks the run off, whatever stands before it. -/
theorem runScenarios_error_of_mem {b : Brief} {scenarios : List Scenario} {s : Scenario}
    (hs : s ∈ scenarios) {step : Step} {rest : List Step} (hsteps : s.steps = step :: rest) {f : Fault}
    (hb : step.check.BreaksOff b f) (n : Notes) : ∃ f', runScenarios b n scenarios = .error f' := by
  cases hrun : runScenarios b n scenarios with
  | error f' => exact ⟨f', rfl⟩
  | ok result =>
      rcases result with ⟨results, final⟩
      rcases exists_run_of_mem hrun hs with ⟨r, _, m, m', hr⟩
      rcases Scenario.run_eq_ok_iff.mp hr with ⟨results, hr, _⟩
      rw [hsteps, runSteps_error_of_head hb] at hr
      cases hr

theorem runScenarios_congr {b b' : Brief} {scenarios : List Scenario}
    (h : ∀ s ∈ scenarios, ∀ step ∈ s.steps, ∀ n, step.check.answer b n = step.check.answer b' n)
    (n : Notes) : runScenarios b n scenarios = runScenarios b' n scenarios := by
  induction scenarios generalizing n with
  | nil => rfl
  | cons t rest ih =>
      have ht : t.run b n = t.run b' n := by
        simp only [Scenario.run, runSteps_congr (h t List.mem_cons_self) n]
      have hrest := ih fun s hs => h s (List.mem_cons_of_mem _ hs)
      simp only [runScenarios, ht, hrest]

theorem runScenarios_of_carriesTo {b b' : Brief} (h : b.CarriesTo b') {scenarios : List Scenario}
    {n final : Notes} {results : List ScenarioResult}
    (hrun : runScenarios b n scenarios = .ok (results, final))
    (hf : ∀ s ∈ results, ∀ r ∈ s.steps, r.status ≠ .failed) :
    runScenarios b' n scenarios = .ok (results, final) := by
  induction scenarios generalizing n results with
  | nil => exact hrun
  | cons s rest ih =>
      rcases runScenarios_cons_eq_ok_iff.mp hrun with ⟨r, m, below, hscenario, hbelow, rfl⟩
      rcases Scenario.run_eq_ok_iff.mp hscenario with ⟨steps, hsteps, rfl⟩
      rw [List.forall_mem_cons] at hf
      have hsame := Scenario.run_eq_ok_iff.mpr ⟨steps, runSteps_of_carriesTo h hsteps hf.1, rfl⟩
      exact runScenarios_cons_eq_ok_iff.mpr ⟨_, m, below, hsame, ih hbelow hf.2, rfl⟩

/-! ## Whole runs -/

theorem runAll_eq_ok_iff {b : Brief} {n final : Notes} {scenarios : List Scenario} {r : RunRecord} :
    runAll b n scenarios = .ok (r, final) ↔ runScenarios b n scenarios = .ok (r.scenarios, final) := by
  simp only [runAll, bind_eq_ok_iff, pure_eq_ok, Except.ok.injEq, Prod.mk.injEq, Prod.exists]
  constructor
  · rintro ⟨results, m, h, rfl, rfl⟩
    exact h
  · intro h
    exact ⟨r.scenarios, final, h, rfl, rfl⟩

theorem runAll_eq_error_iff {b : Brief} {n : Notes} {scenarios : List Scenario} {f : Fault} :
    runAll b n scenarios = .error f ↔ runScenarios b n scenarios = .error f := by
  simp [runAll, bind_eq_error_iff]

theorem runAll_congr {b b' : Brief} {scenarios : List Scenario}
    (h : ∀ s ∈ scenarios, ∀ step ∈ s.steps, ∀ n, step.check.answer b n = step.check.answer b' n)
    (n : Notes) : runAll b n scenarios = runAll b' n scenarios := by
  simp only [runAll, runScenarios_congr h n]

/-- A run without a failed step is the same where answers carry over. -/
theorem runAll_of_carriesTo {b b' : Brief} (h : b.CarriesTo b') {scenarios : List Scenario} {n final : Notes}
    {record : RunRecord} (hrun : runAll b n scenarios = .ok (record, final))
    (hf : ∀ s ∈ record.scenarios, ∀ r ∈ s.steps, r.status ≠ .failed) :
    runAll b' n scenarios = .ok (record, final) := by
  rw [runAll_eq_ok_iff] at hrun ⊢
  exact runScenarios_of_carriesTo h hrun hf

/-! ## Runs without a failed step -/

/-- The notes that scenarios leave, if none of their steps fails. -/
def notesAfterClear (b : Brief) (n : Notes) (scenarios : List Scenario) : Option Notes :=
  match runScenarios b n scenarios with
  | .ok (results, final) =>
    if results.all fun r => r.steps.all fun step => step.status != .failed then some final else none
  | .error _ => none

theorem notesAfterClear_eq_some_iff {b : Brief} {n final : Notes} {scenarios : List Scenario} :
    notesAfterClear b n scenarios = some final ↔ ∃ results,
      runScenarios b n scenarios = .ok (results, final) ∧
        ∀ r ∈ results, ∀ step ∈ r.steps, step.status ≠ .failed := by
  unfold notesAfterClear
  rcases hrun : runScenarios b n scenarios with f | ⟨results, m⟩
  · simp
  · simp [and_comm]

/-- Scenarios that run without a failed step one part after the other do so as a whole. -/
theorem notesAfterClear_append {b : Brief} {n m final : Notes} {before after : List Scenario}
    (hbefore : notesAfterClear b n before = some m) (hafter : notesAfterClear b m after = some final) :
    notesAfterClear b n (before ++ after) = some final := by
  rcases notesAfterClear_eq_some_iff.mp hbefore with ⟨above, habove, hclear⟩
  rcases notesAfterClear_eq_some_iff.mp hafter with ⟨below, hbelow, hclear'⟩
  refine notesAfterClear_eq_some_iff.mpr ⟨above ++ below, ?_, List.forall_mem_append.mpr ⟨hclear, hclear'⟩⟩
  exact runScenarios_append_eq_ok_iff.mpr ⟨above, m, below, habove, hbelow, rfl⟩

end Assay
