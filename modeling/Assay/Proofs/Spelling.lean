import Assay.Proofs.Acceptance

/-!
# The spelling of names

Whether a file is one of those asked for is decided in two ways. A file is looked up by its name with the
case of letters aside, but that there are no other files is checked by the letters as they stand. So a file
can be both: found under a name of the list, and reported as not of the list. What decides is whether the
list has the spelling of the file as well.

Under the packaged rules no two names differ in case only, so each file that is found under another
spelling than the required one is reported, in the same record that has it as found.

## Main definitions

* `Check.ReportsExtra`: A name is reported as not of a list.

## Theorems

* `mem_extraFiles_iff`, `onlyFiles_answer`: The files that a list does not have, and the answer on them.
* `reportsExtra_baseName_iff`: When a file of the submission is reported.
* `found_file_reported_iff`: When a file that was found under a name of the list is.
* `exists_passed_of_listed`, `exists_failed_of_extra`: What a run of the packaged rules records of files.
* `review_of_respelled`: What a review records of a required file under another spelling.
-/

namespace Assay

open Packaged Text

/-! ## The files that a list does not have -/

theorem mem_extraFiles_iff {b : Brief} {allowed name : String} : name ∈ Check.extraFiles b allowed ↔
    name ∈ b.submission.files.map SubmittedFile.baseName ∧ name ∉ listItems allowed strip := by
  rw [Check.extraFiles, List.mem_filter, Bool.not_eq_true', List.contains_eq_mem, decide_eq_false_iff_not]

/-- The check reports the files that its list does not have, all in one finding. -/
theorem Check.onlyFiles_answer (b : Brief) (n : Notes) (allowed : String) :
    (onlyFiles allowed).answer b n = .ok (if extraFiles b allowed = [] then (.passed, n)
      else (.failed (.extraFiles (extraFiles b allowed)), n)) := by
  by_cases hnone : extraFiles b allowed = []
  · simp [answer, examine, Examination.findIf, conclude, hnone]
  · simp [answer, examine, Examination.findIf, conclude, hnone]

/-- A name is reported as not of a list. -/
def Check.ReportsExtra (b : Brief) (n : Notes) (allowed name : String) : Prop :=
  ∃ names, (onlyFiles allowed).answer b n = .ok (.failed (.extraFiles names), n) ∧ name ∈ names

theorem Check.reportsExtra_iff {b : Brief} {n : Notes} {allowed name : String} :
    ReportsExtra b n allowed name ↔ name ∈ extraFiles b allowed := by
  unfold ReportsExtra
  rw [onlyFiles_answer]
  constructor
  · rintro ⟨names, hanswer, hmem⟩
    by_cases hnone : extraFiles b allowed = []
    · rw [if_pos hnone] at hanswer
      cases hanswer
    · rw [if_neg hnone] at hanswer
      cases hanswer
      exact hmem
  · intro hmem
    have hsome : extraFiles b allowed ≠ [] := List.ne_nil_of_mem hmem
    exact ⟨extraFiles b allowed, by rw [if_neg hsome], hmem⟩

/-- A file of the submission is reported exactly if the list does not have its spelling. -/
theorem Check.reportsExtra_baseName_iff {b : Brief} {f : SubmittedFile} (hmem : f ∈ b.submission.files)
    (n : Notes) (allowed : String) :
    ReportsExtra b n allowed f.baseName ↔ f.baseName ∉ listItems allowed strip := by
  rw [reportsExtra_iff, mem_extraFiles_iff]
  exact and_iff_right (List.mem_map_of_mem hmem)

/-! ## Files that are found -/

/-- A file that was found under a name of a list is reported exactly if the list does not have the file's own
    spelling. Its name then differs from the one it was found under, in case only; and in a list without a
    second spelling of that name any difference is enough. -/
theorem found_file_reported_iff {b : Brief} {allowed name : String} {f : SubmittedFile}
    (hname : name ∈ listItems allowed strip) (hfile : b.submission.file? name = some f) (n : Notes) :
    (Check.ReportsExtra b n allowed f.baseName ↔ f.baseName ∉ listItems allowed strip) ∧
    (Check.ReportsExtra b n allowed f.baseName →
      f.baseName ≠ name ∧ caseFold f.baseName = caseFold name) ∧
    ((∀ other ∈ listItems allowed strip, caseFold other = caseFold name → other = name) →
      (Check.ReportsExtra b n allowed f.baseName ↔ f.baseName ≠ name)) := by
  rcases isNamed_of_file hfile with ⟨hmem, hfold⟩
  have hreported := Check.reportsExtra_baseName_iff hmem n allowed
  have hdiffers : f.baseName ∉ listItems allowed strip → f.baseName ≠ name := by
    intro hnot hsame
    exact hnot (hsame ▸ hname)
  refine ⟨hreported, ?_, ?_⟩
  · intro h
    exact ⟨hdiffers (hreported.mp h), hfold⟩
  · -- A spelling of the list with the same letters is the name itself.
    intro hsingle
    refine ⟨fun h => hdiffers (hreported.mp h), fun hne => hreported.mpr fun hlisted => ?_⟩
    exact hne (hsingle f.baseName hlisted hfold)

/-- A submission whose one file has the name of a required one in small letters. -/
def Submission.respelled : Submission :=
  { blank with files := [⟨"v1.30/p/readme.md", "Run it.", none⟩] }

theorem found_file_reported_iff_of_respelled :
    "README.md" ∈ listItems "README.md, PRODUCT.yaml, e2e.log, junit_01.xml" strip ∧
      Submission.respelled.file? "README.md" = some ⟨"v1.30/p/readme.md", "Run it.", none⟩ ∧
        Check.ReportsExtra (.ofSubmission .respelled ⟨[]⟩ ⟨0, []⟩ "v1.30" 2) .start
          "README.md, PRODUCT.yaml, e2e.log, junit_01.xml" "readme.md" := by
  have hname : "README.md" ∈ listItems "README.md, PRODUCT.yaml, e2e.log, junit_01.xml" strip := by
    rw [listItems_required]
    decide
  have hfile : Submission.respelled.file? "README.md" = some ⟨"v1.30/p/readme.md", "Run it.", none⟩ := by
    decide +kernel
  have hnot : "readme.md" ∉ listItems "README.md, PRODUCT.yaml, e2e.log, junit_01.xml" strip := by
    rw [listItems_required]
    decide
  have hspelling : (⟨"v1.30/p/readme.md", "Run it.", none⟩ : SubmittedFile).baseName = "readme.md" := by
    decide
  refine ⟨hname, hfile, ?_⟩
  have hreported := found_file_reported_iff (b := .ofSubmission .respelled ⟨[]⟩ ⟨0, []⟩ "v1.30" 2)
    hname hfile .start
  rw [hspelling] at hreported
  exact hreported.1.mpr hnot



/-! ## Reviews -/

/-- The packaged rules ask for a submission with files, and for no files but the required ones. -/
theorem Packaged.exists_onlyRequired : ∃ scenario ∈ compiled, ∃ given only : Step,
    scenario.steps = [given, only] ∧ given.check = .filesGiven ∧
      only.check = .onlyFiles "README.md, PRODUCT.yaml, e2e.log, junit_01.xml" := by
  unfold compiled submissionScenarios
  exact ⟨_, List.mem_append_left _ (List.mem_append_left _ (List.mem_append_right _ List.mem_cons_self)),
    _, _, rfl, rfl, rfl⟩

theorem Packaged.fileScenario_mem_compiled {file : String} (h : file ∈ requiredFiles) :
    fileScenario file ∈ compiled :=
  List.mem_append_left _ (List.mem_append_left _ (List.mem_append_left _
    (List.mem_append_right _ (List.mem_map_of_mem h))))

variable {b : Brief} {results : List ScenarioResult} {n final : Notes}

/-- A run of the packaged rules records a required file that is found as found. -/
theorem exists_passed_of_listed (hrun : runScenarios b n compiled = .ok (results, final)) {file : String}
    {f : SubmittedFile} (hrequired : file ∈ requiredFiles) (hfile : b.submission.file? file = some f) :
    ∃ result ∈ results, result.name = "required file " ++ file ++ " is present" ∧
      ∀ step ∈ result.steps, step.status = .passed := by
  rcases exists_run_of_mem hrun (fileScenario_mem_compiled hrequired) with ⟨result, hresult, m, m', hm⟩
  rcases Scenario.run_eq_ok_iff.mp hm with ⟨steps, hsteps, rfl⟩
  have hlisted : (Check.fileListed file).answer b m = .ok (.passed, m) := by
    rw [Check.answer, Check.answerFileListed, if_pos (Option.isSome_of_eq_some hfile)]
  rw [fileScenario, runSteps_cons_of_passed hlisted rfl] at hsteps
  cases hsteps
  exact ⟨_, hresult, rfl, List.forall_mem_singleton.mpr rfl⟩

/-- A run of the packaged rules records a file with the name of no required one as too many. -/
theorem exists_failed_of_extra (hrun : runScenarios b n compiled = .ok (results, final))
    {f : SubmittedFile} (hmem : f ∈ b.submission.files) (hextra : f.baseName ∉ requiredFiles) :
    ∃ result ∈ results, ∃ step ∈ result.steps, ∃ names, f.baseName ∈ names ∧
      step.status = .failed ∧ step.message = some (escapeMarkup (Finding.extraFiles names).message) := by
  rcases exists_onlyRequired with ⟨scenario, hscenario, given, only, hsteps, hgiven, honly⟩
  rcases exists_run_of_mem hrun hscenario with ⟨result, hresult, m, m', hm⟩
  rcases Scenario.run_eq_ok_iff.mp hm with ⟨steps, hrunSteps, rfl⟩
  -- There are files, this one at least, so it is the second step that decides.
  have hfiles : given.check.answer b m = .ok (.passed, m) := by
    have hsome : b.submission.files.isEmpty = false :=
      List.isEmpty_eq_false_iff.mpr (List.ne_nil_of_mem hmem)
    rw [hgiven]
    simp only [Check.answer, Check.examine, Examination.findIf, hsome, Bool.false_eq_true, if_false,
      Check.conclude]
  rw [← listItems_required] at hextra
  rcases (Check.reportsExtra_baseName_iff hmem m _).mpr hextra with ⟨names, hanswer, hname⟩
  rw [← honly] at hanswer
  rw [hsteps, runSteps_cons_of_passed hfiles (runSteps_cons_of_failed hanswer [])] at hrunSteps
  cases hrunSteps
  exact ⟨_, hresult, _, List.mem_cons_of_mem _ List.mem_cons_self, names, hname, rfl, rfl⟩

/-- A review records a required file under another spelling as found and as too many, and so it does not come
    to a success. -/
theorem review_of_respelled {d : Disk} {settings : Settings} {s : Submission} {r : Review}
    (hrules : settings.rules = .packaged) (h : Review.ofSubmission d settings s = .ok r) {file : String}
    {f : SubmittedFile} (hrequired : file ∈ requiredFiles) (hfile : s.file? file = some f)
    (hspelling : f.baseName ≠ file) :
    (∃ result ∈ r.record.scenarios, result.name = "required file " ++ file ++ " is present" ∧
      ∀ step ∈ result.steps, step.status = .passed) ∧
    (∃ result ∈ r.record.scenarios, ∃ step ∈ result.steps, ∃ names, f.baseName ∈ names ∧
      step.status = .failed ∧ step.message = some (escapeMarkup (Finding.extraFiles names).message)) ∧
    r.verdict.state ≠ .success := by
  rcases Review.exists_hold_of_packaged hrules h with ⟨latest, -, hhold⟩
  rcases Review.hold_eq_ok_iff.mp hhold with ⟨record, notes, verdict, hrun, hverdict, rfl⟩
  rw [runAll_eq_ok_iff] at hrun
  rcases isNamed_of_file hfile with ⟨hmem, hfold⟩
  -- The names that are required differ in more than case.
  have hextra : f.baseName ∉ requiredFiles := fun hlisted =>
    hspelling (caseFold_injective_on_required f.baseName hlisted file hrequired hfold)
  have hreported := exists_failed_of_extra hrun hmem hextra
  refine ⟨exists_passed_of_listed hrun hrequired hfile, hreported, fun hsuccess => ?_⟩
  rcases hreported with ⟨result, hresult, step, hstep, -, -, hfailed, -⟩
  exact Verdict.no_failed_of_success hverdict hsuccess result hresult step hstep hfailed

end Assay
