import Assay.Proofs.Layout
import Assay.Proofs.Release

/-!
# The order of files

Several things in a review depend on which file comes first: the release is that of the first path that shows
one, a file is looked up as the first of its name, and a folder that is not allowed ends a check at the first
file in it. For a tidy submission none of this can be seen in what the review decides. Only wordings change: a
finding names the first file that is wrong, and a list of names is in the order of the files.

Lookups are settled by the names, of which no two are the same. The release is settled by the folder, though
not in the obvious way. Files of one folder need not all show its release: where the folder ends with the
release, only a path with a second slash behind it does. Those that do show one show the same one. What stands
at the leftmost place in one path stands there in the other as well, or it ends the folder, and then nothing
begins further to the right than it does.

## Main definitions

* `Submission.Tidy`: All files are in one folder, and no two have the same name.
* `Submission.reorder`, `Brief.reorder`: The files in another order.
* `Decision`, `Review.decision`: What a review decides.

## Theorems

* `SubmittedFile.release_eq_of_folder_eq`: The files of a folder show the same release.
* `Check.holds_reorder`, `Check.breaksOff_reorder`: What checks say of a submission in another order.
* `Check.answer_reorder`, `runSteps_reorder`, `runScenarios_reorder`: A run in another order.
* `review_of_reordered`: A review in another order.
-/

namespace Assay

open Packaged Text

/-! ## The release of a folder -/

namespace SubmittedFile

open Placement

/-- A path goes on with slashes and a name after its folder, where the folder is neither the one that holds
    it all nor the root. -/
theorem eq_folderChars_append {cs : List Char} (h : 'v' ∈ folderChars cs) : ∃ slashes name,
    cs = folderChars cs ++ (slashes ++ '/' :: name) ∧ ∀ c ∈ slashes, c = '/' := by
  rcases hcut : partitionLastChars '/' cs with _ | ⟨above, name⟩
  · have hnone : folderChars cs = ['.'] := by rw [folderChars, hcut]
    rw [hnone] at h
    exact absurd h (by decide)
  · rcases partitionLastChars_eq_some_iff.mp hcut with ⟨hpath, -⟩
    have hfolder : folderChars cs = if (above.rdropWhile (· == '/')).isEmpty then above ++ ['/']
        else above.rdropWhile (· == '/') := by
      rw [folderChars, hcut]
      rfl
    have hsplit : above.rdropWhile (· == '/') ++ above.rtakeWhile (· == '/') = above := by
      rw [List.rdropWhile, List.rtakeWhile, ← List.reverse_append, List.takeWhile_append_dropWhile,
        List.reverse_reverse]
    by_cases hempty : (above.rdropWhile (· == '/')).isEmpty = true
    · -- A folder of slashes only has no letter in it.
      rw [if_pos hempty] at hfolder
      rw [List.isEmpty_iff, List.rdropWhile_eq_nil_iff] at hempty
      rw [hfolder, List.mem_append, List.mem_singleton] at h
      rcases h with h | h
      · exact absurd (hempty _ h) (by decide)
      · exact absurd h (by decide)
    · rw [if_neg hempty] at hfolder
      refine ⟨above.rtakeWhile (· == '/'), name, ?_, fun c hc => ?_⟩
      · rw [hfolder, ← List.append_assoc, hsplit, hpath]
      · have hslash := List.mem_rtakeWhile_imp hc
        exact beq_iff_eq.mp hslash

variable {cs cs' before before' release release' rest rest' : List Char}

/-- A release that stands in a path is at the end of its folder, or it stands in every path of that folder. -/
theorem standsIn_of_folderChars_eq (h : StandsIn cs before release rest)
    (hfolder : folderChars cs' = folderChars cs) : ∃ after,
      folderChars cs = before ++ (release ++ after) ∧
        (after = [] ∨ after.head? = some '/' ∧ ∃ rest', StandsIn cs' before release rest') := by
  have hslash : '/' ∈ rest := (List.takeWhile_prefix _).subset h.slash
  rcases folderChars_of_release before h.isRelease hslash with ⟨after, hafter, hcase⟩
  rw [← h.cut, List.append_assoc] at hafter
  refine ⟨after, hafter, hcase.imp_right ?_⟩
  rintro ⟨product, -, rfl⟩
  refine ⟨rfl, ?_⟩
  have hletter : 'v' ∈ folderChars cs := by
    rcases h.isRelease with ⟨major, minor, -, -, rfl⟩
    rw [hafter]
    exact List.mem_append_right _ List.mem_cons_self
  -- Behind their folder the paths differ in the number of slashes and in the name only.
  rcases eq_folderChars_append hletter with ⟨slashes, name, hpath, -⟩
  rcases eq_folderChars_append (hfolder ▸ hletter) with ⟨slashes', name', hpath', hslashes'⟩
  rw [hfolder, hafter] at hpath'
  refine ⟨product ++ (slashes' ++ '/' :: name'), ?_, h.isRelease, ?_⟩
  · simpa only [List.append_assoc, List.cons_append] using hpath'
  · by_cases hline : '\n' ∈ product
    · -- The line ends within the product, which is in both paths.
      have hrest : rest = product ++ (slashes ++ '/' :: name) := by
        have hcut := h.cut.symm.trans hpath
        rw [hafter, List.append_assoc, List.append_cancel_left_eq, List.append_assoc,
          List.append_cancel_left_eq] at hcut
        exact (List.cons.inj hcut).2
      have hslash := h.slash
      rw [hrest] at hslash
      rwa [takeWhile_append_of_mem hline] at hslash ⊢
    · -- Otherwise it reaches the slash before the name.
      have hslashes : '\n' ∉ product ++ slashes' := by
        rw [List.mem_append, not_or]
        exact ⟨hline, fun hmem => absurd (hslashes' _ hmem) (by decide)⟩
      rw [← List.append_assoc]
      exact mem_takeWhile_of_not_mem hslashes (by decide)

theorem takeWhile_release_append (h : IsRelease IsNumeral release) {after : List Char}
    (hafter : after = [] ∨ after.head? = some '/') :
    (release ++ after).takeWhile (· != '/') = release := by
  have hnoSlash : '/' ∉ release := h.not_mem (by decide) (by decide) (by decide)
  have hkept : ∀ c ∈ release, (c != '/') = true := fun c hc =>
    bne_iff_ne.mpr fun heq => hnoSlash (heq ▸ hc)
  rw [List.takeWhile_append_of_pos hkept]
  rcases after with _ | ⟨c, after⟩
  · rw [List.takeWhile_nil, List.append_nil]
  · rcases hafter with hnil | hslash
    · cases hnil
    · rw [List.takeWhile_cons_of_neg (by simpa using hslash), List.append_nil]

/-- A release has no other letter behind its first one, so no other release begins in it. -/
theorem not_append_of_isRelease (h : IsRelease IsNumeral release) (h' : IsRelease IsNumeral release')
    {front after : List Char} (hne : front ≠ []) : release ≠ front ++ (release' ++ after) := by
  rcases h with ⟨major, minor, hmajor, hminor, rfl⟩
  rcases h' with ⟨major', minor', -, -, rfl⟩
  rcases front with _ | ⟨c, front⟩
  · exact absurd rfl hne
  · intro heq
    have htail := (List.cons.inj heq).2
    have hmem : 'v' ∈ major ++ '.' :: minor := by
      rw [htail]
      exact List.mem_append_right _ List.mem_cons_self
    -- Behind its first letter a release has digits and a point.
    rw [List.mem_append, List.mem_cons] at hmem
    rcases hmem with hmem | hmem | hmem
    · exact absurd (hmajor.2 _ hmem) (by decide)
    · exact absurd hmem (by decide)
    · exact absurd (hminor.2 _ hmem) (by decide)

/-- The leftmost releases of two paths of one folder are the same, said of the one that begins first. -/
theorem release_eq_of_folderChars_eq (h : StandsIn cs before release rest)
    (h' : StandsIn cs' before' release' rest') (hfolder : folderChars cs' = folderChars cs)
    (hfirst : ∀ front release rest, StandsIn cs' front release rest → before'.length ≤ front.length)
    (hle : before.length ≤ before'.length) : release = release' := by
  -- Both releases stand in the folder, and the first one begins no further to the right.
  rcases standsIn_of_folderChars_eq h hfolder with ⟨after, htext, hcase⟩
  rcases standsIn_of_folderChars_eq h' hfolder.symm with ⟨after', htext', hcase'⟩
  rw [hfolder, htext] at htext'
  rcases List.prefix_of_prefix_length_le (List.prefix_append before _)
    (htext' ▸ List.prefix_append before' _) hle with ⟨between, rfl⟩
  rw [List.append_assoc, List.append_cancel_left_eq] at htext'
  by_cases hbetween : between = []
  · -- Both begin at one place, and end at the next slash.
    rw [hbetween, List.nil_append] at htext'
    have hend := takeWhile_release_append h.isRelease (hcase.imp_right And.left)
    rw [htext', takeWhile_release_append h'.isRelease (hcase'.imp_right And.left)] at hend
    exact hend.symm
  · -- The first release does not stand in the second path, so the folder ends with it.
    rcases hcase with rfl | ⟨-, rest'', hstands⟩
    · rw [List.append_nil] at htext'
      exact absurd htext' (not_append_of_isRelease h.isRelease h'.isRelease hbetween)
    · -- Otherwise the second one would not be the leftmost.
      have hleft := hfirst _ _ _ hstands
      rw [List.length_append] at hleft
      have hlength : between.length = 0 := by omega
      exact absurd (List.length_eq_zero_iff.mp hlength) hbetween

/-- Files of one folder that show a release show the same one. -/
theorem release_eq_of_folder_eq {f g : SubmittedFile} {release release' product product' : String}
    (hf : f.Shows release product) (hg : g.Shows release' product') (hfolder : f.folder = g.folder) :
    release = release' := by
  have hchars : folderChars f.path.toList = folderChars g.path.toList := String.ofList_injective hfolder
  rcases hf with ⟨before, rest, -, hstands, hfirst, -⟩
  rcases hg with ⟨before', rest', -, hstands', hfirst', -⟩
  apply String.toList_injective
  rcases Nat.le_total before.length before'.length with hle | hle
  · exact release_eq_of_folderChars_eq hstands hstands' hchars.symm hfirst' hle
  · exact (release_eq_of_folderChars_eq hstands' hstands hchars hfirst hle).symm

end SubmittedFile

/-! ## Tidy submissions -/

namespace Submission

/-- All files of a tidy submission are in one folder, and no two have the same name, the case of letters
    aside. -/
structure Tidy (s : Submission) : Prop where
  together : ∀ f ∈ s.files, ∀ g ∈ s.files, f.folder = g.folder
  distinct : (s.files.map fun f => caseFold f.baseName).Nodup

/-- A submission with its files in another order. -/
@[simps]
def reorder (s : Submission) (files : List SubmittedFile) : Submission :=
  { s with files := files }

variable {s : Submission} {files : List SubmittedFile}

/-- A file is found by its name in every order. -/
theorem file?_reorder (h : s.Tidy) (hfiles : s.files.Perm files) (name : String) :
    (s.reorder files).file? name = s.file? name := by
  refine (List.find?_eq_find?_of_perm hfiles ?_).symm
  rintro f ⟨hf, hfname⟩ g ⟨hg, hgname⟩
  have hname : caseFold f.baseName = caseFold g.baseName :=
    (beq_iff_eq.mp hfname).trans (beq_iff_eq.mp hgname).symm
  exact List.inj_on_of_nodup_map h.distinct hf hg hname

theorem folders_reorder (h : s.Tidy) (hfiles : s.files.Perm files) :
    Check.folders (s.reorder files) = Check.folders s := by
  rw [Check.folders, Check.folders, reorder_files]
  rw [map_eq_map_of_perm hfiles fun f hf g hg => by rw [h.together f hf g hg]]

theorem release_eq_of_shows (h : s.Tidy) {f : SubmittedFile} (hf : f ∈ s.files) {release product : String}
    (hshows : f.Shows release product) : s.release = release := by
  have hgiven : s.release ≠ "" := by
    rw [ne_eq, release_eq_empty_iff]
    intro hbare
    rcases hshows with ⟨before, rest, -, hstands, -⟩
    exact hbare f hf _ _ _ hstands
  rcases exists_shows_of_release hgiven with ⟨earlier, g, later, hfiles, -, hg⟩
  have hmem : g ∈ s.files := by
    rw [hfiles]
    exact List.mem_append_right _ List.mem_cons_self
  exact SubmittedFile.release_eq_of_folder_eq hg hshows (h.together g hmem f hf)

/-- The release of a tidy submission is not a matter of which file comes first. -/
theorem release_reorder (h : s.Tidy) (hfiles : s.files.Perm files) :
    (s.reorder files).release = s.release := by
  by_cases hgiven : (s.reorder files).release = ""
  · -- No path shows a release, whatever the order.
    rw [hgiven, eq_comm, release_eq_empty_iff]
    exact fun f hf => release_eq_empty_iff.mp hgiven f (hfiles.mem_iff.mp hf)
  · rcases exists_shows_of_release hgiven with ⟨earlier, f, later, hcut, -, hshows⟩
    have hmem : f ∈ files := by
      rw [← reorder_files s files, hcut]
      exact List.mem_append_right _ List.mem_cons_self
    exact (release_eq_of_shows h (hfiles.mem_iff.mpr hmem) hshows).symm

end Submission

/-- A brief with the files of its submission in another order. -/
@[simps]
def Brief.reorder (b : Brief) (files : List SubmittedFile) : Brief :=
  { b with submission := b.submission.reorder files }

theorem Brief.ofSubmission_reorder {s : Submission} {files : List SubmittedFile} (h : s.Tidy)
    (hfiles : s.files.Perm files) (d : Disk) (metadata : Path) (latest : String) (lookback : Int) :
    ofSubmission (s.reorder files) d metadata latest lookback =
      (ofSubmission s d metadata latest lookback).reorder files := by
  rw [ofSubmission, Submission.release_reorder h hfiles]
  rfl

/-! ## Checks -/

namespace Check

open Submission

variable {b : Brief} {files : List SubmittedFile}

/-- A check holds of a tidy submission in every order. -/
theorem holds_reorder (h : b.submission.Tidy) (hfiles : b.submission.files.Perm files) {c : Check}
    {version : String} : c.Holds (b.reorder files) version ↔ c.Holds b version := by
  have hfile := file?_reorder h hfiles
  -- A check looks at the number of files, at all of them, at their folders, at one by its name, or at
  -- none.
  cases c with
  | filesGiven =>
      simp only [Holds, Brief.reorder_submission, reorder_files, ne_eq, ← List.length_eq_zero_iff,
        hfiles.length_eq]
  | onlyFiles allowed | foldersMatch p =>
      simp only [Holds, Brief.reorder_submission, reorder_files, hfiles.mem_iff]
  | oneFolder => rw [Holds, Holds, Brief.reorder_submission, folders_reorder h hfiles]
  | fileListed _ | fileGiven _ | fileFilled _ | fileValid _ _ | lineMatches _ _ | fieldFilled _ _
  | fieldValid _ _ | fieldAmong _ _ =>
      simp only [Holds, Submission.HoldsMapping, Brief.reorder_submission, hfile]
  | testsPass | testsComplete =>
      simp only [Holds, Evidence.submitted, Brief.reorder_submission, Brief.reorder_disk,
        Brief.reorder_metadata, Brief.reorder_target, hfile]
  | _ => exact Iff.rfl

/-- A check is waived for a submission in every order. -/
theorem waived_reorder {c : Check} {version : String} :
    c.Waived (b.reorder files) version ↔ c.Waived b version := by
  cases c <;> exact Iff.rfl

/-- A check breaks off at a tidy submission in every order. -/
theorem breaksOff_reorder (h : b.submission.Tidy) (hfiles : b.submission.files.Perm files) {c : Check}
    {fault : Fault} : c.BreaksOff (b.reorder files) fault ↔ c.BreaksOff b fault := by
  have hfile := file?_reorder h hfiles
  cases c with
  | fileValid _ _ | fieldFilled _ _ | fieldValid _ _ | fieldAmong _ _ =>
      simp only [BreaksOff, Submission.BreaksReading, Submission.HoldsMapping, Brief.reorder_submission, hfile]
  | _ => exact Iff.rfl

/-- Examinations that say the same, apart from what they find, are concluded alike. -/
theorem conclude_congr {e e' : Examination} (hyes : e = .ok .yes ↔ e' = .ok .yes)
    (hno : e = .ok .no ↔ e' = .ok .no)
    (hfault : ∀ f, e = .error (.fault f) ↔ e' = .error (.fault f)) (n : Notes) :
    Prod.map Answer.status id <$> conclude n e = Prod.map Answer.status id <$> conclude n e' := by
  rcases e with (f | f) | (_ | _)
  · -- A finding is all that is left for the other one, though perhaps not the same.
    rcases e' with (f' | f') | (_ | _)
    · rfl
    · cases (hfault f').mpr rfl
    · cases hyes.mpr rfl
    · cases hno.mpr rfl
  · rw [(hfault f).mp rfl]
  · rw [hyes.mp rfl]
  · rw [hno.mp rfl]

/-- The answer to a tidy submission is of one kind in every order, with the same notes. -/
theorem answer_reorder (h : b.submission.Tidy) (hfiles : b.submission.files.Perm files) (c : Check)
    (n : Notes) : Prod.map Answer.status id <$> c.answer (b.reorder files) n =
      Prod.map Answer.status id <$> c.answer b n := by
  by_cases hc : c.takesNotes = false
  · -- All that such a check can answer is a statement about the submission, but for the finding.
    rw [answer_eq_conclude hc, answer_eq_conclude hc]
    refine conclude_congr ?_ ?_ (fun f => ?_) n
    · rw [examine_eq_yes_iff hc, examine_eq_yes_iff hc, holds_reorder h hfiles]
    · rw [examine_eq_no_iff hc, examine_eq_no_iff hc, waived_reorder]
    · rw [examine_eq_fault_iff hc, examine_eq_fault_iff hc, breaksOff_reorder h hfiles]
  · -- The checks that take notes only look files up.
    have hfile := file?_reorder h hfiles
    cases c with
    | fileListed _ => simp only [answer, answerFileListed, Brief.reorder_submission, hfile]
    | lineMatches _ _ => simp only [answer, answerLineMatches, Brief.reorder_submission, hfile]
    | testsPass =>
        simp only [answer, answerTestsPass, Evidence.submitted, Brief.reorder_submission,
          Brief.reorder_target, hfile]
    | testsComplete =>
        simp only [answer, answerTestsComplete, missingTests, Evidence.submitted, Brief.reorder_submission,
          Brief.reorder_disk, Brief.reorder_metadata, Brief.reorder_target, hfile]
    | _ => exact absurd rfl hc

end Check

/-! ## Runs -/

/-- How the steps of a scenario ended. -/
def ScenarioResult.statuses (r : ScenarioResult) : List StepStatus :=
  r.steps.map StepResult.status

/-- How the steps of a run ended, scenario by scenario. -/
def RunRecord.statuses (r : RunRecord) : List (List StepStatus) :=
  r.scenarios.map ScenarioResult.statuses

/-- Whether a requirement has failed is a matter of how the steps ended. -/
theorem failures_eq_nil_iff_statuses {r : RunRecord} :
    r.failures = [] ↔ ∀ statuses ∈ r.statuses, StepStatus.failed ∉ statuses := by
  rw [RunRecord.statuses, List.forall_mem_map]
  simp only [failures_eq_nil_iff, ScenarioResult.statuses, List.mem_map, not_exists, not_and, ne_eq]

section Run

variable {b : Brief} {files : List SubmittedFile} (h : b.submission.Tidy)
  (hfiles : b.submission.files.Perm files)

include h hfiles

theorem Step.run_reorder (s : Step) (n : Notes) :
    Prod.map StepResult.status id <$> s.run (b.reorder files) n =
      Prod.map StepResult.status id <$> s.run b n := by
  refine map_bind_congr (Check.answer_reorder h hfiles s.check n) ?_
  rintro ⟨a, m⟩ ⟨a', m'⟩ heq
  exact congrArg Except.ok heq

/-- The steps of a scenario end alike in every order of the files, and leave the same notes. -/
theorem runSteps_reorder (steps : List Step) (n : Notes) :
    Prod.map (List.map StepResult.status) id <$> runSteps (b.reorder files) n steps =
      Prod.map (List.map StepResult.status) id <$> runSteps b n steps := by
  -- The steps left begin with the same notes, since those before them left the same.
  induction steps generalizing n with
  | nil => rfl
  | cons s rest ih =>
      rw [runSteps, runSteps]
      refine map_bind_congr (Step.run_reorder h hfiles s n) ?_
      rintro ⟨r, m⟩ ⟨r', m'⟩ heq
      obtain ⟨hstatus, rfl⟩ : r.status = r'.status ∧ m = m' := Prod.mk.inj heq
      -- The steps behind a step are run or skipped, as it ended.
      by_cases hpassed : r'.status = .passed
      · simp only [hstatus, hpassed, if_true]
        refine map_bind_congr (ih m) ?_
        rintro ⟨below, final⟩ ⟨below', final'⟩ hrest
        obtain ⟨hbelow, rfl⟩ : below.map StepResult.status = below'.map StepResult.status ∧
          final = final' := Prod.mk.inj hrest
        exact congrArg (fun statuses => Except.ok (statuses, final)) (congrArg₂ List.cons hstatus hbelow)
      · simp only [hstatus, hpassed, if_false]
        exact congrArg (fun status => Except.ok (status :: (rest.map Step.skip).map StepResult.status, m))
          hstatus

theorem Scenario.run_reorder (s : Scenario) (n : Notes) :
    Prod.map ScenarioResult.statuses id <$> s.run (b.reorder files) n =
      Prod.map ScenarioResult.statuses id <$> s.run b n := by
  refine map_bind_congr (runSteps_reorder h hfiles s.steps n) ?_
  rintro ⟨results, m⟩ ⟨results', m'⟩ heq
  exact congrArg Except.ok heq

/-- The scenarios of a run end alike in every order of the files, and leave the same notes. -/
theorem runScenarios_reorder (scenarios : List Scenario) (n : Notes) :
    Prod.map (List.map ScenarioResult.statuses) id <$> runScenarios (b.reorder files) n scenarios =
      Prod.map (List.map ScenarioResult.statuses) id <$> runScenarios b n scenarios := by
  induction scenarios generalizing n with
  | nil => rfl
  | cons s rest ih =>
      rw [runScenarios, runScenarios]
      refine map_bind_congr (Scenario.run_reorder h hfiles s n) ?_
      rintro ⟨r, m⟩ ⟨r', m'⟩ heq
      -- The same notes go on to the rest, so the induction applies to one run of it.
      obtain ⟨hstatuses, rfl⟩ : r.statuses = r'.statuses ∧ m = m' := Prod.mk.inj heq
      refine map_bind_congr (ih m) ?_
      rintro ⟨below, final⟩ ⟨below', final'⟩ hrest
      obtain ⟨hbelow, rfl⟩ : below.map ScenarioResult.statuses = below'.map ScenarioResult.statuses ∧
        final = final' := Prod.mk.inj hrest
      exact congrArg (fun statuses => Except.ok (statuses, final)) (congrArg₂ List.cons hstatuses hbelow)

theorem runAll_reorder (scenarios : List Scenario) (n : Notes) :
    Prod.map RunRecord.statuses id <$> runAll (b.reorder files) n scenarios =
      Prod.map RunRecord.statuses id <$> runAll b n scenarios := by
  refine map_bind_congr (runScenarios_reorder h hfiles scenarios n) ?_
  rintro ⟨results, m⟩ ⟨results', m'⟩ heq
  exact congrArg Except.ok heq

end Run

/-! ## Reviews -/

/-- What a verdict says without its comment. -/
def Verdict.outcome (v : Verdict) : VerdictState × List String :=
  (v.state, v.labels)

/-- The outcome of a record is a matter of how its steps ended. -/
theorem Verdict.ofRecord_outcome_congr {r r' : RunRecord} (h : r.statuses = r'.statuses) (target : String)
    (labels : List String) : (ofRecord target labels r).outcome = (ofRecord target labels r').outcome := by
  have hfailures : r.failures = [] ↔ r'.failures = [] := by
    rw [failures_eq_nil_iff_statuses, failures_eq_nil_iff_statuses, h]
  by_cases hnone : r'.failures = []
  · simp only [outcome, ofRecord, hnone, hfailures.mpr hnone, List.isEmpty_nil, if_true]
  · have hsome : ¬ r.failures = [] := fun hr => hnone (hfailures.mp hr)
    simp only [outcome, ofRecord, List.isEmpty_iff, hnone, hsome, if_false]

theorem Verdict.ofRun_reorder {r r' : RunRecord} (h : r.statuses = r'.statuses) (b : Brief)
    (files : List SubmittedFile) (labels : List String) :
    outcome <$> ofRun (b.reorder files) labels r = outcome <$> ofRun b labels r' := by
  -- The question whether the release is published is one of the metadata.
  have hasked : isUnpublished (b.reorder files) = isUnpublished b := rfl
  rw [ofRun, ofRun, hasked]
  refine map_bind_congr (p := id) rfl ?_
  rintro unpublished _ rfl
  cases unpublished with
  | true => rfl
  | false => exact congrArg Except.ok (ofRecord_outcome_congr h b.target labels)

/-- What a review decides. -/
structure Decision where
  state : VerdictState
  labels : List String
  missingFiles : List String
  plan : LabelPlan
  deriving DecidableEq, Repr

namespace Review

/-- What a review decides, without what it says. -/
def decision (r : Review) : Decision :=
  ⟨r.verdict.state, r.verdict.labels, r.notes.missingFiles, r.plan⟩

variable {files : List SubmittedFile}

/-- A review of a tidy submission decides the same in every order of the files. -/
theorem ofBrief_reorder {b : Brief} (h : b.submission.Tidy) (hfiles : b.submission.files.Perm files)
    (scenarios : List Scenario) :
    decision <$> ofBrief scenarios (b.reorder files) = decision <$> ofBrief scenarios b := by
  refine map_bind_congr (p := Prod.map RunRecord.statuses id) ?_ ?_
  · rw [map_breaking, map_breaking, runAll_reorder h hfiles]
  · rintro ⟨r, n⟩ ⟨r', n'⟩ heq
    obtain ⟨hstatuses, rfl⟩ : r.statuses = r'.statuses ∧ n = n' := Prod.mk.inj heq
    refine map_bind_congr (p := Verdict.outcome) ?_ ?_
    · rw [map_reportingAs, map_reportingAs, Verdict.ofRun_reorder hstatuses]
    · intro v v' hv
      obtain ⟨hstate, hlabels⟩ : v.state = v'.state ∧ v.labels = v'.labels := Prod.mk.inj hv
      simp only [pure_eq_ok, map_ok, decision, planLabels, hstate, hlabels, Brief.reorder_target,
        Brief.reorder_submission, Submission.reorder_labels]

variable {s : Submission} {d : Disk} {settings : Settings}

theorem hold_reorder (h : s.Tidy) (hfiles : s.files.Perm files) (scenarios : List Scenario)
    (latest : String) : decision <$> hold d settings scenarios latest (s.reorder files) =
      decision <$> hold d settings scenarios latest s := by
  rw [hold_eq_ofBrief, hold_eq_ofBrief, briefOf, Brief.ofSubmission_reorder h hfiles]
  exact ofBrief_reorder (b := briefOf d settings latest s) h hfiles scenarios

end Review

/-- A submission whose files are in one folder, only one of which shows the release that it ends with. -/
def Submission.slashed : Submission :=
  { blank with
    files := [⟨"old/v1.30//README.md", "", none⟩, ⟨"old/v1.30/PRODUCT.yaml", "", none⟩,
      ⟨"old/v1.30/junit_01.xml", "", none⟩] }

theorem Submission.tidy_slashed : slashed.Tidy := by
  constructor
  · decide
  · decide

theorem Review.hold_slashed : ((hold ⟨[]⟩ (Settings.given "v1.31") compiled "v1.31"
    .slashed).toOption.map fun r => r.decision.missingFiles) = some ["e2e.log"] :=
  rfl

/-- The order of the files makes no difference to what is decided on a tidy submission: with any rules and any
    latest release, and so with those of any settings, there is a review in one order where there is one in
    the other, with the same state, the same labels, the same missing files and the same plan. -/
theorem review_of_reordered {s : Submission} (h : s.Tidy) {files : List SubmittedFile}
    (hfiles : s.files.Perm files) (d : Disk) (settings : Settings) :
    (∀ scenarios latest, Review.decision <$> Review.hold d settings scenarios latest (s.reorder files) =
      Review.decision <$> Review.hold d settings scenarios latest s) ∧
    Review.decision <$> Review.ofSubmission d settings (s.reorder files) =
      Review.decision <$> Review.ofSubmission d settings s := by
  refine ⟨Review.hold_reorder h hfiles, ?_⟩
  -- Neither the latest release nor the rules are a matter of the submission.
  refine map_bind_congr (p := id) rfl ?_
  rintro latest _ rfl
  refine map_bind_congr (p := id) rfl ?_
  rintro scenarios _ rfl
  exact Review.hold_reorder h hfiles scenarios latest

theorem review_of_reordered_of_slashed : Submission.slashed.Tidy ∧
    Submission.slashed.files.Perm Submission.slashed.files.reverse ∧ ∃ r r',
      Review.hold ⟨[]⟩ (Settings.given "v1.31") compiled "v1.31" .slashed = .ok r ∧
        Review.hold ⟨[]⟩ (Settings.given "v1.31") compiled "v1.31"
          (Submission.slashed.reorder Submission.slashed.files.reverse) = .ok r' ∧
        r'.decision = r.decision ∧ r'.decision.missingFiles = ["e2e.log"] := by
  have hreverse := (Submission.slashed.files.reverse_perm).symm
  rcases exists_of_map_toOption Review.hold_slashed with ⟨r, hr, hmissing⟩
  have hsame := (review_of_reordered Submission.tidy_slashed hreverse ⟨[]⟩ (.given "v1.31")).1
    compiled "v1.31"
  rw [hr, map_ok, map_eq_ok_iff] at hsame
  rcases hsame with ⟨r', hr', hsame⟩
  refine ⟨Submission.tidy_slashed, hreverse, r, r', hr, hr', hsame, ?_⟩
  rw [hsame, hmissing]

end Assay
