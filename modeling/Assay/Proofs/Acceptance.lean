import Assay.Proofs.Evidence
import Assay.Proofs.Requirement
import Assay.Proofs.Review

/-!
# Accepted submissions

What a verdict of success vouches for under the packaged rules. A step that cannot be applied does
not count as failed, and it ends its scenario, so a scenario without a failed step need not have
checked all that it asks for. Here it has: the checks that can be waived are waived for want of a
release or of a version in the log, and another check sees to it that there are both.

Files are looked up without regard to case while their names are held against a list to the letter,
so a file that was found under a name of the list has exactly that name.

## Main definitions

* `Met`: Steps that came to no finding, from some notes.
* `Accepted`: What a submission has to show.

## Theorems

* `met_of_success`: Under a verdict of success every scenario is met.
* `accepted_of_success`: A verdict of success is only given to an accepted submission.
-/

namespace Assay

open Text Packaged

/-! ## What has to be shown -/

/-- The first line of a file that shows a version shows a version of the release. -/
def Brief.ShowsRelease (b : Brief) (contents : String) : Prop :=
  ∃ before line after version shown target, lines contents = before ++ line :: after ∧
    (∀ l ∈ before, logPattern.pattern.search l = none) ∧
      logPattern.pattern.search line = some [some version] ∧
        Version.parse version = .ok shown ∧ Version.parse b.target = .ok target ∧
          shown.major = target.major ∧ shown.minor = target.minor

/-- What a submission has to show to be accepted. -/
structure Accepted (b : Brief) : Prop where
  /-- The title is filled, of the documented form, and names the release. -/
  title : strip b.submission.title ≠ "" ∧ titlePattern.pattern.occurs b.submission.title = true ∧
    titleRelease b.submission.title = b.target
  /-- The release is supported. -/
  supported : b.target ≠ "" ∧ ∃ target latest, Version.parse b.target = .ok target ∧
    Version.parse b.latest = .ok latest ∧ target.lt (latest.oldestSupported b.lookback) = false
  /-- The release is published. -/
  published : Manifest.isPublished b.disk b.metadata b.target = .ok true
  /-- Of the tests that count none failed, and every required test is among them. -/
  tests : ∃ required root, Requirement.resolve b.disk b.metadata b.target = .ok required ∧
    b.submission.HoldsReport root ∧
      (∀ case ∈ root.descendants "testcase", Evidence.counts case = true → Evidence.Passes case) ∧
        ∀ name ∈ required.names, ∃ case ∈ root.descendants "testcase",
          Evidence.counts case = true ∧ Evidence.Passes case ∧
            normalizeName (Evidence.rawName case) = name
  /-- There is one commit. -/
  commits : b.submission.commits.length = 1
  /-- The names of the files are those of the required files. -/
  names : ∀ name, name ∈ b.submission.files.map SubmittedFile.baseName ↔ name ∈ requiredFiles
  /-- The files are in one folder. -/
  together : ∀ f ∈ b.submission.files, ∀ g ∈ b.submission.files, f.folder = g.folder
  /-- The folder is a release and a product. -/
  folders : ∀ f ∈ b.submission.files, ∃ groups,
    folderPattern.pattern.search f.folder = some groups ∧ Check.pairFilled groups = true
  /-- The instructions are there. -/
  readme : ∃ f, b.submission.file? "README.md" = some f ∧ strip f.contents ≠ ""
  /-- The description of the product has its fields, and they hold what they should. -/
  product : ∃ entries, b.submission.HoldsMapping productFileName entries ∧
    (∀ field ∈ requiredFields, Brief.fieldText (.map entries) field ≠ "") ∧
      Brief.fieldText (.map entries) "type" ∈ ["installer", "distribution", "hosted"] ∧
        (∀ field ∈ urlFields, Brief.fieldText (.map entries) field ≠ "" →
          Contact.isUrl (Brief.fieldText (.map entries) field) = .ok true) ∧
            Contact.isMailbox (Brief.fieldText (.map entries) "contact_email_address") = true
  /-- The log is of the release. -/
  log : ∃ f, b.submission.file? "e2e.log" = some f ∧ b.ShowsRelease f.contents

/-! ## Scenarios that are met -/

/-- Steps that came to no finding, from some notes. -/
def Met (b : Brief) (steps : List Step) : Prop :=
  ∃ n, Clear b n steps

/-- The first of some steps that are met holds, if it cannot be waived, and the others are met. -/
theorem Met.cons {b : Brief} {s : Step} {rest : List Step} (h : Met b (s :: rest))
    (hw : ∀ ev, ¬ s.check.Waived b ev) : (∃ ev, s.check.Holds b ev) ∧ Met b rest := by
  rcases h with ⟨n, hn⟩
  rcases hn with hwaived | ⟨n', hanswer, hrest⟩
  · exact absurd hwaived (hw _)
  · exact ⟨⟨_, Check.answer_passed_iff.mp ⟨n', hanswer⟩⟩, n', hrest⟩

theorem Met.head {b : Brief} {s : Step} {rest : List Step} (h : Met b (s :: rest))
    (hw : ∀ ev, ¬ s.check.Waived b ev) : ∃ ev, s.check.Holds b ev :=
  (h.cons hw).1

/-- Under a verdict of success every scenario is met. -/
theorem met_of_success {d : Disk} {settings : Settings} {scenarios : List Scenario}
    {latest : String} {s : Submission} {r : Review}
    (h : Review.hold d settings scenarios latest s = .ok r) (hv : r.verdict.state = .success) :
    ∀ scenario ∈ scenarios, Met (Review.briefOf d settings latest s) scenario.steps := by
  rcases Review.hold_eq_ok_iff.mp h with ⟨record, notes, verdict, hrun, hverdict, rfl⟩
  intro scenario hmem
  rcases exists_run_of_mem (runAll_eq_ok_iff.mp hrun) hmem with ⟨result, hresult, m, m', hm⟩
  exact ⟨m, clear_of_run hm (Verdict.no_failed_of_success hverdict hv result hresult)⟩

/-! ## Names and folders -/

theorem caseFold_required :
    requiredFiles.map caseFold = ["readme.md", "product.yaml", "e2e.log", "junit_01.xml"] := by
  simp only [requiredFiles, List.map_cons, List.map_nil, caseFold]
  rw [String.toList_ofList, String.toList_ofList, String.toList_ofList, String.toList_ofList]
  rfl

/-- The names of required files differ in more than case. -/
theorem caseFold_injective_on_required : ∀ a ∈ requiredFiles, ∀ b ∈ requiredFiles,
    caseFold a = caseFold b → a = b := by
  intro a ha b hb
  have hnodup : (requiredFiles.map caseFold).Nodup := by
    rw [caseFold_required]
    decide
  exact List.inj_on_of_nodup_map hnodup ha hb

theorem listItems_required :
    listItems "README.md, PRODUCT.yaml, e2e.log, junit_01.xml" strip = requiredFiles := by
  rw [listItems, splitAt, String.toList_ofList]
  rfl

theorem isNamed_of_file {s : Submission} {name : String} {f : SubmittedFile}
    (h : s.file? name = some f) : f ∈ s.files ∧ caseFold f.baseName = caseFold name := by
  have hnamed : SubmittedFile.isNamed name f = true := List.find?_some h
  exact ⟨List.mem_of_find?_eq_some h, beq_iff_eq.mp hnamed⟩

/-- Where all files have the name of a required one and each is found, the names are those. -/
theorem names_of_found {s : Submission} (honly : ∀ f ∈ s.files, f.baseName ∈ requiredFiles)
    (hfound : ∀ name ∈ requiredFiles, ∃ f, s.file? name = some f) (name : String) :
    name ∈ s.files.map SubmittedFile.baseName ↔ name ∈ requiredFiles := by
  constructor
  · intro h
    rcases List.mem_map.mp h with ⟨f, hf, rfl⟩
    exact honly f hf
  · intro h
    rcases hfound name h with ⟨f, hf⟩
    rcases isNamed_of_file hf with ⟨hmem, hfold⟩
    have : f.baseName = name := caseFold_injective_on_required _ (honly f hmem) name h hfold
    exact List.mem_map.mpr ⟨f, hmem, this⟩

theorem folder_ne_pointSlash (f : SubmittedFile) : f.folder ≠ "./" := by
  unfold SubmittedFile.folder SubmittedFile.folderChars
  intro h
  replace h := congrArg String.toList h
  rw [String.toList_ofList, show "./".toList = ['.', '/'] from rfl] at h
  split at h
  · cases h
  · rename_i before name hcut
    simp only at h
    split at h
    · -- A folder made of slashes only has no point in it.
      rename_i hempty
      rw [show ['.', '/'] = ['.'] ++ ['/'] from rfl, List.append_cancel_right_eq] at h
      rw [h] at hempty
      cases hempty
    · -- Any other folder does not end in a slash.
      have hrev := congrArg List.reverse h
      rw [List.reverse_reverse] at hrev
      have hhead := List.head?_dropWhile_not (· == '/') before.reverse
      rw [hrev] at hhead
      simp at hhead

/-- Where there is one folder, all files are in it. -/
theorem folder_eq_of_oneFolder {s : Submission} (h : (Check.folders s).length = 1) :
    ∀ f ∈ s.files, ∀ g ∈ s.files, f.folder = g.folder := by
  rcases List.length_eq_one_iff.mp h with ⟨x, hx⟩
  have hall : ∀ f ∈ s.files, (if f.folder = "." then "./" else f.folder) = x := by
    intro f hf
    have hmem : (if f.folder = "." then "./" else f.folder) ∈ Check.folders s := by
      unfold Check.folders
      rw [List.mem_eraseDups]
      exact List.mem_map.mpr ⟨f, hf, rfl⟩
    rw [hx] at hmem
    exact List.mem_singleton.mp hmem
  intro f hf g hg
  have heq := (hall f hf).trans (hall g hg).symm
  -- A point is counted as a folder of that name with a slash, and no other folder has this name.
  by_cases hF : f.folder = "." <;> by_cases hG : g.folder = "."
  · rw [hF, hG]
  · rw [if_pos hF, if_neg hG] at heq
    exact absurd heq.symm (folder_ne_pointSlash g)
  · rw [if_neg hF, if_pos hG] at heq
    exact absurd heq (folder_ne_pointSlash f)
  · rwa [if_neg hF, if_neg hG] at heq

/-! ## The description of the product -/

theorem HoldsMapping_unique {s : Submission} {file : String}
    {entries entries' : List (Value × Value)} (h : s.HoldsMapping file entries)
    (h' : s.HoldsMapping file entries') : entries' = entries := by
  rcases h with ⟨f, hf, hread⟩
  rcases h' with ⟨f', hf', hread'⟩
  rw [hf, Option.some.injEq] at hf'
  subst hf'
  rw [hread, Except.ok.injEq, Value.map.injEq] at hread'
  exact hread'.symm

theorem fieldFits_url_iff {value : String} :
    Check.FieldFits "URL" value ↔ Contact.isUrl value = .ok true := by
  simp only [Check.FieldFits, lowerAscii_strip_url, true_and, String.reduceEq, false_and, or_false]

theorem fieldFits_email_iff {value : String} :
    Check.FieldFits "email" value ↔ Contact.isMailbox value = true := by
  simp only [Check.FieldFits, lowerAscii_strip_email, true_and, String.reduceEq, false_and, false_or]

theorem listItems_types :
    listItems "installer, distribution, hosted" strip =
      ["installer", "distribution", "hosted"] := by
  rw [listItems, splitAt, String.toList_ofList]
  rfl

/-- The checks of the description read one mapping, so what each of them found is a fact of that mapping. -/
theorem product_of_holds {b : Brief}
    (htype : ∃ ev, (Check.fieldAmong "type" "installer, distribution, hosted").Holds b ev)
    (hfields : ∀ field ∈ requiredFields, ∃ ev, (Check.fieldFilled "PRODUCT.yaml" field).Holds b ev)
    (hurls : ∀ field ∈ urlFields, ∃ ev, (Check.fieldValid "URL" field).Holds b ev)
    (hemail : ∃ ev, (Check.fieldValid "email" "contact_email_address").Holds b ev) :
    ∃ entries, b.submission.HoldsMapping productFileName entries ∧
      (∀ field ∈ requiredFields, Brief.fieldText (.map entries) field ≠ "") ∧
        Brief.fieldText (.map entries) "type" ∈ ["installer", "distribution", "hosted"] ∧
          (∀ field ∈ urlFields, Brief.fieldText (.map entries) field ≠ "" →
            Contact.isUrl (Brief.fieldText (.map entries) field) = .ok true) ∧
              Contact.isMailbox (Brief.fieldText (.map entries) "contact_email_address") = true := by
  rcases htype with ⟨_, entries, hentries, hkind, hamong⟩
  rw [listItems_types] at hamong
  have hfilled : ∀ field ∈ requiredFields, Brief.fieldText (.map entries) field ≠ "" := by
    intro field hfield
    rcases hfields field hfield with ⟨_, entries', hentries', htext⟩
    rwa [HoldsMapping_unique hentries hentries'] at htext
  have haddress : ∀ field ∈ urlFields, Brief.fieldText (.map entries) field ≠ "" →
      Contact.isUrl (Brief.fieldText (.map entries) field) = .ok true := by
    intro field hfield hne
    rcases hurls field hfield with ⟨_, entries', hentries', hfits⟩
    rw [HoldsMapping_unique hentries hentries'] at hfits
    exact fieldFits_url_iff.mp (hfits hne)
  -- A type is asked of a filled field only, and the mailbox is a field that must be filled.
  have hmailbox :
      Contact.isMailbox (Brief.fieldText (.map entries) "contact_email_address") = true := by
    rcases hemail with ⟨_, entries', hentries', hfits⟩
    rw [HoldsMapping_unique hentries hentries'] at hfits
    exact fieldFits_email_iff.mp (hfits (hfilled _ (by decide)))
  exact ⟨entries, hentries, hfilled, hamong, haddress, hmailbox⟩

/-! ## The evidence -/

/-- The checks of the evidence read one report. -/
theorem tests_of_holds {b : Brief} (hpass : ∃ ev, Check.testsPass.Holds b ev)
    (hcomplete : ∃ ev, Check.testsComplete.Holds b ev) :
    ∃ required root, Requirement.resolve b.disk b.metadata b.target = .ok required ∧
      b.submission.HoldsReport root ∧
        (∀ case ∈ root.descendants "testcase", Evidence.counts case = true → Evidence.Passes case) ∧
          ∀ name ∈ required.names, ∃ case ∈ root.descendants "testcase",
            Evidence.counts case = true ∧ Evidence.Passes case ∧
              normalizeName (Evidence.rawName case) = name := by
  rcases hpass with ⟨_, -, outcomes, houtcomes, hpassed⟩
  rcases hcomplete with ⟨_, -, required, outcomes', hresolve, houtcomes', hmissing⟩
  -- Both read the same outcomes.
  rw [houtcomes, Except.ok.injEq] at houtcomes'
  subst houtcomes'
  rcases submitted_eq_ok_iff.mp houtcomes with ⟨root, hroot, rfl⟩
  rw [RequirementSet.missing_reconcile_eq_nil_iff (Requirement.resolve_unmet hresolve)] at hmissing
  refine ⟨required, root, hresolve, hroot, ?_, ?_⟩
  · intro case hcase hcounts
    exact outcome_passed_iff.mp
      (hpassed _ (List.mem_map_of_mem (List.mem_filter.mpr ⟨hcase, hcounts⟩)))
  · intro name hname
    rcases hmissing name hname with ⟨o, ho, hpasses, rfl⟩
    rcases List.mem_map.mp ho with ⟨case, hcase, rfl⟩
    rw [List.mem_filter] at hcase
    exact ⟨case, hcase.1, hcase.2, outcome_passed_iff.mp hpasses, (outcome_name case).symm⟩

/-! ## The log -/

/-- Once a line of the log is found, the version that it shows is noted, and it is a version with something
    in it. -/
theorem noted_of_answer {b : Brief} {n n' : Notes} {f : SubmittedFile}
    (hf : b.submission.file? "e2e.log" = some f)
    (h : (Check.lineMatches "e2e.log" logPattern).answer b n = .ok (.passed, n')) :
    n'.evidenceVersion ≠ "" ∧ ∃ before line after, lines f.contents = before ++ line :: after ∧
      (∀ l ∈ before, logPattern.pattern.search l = none) ∧
        logPattern.pattern.search line = some [some n'.evidenceVersion] := by
  rcases Check.answer_passed_iff.mp ⟨n', h⟩ with ⟨f', groups, hf', hfirst⟩
  rw [hf, Option.some.injEq] at hf'
  subst hf'
  rcases List.findSome?_eq_some_iff.mp hfirst with ⟨before, line, after, hlines, hline, hbefore⟩
  rcases logPattern_sound hline with ⟨version, hversion, rfl⟩
  -- A line that the pattern matches has a version in its one group, which is never empty.
  have hfilled : Check.firstFilled [some (String.ofList version)] = String.ofList version := by
    simp [Check.firstFilled, hversion.ne_nil]
  have hne : Check.firstFilled [some (String.ofList version)] ≠ "" := by
    rw [hfilled]
    simpa using hversion.ne_nil
  have hnoted : n'.evidenceVersion = String.ofList version := by
    simp only [Check.answer, Check.answerLineMatches_eq hf hfirst hne, Except.ok.injEq, Prod.mk.injEq,
      true_and] at h
    rw [← h]
    exact hfilled
  rw [hnoted]
  exact ⟨hfilled ▸ hne, before, line, after, hlines, hbefore, hline⟩

/-- The log's scenario ends with a version in hand, so its last step is not waived. -/
theorem showsRelease_of_met {b : Brief} {given matching agreeing : Step} {contents : String}
    {f : SubmittedFile} (hf : b.submission.file? "e2e.log" = some f)
    (hcontents : f.contents = contents) (hgiven : given.check = .fileGiven "e2e.log")
    (hmatching : matching.check = .lineMatches "e2e.log" logPattern)
    (hagreeing : agreeing.check = .versionsAgree) (htarget : b.target ≠ "")
    (h : Met b [given, matching, agreeing]) : b.ShowsRelease contents := by
  have hw : ∀ ev, ¬ given.check.Waived b ev := by
    rw [hgiven]
    exact fun _ => id
  rcases h.cons hw with ⟨-, n, hn⟩
  rcases hn with hwaived | ⟨n₁, hanswer, hrest⟩
  · rw [hmatching] at hwaived
    exact hwaived.elim
  · rw [hmatching] at hanswer
    rcases noted_of_answer hf hanswer with ⟨hne, before, line, after, hlines, hbefore, hline⟩
    rcases hrest with hwaived | ⟨n₂, hagree, -⟩
    · rw [hagreeing] at hwaived
      exact absurd hwaived (not_or.mpr ⟨hne, htarget⟩)
    · rw [hagreeing] at hagree
      rcases Check.answer_passed_iff.mp ⟨n₂, hagree⟩ with
        ⟨-, -, shown, target, hshown, htarget', hmajor, hminor⟩
      rw [← hcontents]
      exact ⟨before, line, after, _, shown, target, hlines, hbefore, hline, hshown, htarget',
        hmajor, hminor⟩

/-! ## Acceptance -/

/-- A brief under which every packaged scenario is met is that of an accepted submission. -/
theorem accepted_of_met {b : Brief} (hlatest : b.latest ≠ "")
    (h : ∀ scenario ∈ compiled, Met b scenario.steps) : Accepted b := by
  simp only [compiled, submissionScenarios, productScenarios, evidenceScenarios, validFields,
    List.forall_mem_append, List.forall_mem_map, List.forall_mem_cons, List.not_mem_nil,
    false_implies, implies_true, and_true] at h
  rcases h with ⟨⟨hlayout, hproduct⟩, hevidence⟩
  rcases hlayout with ⟨⟨⟨htitle, hfolders, hone⟩, hfiles⟩, honly, hreadme, hcommit, hrelease,
    hnamed⟩
  rcases hproduct with ⟨⟨⟨⟨-, hfields⟩, hurls, hemail⟩, htype⟩, -⟩
  rcases hevidence with ⟨hlog, hpass, hcomplete⟩
  -- The release comes first: all checks but the one in the log are waived for want of it.
  rcases hrelease.cons fun _ => id with ⟨⟨_, htarget⟩, hwindow⟩
  rcases hwindow.head fun _ hw => hw.elim htarget hlatest with ⟨_, hsupported⟩
  rcases htitle.cons fun _ => id with ⟨⟨_, htitled⟩, hform⟩
  rcases hform.head fun _ => id with ⟨_, hform⟩
  rcases hnamed.head fun _ => htarget with ⟨_, -, hnames⟩
  -- The layout of the files.
  rcases (hfolders.cons fun _ => id).2.head fun _ => id with ⟨_, hmatch⟩
  rcases (hone.cons fun _ => id).2.head fun _ => id with ⟨_, htogether⟩
  rcases (honly.cons fun _ => id).2.head fun _ => id with ⟨_, hallowed⟩
  have hfound : ∀ name ∈ requiredFiles, ∃ f, b.submission.file? name = some f := by
    intro name hname
    rcases (hfiles name hname).head fun _ => id with ⟨_, hlisted⟩
    exact hlisted
  have hknown : ∀ f ∈ b.submission.files, f.baseName ∈ requiredFiles := by
    rw [← listItems_required]
    exact hallowed
  rcases hcommit.cons fun _ => id with ⟨⟨_, hcommits⟩, hsingle⟩
  rcases hsingle.head fun _ => id with ⟨_, hsingle⟩
  rcases (hreadme.cons fun _ => id).2.head fun _ => id with ⟨_, readme, hreadme, hfilled⟩
  rcases tests_of_holds (hpass.head fun _ => htarget) (hcomplete.head fun _ => htarget) with
    ⟨required, root, hresolve, htests⟩
  rcases hfound "e2e.log" (by decide) with ⟨log, hlogFile⟩
  exact {
    title := ⟨htitled, hform, hnames⟩
    supported := ⟨htarget, hsupported.2.2⟩
    published := isPublished_of_resolve hresolve
    tests := ⟨required, root, hresolve, htests⟩
    commits := Nat.le_antisymm hsingle (List.length_pos_iff.mpr hcommits)
    names := names_of_found hknown hfound
    together := folder_eq_of_oneFolder htogether
    folders := hmatch
    readme := ⟨readme, hreadme, hfilled⟩
    product := product_of_holds (htype.head fun _ => id)
      (fun field hfield => (hfields field hfield).head fun _ => id)
      (fun field hfield => (hurls field hfield).head fun _ => id) (hemail.head fun _ => id)
    log := ⟨log, hlogFile, showsRelease_of_met hlogFile rfl rfl rfl rfl htarget hlog⟩ }

/-- A verdict of success is only given to an accepted submission. -/
theorem accepted_of_success {d : Disk} {settings : Settings} {s : Submission} {r : Review}
    (hrules : settings.rules = .packaged) (h : Review.ofSubmission d settings s = .ok r)
    (hv : r.verdict.state = .success) :
    ∃ latest, settings.latest d = .ok latest ∧ Accepted (Review.briefOf d settings latest s) := by
  rcases Review.exists_hold_of_packaged hrules h with ⟨latest, hlatest, hhold⟩
  rcases Settings.parse_of_latest hlatest with ⟨version, hversion⟩
  have hne : latest ≠ "" := Version.ne_empty_of_parse hversion
  exact ⟨latest, hlatest, accepted_of_met hne (met_of_success hhold hv)⟩

theorem accepted_of_success_of_complete : (Settings.given "v1.30").rules = .packaged ∧
    ∃ r, Review.ofSubmission .ofOneTest (Settings.given "v1.30") .complete = .ok r ∧
      r.verdict.state = .success ∧ ∃ latest,
        (Settings.given "v1.30").latest .ofOneTest = .ok latest ∧
          Accepted (Review.briefOf .ofOneTest (Settings.given "v1.30") latest .complete) := by
  have hstate := complete_review
  rcases hhold : Review.hold .ofOneTest (Settings.given "v1.30") compiled "v1.30" .complete with
    x | r
  · rw [hhold] at hstate
    cases hstate
  · rw [hhold] at hstate
    have hv : r.verdict.state = .success := Option.some.inj hstate
    have h : Review.ofSubmission .ofOneTest (Settings.given "v1.30") .complete = .ok r := by
      rw [Review.ofSubmission_eq_hold (Settings.load_of_packaged rfl) (Settings.given_latest _)]
      exact hhold
    exact ⟨rfl, r, h, hv, accepted_of_success rfl h hv⟩

end Assay
