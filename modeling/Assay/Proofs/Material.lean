import Assay.Proofs.Labels
import Assay.Proofs.Manifest

/-!
# What a review looks at

Of a submission a review looks at the title, at the paths and contents of the files, at the number
of commits and at the content types, and of the metadata at the manifest of one release. Who handed
it in, its number, its labels and what its commits are called make no difference to what is found,
and neither do the manifests of other releases.

All of this is a property of single checks: two briefs of the same material have the same answer to
every check that does not look at labels, whatever has been noted. The runs are then the same step
by step. What is left is the question whether the release is published, which is asked of the files
a second time after the run and can break off in one state of the files only, where their metadata
is not there in the other.

## Main definitions

* `Submission.SameMaterial`, `Brief.SameMaterial`: What two submissions, and two briefs, have to
  have in common.
* `Review.SameOutcome`: Two reviews with the same record, verdict and missed files.

## Theorems

* `Check.answer_congr`: Two briefs of the same material have the same answers.
* `Verdict.ofRun_congr`: They have the same verdict too, unless one of them is unreachable.
* `review_of_same_material`: A review of the same material comes to the same, unless its release is
  unreachable.
-/

namespace Assay

open Text

/-! ## The same material -/

/-- Two files of the same path and contents. -/
def SubmittedFile.SameMaterial (f g : SubmittedFile) : Prop :=
  f.path = g.path ∧ f.contents = g.contents

/-- Two submissions of the same title, of the same files in the same order, of as many commits, and
    of the same content types. -/
structure Submission.SameMaterial (s s' : Submission) : Prop where
  title : s.title = s'.title
  files : List.Forall₂ SubmittedFile.SameMaterial s.files s'.files
  commits : s.commits.length = s'.commits.length
  contentTypes : ∀ field, s.contentTypes.lookup field = s'.contentTypes.lookup field

/-- Two briefs for the same material, the same releases and the same manifest. -/
structure Brief.SameMaterial (b b' : Brief) : Prop where
  submission : b.submission.SameMaterial b'.submission
  metadata : b.metadata = b'.metadata
  target : b.target = b'.target
  latest : b.latest = b'.latest
  lookback : b.lookback = b'.lookback
  manifest : b.disk.SameFile b'.disk (Manifest.path b.metadata b.target)

namespace SubmittedFile.SameMaterial

variable {f g : SubmittedFile}

theorem baseName (h : f.SameMaterial g) : f.baseName = g.baseName := by
  rw [SubmittedFile.baseName, h.1, SubmittedFile.baseName]

theorem folder (h : f.SameMaterial g) : f.folder = g.folder := by
  rw [SubmittedFile.folder, h.1, SubmittedFile.folder]

end SubmittedFile.SameMaterial

theorem isEmpty_eq_of_length_eq {α : Type} {as bs : List α} (h : as.length = bs.length) :
    as.isEmpty = bs.isEmpty := by
  cases as with
  | nil => rw [List.eq_nil_of_length_eq_zero h.symm]
  | cons a as =>
      cases bs with
      | nil => cases h
      | cons b bs => rfl

section Files

variable {files files' : List SubmittedFile}

/-- What is read off paths and contents is the same for files of the same material. -/
theorem map_of_sameMaterial {α : Type} {read : SubmittedFile → α}
    (hread : ∀ f g, f.SameMaterial g → read f = read g)
    (h : List.Forall₂ SubmittedFile.SameMaterial files files') : files.map read = files'.map read := by
  induction h with
  | nil => rfl
  | cons hf _ ih => rw [List.map_cons, List.map_cons, hread _ _ hf, ih]

theorem findSome?_of_sameMaterial {α : Type} {read : SubmittedFile → Option α}
    (hread : ∀ f g, f.SameMaterial g → read f = read g)
    (h : List.Forall₂ SubmittedFile.SameMaterial files files') :
    files.findSome? read = files'.findSome? read := by
  induction h with
  | nil => rfl
  | cons hf _ ih => rw [List.findSome?_cons, List.findSome?_cons, hread _ _ hf, ih]

/-- A file is found among both or among neither. -/
theorem find?_of_sameMaterial {test : SubmittedFile → Bool}
    (htest : ∀ f g, f.SameMaterial g → test f = test g)
    (h : List.Forall₂ SubmittedFile.SameMaterial files files') :
    (files.find? test = none ∧ files'.find? test = none) ∨
      ∃ f f', files.find? test = some f ∧ files'.find? test = some f' ∧ f.SameMaterial f' := by
  induction h with
  | nil => exact Or.inl ⟨rfl, rfl⟩
  | @cons f f' rest rest' hf _ ih =>
      -- The two are searched in step, so the search ends at the same place in both.
      have htests := htest f f' hf
      by_cases htaken : test f = true
      · rw [List.find?_cons_of_pos htaken, List.find?_cons_of_pos (htests ▸ htaken)]
        exact Or.inr ⟨f, f', rfl, rfl, hf⟩
      · rw [List.find?_cons_of_neg htaken, List.find?_cons_of_neg (htests ▸ htaken)]
        exact ih

theorem foldersMatchIn_of_sameMaterial (pattern : WrittenPattern)
    (h : List.Forall₂ SubmittedFile.SameMaterial files files') :
    Check.foldersMatchIn pattern files = Check.foldersMatchIn pattern files' := by
  induction h with
  | nil => rfl
  | cons hf _ ih => rw [Check.foldersMatchIn, Check.foldersMatchIn, hf.folder, hf.1, ih]

end Files

namespace Submission.SameMaterial

variable {s s' : Submission}

/-- A file is found in both submissions or in neither. -/
theorem file?_cases (h : s.SameMaterial s') (name : String) :
    (s.file? name = none ∧ s'.file? name = none) ∨
      ∃ f f', s.file? name = some f ∧ s'.file? name = some f' ∧ f.SameMaterial f' := by
  refine find?_of_sameMaterial (fun f g hf => ?_) h.files
  rw [SubmittedFile.isNamed, hf.baseName, SubmittedFile.isNamed]

theorem release (h : s.SameMaterial s') : s.release = s'.release := by
  have hplacement : s.placement? = s'.placement? :=
    findSome?_of_sameMaterial (fun f g hf => by rw [hf.1]) h.files
  rw [Submission.release, hplacement, Submission.release]

theorem evidence (h : s.SameMaterial s') : Evidence.submitted s = Evidence.submitted s' := by
  unfold Evidence.submitted
  rcases h.file?_cases evidenceFileName with ⟨hf, hf'⟩ | ⟨f, f', hf, hf', hsame⟩
  · rw [hf, hf']
  · rw [hf, hf']
    exact congrArg Evidence.outcomes hsame.2

theorem folders (h : s.SameMaterial s') : Check.folders s = Check.folders s' := by
  unfold Check.folders
  rw [map_of_sameMaterial (fun f g hf => ?_) h.files]
  rw [hf.folder]

end Submission.SameMaterial

/-! ## Checks -/

namespace Brief.SameMaterial

variable {b b' : Brief}

theorem extraFiles (h : b.SameMaterial b') (allowed : String) :
    Check.extraFiles b allowed = Check.extraFiles b' allowed := by
  unfold Check.extraFiles
  rw [map_of_sameMaterial (fun f g hf => hf.baseName) h.submission.files]

theorem description (h : b.SameMaterial b') (file : String) :
    b.description file = b'.description file := by
  unfold Brief.description Brief.need
  rcases h.submission.file?_cases file with ⟨hf, hf'⟩ | ⟨f, f', hf, hf', hsame⟩
  · rw [hf, hf']
  · rw [hf, hf', ok_bind, ok_bind, hsame.2]

theorem productField (h : b.SameMaterial b') (field : String) :
    b.productField field = b'.productField field := by
  unfold Brief.productField
  rw [h.description]

theorem missingTests (h : b.SameMaterial b') : Check.missingTests b = Check.missingTests b' := by
  have hload := Manifest.load_congr h.manifest
  unfold Check.missingTests Requirement.resolve
  rw [hload, h.metadata, h.target, h.submission.evidence]

end Brief.SameMaterial

/-- A check that needs a file answers the same where what it does with the file is the same. -/
theorem Brief.SameMaterial.need {b b' : Brief} (h : b.SameMaterial b') {α : Type} (file : String)
    (absent : Finding) {read : SubmittedFile → Except (Halt Finding) α}
    (hread : ∀ f g, f.SameMaterial g → read f = read g) :
    (b.need file absent >>= read) = (b'.need file absent >>= read) := by
  unfold Brief.need
  rcases h.submission.file?_cases file with ⟨hf, hf'⟩ | ⟨f, f', hf, hf', hsame⟩
  · rw [hf, hf']
  · rw [hf, hf']
    exact hread f f' hsame

/-- Two briefs of the same material are examined alike by checks that do not look at labels. -/
theorem Check.examine_of_sameMaterial {c : Check} (hc : ¬ c.ReadsLabels) {b b' : Brief}
    (h : b.SameMaterial b') (version : String) : c.examine b version = c.examine b' version := by
  -- A check of one file depends on what it does with the file, any other on what it reads of all.
  cases c with
  | labelsGiven => exact absurd trivial hc
  | releaseLabelled start => exact absurd trivial hc
  | titleGiven => simp only [examine, h.submission.title]
  | titleMatches pattern => simp only [examine, h.submission.title]
  | titleNamesRelease => simp only [examine, h.submission.title, h.target, Examination.withRelease]
  | filesGiven => simp only [examine, isEmpty_eq_of_length_eq h.submission.files.length_eq]
  | onlyFiles allowed => simp only [examine, h.extraFiles]
  | fileGiven file => exact h.need file _ fun _ _ _ => rfl
  | fileFilled file => exact h.need file _ fun f g hf => by rw [hf.2]
  | fileValid file type => exact h.need file _ fun f g hf => by rw [hf.2]
  | foldersMatch pattern => exact foldersMatchIn_of_sameMaterial pattern h.submission.files
  | oneFolder => simp only [examine, h.submission.folders]
  | releaseGiven => simp only [examine, h.target]
  | releaseSupported => simp only [examine, h.target, h.latest, h.lookback]
  | versionsAgree => simp only [examine, h.target]
  | fieldFilled file field => simp only [examine, h.description]
  | fieldValid type field => simp only [examine, h.productField]
  | fieldAmong field values => simp only [examine, h.productField]
  | contentTypeAmong field types => simp only [examine, h.submission.contentTypes]
  | commitsGiven => simp only [examine, isEmpty_eq_of_length_eq h.submission.commits]
  | oneCommit => simp only [examine, h.submission.commits]
  | fileListed file => rfl
  | lineMatches file pattern => rfl
  | testsPass => rfl
  | testsComplete => rfl

/-- Two briefs of the same material have the same answers to checks that do not look at labels,
    whatever has been noted. -/
theorem Check.answer_congr {c : Check} (hc : ¬ c.ReadsLabels) {b b' : Brief}
    (h : b.SameMaterial b') (n : Notes) : c.answer b n = c.answer b' n := by
  have hexamine := examine_of_sameMaterial hc h n.evidenceVersion
  -- Of the checks that write notes each reads one part of the material.
  cases c with
  | fileListed file =>
      unfold answer answerFileListed
      rcases h.submission.file?_cases file with ⟨hf, hf'⟩ | ⟨f, f', hf, hf', -⟩
      · simp only [hf, hf']
      · simp only [hf, hf', Option.isSome_some]
  | lineMatches file pattern =>
      unfold answer answerLineMatches
      rcases h.submission.file?_cases file with ⟨hf, hf'⟩ | ⟨f, f', hf, hf', hsame⟩
      · simp only [hf, hf']
      · simp only [hf, hf', hsame.2]
  | testsPass => simp only [answer, answerTestsPass, h.target, h.submission.evidence]
  | testsComplete => simp only [answer, answerTestsComplete, h.target, h.missingTests]
  | _ => simp only [answer, hexamine]

/-! ## Verdicts -/

theorem Brief.SameMaterial.unpublished {b b' : Brief} (h : b.SameMaterial b') :
    b.Unpublished ↔ b'.Unpublished := by
  unfold Brief.Unpublished
  rw [← h.target, ← h.latest, ← h.metadata]
  refine exists_congr fun target => exists_congr fun latest => ?_
  refine and_congr_right fun _ => and_congr_right fun _ => and_congr_right fun _ => ?_
  exact forall_congr' fun bytes => not_congr (h.manifest bytes)

/-- The question whether a release is published has the same answer for the same material, where it
    has one for both. -/
theorem Verdict.isUnpublished_congr {b b' : Brief} (h : b.SameMaterial b') {version : Version}
    (hlatest : Version.parse b'.latest = .ok version) {unpublished : Bool}
    (hb : isUnpublished b = .ok unpublished) (hreachable : ¬ b'.Unreachable) :
    isUnpublished b' = .ok unpublished := by
  rcases hanswer : isUnpublished b' with (p | f) | unpublished'
  · exact absurd hanswer (isUnpublished_ne_report hlatest p)
  · exact absurd (isUnpublished_eq_fault_iff.mp hanswer).1 hreachable
  · -- Both answers say whether there is a manifest, which is the same file in both.
    have hsame : unpublished' = true ↔ unpublished = true := by
      rw [eq_true_iff_of_isUnpublished hanswer, ← h.unpublished, eq_true_iff_of_isUnpublished hb]
    rw [Bool.eq_iff_iff.mpr hsame]

/-- Two runs of the same material come to the same verdict, where they come to one. -/
theorem Verdict.ofRun_congr {b b' : Brief} (h : b.SameMaterial b') {version : Version}
    (hlatest : Version.parse b'.latest = .ok version) {labels : List String} {r : RunRecord} {v : Verdict}
    (hv : ofRun b labels r = .ok v) (hreachable : ¬ b'.Unreachable) : ofRun b' labels r = .ok v := by
  rw [ofRun_eq_ok_iff, ← h.target]
  rcases ofRun_eq_ok_iff.mp hv with ⟨hanswer, rfl⟩ | ⟨hanswer, rfl⟩
  · exact Or.inl ⟨isUnpublished_congr h hlatest hanswer hreachable, rfl⟩
  · exact Or.inr ⟨isUnpublished_congr h hlatest hanswer hreachable, rfl⟩

/-- With the metadata in place the manifest of a release is out of reach in both states of the files
    or in neither. -/
theorem Brief.SameMaterial.unreachable {b b' : Brief} (h : b.SameMaterial b')
    (hrelease : b.target = b.submission.release) (hroot : b.disk.isDirectory b.metadata = .ok true)
    (hroot' : b'.disk.isDirectory b.metadata = .ok true) : b.Unreachable ↔ b'.Unreachable := by
  unfold Brief.Unreachable
  rw [← h.target, ← h.latest, ← h.metadata]
  refine exists_congr fun target => exists_congr fun latest => and_congr_right fun htarget => ?_
  refine and_congr_right fun _ => and_congr_right fun _ => ?_
  have hname : Manifest.fileName.utf8ByteSize ≤ Disk.longestName := by decide
  rw [hrelease] at htarget ⊢
  rw [Manifest.path_of_parse htarget, Disk.follow_eq_nameTooLong_iff hroot hname,
    Disk.follow_eq_nameTooLong_iff hroot' hname]

/-! ## Reviews -/

/-- Two reviews with the same record, the same verdict and the same missed files. -/
structure Review.SameOutcome (r r' : Review) : Prop where
  record : r.record = r'.record
  verdict : r.verdict = r'.verdict
  missingFiles : r.notes.missingFiles = r'.notes.missingFiles

namespace Review

variable {d d' : Disk} {settings settings' : Settings} {latest : String} {s s' : Submission}

theorem briefOf_sameMaterial (hmetadata : settings.metadata = settings'.metadata)
    (hlookback : settings.lookback = settings'.lookback) (hmaterial : s.SameMaterial s')
    (hmanifest : d.SameFile d' (Manifest.path settings.metadata s.release)) :
    (briefOf d settings latest s).SameMaterial (briefOf d' settings' latest s') where
  submission := hmaterial
  metadata := hmetadata
  target := hmaterial.release
  latest := rfl
  lookback := hlookback
  manifest := hmanifest

/-- A review of scenarios that do not look at labels comes to the same for the same material, unless
    the release is unreachable. -/
theorem hold_of_sameMaterial {scenarios : List Scenario} (hscenarios : ∀ scenario ∈ scenarios,
      ∀ step ∈ scenario.steps, ¬ step.check.ReadsLabels)
    (h : (briefOf d settings latest s).SameMaterial (briefOf d' settings' latest s'))
    {version : Version} (hlatest : Version.parse latest = .ok version) {r : Review}
    (hr : hold d settings scenarios latest s = .ok r)
    (hreachable : ¬ (briefOf d' settings' latest s').Unreachable) :
    ∃ r', hold d' settings' scenarios latest s' = .ok r' ∧ r.SameOutcome r' := by
  rcases hold_eq_ok_iff.mp hr with ⟨record, notes, verdict, hrun, hverdict, rfl⟩
  -- The same answers make the same run, so the verdict is one on the same record and notes.
  have hrun' : runAll (briefOf d' settings' latest s') .start scenarios = .ok (record, notes) := by
    rw [← hrun]
    refine (runAll_congr (fun scenario hs step hstep n => ?_) .start).symm
    exact Check.answer_congr (hscenarios scenario hs step hstep) h n
  have hverdict' := Verdict.ofRun_congr h hlatest hverdict hreachable
  exact ⟨_, hold_eq_ok_iff.mpr ⟨record, notes, verdict, hrun', hverdict', rfl⟩, rfl, rfl, rfl⟩

theorem not_unreachable_of_hold {scenarios : List Scenario} {r : Review}
    (h : hold d settings scenarios latest s = .ok r) :
    ¬ (briefOf d settings latest s).Unreachable := by
  rcases hold_eq_ok_iff.mp h with ⟨record, notes, verdict, -, hverdict, -⟩
  rcases Verdict.ofRun_eq_ok_iff.mp hverdict with ⟨hanswer, -⟩ | ⟨hanswer, -⟩
  · exact Verdict.not_unreachable_of_isUnpublished hanswer
  · exact Verdict.not_unreachable_of_isUnpublished hanswer

end Review

/-- Given a review under the packaged rules, another one of the same material, for the same latest
    release and over metadata that agrees on the one manifest, comes to the same record, verdict and
    missed files. It is given unless the release is one whose manifest is not looked up, which is
    never so where the metadata is in place for both. -/
theorem review_of_same_material {d d' : Disk} {settings settings' : Settings} {latest : String}
    {s s' : Submission} {r : Review} (hrules : settings.rules = .packaged)
    (hrules' : settings'.rules = .packaged) (hmetadata : settings.metadata = settings'.metadata)
    (hlookback : settings.lookback = settings'.lookback)
    (hlatest : settings.latest d = .ok latest) (hlatest' : settings'.latest d' = .ok latest)
    (hmaterial : s.SameMaterial s')
    (hmanifest : d.SameFile d' (Manifest.path settings.metadata s.release))
    (h : Review.ofSubmission d settings s = .ok r) :
    ((∃ r', Review.ofSubmission d' settings' s' = .ok r' ∧ r.SameOutcome r') ↔
        ¬ (Review.briefOf d' settings' latest s').Unreachable) ∧
      (d.isDirectory settings.metadata = .ok true → d'.isDirectory settings.metadata = .ok true →
        ∃ r', Review.ofSubmission d' settings' s' = .ok r' ∧ r.SameOutcome r') := by
  rw [Review.ofSubmission_eq_hold (Settings.load_of_packaged hrules) hlatest] at h
  rw [Review.ofSubmission_eq_hold (Settings.load_of_packaged hrules') hlatest']
  rcases Settings.parse_of_latest hlatest with ⟨version, hversion⟩
  have hbriefs : (Review.briefOf d settings latest s).SameMaterial
      (Review.briefOf d' settings' latest s') :=
    Review.briefOf_sameMaterial hmetadata hlookback hmaterial hmanifest
  have hgiven : (∃ r', Review.hold d' settings' Packaged.compiled latest s' = .ok r' ∧
      r.SameOutcome r') ↔ ¬ (Review.briefOf d' settings' latest s').Unreachable := by
    constructor
    · rintro ⟨r', hr', -⟩
      exact Review.not_unreachable_of_hold hr'
    · exact Review.hold_of_sameMaterial (fun scenario hs step => Packaged.not_readsLabels hs) hbriefs
        hversion h
  refine ⟨hgiven, fun hroot hroot' => hgiven.mpr ?_⟩
  rw [← hbriefs.unreachable rfl hroot hroot']
  exact Review.not_unreachable_of_hold h

/-- The complete submission, handed in again by someone else and labelled since. -/
def Submission.handedInAgain : Submission :=
  { Submission.complete with
    number := 8
    author := "b"
    labels := ["release-documents-checked", "needs-triage"]
    files := Submission.complete.files.map fun f => { f with address := some "http://b" }
    commits := [⟨"1", [⟨"ci", "failure"⟩]⟩] }

/-- Metadata in which a second release is published. -/
def Disk.ofTwoReleases : Disk :=
  ⟨(["v1.31", "conformance.yaml"], .file []) :: Disk.ofOneTest.entries⟩

theorem Submission.complete_sameMaterial : Submission.complete.SameMaterial .handedInAgain where
  title := rfl
  files := .cons ⟨rfl, rfl⟩ (.cons ⟨rfl, rfl⟩ (.cons ⟨rfl, rfl⟩ (.cons ⟨rfl, rfl⟩ .nil)))
  commits := rfl
  contentTypes := fun _ => rfl

theorem Disk.ofOneTest_sameFile : Disk.ofOneTest.SameFile .ofTwoReleases
    (Manifest.path (Settings.given "v1.30").metadata Submission.complete.release) := by
  intro bytes
  have hsame : Disk.ofOneTest.bytesAt (Manifest.path (Settings.given "v1.30").metadata
      Submission.complete.release) = Disk.ofTwoReleases.bytesAt (Manifest.path
        (Settings.given "v1.30").metadata Submission.complete.release) := rfl
  rw [hsame]

theorem review_of_same_material_again : ∃ r,
    Review.ofSubmission .ofOneTest (Settings.given "v1.30") .complete = .ok r ∧
      Submission.complete.SameMaterial .handedInAgain ∧
        ∃ r', Review.ofSubmission .ofTwoReleases (Settings.given "v1.30") .handedInAgain = .ok r' ∧
          r.SameOutcome r' := by
  rcases Review.exists_hold_complete with ⟨r, hr, -⟩
  rw [← Review.ofSubmission_eq_hold (Settings.load_of_packaged rfl) (Settings.given_latest _)] at hr
  have hsame := Submission.complete_sameMaterial
  exact ⟨r, hr, hsame, (review_of_same_material rfl rfl rfl rfl (Settings.given_latest _)
    (Settings.given_latest _) hsame Disk.ofOneTest_sameFile hr).2 rfl rfl⟩

end Assay
