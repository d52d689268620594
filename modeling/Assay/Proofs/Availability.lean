import Assay.Proofs.Acceptance
import Assay.Proofs.Breakage
import Assay.Proofs.Markup
import Assay.Proofs.Pending
import Assay.Proofs.Record
import Assay.Proofs.Resolution
import Assay.Proofs.VersionText

/-!
# What counts as published

A review asks twice whether its release is published. For the verdict it asks whether there is a file where
the manifest is kept, and does not look into it; the step on the required tests reads the manifest and says
what came in the way. The two agree: what the reader reports as unavailable are the paths at which there is no
file, whatever else is there, and a file that can be opened is never reported so, whatever is in it.

One path is left over, on which neither has an answer that fits the other: with a null character in it there
is no file, and the reader breaks off instead of reporting that. The text of a version has no such character,
so this can only come from the place of the metadata.

## Main definitions

* `Manifest.Unavailable`: The reader of a manifest reports that there is none.
* `Review.LacksManifest`: The step on the required tests of a review failed for that.

## Theorems

* `Manifest.unavailable_iff`: There is no file where the manifest is kept.
* `Manifest.isPublished_iff_not_unavailable`: The two questions agree.
* `Check.exists_answer_unavailable_iff`: When the step on the required tests fails for want of a manifest.
* `Review.pending_iff_lacksManifest`: The verdict is pending exactly if that step failed for want of a manifest.
* `availability_agrees`: All of this together.
-/

namespace Assay

open Text

/-! ## The reader and the file -/

namespace Manifest

variable {d : Disk} {root : Path} {version : String}

/-- The reader of a manifest reports that there is none. -/
def Unavailable (d : Disk) (root : Path) (version : String) : Prop :=
  ∃ f : Finding, load d root version = .error (.report f) ∧ f.kind = .metadataUnavailable

/-- What is reported of the text of a manifest is that it is corrupt. -/
theorem kind_of_ofText {place : Path} {text : String} {f : Finding}
    (h : ofText place text = .error (.report f)) : f.kind = .metadataCorrupt := by
  rcases hread : Yaml.read text with (_ | fault) | v
  · rw [ofText, hread] at h
    cases h
    rfl
  · rw [ofText, hread] at h
    cases h
  · rw [ofText_eq_ofValue place hread] at h
    rcases ofValue_cases place v with ⟨records, -, hvalue⟩ | ⟨-, g, hg, hkind⟩
    · rw [hvalue] at h
      cases h
    · rw [hg] at h
      cases h
      exact hkind

/-- A manifest is reported as unavailable exactly if there is no file where it is kept, unless the path is
    none. -/
theorem unavailable_iff : Unavailable d root version ↔
    ¬ (path root version).HasNull ∧ ∀ bytes, d.bytesAt (path root version) ≠ .ok bytes := by
  constructor
  · rintro ⟨f, hload, hkind⟩
    have hnone : ∀ bytes, d.bytesAt (path root version) ≠ .ok bytes := by
      intro bytes hbytes
      -- A file that is no text breaks the loader off, and one that is a text is at worst corrupt.
      rcases hdecode : decodeUtf8 bytes with stretch | text
      · have hread : d.read (path root version) = .error (.undecodable stretch) := by
          rw [Disk.read_of_bytesAt hbytes, hdecode]
        unfold load at hload
        simp only [hread] at hload
        cases hload
      · have hread : d.read (path root version) = .ok (unifyBreaks text) := by
          rw [Disk.read_of_bytesAt hbytes, hdecode]
        rw [load_eq_ofText hread] at hload
        rw [kind_of_ofText hload] at hkind
        cases hkind
    refine ⟨fun hnull => ?_, hnone⟩
    rw [load_of_no_file hnone, if_pos hnull] at hload
    cases hload
  · rintro ⟨hnull, hnone⟩
    refine ⟨.manifestUnavailable (strip version) (path root version).render, ?_, rfl⟩
    rw [load_of_no_file hnone, if_neg hnull]

/-! ## The two questions -/

/-- The text of a version holds the characters of labels and pluses only. -/
theorem not_mem_of_parse {v : Version} (h : Version.parse version = .ok v) {c : Char} (hplus : c ≠ '+')
    (hlabel : Version.isLabelChar c = false) : c ∉ (strip version).toList := by
  rcases Version.parse_eq_ok_iff.mp h with ⟨p, htext, -⟩
  intro hmem
  rw [htext] at hmem
  rcases p.isLabelChar_of_mem_text hmem with heq | hchar
  · exact hplus heq
  · rw [hlabel] at hchar
    cases hchar

/-- The manifest of a version lies on a path with a null character only if the metadata does. -/
theorem hasNull_path_iff {v : Version} (h : Version.parse version = .ok v) :
    (path root version).HasNull ↔ root.HasNull := by
  have hpoint : strip version ≠ "." := by
    intro heq
    rcases Version.parse_eq_ok_iff.mp h with ⟨p, htext, -⟩
    have hread := p.readChars?_text
    rw [← htext, heq] at hread
    cases hread
  rw [path_of_name (not_mem_of_parse h (by decide) (by decide)) (Version.strip_ne_empty_of_parse h) hpoint,
    Path.hasNull_child_iff, Path.hasNull_child_iff]
  have hname : Char.ofNat 0 ∉ (strip version).toList := not_mem_of_parse h (by decide) (by decide)
  have hfile : Char.ofNat 0 ∉ fileName.toList := by decide
  simp only [hname, hfile, or_false]

/-- There is a manifest exactly if its reader does not report that there is none. -/
theorem isPublished_iff_not_unavailable {v : Version} (h : Version.parse version = .ok v)
    (hroot : ¬ root.HasNull) :
    isPublished d root version = .ok true ↔ ¬ Unavailable d root version := by
  rw [isPublished_eq_true_iff (Version.strip_ne_empty_of_parse h), unavailable_iff, hasNull_path_iff h]
  simp only [hroot, not_false_eq_true, true_and, not_forall, not_not]

/-- Metadata on a path with a null character holds no manifest, and the reader breaks off on it. -/
theorem isPublished_of_hasNull {v : Version} (h : Version.parse version = .ok v) (hroot : root.HasNull) :
    isPublished d root version = .ok false ∧ load d root version = .error (.fault .nulInPath) := by
  have hnull : (path root version).HasNull := (hasNull_path_iff h).mpr hroot
  have hfollow : d.follow (path root version) = .error .nulInPath := Disk.follow_of_hasNull hnull
  have hnone : ∀ bytes, d.bytesAt (path root version) ≠ .ok bytes := by
    intro bytes hbytes
    rw [Disk.bytesAt, hfollow] at hbytes
    cases hbytes
  refine ⟨?_, ?_⟩
  · rw [isPublished_eq_false_iff (Version.strip_ne_empty_of_parse h), hfollow]
    exact ⟨hnone, by simp⟩
  · rw [load_of_no_file hnone, if_pos hnull]

end Manifest

/-! ## The step on the required tests -/

/-- Evidence that cannot be used is missing or corrupt. -/
theorem Evidence.kind_of_submitted {s : Submission} {f : Finding} (h : submitted s = .error f) :
    f.kind = .evidenceMissing ∨ f.kind = .evidenceCorrupt := by
  unfold submitted at h
  split at h
  · rename_i file hfile
    rcases hread : Xml.read file.contents with _ | root
    · rw [outcomes, hread] at h
      cases h
      exact Or.inr rfl
    · simp only [outcomes, hread, ite_eq_iff, reduceCtorEq, and_false, false_or, Except.error.injEq] at h
      rw [← h.2]
      exact Or.inr rfl
  · cases h
    exact Or.inl rfl

namespace Check

variable {b : Brief} {target : Version}

/-- Of what can come in the way of finding the missing tests only the manifest's reader reports that
    something is unavailable. -/
theorem unavailable_of_missingTests {f : Finding} (h : missingTests b = .error (.report f))
    (hkind : f.kind = .metadataUnavailable) : Manifest.Unavailable b.disk b.metadata b.target := by
  simp only [missingTests, Requirement.resolve, bind_eq_error_iff, reporting_eq_report_iff, pure_eq_ok,
    reduceCtorEq, and_false, exists_false, or_false] at h
  rcases h with (hparse | ⟨version, -, hload | ⟨records, -, hrecords⟩⟩) | ⟨required, -, hreport⟩
  · rw [Requirement.parse_error_kind hparse] at hkind
    cases hkind
  · exact ⟨f, hload, hkind⟩
  · -- Reading the records can fail on a version only, which is of another kind.
    have hcomes := Requirement.comesTo_ofRecords version records
    rw [hrecords] at hcomes
    rw [hcomes.2] at hkind
    cases hkind
  · rcases Evidence.kind_of_submitted hreport with hevidence | hevidence
    · rw [hevidence] at hkind
      cases hkind
    · rw [hevidence] at hkind
      cases hkind

/-- The step on the required tests of a release that can be read fails for want of a manifest exactly if
    there is none. -/
theorem exists_answer_unavailable_iff (h : Version.parse b.target = .ok target) {n : Notes} :
    (∃ f n', answer b n .testsComplete = .ok (.failed f, n') ∧ f.kind = .metadataUnavailable) ↔
      Manifest.Unavailable b.disk b.metadata b.target := by
  have htarget : b.target.isEmpty = false := by
    rw [← Bool.not_eq_true, String.isEmpty_iff]
    exact Version.ne_empty_of_parse h
  constructor
  · rintro ⟨f, n', hanswer, hkind⟩
    simp only [answer, answerTestsComplete, htarget, Bool.false_eq_true, if_false] at hanswer
    rcases hmissing : missingTests b with (g | fault) | missing
    · simp only [hmissing, Except.ok.injEq, Prod.mk.injEq, Answer.failed.injEq] at hanswer
      rcases hanswer with ⟨rfl, -⟩
      exact unavailable_of_missingTests hmissing hkind
    · simp [hmissing] at hanswer
    · -- A test that is missing is another finding.
      rw [hmissing] at hanswer
      simp only at hanswer
      split at hanswer
      · cases hanswer
      · cases hanswer
        cases hkind
  · rintro ⟨f, hload, hkind⟩
    have hmissing : missingTests b = .error (.report f) := by
      simp [missingTests, Requirement.resolve, h, hload, reporting]
    exact ⟨f, n, by simp [answer, answerTestsComplete, htarget, hmissing], hkind⟩

end Check

/-! ## The verdict -/

namespace Packaged

/-- The step on the required tests is the only one of its scenario. -/
theorem exists_requiredTests : ∃ scenario ∈ compiled,
    scenario.steps = [⟨"all required tests in junit_01.xml are present", .testsComplete⟩] :=
  ⟨_, List.mem_append_right _ (List.mem_of_getElem? (i := 2) rfl), rfl⟩

/-- No other step has its text. -/
theorem check_eq_testsComplete {scenario : Scenario} (hscenario : scenario ∈ compiled) {step : Step}
    (hstep : step ∈ scenario.steps) (htext : step.text = "all required tests in junit_01.xml are present") :
    step.check = .testsComplete := by
  have hall : ∀ scenario ∈ compiled, ∀ step ∈ scenario.steps,
      step.text = "all required tests in junit_01.xml are present" → step.check = .testsComplete := by
    decide +kernel
  exact hall scenario hscenario step hstep htext

end Packaged

/-- The first step of a scenario is answered in every run. -/
theorem exists_answer_of_head {b : Brief} {n final : Notes} {scenarios : List Scenario} {record : RunRecord}
    (h : runAll b n scenarios = .ok (record, final)) {scenario : Scenario} (hscenario : scenario ∈ scenarios)
    {step : Step} {rest : List Step} (hsteps : scenario.steps = step :: rest) :
    ∃ result ∈ record.scenarios, ∃ a m m', step.check.answer b m = .ok (a, m') ∧
      step.result a ∈ result.steps := by
  rcases exists_run_of_mem (runAll_eq_ok_iff.mp h) hscenario with ⟨result, hresult, m, m', hrun⟩
  rcases Scenario.run_eq_ok_iff.mp hrun with ⟨results, hresults, rfl⟩
  rw [hsteps] at hresults
  rcases runSteps_cons_eq_ok_iff.mp hresults with ⟨r, k, hstep, hcase⟩
  rcases Step.run_eq_ok_iff.mp hstep with ⟨a, hanswer, rfl⟩
  refine ⟨_, hresult, a, m, k, hanswer, ?_⟩
  rcases hcase with ⟨-, below, -, rfl⟩ | ⟨-, rfl, -⟩
  · exact List.mem_cons_self
  · exact List.mem_cons_self

namespace Review

/-- The step on the required tests failed because the manifest is unavailable. -/
def LacksManifest (r : Review) : Prop :=
  ∃ scenario ∈ r.record.scenarios, ∃ result ∈ scenario.steps,
    result.text = "all required tests in junit_01.xml are present" ∧
      ∃ f : Finding, f.kind = .metadataUnavailable ∧ Raised r.brief Packaged.compiled result f

variable {d : Disk} {settings : Settings} {latest : String} {s : Submission} {r : Review}

theorem brief_of_hold {scenarios : List Scenario} (h : hold d settings scenarios latest s = .ok r) :
    r.brief = briefOf d settings latest s := by
  rcases hold_eq_ok_iff.mp h with ⟨record, notes, verdict, -, -, rfl⟩
  rfl

/-- Where the release of a review can be read, its step on the required tests failed for want of a manifest
    exactly if there is none. -/
theorem lacksManifest_iff {target : Version} (h : hold d settings Packaged.compiled latest s = .ok r)
    (htarget : Version.parse s.release = .ok target) :
    r.LacksManifest ↔ ∀ bytes, d.bytesAt (Manifest.path settings.metadata s.release) ≠ .ok bytes := by
  rcases hold_eq_ok_iff.mp h with ⟨record, notes, verdict, hrun, -, rfl⟩
  have hbrief : Version.parse (briefOf d settings latest s).target = .ok target := htarget
  constructor
  · rintro ⟨_, -, _, -, htext, f, hkind, scenario, hscenario, step, hstep, n, n', hanswer, rfl⟩
    rw [Packaged.check_eq_testsComplete hscenario hstep htext] at hanswer
    exact (Manifest.unavailable_iff.mp
      ((Check.exists_answer_unavailable_iff hbrief).mp ⟨f, n', hanswer, hkind⟩)).2
  · intro hnone
    rcases Packaged.exists_requiredTests with ⟨scenario, hscenario, hsteps⟩
    rcases exists_answer_of_head hrun hscenario hsteps with ⟨result, hresult, a, m, m', hanswer, hmem⟩
    -- The review was given, so the reader did not break off on the path.
    have hnull : ¬ (Manifest.path settings.metadata s.release).HasNull := by
      intro hnull
      have hload := Manifest.load_of_no_file hnone
      rw [if_pos hnull] at hload
      have hbreaks : Check.testsComplete.BreaksOff (briefOf d settings latest s) .nulInPath :=
        ⟨Version.ne_empty_of_parse htarget, resolve_eq_fault_iff.mpr ⟨⟨target, hbrief⟩, hload⟩⟩
      rw [Check.answer_error_iff.mpr hbreaks] at hanswer
      cases hanswer
    rcases (Check.exists_answer_unavailable_iff hbrief (n := m)).mpr
      (Manifest.unavailable_iff.mpr ⟨hnull, hnone⟩) with ⟨f, n', hfailed, hkind⟩
    rw [hanswer, Except.ok.injEq, Prod.mk.injEq] at hfailed
    rcases hfailed with ⟨rfl, rfl⟩
    exact ⟨result, hresult, _, hmem, rfl, f, hkind, scenario, hscenario, _,
      hsteps ▸ List.mem_cons_self, m, m', hanswer, rfl⟩

/-- The verdict on a release at or past the latest one is pending exactly if the step on the required tests
    failed for want of a manifest. -/
theorem pending_iff_lacksManifest {target newest : Version}
    (h : hold d settings Packaged.compiled latest s = .ok r) (htarget : Version.parse s.release = .ok target)
    (hnewest : Version.parse latest = .ok newest) (hcurrent : target.lt newest = false) :
    r.verdict.state = .pending ↔ r.LacksManifest := by
  rw [lacksManifest_iff h htarget]
  rcases hold_eq_ok_iff.mp h with ⟨record, notes, verdict, -, hverdict, rfl⟩
  rw [Verdict.state_eq_pending_iff hverdict]
  constructor
  · rintro ⟨-, -, -, -, -, hnone⟩
    exact hnone
  · exact fun hnone => ⟨target, newest, htarget, hnewest, hcurrent, hnone⟩

/-- A review comes to a success only where the release is published. -/
theorem published_of_success (hrules : settings.rules = .packaged) (h : ofSubmission d settings s = .ok r)
    (hstate : r.verdict.state = .success) :
    Manifest.isPublished d settings.metadata r.brief.target = .ok true := by
  rcases exists_hold_of_packaged hrules h with ⟨latest, hlatest, hhold⟩
  rcases Settings.parse_of_latest hlatest with ⟨version, hversion⟩
  have haccepted : Accepted (briefOf d settings latest s) :=
    accepted_of_met (Version.ne_empty_of_parse hversion) (met_of_success hhold hstate)
  rw [brief_of_hold hhold]
  exact haccepted.published

end Review

/-- The two questions whether a release is published agree. For every text that is read as a version and all
    metadata that lie on a path, there is a manifest exactly if its reader does not report it as unavailable.
    So under the packaged rules a review of a release at or past the latest one is pending exactly if its step
    on the required tests failed for want of a manifest, and no review of a release without a manifest comes
    to a success. -/
theorem availability_agrees :
    (∀ (d : Disk) (root : Path) (version : String) (v : Version), Version.parse version = .ok v →
      (¬ root.HasNull → (Manifest.isPublished d root version = .ok true ↔
        ∀ f : Finding, Manifest.load d root version = .error (.report f) → f.kind ≠ .metadataUnavailable)) ∧
      (root.HasNull → Manifest.isPublished d root version = .ok false ∧
        Manifest.load d root version = .error (.fault .nulInPath))) ∧
    (∀ (d : Disk) (settings : Settings) (s : Submission) (r : Review), settings.rules = .packaged →
      Review.ofSubmission d settings s = .ok r →
      (∀ target newest : Version, Version.parse r.brief.target = .ok target →
        Version.parse r.brief.latest = .ok newest → target.lt newest = false →
        (r.verdict.state = .pending ↔ r.LacksManifest)) ∧
      (Manifest.isPublished d settings.metadata r.brief.target ≠ .ok true → r.verdict.state ≠ .success)) := by
  constructor
  · intro d root version v hparse
    refine ⟨fun hroot => ?_, Manifest.isPublished_of_hasNull hparse⟩
    rw [Manifest.isPublished_iff_not_unavailable hparse hroot, Manifest.Unavailable, not_exists]
    simp only [not_and, ne_eq]
  · intro d settings s r hrules h
    refine ⟨fun target newest htarget hnewest hcurrent => ?_,
      fun hnot hstate => hnot (Review.published_of_success hrules h hstate)⟩
    rcases Review.exists_hold_of_packaged hrules h with ⟨latest, -, hhold⟩
    rw [Review.brief_of_hold hhold] at htarget hnewest
    exact Review.pending_iff_lacksManifest hhold htarget hnewest hcurrent

/-- The metadata holds a manifest under one name of the release and none under another. -/
theorem availability_agrees_of_paddedRelease :
    (∀ f : Finding, Manifest.load .ofOneTest ⟨0, []⟩ "v1.30" = .error (.report f) →
      f.kind ≠ .metadataUnavailable) ∧
    Manifest.isPublished .ofOneTest ⟨0, ["\x00"]⟩ "v1.30" = .ok false ∧
    ∃ r, Review.ofSubmission .ofOneTest (.given "v1.30") .paddedRelease = .ok r ∧ r.LacksManifest ∧
      r.verdict.state ≠ .success := by
  rcases Review.exists_hold_paddedRelease with ⟨r, hhold, hpending⟩
  have h : Review.ofSubmission .ofOneTest (.given "v1.30") .paddedRelease = .ok r := by
    rw [Review.ofSubmission_eq_hold (Settings.load_of_packaged rfl) (Settings.given_latest _)]
    exact hhold
  have hbrief := Review.brief_of_hold hhold
  have hpublished : Manifest.isPublished .ofOneTest ⟨0, []⟩ "v1.30" = .ok true := by decide +kernel
  have hnot : Manifest.isPublished .ofOneTest ⟨0, []⟩ r.brief.target ≠ .ok true := by
    rw [hbrief]
    decide +kernel
  refine ⟨((availability_agrees.1 _ _ _ ⟨1, 30, 0, ""⟩ rfl).1 (by decide)).mp hpublished,
    ((availability_agrees.1 _ _ _ ⟨1, 30, 0, ""⟩ rfl).2 (by decide)).1, r, h, ?_,
    (availability_agrees.2 _ _ _ _ rfl h).2 hnot⟩
  have hagree := (availability_agrees.2 _ _ _ _ rfl h).1
  rw [hbrief] at hagree
  exact (hagree ⟨1, 30, 0, ""⟩ ⟨1, 30, 0, ""⟩ rfl rfl (by decide)).mp hpending

end Assay
