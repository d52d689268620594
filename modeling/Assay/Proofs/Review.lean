import Assay.Proofs.Packaged
import Assay.Proofs.Verdict
import Assay.Review.Basic

/-!
# Reviews

What a review comes to in terms of its run and the question whether the release is published. Under
settings that have loaded, a review is given or breaks off; it has nothing to report in its own
stead.

## Main definitions

* `Review.briefOf`: The brief of a review under some settings.
* `Settings.given`: Settings under which nothing has to be loaded.
* `Submission.blank`, `Submission.complete`, `Disk.ofOneTest`: Samples of submissions and metadata.

## Theorems

* `hold_eq_ok_iff`, `hold_eq_fault_iff`, `hold_ne_report`: The outcomes of a review.
* `ofSubmission_eq_hold`: A review under settings that have loaded.
* `exists_hold`, `exists_hold_of_packaged`: A review that was given is one of scenarios that have
  loaded.
* `hold_of_run`, `exists_hold_of_clear`: What a review comes to where its run is known.
-/

namespace Assay

open Text

/-- The latest release of some settings can be read. -/
theorem Settings.parse_of_latest {d : Disk} {settings : Settings} {latest : String}
    (h : settings.latest d = .ok latest) : ∃ version, Version.parse latest = .ok version := by
  unfold Settings.latest at h
  rcases bind_eq_ok_iff.mp h with ⟨text, -, hrest⟩
  rcases bind_eq_ok_iff.mp hrest with ⟨version, hversion, heq⟩
  rw [pure_eq_ok, Except.ok.injEq] at heq
  exact ⟨version, heq ▸ reporting_eq_ok_iff.mp hversion⟩

namespace Review

/-- The brief of a review under some settings. -/
def briefOf (d : Disk) (settings : Settings) (latest : String) (s : Submission) : Brief :=
  .ofSubmission s d settings.metadata latest settings.lookback

variable {d : Disk} {settings : Settings} {scenarios : List Scenario} {latest : String}
  {s : Submission}

theorem hold_eq_ofBrief : hold d settings scenarios latest s =
    ofBrief scenarios (briefOf d settings latest s) := rfl

theorem hold_eq_ok_iff {r : Review} :
    hold d settings scenarios latest s = .ok r ↔ ∃ record notes verdict,
      runAll (briefOf d settings latest s) .start scenarios = .ok (record, notes) ∧
        Verdict.ofRun (briefOf d settings latest s) notes.labels record = .ok verdict ∧
          r = ⟨briefOf d settings latest s, notes, record, verdict,
            planLabels (briefOf d settings latest s) notes verdict⟩ := by
  simp only [hold_eq_ofBrief, ofBrief, bind_eq_ok_iff, breaking_eq_ok_iff, reportingAs_eq_ok_iff,
    pure_eq_ok, Except.ok.injEq, Prod.exists]
  constructor
  · rintro ⟨record, notes, hrun, verdict, hv, hr⟩
    exact ⟨record, notes, verdict, hrun, hv, hr.symm⟩
  · rintro ⟨record, notes, verdict, hrun, hv, hr⟩
    exact ⟨record, notes, hrun, verdict, hv, hr.symm⟩

/-- A review breaks off in its run, or on an unreachable release after it. -/
theorem hold_eq_fault_iff {f : Fault} :
    hold d settings scenarios latest s = .error (.fault f) ↔
      runAll (briefOf d settings latest s) .start scenarios = .error f ∨
        ((∃ result, runAll (briefOf d settings latest s) .start scenarios = .ok result) ∧
          (briefOf d settings latest s).Unreachable ∧ f = .nameTooLong) := by
  simp only [hold_eq_ofBrief, ofBrief, bind_eq_error_iff, breaking_eq_fault_iff, breaking_eq_ok_iff,
    reportingAs_eq_fault_iff, Verdict.ofRun_eq_error_iff, Verdict.isUnpublished_eq_fault_iff,
    pure_eq_ok, reduceCtorEq, and_false, exists_false, or_false, Prod.exists, exists_and_right]

/-- A review reports nothing in its own stead once the latest release can be read. -/
theorem hold_ne_report {version : Version} (hl : Version.parse latest = .ok version) (p : Problem) :
    hold d settings scenarios latest s ≠ .error (.report p) := by
  intro h
  simp only [hold_eq_ofBrief, ofBrief, bind_eq_error_iff, breaking_ne_report, false_or,
    reportingAs_eq_report_iff, Verdict.ofRun_eq_error_iff, pure_eq_ok, reduceCtorEq, and_false,
    exists_false, or_false] at h
  rcases h with ⟨_, _, q, hq, _⟩
  exact Verdict.isUnpublished_ne_report (b := briefOf d settings latest s) hl q hq

/-! ## Settings that have loaded -/

theorem ofSubmission_eq_hold
    (hrules : settings.rules.load d = .ok scenarios) (hlatest : settings.latest d = .ok latest) :
    ofSubmission d settings s = hold d settings scenarios latest s := by
  unfold ofSubmission
  rw [hlatest, hrules]
  rfl

/-- A review reports where the latest release or the rules cannot be used. -/
theorem exists_ofSubmission_report (hrulesFault : ∀ f, settings.rules.load d ≠ .error (.fault f))
    (hlatestFault : ∀ f, settings.latest d ≠ .error (.fault f))
    (h : (∃ p, settings.rules.load d = .error (.report p)) ∨
      ∃ p, settings.latest d = .error (.report p)) :
    ∃ p, ofSubmission d settings s = .error (.report p) := by
  unfold ofSubmission
  rcases hlatest : settings.latest d with (p | f) | latest
  · exact ⟨.finding p, rfl⟩
  · exact absurd hlatest (hlatestFault f)
  · -- The latest release is loaded first, so its report comes before that of the rules.
    rcases hrules : settings.rules.load d with (p | f) | scenarios
    · exact ⟨.script p, rfl⟩
    · exact absurd hrules (hrulesFault f)
    · rcases h with ⟨p, hp⟩ | ⟨p, hp⟩
      · rw [hrules] at hp
        cases hp
      · rw [hlatest] at hp
        cases hp

end Review

/-- Under the packaged rules only the latest release has to be loaded. -/
theorem Settings.load_of_packaged {d : Disk} {settings : Settings}
    (hrules : settings.rules = .packaged) : settings.rules.load d = .ok Packaged.compiled := by
  rw [hrules]
  exact Packaged.scenarios_eq_compiled

/-- A review that was given is one of the scenarios and for the latest release that its settings
    give. -/
theorem Review.exists_hold {d : Disk} {settings : Settings} {s : Submission} {r : Review}
    (h : ofSubmission d settings s = .ok r) :
    ∃ scenarios latest, settings.rules.load d = .ok scenarios ∧ settings.latest d = .ok latest ∧
      hold d settings scenarios latest s = .ok r := by
  rcases bind_eq_ok_iff.mp h with ⟨latest, hlatest, hrest⟩
  rcases bind_eq_ok_iff.mp hrest with ⟨scenarios, hrules, hhold⟩
  rw [reportingAs_eq_ok_iff] at hlatest hrules
  exact ⟨scenarios, latest, hrules, hlatest, hhold⟩

/-- A review that was given under the packaged rules is one of their scenarios. -/
theorem Review.exists_hold_of_packaged {d : Disk} {settings : Settings} {s : Submission} {r : Review}
    (hrules : settings.rules = .packaged) (h : ofSubmission d settings s = .ok r) :
    ∃ latest, settings.latest d = .ok latest ∧
      hold d settings Packaged.compiled latest s = .ok r := by
  rcases exists_hold h with ⟨scenarios, latest, hload, hlatest, hhold⟩
  rw [Settings.load_of_packaged hrules, Except.ok.injEq] at hload
  rw [← hload] at hhold
  exact ⟨latest, hlatest, hhold⟩

/-! ## Samples -/

/-- A submission without anything in it. -/
def Submission.blank : Submission :=
  ⟨0, "", "", "", "", [], [], [], []⟩

/-- Settings under which the latest release is given and the packaged rules apply. -/
def Settings.given (latest : String) : Settings :=
  ⟨⟨0, []⟩, some latest, 2, .packaged⟩

theorem Settings.given_latest (d : Disk) : (given "v1.30").latest d = .ok "v1.30" := by
  rfl

theorem Review.hold_blank : (hold ⟨[]⟩ (.given "v1.30") Packaged.compiled "v1.30"
    .blank).toOption.isSome = true := by
  decide +kernel

theorem Review.exists_hold_blank :
    ∃ r, hold ⟨[]⟩ (.given "v1.30") Packaged.compiled "v1.30" .blank = .ok r := by
  have hsome := hold_blank
  rcases hhold : hold ⟨[]⟩ (.given "v1.30") Packaged.compiled "v1.30" .blank with x | r
  · rw [hhold] at hsome
    cases hsome
  · exact ⟨r, rfl⟩

/-- A submission that shows all that is asked for. -/
def Submission.complete : Submission :=
  { Submission.blank with
    title := "Conformance results for v1.30/p"
    files := [
      ⟨"v1.30/p/README.md", "Run it.", none⟩,
      ⟨"v1.30/p/PRODUCT.yaml",
        "vendor: a\nname: a\nversion: 1\ntype: hosted\ndescription: a\nwebsite_url: http://a\n" ++
          "documentation_url: http://a\ncontact_email_address: a@b\n", none⟩,
      ⟨"v1.30/p/e2e.log", "e2e test version: v1.30.1", none⟩,
      ⟨"v1.30/p/junit_01.xml", "<testsuite><testcase name='[Conformance]'/></testsuite>", none⟩]
    commits := [⟨"", []⟩] }

/-- Metadata in which one test is required. -/
def Disk.ofOneTest : Disk :=
  ⟨[(["v1.30", "conformance.yaml"],
    .file "- codename: '[Conformance]'\n  release: v1.9\n".toUTF8.toList)]⟩

namespace Review

/-- Where the release is published, the review of a run is held, with the verdict on its record. -/
theorem hold_of_run {d : Disk} {settings : Settings} {scenarios : List Scenario} {latest : String}
    {s : Submission} {record : RunRecord} {notes : Notes}
    (hrun : runAll (briefOf d settings latest s) .start scenarios = .ok (record, notes))
    (hpublished : (Verdict.isUnpublished (briefOf d settings latest s)).toOption = some false) :
    ∃ r, hold d settings scenarios latest s = .ok r ∧ r.record = record ∧
      r.verdict = Verdict.ofRecord (briefOf d settings latest s).target notes.labels record := by
  have hanswer := eq_ok_of_toOption hpublished
  exact ⟨_, hold_eq_ok_iff.mpr ⟨record, notes, _, hrun, Verdict.ofRun_eq_ok_iff.mpr (Or.inr ⟨hanswer, rfl⟩),
    rfl⟩, rfl, rfl⟩

/-- A review comes to a success where the packaged scenarios run without a failed step, one script after the
    other, and the release is published. -/
theorem exists_hold_of_clear {d : Disk} {settings : Settings} {latest : String} {s : Submission}
    (hsubmission : notesAfterClear (briefOf d settings latest s) .start Packaged.submissionScenarios =
      some .start)
    (hproduct : notesAfterClear (briefOf d settings latest s) .start Packaged.productScenarios = some .start)
    (hevidence : (notesAfterClear (briefOf d settings latest s) .start
      Packaged.evidenceScenarios).isSome = true)
    (hpublished : (Verdict.isUnpublished (briefOf d settings latest s)).toOption = some false) :
    ∃ r, hold d settings Packaged.compiled latest s = .ok r ∧ r.verdict.state = .success := by
  rcases Option.isSome_iff_exists.mp hevidence with ⟨final, hfinal⟩
  have hclear := notesAfterClear_append (notesAfterClear_append hsubmission hproduct) hfinal
  rcases notesAfterClear_eq_some_iff.mp hclear with ⟨results, hrun, hunfailed⟩
  have hall := runAll_eq_ok_iff (r := ⟨results⟩).mpr hrun
  rcases hold_of_run hall hpublished with ⟨r, hhold, -, hverdict⟩
  refine ⟨r, hhold, ?_⟩
  rw [hverdict]
  exact Verdict.ofRecord_state_eq_success_iff.mpr (failures_eq_nil_iff.mpr hunfailed)

-- Each script is evaluated on its own, since the kernel keeps all that it has evaluated of one proof.
theorem exists_hold_complete : ∃ r,
    hold .ofOneTest (.given "v1.30") Packaged.compiled "v1.30" .complete = .ok r ∧
      r.verdict.state = .success :=
  exists_hold_of_clear (by decide +kernel) (by decide +kernel) (by decide +kernel) (by decide +kernel)

end Review

theorem complete_review : ((Review.hold .ofOneTest (Settings.given "v1.30") Packaged.compiled "v1.30"
    .complete).toOption.map fun r => r.verdict.state) = some .success := by
  rcases Review.exists_hold_complete with ⟨r, hhold, hstate⟩
  rw [hhold]
  exact congrArg some hstate

end Assay
