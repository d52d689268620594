import Assay.Proofs.Publication
import Assay.Proofs.Run
import Assay.Review.Verdict

/-!
# Verdicts on runs

When a run has no failed requirement, when a release counts as not published, and how a verdict
comes out of the two.

The question whether a release is published has three answers. Beside yes and no it can break off:
a path with a name that no file can have is not looked up. The manifest reader takes such a path
for a missing manifest, but the question here is another one.

## Main definitions

* `Brief.Unreachable`: The release is current, and its manifest lies on a path that is not looked
  up.
* `Brief.Unpublished`: The release is current and has no manifest.

## Theorems

* `failures_eq_nil_iff`: No requirement has failed where no step has.
* `isUnpublished_eq_fault_iff`, `isUnpublished_ne_report`: How the question can break off, and that
  it reports nothing once the latest release can be read.
* `isUnpublished_eq_true_iff`: When a release counts as not published.
* `state_eq_pending_iff`: When a verdict is pending.
* `no_failed_of_success`: A verdict of success is one on a run without a failed step.
-/

namespace Assay

open Text

/-! ## Failed requirements -/

theorem addHint_ne_nil (description hint : String) (failed : List RequirementSummary) :
    addHint description hint failed ≠ [] := by
  cases failed with
  | nil => simp [addHint]
  | cons s rest => by_cases h : s.description = description <;> simp [addHint, h]

theorem foldl_addHint_eq_nil_iff {hints : List (String × String)}
    {failed : List RequirementSummary} :
    hints.foldl (fun failed e => addHint e.1 e.2 failed) failed = [] ↔
      hints = [] ∧ failed = [] := by
  induction hints generalizing failed with
  | nil => simp
  | cons e rest ih => simp [ih, addHint_ne_nil]

theorem ScenarioResult.hints_eq_nil_iff {s : ScenarioResult} :
    s.hints = [] ↔ ∀ step ∈ s.steps, step.status ≠ .failed := by
  simp [ScenarioResult.hints]

/-- No requirement has failed where no step has. -/
theorem failures_eq_nil_iff {r : RunRecord} :
    r.failures = [] ↔ ∀ s ∈ r.scenarios, ∀ step ∈ s.steps, step.status ≠ .failed := by
  simp only [RunRecord.failures, foldl_addHint_eq_nil_iff, and_true, List.flatMap_eq_nil_iff,
    List.map_eq_nil_iff, ScenarioResult.hints_eq_nil_iff]

theorem Verdict.ofRecord_state_eq_success_iff {target : String} {labels : List String} {r : RunRecord} :
    (ofRecord target labels r).state = .success ↔ r.failures = [] := by
  by_cases h : r.failures = [] <;> simp [ofRecord, h]

/-! ## Releases that are not published -/

/-- The release of a brief lies at or past the latest one, and its manifest lies on a path with a
    name that no file can have. -/
def Brief.Unreachable (b : Brief) : Prop :=
  ∃ target latest, Version.parse b.target = .ok target ∧ Version.parse b.latest = .ok latest ∧
    target.lt latest = false ∧ b.disk.follow (Manifest.path b.metadata b.target) = .error .nameTooLong

/-- The release of a brief lies at or past the latest one, and there is no manifest under the name
    that the folders give it. -/
def Brief.Unpublished (b : Brief) : Prop :=
  ∃ target latest, Version.parse b.target = .ok target ∧ Version.parse b.latest = .ok latest ∧
    target.lt latest = false ∧ ∀ bytes, b.disk.bytesAt (Manifest.path b.metadata b.target) ≠ .ok bytes

namespace Verdict

theorem isUnpublished_of_parse {b : Brief} {target latest : Version}
    (ht : Version.parse b.target = .ok target) (hl : Version.parse b.latest = .ok latest) :
    isUnpublished b = if target.lt latest then .ok false else do
      return !(← breaking (Manifest.isPublished b.disk b.metadata b.target)) := by
  have htarget := Version.ne_empty_of_parse ht
  have hlatest := Version.ne_empty_of_parse hl
  simp [isUnpublished, htarget, hlatest, ht, hl, reporting]

theorem isUnpublished_of_unreadable {b : Brief} {f : Finding}
    (ht : Version.parse b.target = .error f) : isUnpublished b = .ok false := by
  simp [isUnpublished, ht]

/-- The question whether a release is published breaks off on an unreachable one. -/
theorem isUnpublished_eq_fault_iff {b : Brief} {f : Fault} :
    isUnpublished b = .error (.fault f) ↔ b.Unreachable ∧ f = .nameTooLong := by
  cases ht : Version.parse b.target with
  -- Of a release that cannot be read the question is not asked.
  | error x => simp [isUnpublished_of_unreadable ht, Brief.Unreachable, ht]
  | ok target =>
      have hstrip := Version.strip_ne_empty_of_parse ht
      cases hl : Version.parse b.latest with
      | error x =>
          simp only [Brief.Unreachable, hl, reduceCtorEq, false_and, and_false, exists_false,
            iff_false]
          by_cases hlatest : b.latest = "" <;>
            simp [isUnpublished, ht, hl, hlatest, reporting, Version.ne_empty_of_parse ht]
      | ok latest =>
          rw [isUnpublished_of_parse ht hl]
          -- A release behind the latest one counts as published, without a look at its manifest.
          by_cases hlt : target.lt latest = true
          · simp [hlt, Brief.Unreachable, ht, hl]
          · simp [hlt, Brief.Unreachable, ht, hl, bind_eq_error_iff, Manifest.isPublished_eq_error_iff,
              hstrip]

theorem isUnpublished_ne_report {b : Brief} {latest : Version}
    (hl : Version.parse b.latest = .ok latest) (p : Finding) :
    isUnpublished b ≠ .error (.report p) := by
  cases ht : Version.parse b.target with
  | error x => simp [isUnpublished_of_unreadable ht]
  | ok target =>
      rw [isUnpublished_of_parse ht hl]
      by_cases hlt : target.lt latest = true <;> simp [hlt, bind_eq_error_iff]

/-- A release counts as not published where it is not, unless the question breaks off. -/
theorem isUnpublished_eq_true_iff {b : Brief} :
    isUnpublished b = .ok true ↔ b.Unpublished ∧ ¬ b.Unreachable := by
  cases ht : Version.parse b.target with
  | error x => simp [isUnpublished_of_unreadable ht, Brief.Unpublished, ht]
  | ok target =>
      have hstrip := Version.strip_ne_empty_of_parse ht
      cases hl : Version.parse b.latest with
      | error x =>
          have hreport : isUnpublished b ≠ .ok true := by
            by_cases hlatest : b.latest = "" <;>
              simp [isUnpublished, ht, hl, hlatest, reporting, Version.ne_empty_of_parse ht]
          simp [hreport, Brief.Unpublished, hl]
      | ok latest =>
          rw [isUnpublished_of_parse ht hl]
          -- Only a release that is not behind the latest one is looked up.
          by_cases hlt : target.lt latest = true
          · simp [hlt, Brief.Unpublished, ht, hl]
          · simp [hlt, Brief.Unpublished, Brief.Unreachable, ht, hl, bind_eq_ok_iff,
              Manifest.isPublished_eq_false_iff hstrip]

/-- The question does not break off where it has an answer. -/
theorem not_unreachable_of_isUnpublished {b : Brief} {unpublished : Bool}
    (h : isUnpublished b = .ok unpublished) : ¬ b.Unreachable := by
  intro hunreachable
  rw [isUnpublished_eq_fault_iff.mpr ⟨hunreachable, rfl⟩] at h
  cases h

/-- Where the question has an answer, it is whether the release is not published. -/
theorem eq_true_iff_of_isUnpublished {b : Brief} {unpublished : Bool}
    (h : isUnpublished b = .ok unpublished) : unpublished = true ↔ b.Unpublished := by
  have hreachable := not_unreachable_of_isUnpublished h
  rw [← and_iff_left (a := b.Unpublished) hreachable, ← isUnpublished_eq_true_iff, h, Except.ok.injEq]

theorem ofRun_eq_ok_iff {b : Brief} {labels : List String} {r : RunRecord} {v : Verdict} :
    ofRun b labels r = .ok v ↔
      (isUnpublished b = .ok true ∧ v = notPublished b.target) ∨
        (isUnpublished b = .ok false ∧ v = ofRecord b.target labels r) := by
  rcases h : isUnpublished b with x | _ | _ <;> simp [ofRun, h, eq_comm]

theorem ofRun_eq_error_iff {b : Brief} {labels : List String} {r : RunRecord} {x : Halt Finding} :
    ofRun b labels r = .error x ↔ isUnpublished b = .error x := by
  rcases h : isUnpublished b with y | _ | _ <;> simp [ofRun, h]

theorem state_ofRecord_ne_pending (target : String) (labels : List String) (r : RunRecord) :
    (ofRecord target labels r).state ≠ .pending := by
  unfold ofRecord
  dsimp only
  split
  · exact VerdictState.noConfusion
  · exact VerdictState.noConfusion

/-- A verdict that was given is pending where the release is not published. -/
theorem state_eq_pending_iff {b : Brief} {labels : List String} {r : RunRecord} {v : Verdict}
    (h : ofRun b labels r = .ok v) : v.state = .pending ↔ b.Unpublished := by
  rcases ofRun_eq_ok_iff.mp h with ⟨hanswer, rfl⟩ | ⟨hanswer, rfl⟩
  · exact iff_of_true rfl ((eq_true_iff_of_isUnpublished hanswer).mp rfl)
  · refine iff_of_false (state_ofRecord_ne_pending _ _ _) fun hunpublished => ?_
    exact Bool.false_ne_true ((eq_true_iff_of_isUnpublished hanswer).mpr hunpublished)

/-- A verdict of success is one on a run without a failed step. -/
theorem no_failed_of_success {b : Brief} {labels : List String} {r : RunRecord} {v : Verdict}
    (h : ofRun b labels r = .ok v) (hv : v.state = .success) :
    ∀ s ∈ r.scenarios, ∀ step ∈ s.steps, step.status ≠ .failed := by
  rcases ofRun_eq_ok_iff.mp h with ⟨_, rfl⟩ | ⟨_, rfl⟩
  · cases hv
  · exact failures_eq_nil_iff.mp (ofRecord_state_eq_success_iff.mp hv)

end Verdict

end Assay
