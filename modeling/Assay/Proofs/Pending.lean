import Assay.Proofs.Manifest
import Assay.Proofs.Review

/-!
# Releases that are waited for

A review is pending where the release of the submission lies at or past the latest one and has no
manifest. The two halves of this see the release differently: it is compared by the numbers that it
is read as, and its manifest is looked up by the name that the folders give it. A release can be
written in many ways, so one that is published under one name is waited for under another.

## Theorems

* `pending_iff`: When a verdict is pending, whatever the rules are.
* `not_pending_only_unpublished`: A verdict can be pending while the metadata holds a manifest of the
  very version that the folders name.
-/

namespace Assay

/-- A verdict is pending where the release lies at or past the latest one and there is no manifest
    under the name that the folders give it. -/
theorem pending_iff {d : Disk} {settings : Settings} {scenarios : List Scenario} {latest : String}
    {s : Submission} {r : Review} (h : Review.hold d settings scenarios latest s = .ok r) :
    r.verdict.state = .pending ↔ ∃ target newest, Version.parse s.release = .ok target ∧
      Version.parse latest = .ok newest ∧ target.lt newest = false ∧
        ∀ bytes, d.bytesAt ((settings.metadata.child s.release).child Manifest.fileName) ≠
          .ok bytes := by
  rcases Review.hold_eq_ok_iff.mp h with ⟨record, notes, verdict, -, hverdict, rfl⟩
  rw [Verdict.state_eq_pending_iff hverdict]
  refine exists_congr fun target => exists_congr fun newest => and_congr_right fun htarget => ?_
  have hpath : Manifest.path (Review.briefOf d settings latest s).metadata
      (Review.briefOf d settings latest s).target =
        (settings.metadata.child s.release).child Manifest.fileName :=
    Manifest.path_of_parse htarget
  rw [hpath]
  rfl

/-- A submission for a release that is written with a zero before its second number. -/
def Submission.paddedRelease : Submission :=
  { Submission.blank with files := [⟨"v1.030/p/README.md", "Run it.", none⟩] }

theorem Review.exists_hold_paddedRelease : ∃ r,
    hold .ofOneTest (.given "v1.30") Packaged.compiled "v1.30" .paddedRelease = .ok r ∧
      r.verdict.state = .pending := by
  refine exists_of_map_toOption (f := fun r : Review => r.verdict.state) ?_
  decide +kernel

theorem pending_iff_of_paddedRelease : ∃ r,
    Review.hold .ofOneTest (.given "v1.30") Packaged.compiled "v1.30" .paddedRelease = .ok r ∧
      ∀ bytes, Disk.ofOneTest.bytesAt ⟨0, ["v1.030", "conformance.yaml"]⟩ ≠ .ok bytes := by
  rcases Review.exists_hold_paddedRelease with ⟨r, hr, hpending⟩
  rcases (pending_iff hr).mp hpending with ⟨target, newest, -, -, -, hmanifest⟩
  exact ⟨r, hr, hmanifest⟩

/-- The metadata holds a manifest of the version, under the name without the zero. -/
theorem not_pending_only_unpublished : ¬ ∀ (d : Disk) (settings : Settings)
    (scenarios : List Scenario) (latest : String) (s : Submission) (r : Review),
    Review.hold d settings scenarios latest s = .ok r → r.verdict.state = .pending →
      ∃ target newest, Version.parse s.release = .ok target ∧ Version.parse latest = .ok newest ∧
        target.lt newest = false ∧ ∀ name, Version.parse name = .ok target →
          ∀ bytes, d.bytesAt ((settings.metadata.child name).child Manifest.fileName) ≠
            .ok bytes := by
  intro hclaim
  rcases Review.exists_hold_paddedRelease with ⟨r, hr, hpending⟩
  rcases hclaim _ _ _ _ _ _ hr hpending with ⟨target, newest, htarget, -, -, hmanifest⟩
  -- Read as versions the two names are one, and the manifest is under the one that is not used.
  have hname : Version.parse "v1.30" = Version.parse Submission.paddedRelease.release := rfl
  exact hmanifest "v1.30" (hname.trans htarget) _ rfl

end Assay
