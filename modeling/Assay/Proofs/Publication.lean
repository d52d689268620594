import Assay.Proofs.Halt
import Assay.Metadata.Manifest
import Assay.Version

/-!
# Published releases

Whether a release has a manifest, next to what the manifest's reader finds there. Both follow the
same path, yet they do not take a bad path alike: to the reader a path that cannot be followed is a
missing manifest, while the question whether there is one breaks off where a name on the path is
longer than any file's can be.

## Theorems

* `strip_ne_empty_of_parse`: A text that can be read as a version is not blank.
* `isPublished_eq_true_iff`, `isPublished_eq_false_iff`, `isPublished_eq_error_iff`: The answers to
  the question, and how it breaks off.
* `isPublished_of_load`: A manifest that can be loaded is published.
-/

namespace Assay

open Text

theorem Version.ne_empty_of_parse {raw : String} {v : Version} (h : parse raw = .ok v) : raw ≠ "" := by
  rintro rfl
  cases h

theorem Version.strip_ne_empty_of_parse {raw : String} {v : Version} (h : parse raw = .ok v) :
    strip raw ≠ "" := by
  intro hs
  have hchars : stripChars raw.toList = [] := by
    simpa [strip] using hs
  simp [parse, read?, hchars, readChars?, dropV] at h

/-- Asking for a manifest breaks off on a path with a name that no file can have. -/
theorem Manifest.isPublished_eq_error_iff {d : Disk} {root : Path} {version : String} {f : Fault} :
    isPublished d root version = .error f ↔ strip version ≠ "" ∧
      d.follow (path root version) = .error .nameTooLong ∧ f = .nameTooLong := by
  by_cases hs : strip version = ""
  · simp [isPublished, hs]
  · simp only [isPublished, hs, String.isEmpty_iff, if_false, Disk.isFile, Disk.holdsAt, ne_eq,
      not_false_eq_true, true_and]
    split
    · simp_all
    · rename_i h
      simp only [h, Except.error.injEq, true_and]
      exact eq_comm
    · simp_all

theorem Disk.bytesAt_eq_ok_iff {d : Disk} {p : Path} {bytes : List UInt8} :
    d.bytesAt p = .ok bytes ↔ ∃ spot, d.follow p = .ok spot ∧ d.at? spot = some (.file bytes) := by
  unfold bytesAt
  rw [bind_eq_ok_iff]
  refine exists_congr fun spot => and_congr_right fun _ => ?_
  rcases d.at? spot with _ | _ | _ <;> simp

theorem Disk.holdsAt_eq_true_iff {d : Disk} {test : Entry → Bool} {p : Path} :
    d.holdsAt test p = .ok true ↔ ∃ spot entry, d.follow p = .ok spot ∧ d.at? spot = some entry ∧
      test entry = true := by
  unfold holdsAt
  rcases d.follow p with problem | spot
  · cases problem <;> simp
  · simp [Option.any_eq_true]

/-- There is a file at a path exactly where there are bytes to read. -/
theorem Disk.isFile_eq_true_iff {d : Disk} {p : Path} :
    d.isFile p = .ok true ↔ ∃ bytes, d.bytesAt p = .ok bytes := by
  simp only [isFile, holdsAt_eq_true_iff, bytesAt_eq_ok_iff]
  constructor
  · rintro ⟨spot, entry, hspot, hentry, htest⟩
    cases entry with
    | file bytes => exact ⟨bytes, spot, hspot, hentry⟩
    | directory => cases htest
  · rintro ⟨bytes, spot, hspot, hentry⟩
    exact ⟨spot, _, hspot, hentry, rfl⟩

/-- A release is published where its manifest is a file. -/
theorem Manifest.isPublished_eq_true_iff {d : Disk} {root : Path} {version : String}
    (hv : strip version ≠ "") : isPublished d root version = .ok true ↔
      ∃ bytes, d.bytesAt (path root version) = .ok bytes := by
  unfold isPublished
  rw [if_neg (by rwa [String.isEmpty_iff])]
  exact Disk.isFile_eq_true_iff

/-- A release is not published where there is no manifest and the question for it does not break
    off. -/
theorem Manifest.isPublished_eq_false_iff {d : Disk} {root : Path} {version : String}
    (hv : strip version ≠ "") : isPublished d root version = .ok false ↔
      (∀ bytes, d.bytesAt (path root version) ≠ .ok bytes) ∧
        d.follow (path root version) ≠ .error .nameTooLong := by
  have htrue : isPublished d root version = .ok true ↔
      ∃ bytes, d.bytesAt (path root version) = .ok bytes := isPublished_eq_true_iff hv
  rw [← not_exists, ← htrue]
  rcases hp : isPublished d root version with f | _ | _
  · have hfollow := (isPublished_eq_error_iff.mp hp).2.1
    simp only [reduceCtorEq, hfollow, ne_eq, not_true_eq_false, and_false]
  · simp only [Except.ok.injEq, Bool.false_eq_true, not_false_eq_true, true_and, true_iff]
    intro hfollow
    rw [isPublished_eq_error_iff.mpr ⟨hv, hfollow, rfl⟩] at hp
    cases hp
  · simp only [Except.ok.injEq, Bool.true_eq_false, not_true_eq_false, false_and]

theorem Manifest.read_of_load {d : Disk} {root : Path} {version : String}
    {records : List ManifestRecord} (h : load d root version = .ok records) :
    ∃ text, d.read (path root version) = .ok text ∧ ofText (path root version) text = .ok records := by
  unfold load at h
  simp only at h
  split at h
  · rename_i text hread
    exact ⟨text, hread, h⟩
  all_goals simp only [reduceCtorEq] at h

/-- The manifest's reader does not break off where there is no manifest. -/
theorem Manifest.load_ne_fault_of_notFound {d : Disk} {root : Path} {version : String} {f : Fault}
    (h : d.read (path root version) = .error .notFound) :
    load d root version ≠ .error (.fault f) := by
  unfold load
  simp only [h]
  exact report_ne_fault

/-- A manifest that can be loaded is published. -/
theorem Manifest.isPublished_of_load {d : Disk} {root : Path} {version : String}
    {records : List ManifestRecord} (hv : strip version ≠ "") (h : load d root version = .ok records) :
    isPublished d root version = .ok true := by
  rcases read_of_load h with ⟨text, hread, -⟩
  rcases bind_eq_ok_iff.mp hread with ⟨bytes, hbytes, -⟩
  exact (isPublished_eq_true_iff hv).mpr ⟨bytes, hbytes⟩

end Assay
