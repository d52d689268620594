import Assay.Proofs.Text
import Assay.Proofs.PackagedPattern
import Assay.Submission.Basic

/-!
# The release of a submission

The release is read off a path and nothing is said about it anywhere else, so all that is known of
it is the form in which it was found: a `v` and two numbers. Labels that name the release are told
from the fixed ones by this form.

## Theorems

* `eq_append_of_takeRelease`, `takeRelease_append`: What is taken for a release.
* `eq_append_of_takeHere`, `takeHere_ne_none`: What is taken for a placement.
* `exists_of_find?`: The first placement in a path stands somewhere in it, and none before it.
* `isRelease_of_find?`: The release of a placement is of the form.
* `Submission.release_eq_empty_or_isRelease`: The release of a submission is of the form, unless
  there is none.
-/

namespace Assay

open Packaged Text

namespace Placement

/-- What is taken for a release is one, and it stands at the head of the characters. -/
theorem eq_append_of_takeRelease {cs release rest : List Char}
    (h : takeRelease cs = some (release, rest)) :
    cs = release ++ rest ∧ IsRelease IsNumeral release := by
  unfold takeRelease at h
  split at h
  · next r =>
      dsimp only at h
      split at h
      · next s hpoint =>
          -- Both numbers end where their digits do, so only an empty one is left to refuse.
          by_cases hempty : (r.takeWhile isAsciiDigit).isEmpty || (s.takeWhile isAsciiDigit).isEmpty
          · rw [if_pos hempty] at h
            cases h
          · rw [if_neg hempty, Option.some.injEq, Prod.mk.injEq] at h
            simp only [Bool.or_eq_true, List.isEmpty_iff, not_or] at hempty
            rcases h with ⟨rfl, rfl⟩
            refine ⟨?_, _, _, ⟨hempty.1, fun c => List.mem_takeWhile_imp⟩,
              ⟨hempty.2, fun c => List.mem_takeWhile_imp⟩, rfl⟩
            rw [List.cons_append, List.append_assoc, List.cons_append,
              List.takeWhile_append_dropWhile, ← hpoint, List.takeWhile_append_dropWhile]
      · cases h
  · cases h

/-- A release at the head of the characters is taken where no further digit follows it. -/
theorem takeRelease_append {release rest : List Char} (h : IsRelease IsNumeral release)
    (hrest : rest.takeWhile isAsciiDigit = []) :
    takeRelease (release ++ rest) = some (release, rest) := by
  rcases h with ⟨major, minor, hmajor, hminor, rfl⟩
  have hdrop : rest.dropWhile isAsciiDigit = rest := by
    have hsplit := List.takeWhile_append_dropWhile (p := isAsciiDigit) (l := rest)
    rwa [hrest, List.nil_append] at hsplit
  -- The first number ends at the period, and the second at the end of the release.
  have hmajorTake : (major ++ '.' :: (minor ++ rest)).takeWhile isAsciiDigit = major := by
    rw [List.takeWhile_append_of_pos hmajor.2, List.takeWhile_cons_of_neg (by decide),
      List.append_nil]
  have hmajorDrop : (major ++ '.' :: (minor ++ rest)).dropWhile isAsciiDigit =
      '.' :: (minor ++ rest) := by
    rw [List.dropWhile_append_of_pos hmajor.2, List.dropWhile_cons_of_neg (by decide)]
  have hminorTake : (minor ++ rest).takeWhile isAsciiDigit = minor := by
    rw [List.takeWhile_append_of_pos hminor.2, hrest, List.append_nil]
  have hminorDrop : (minor ++ rest).dropWhile isAsciiDigit = rest := by
    rw [List.dropWhile_append_of_pos hminor.2, hdrop]
  have hfilled : (major.isEmpty || minor.isEmpty) = false := by
    rw [Bool.or_eq_false_iff, List.isEmpty_eq_false_iff, List.isEmpty_eq_false_iff]
    exact ⟨hmajor.1, hminor.1⟩
  simp only [List.cons_append, List.append_assoc, takeRelease, hmajorTake, hmajorDrop, hminorTake,
    hminorDrop, hfilled, Bool.false_eq_true, if_false]

/-- A placement at the head of the characters is a release, a slash, and a line with another slash. -/
theorem eq_append_of_takeHere {cs : List Char} {p : Placement} (h : takeHere cs = some p) :
    IsRelease IsNumeral p.release.toList ∧ ∃ rest, cs = p.release.toList ++ '/' :: rest ∧
      '/' ∈ rest.takeWhile (· != '\n') := by
  unfold takeHere at h
  split at h
  · next release r htake =>
      rcases Option.map_eq_some_iff.mp h with ⟨⟨product, name⟩, hcut, rfl⟩
      rcases eq_append_of_takeRelease htake with ⟨rfl, hrelease⟩
      rw [String.toList_ofList]
      refine ⟨hrelease, r, rfl, ?_⟩
      rw [(partitionLastChars_eq_some_iff.mp hcut).1]
      exact List.mem_append_right _ List.mem_cons_self
  · cases h

/-- A release and a slash make a placement where another slash stands in the same line. -/
theorem takeHere_ne_none {release rest : List Char} (h : IsRelease IsNumeral release)
    (hslash : '/' ∈ rest.takeWhile (· != '\n')) : takeHere (release ++ '/' :: rest) ≠ none := by
  have htake : takeRelease (release ++ '/' :: rest) = some (release, '/' :: rest) :=
    takeRelease_append h (List.takeWhile_cons_of_neg (by decide))
  intro hnone
  rw [takeHere, htake] at hnone
  exact partitionLastChars_ne_none hslash (Option.map_eq_none_iff.mp hnone)

/-- The first placement in the characters stands somewhere in them, and none stands before it. -/
theorem exists_of_find? {cs : List Char} {p : Placement} (h : find? cs = some p) :
    ∃ before after, cs = before ++ after ∧ takeHere after = some p ∧
      ∀ front back, before = front ++ back → back ≠ [] → takeHere (back ++ after) = none := by
  induction cs with
  | nil => cases h
  | cons c rest ih =>
      rw [find?] at h
      split at h
      · next q hhere =>
          rw [← Option.some.inj h]
          refine ⟨[], c :: rest, rfl, hhere, fun front back hempty hback => ?_⟩
          exact absurd (List.append_eq_nil_iff.mp hempty.symm).2 hback
      · next hhere =>
          rcases ih h with ⟨before, after, rfl, hafter, hfirst⟩
          refine ⟨c :: before, after, rfl, hafter, fun front back hcut hback => ?_⟩
          -- What stands before the placement either begins here or was passed over already.
          cases front with
          | nil =>
              rw [List.nil_append] at hcut
              rw [← hcut]
              exact hhere
          | cons c' front =>
              rw [List.cons_append, List.cons.injEq] at hcut
              exact hfirst front back hcut.2 hback

/-- The release of a placement is of the form, wherever in the characters it was found. -/
theorem isRelease_of_find? {cs : List Char} {p : Placement} (h : find? cs = some p) :
    IsRelease IsNumeral p.release.toList := by
  rcases exists_of_find? h with ⟨before, after, -, hafter, -⟩
  exact (eq_append_of_takeHere hafter).1

end Placement

/-- The release of a submission is of the form in which it was found, unless there is none. -/
theorem Submission.release_eq_empty_or_isRelease (s : Submission) :
    s.release = "" ∨ IsRelease IsNumeral s.release.toList := by
  unfold release
  cases hp : s.placement? with
  | none => exact Or.inl rfl
  | some p =>
      rcases List.exists_of_findSome?_eq_some hp with ⟨f, -, hf⟩
      exact Or.inr (Placement.isRelease_of_find? hf)

end Assay
