import Assay.Proofs.Placement
import Assay.Proofs.Review

/-!
# The release in a title

A title is asked for as `Conformance results for`, a release, a slash and a product, and the release has to
be that of the folders. Nothing in a title marks the place of the release, though. A release is whatever
stands between a space and a space or a slash, and of several in a line the last one counts. In a title of
the form that is asked for only the product stands behind the place of the release, so what is read there
is read unless the product names a release of its own.

The search runs from the end of the line in effect, and what it comes to is said here without it: a line
names a release at a place, and the last one is that which no other follows (`lastRelease_eq_some_iff`).

## Main definitions

* `NamesAt`, `NamesLast`: A line names a release at a place, and as the last one.
* `askedTitle`: The title that a submission is asked to have.

## Theorems

* `takeSpacedRelease_eq_some_iff`, `lastRelease_eq_some_iff`: What the search for a release comes to.
* `lastRelease_append`, `lastRelease_append_of_not_mem`: Lines put together.
* `toList_askedTitle`: A title of the form that is asked for, as a line up to its product.
* `titleRelease_askedTitle`: The release that is read in a title of the form that is asked for.
* `asked_title_passes_iff`: When such a title is taken to name the release of the folders.
-/

namespace Assay

open Packaged Placement Text

/-! ## The releases of a line -/

/-- A line names a release behind `before`: it stands between a space and a space or a slash. -/
structure NamesAt (line before release : List Char) : Prop where
  isRelease : IsRelease IsNumeral release
  cut : ∃ mark rest, line = before ++ ' ' :: (release ++ mark :: rest) ∧ (mark = ' ' ∨ mark = '/')

/-- The last release that a line names: no other is named further to the right. -/
def NamesLast (line release : List Char) : Prop :=
  ∃ before, NamesAt line before release ∧
    ∀ before' release', NamesAt line before' release' → before'.length ≤ before.length

variable {line before release : List Char}

theorem takeSpacedRelease_eq_some_iff :
    takeSpacedRelease line = some release ↔ NamesAt line [] release := by
  constructor
  · intro h
    unfold takeSpacedRelease at h
    split at h
    · next r =>
        split at h
        · next found mark rest htake =>
            rcases eq_append_of_takeRelease htake with ⟨rfl, hrelease⟩
            by_cases hmark : (mark = ' ' || mark = '/') = true
            · rw [if_pos hmark, Option.some.injEq] at h
              subst h
              exact ⟨hrelease, mark, rest, rfl, by simpa using hmark⟩
            · rw [if_neg hmark] at h
              cases h
        · cases h
    · cases h
  · rintro ⟨hrelease, mark, rest, rfl, hmark⟩
    -- Neither mark is a digit, so the second number ends before it.
    have hend : (mark :: rest).takeWhile isAsciiDigit = [] := by
      rcases hmark with rfl | rfl
      · exact List.takeWhile_cons_of_neg (by decide)
      · exact List.takeWhile_cons_of_neg (by decide)
    have htake := takeRelease_append hrelease hend
    simp only [takeSpacedRelease, List.nil_append, htake]
    rw [if_pos (by simpa using hmark)]

/-- A release is named at the front of a line or further down in it. -/
theorem namesAt_cons_iff {c : Char} : NamesAt (c :: line) before release ↔
    before = [] ∧ NamesAt (c :: line) [] release ∨
      ∃ front, before = c :: front ∧ NamesAt line front release := by
  constructor
  · rintro ⟨hrelease, mark, rest, hcut, hmark⟩
    cases before with
    | nil => exact Or.inl ⟨rfl, hrelease, mark, rest, hcut, hmark⟩
    | cons d front =>
        rw [List.cons_append, List.cons.injEq] at hcut
        rcases hcut with ⟨rfl, hcut⟩
        exact Or.inr ⟨front, rfl, hrelease, mark, rest, hcut, hmark⟩
  · rintro (⟨rfl, h⟩ | ⟨front, rfl, hrelease, mark, rest, rfl, hmark⟩)
    · exact h
    · exact ⟨hrelease, mark, rest, rfl, hmark⟩

/-- At one place a line names one release. -/
theorem NamesAt.unique {before' release' : List Char} (h : NamesAt line before release)
    (h' : NamesAt line before' release') (hlength : before.length = before'.length) :
    release = release' := by
  rcases h with ⟨hrelease, mark, rest, hcut, hmark⟩
  rcases h' with ⟨hrelease', mark', rest', hcut', hmark'⟩
  have hback := (List.append_inj (hcut.symm.trans hcut') hlength).2
  -- What stands behind the place is read in one way.
  have htake := takeSpacedRelease_eq_some_iff.mpr ⟨hrelease, mark, rest, rfl, hmark⟩
  have htake' := takeSpacedRelease_eq_some_iff.mpr ⟨hrelease', mark', rest', rfl, hmark'⟩
  rw [List.nil_append] at htake htake'
  rw [hback, htake', Option.some.injEq] at htake
  exact htake.symm

theorem lastRelease_ne_none (h : NamesAt line before release) : lastRelease line ≠ none := by
  induction line generalizing before with
  | nil =>
      rcases h.cut with ⟨mark, rest, hcut, -⟩
      exact absurd hcut.symm (List.append_ne_nil_of_right_ne_nil before (List.cons_ne_nil _ _))
  | cons c line ih =>
      intro hnone
      rw [lastRelease] at hnone
      split at hnone
      · cases hnone
      · next hlater =>
          -- The title names the release here, or further on, where it was looked for first.
          rcases namesAt_cons_iff.mp h with ⟨-, hhere⟩ | ⟨front, -, hthere⟩
          · rw [takeSpacedRelease_eq_some_iff.mpr hhere] at hnone
            cases hnone
          · exact ih hthere hlater

theorem namesLast_of_lastRelease (h : lastRelease line = some release) : NamesLast line release := by
  -- The search looks behind each place first, so what it finds has nothing named behind it.
  induction line with
  | nil => cases h
  | cons c line ih =>
      rw [lastRelease] at h
      split at h
      · next found hlater =>
          rw [Option.some.injEq] at h
          subst h
          rcases ih hlater with ⟨front, hnamed, hlast⟩
          refine ⟨c :: front, namesAt_cons_iff.mpr (Or.inr ⟨front, rfl, hnamed⟩), ?_⟩
          intro before' release' hother
          rcases namesAt_cons_iff.mp hother with ⟨rfl, -⟩ | ⟨front', rfl, hthere⟩
          · exact Nat.zero_le _
          · exact Nat.succ_le_succ (hlast front' release' hthere)
      · next hlater =>
          refine ⟨[], takeSpacedRelease_eq_some_iff.mp h, ?_⟩
          intro before' release' hother
          rcases namesAt_cons_iff.mp hother with ⟨rfl, -⟩ | ⟨front', rfl, hthere⟩
          · exact Nat.le_refl _
          · exact absurd hlater (lastRelease_ne_none hthere)

/-- The search finds the last release that a line names. -/
theorem lastRelease_eq_some_iff : lastRelease line = some release ↔ NamesLast line release := by
  refine ⟨namesLast_of_lastRelease, ?_⟩
  rintro ⟨before, hnamed, hlast⟩
  rcases Option.ne_none_iff_exists'.mp (lastRelease_ne_none hnamed) with ⟨found, hfound⟩
  rcases namesLast_of_lastRelease hfound with ⟨before', hnamed', hlast'⟩
  have hlength := Nat.le_antisymm (hlast' before release hnamed) (hlast before' found hnamed')
  rw [hfound, hnamed.unique hnamed' hlength]

/-! ## Lines put together -/

/-- A release that the end of a line names is read whatever stands before it. -/
theorem lastRelease_append {back : List Char} (h : lastRelease back = some release) (front : List Char) :
    lastRelease (front ++ back) = some release := by
  induction front with
  | nil => exact h
  | cons c front ih => rw [List.cons_append, lastRelease, ih]

/-- What has no space in it adds no release to a line. -/
theorem lastRelease_append_of_not_mem {front : List Char} (h : ' ' ∉ front) (back : List Char) :
    lastRelease (front ++ back) = lastRelease back := by
  induction front with
  | nil => rfl
  | cons c front ih =>
      rw [List.mem_cons, not_or] at h
      rw [List.cons_append, lastRelease, ih h.2]
      rcases hback : lastRelease back with _ | found
      · -- No release is named without a space.
        have hhere : takeSpacedRelease (c :: (front ++ back)) = none := by
          unfold takeSpacedRelease
          split
          · next heq => exact absurd (List.cons.inj heq).1.symm h.1
          · rfl
        simp only [hhere]
      · rfl

/-! ## Titles -/

/-- The title that a submission is asked to have. -/
def askedTitle (release product : String) : String :=
  "Conformance results for " ++ release ++ "/" ++ product

/-- Such a title is one line up to its product, with the release between a space and a slash. -/
theorem toList_askedTitle (release product : String) : ∃ front, '\n' ∉ front ∧
    (askedTitle release product).toList = front ++ ' ' :: (release.toList ++ '/' :: product.toList) := by
  have hwords : ∃ front, '\n' ∉ front ∧ "Conformance results for ".toList = front ++ [' '] :=
    ⟨"Conformance results for".toList, by decide, by decide⟩
  rcases hwords with ⟨front, hbreak, hwords⟩
  have hslash : "/".toList = ['/'] := by decide
  refine ⟨front, hbreak, ?_⟩
  unfold askedTitle
  simp only [String.toList_append, hwords, hslash, List.append_assoc, List.cons_append, List.nil_append]

/-- In a title of one line the last release is read. -/
theorem titleRelease_of_not_mem {title : String} (h : '\n' ∉ title.toList) :
    titleRelease title = String.ofList ((lastRelease title.toList).getD []) := by
  rw [titleRelease, splitChars_of_not_mem h]
  rcases hfound : lastRelease title.toList with _ | found
  · simp only [List.findSome?_cons, hfound, List.findSome?_nil]
  · simp only [List.findSome?_cons, hfound]

/-- In a title of the form that is asked for the last release of the product is read, and without one that
    in front of the product. -/
theorem titleRelease_askedTitle {release product : String} (hrelease : IsRelease IsNumeral release.toList)
    (hproduct : '\n' ∉ product.toList) : titleRelease (askedTitle release product) =
      String.ofList ((lastRelease product.toList).getD release.toList) := by
  have hspace : ' ' ∉ release.toList := hrelease.not_mem (by decide) (by decide) (by decide)
  have hbreak : '\n' ∉ release.toList := hrelease.not_mem (by decide) (by decide) (by decide)
  rcases toList_askedTitle release product with ⟨front, hfront, hchars⟩
  have hline : '\n' ∉ (askedTitle release product).toList := by
    rw [hchars]
    simp [hfront, hbreak, hproduct]
  rw [titleRelease_of_not_mem hline, hchars]
  rcases hown : lastRelease product.toList with _ | own
  · -- The product names none, so the last one is that between the space and the slash before it.
    have hbehind : lastRelease (release.toList ++ '/' :: product.toList) = none := by
      rw [List.append_cons, lastRelease_append_of_not_mem (by simp [hspace]), hown]
    have hhere : lastRelease (' ' :: (release.toList ++ '/' :: product.toList)) =
        some release.toList := by
      rw [lastRelease, hbehind]
      exact takeSpacedRelease_eq_some_iff.mpr ⟨hrelease, '/', product.toList, rfl, Or.inr rfl⟩
    rw [lastRelease_append hhere]
    rfl
  · have hthere := lastRelease_append hown (front ++ ' ' :: (release.toList ++ ['/']))
    simp only [List.append_assoc, List.cons_append, List.nil_append] at hthere
    rw [hthere]
    rfl

/-- The step compares what is read in the title with the release of the folders. -/
theorem Check.titleNamesRelease_answer {b : Brief} (htarget : b.target ≠ "") (n : Notes) :
    titleNamesRelease.answer b n = .ok (if titleRelease b.submission.title = b.target then (.passed, n)
      else (.failed (.titleVersion (titleRelease b.submission.title) b.target), n)) := by
  have hgiven : b.target.isEmpty = false := by
    rwa [← Bool.not_eq_true, String.isEmpty_iff]
  by_cases hsame : titleRelease b.submission.title = b.target
  · simp [answer, examine, Examination.withRelease, Examination.findIf, conclude, hgiven, hsame]
  · simp [answer, examine, Examination.withRelease, Examination.findIf, conclude, hgiven, hsame]

/-- A title of the form that is asked for, with the release of the folders in its place, is taken to name
    that release exactly if the product names no other one as its last. Where it does, the finding gives the
    release in the product for the one in the title. -/
theorem asked_title_passes_iff {b : Brief} {release product : String}
    (hrelease : IsRelease IsNumeral release.toList) (hproduct : '\n' ∉ product.toList)
    (htitle : b.submission.title = askedTitle release product) (htarget : b.target = release) (n : Notes) :
    (Check.titleNamesRelease.answer b n = .ok (.passed, n) ↔
      ∀ other : String, NamesLast product.toList other.toList → other = release) ∧
    ∀ other : String, NamesLast product.toList other.toList → other ≠ release →
      Check.titleNamesRelease.answer b n = .ok (.failed (.titleVersion other release), n) := by
  have hgiven : b.target ≠ "" := by
    rintro hempty
    rcases hrelease with ⟨major, minor, -, -, htext⟩
    rw [← htarget, hempty] at htext
    cases htext
  have hread := titleRelease_askedTitle hrelease hproduct
  -- What the product names last is read, and without such a release that of the folders.
  have hother : ∀ other : String, NamesLast product.toList other.toList →
      titleRelease (askedTitle release product) = other := by
    intro other hlast
    rw [hread, lastRelease_eq_some_iff.mpr hlast, Option.getD_some, String.ofList_toList]
  have hnone : (∀ other : String, ¬ NamesLast product.toList other.toList) →
      titleRelease (askedTitle release product) = release := by
    intro hnot
    rcases hown : lastRelease product.toList with _ | own
    · rw [hread, hown, Option.getD_none, String.ofList_toList]
    · refine absurd (lastRelease_eq_some_iff.mp hown) ?_
      rw [← String.toList_ofList (l := own)]
      exact hnot _
  rw [Check.titleNamesRelease_answer hgiven, htitle, htarget]
  refine ⟨?_, ?_⟩
  · by_cases hsame : titleRelease (askedTitle release product) = release
    · simp only [hsame, if_true, true_iff]
      exact fun other hlast => (hother other hlast).symm.trans hsame
    · simp only [hsame, if_false, Except.ok.injEq, Prod.mk.injEq, reduceCtorEq, false_and, false_iff]
      intro hall
      have hnot : ∀ other : String, ¬ NamesLast product.toList other.toList := fun other hlast =>
        hsame ((hother other hlast).trans (hall other hlast))
      exact hsame (hnone hnot)
  · intro other hlast hne
    rw [hother other hlast, if_neg hne]

/-- A submission for one release of a product whose name holds another one. -/
def Submission.rebased : Submission :=
  { blank with
    title := "Conformance results for v1.30/Distro v1.29 edition"
    files := [⟨"v1.30/Distro v1.29 edition/README.md", "", none⟩] }

theorem asked_title_passes_iff_of_rebased :
    Submission.rebased.title = askedTitle "v1.30" "Distro v1.29 edition" ∧
      Submission.rebased.release = "v1.30" ∧ NamesLast "Distro v1.29 edition".toList "v1.29".toList ∧
      Check.titleNamesRelease.answer (.ofSubmission .rebased ⟨[]⟩ ⟨0, []⟩ "v1.30" 2) .start =
        .ok (.failed (.titleVersion "v1.29" "v1.30"), .start) := by
  have hnumerals : IsNumeral ['1'] ∧ IsNumeral ['3', '0'] := by
    simp [IsNumeral, isAsciiDigit]
  have hrelease : IsRelease IsNumeral "v1.30".toList := ⟨['1'], ['3', '0'], hnumerals.1, hnumerals.2, rfl⟩
  have htitle : Submission.rebased.title = askedTitle "v1.30" "Distro v1.29 edition" := by decide
  have htarget : Submission.rebased.release = "v1.30" := by decide
  have hlast : NamesLast "Distro v1.29 edition".toList "v1.29".toList :=
    lastRelease_eq_some_iff.mp (by decide)
  refine ⟨htitle, htarget, hlast, ?_⟩
  exact (asked_title_passes_iff hrelease (by decide) htitle htarget .start).2 "v1.29" hlast (by decide)

end Assay
