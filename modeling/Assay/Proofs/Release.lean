import Assay.Proofs.Placement
import Assay.Proofs.Review
import Assay.Proofs.VersionText

/-!
# Releases that can be read

The release of a submission is found by a search through paths, and everything that depends on the release
reads it as a version. The search and the reading are two grammars, and nothing in the paths is checked in
between. What makes this safe is that the smaller grammar lies in the larger one: a release that was found is
a `v` and two numbers, so it is a version without a patch and without a pre-release.

The search can be told without searching. A release stands in a path where another slash follows it on the
same line. The first path in which one stands shows it, at the leftmost place at which one does. There is no
choice left beyond that: a release ends at the slash, since its numbers have no slash in them, and the
product goes on to the last slash of the line.

## Main definitions

* `Placement.StandsIn`: A release stands in a path.
* `SubmittedFile.IsBare`, `SubmittedFile.Shows`: No release stands in the path of a file, or one does and is
  the leftmost.
* `Brief.Reads`: What a review does with the version that its release is read as.

## Theorems

* `find?_eq_none_iff`, `shows_of_find?`: What the search comes to.
* `Version.parse_of_isRelease`: A release is read as a version of its two numbers.
* `Brief.reads_of_parse`: A review whose release can be read never fails on reading it.
* `release_exact`: The release of a submission, and that it can be read.
-/

namespace Assay

open Packaged Text

/-! ## The search -/

namespace Placement

/-- A release stands in a path, behind `before`: it ends at a slash, and another slash follows on the same
    line. -/
structure StandsIn (path before release rest : List Char) : Prop where
  cut : path = before ++ (release ++ '/' :: rest)
  isRelease : IsRelease IsNumeral release
  slash : '/' ∈ rest.takeWhile (· != '\n')

theorem takeHere_nil : takeHere [] = none :=
  rfl

/-- The product of a placement goes on to the last slash of its line. -/
theorem product_of_takeHere {cs : List Char} {p : Placement} (h : takeHere cs = some p) :
    ∃ rest name, cs = p.release.toList ++ '/' :: rest ∧
      rest.takeWhile (· != '\n') = p.product.toList ++ '/' :: name ∧ '/' ∉ name := by
  unfold takeHere at h
  split at h
  · next release rest htake =>
      rcases Option.map_eq_some_iff.mp h with ⟨⟨product, name⟩, hcut, rfl⟩
      rcases partitionLastChars_eq_some_iff.mp hcut with ⟨hline, hname⟩
      rw [String.toList_ofList, String.toList_ofList]
      exact ⟨rest, name, (eq_append_of_takeRelease htake).1, hline, hname⟩
  · cases h

theorem find?_eq_none {cs : List Char} (h : find? cs = none) {before after : List Char}
    (hcut : cs = before ++ after) : takeHere after = none := by
  -- The search passes over one character at a time, and so does what stands before the cut.
  induction cs generalizing before with
  | nil => rw [(List.append_eq_nil_iff.mp hcut.symm).2, takeHere_nil]
  | cons c rest ih =>
      rw [find?] at h
      split at h
      · cases h
      · next hhere =>
          cases before with
          | nil =>
              rw [List.nil_append] at hcut
              rw [← hcut, hhere]
          | cons c' before =>
              rw [List.cons_append, List.cons.injEq] at hcut
              exact ih h hcut.2

end Placement

namespace SubmittedFile

open Placement

/-- No release stands in the path of a file. -/
def IsBare (f : SubmittedFile) : Prop :=
  ∀ before release rest, ¬ StandsIn f.path.toList before release rest

/-- A file shows a release and a product: the release is the leftmost one in its path, and the product is
    what stands between the slash after it and the last slash of the line. -/
def Shows (f : SubmittedFile) (release product : String) : Prop :=
  ∃ before rest name, StandsIn f.path.toList before release.toList rest ∧
    (∀ before' release' rest', StandsIn f.path.toList before' release' rest' →
      before.length ≤ before'.length) ∧
    rest.takeWhile (· != '\n') = product.toList ++ '/' :: name ∧ '/' ∉ name

variable {f : SubmittedFile}

/-- The search finds the leftmost release of a path. -/
theorem shows_of_find? {p : Placement} (h : find? f.path.toList = some p) : f.Shows p.release p.product := by
  rcases exists_of_find? h with ⟨before, after, hpath, hafter, hfirst⟩
  rcases product_of_takeHere hafter with ⟨rest, name, rfl, hline, hname⟩
  have hslash : '/' ∈ rest.takeWhile (· != '\n') := by
    rw [hline]
    exact List.mem_append_right _ List.mem_cons_self
  refine ⟨before, rest, name, ⟨hpath, (eq_append_of_takeHere hafter).1, hslash⟩, ?_, hline, hname⟩
  intro before' release' rest' hstands
  by_contra hleft
  -- A release further to the left would have been found before.
  rw [hpath] at hstands
  rcases List.append_eq_append_iff.mp hstands.cut with ⟨back, hback, -⟩ | ⟨back, hback, htail⟩
  · rw [hback, List.length_append] at hleft
    omega
  · have hne : back ≠ [] := by
      rintro rfl
      rw [hback, List.append_nil] at hleft
      exact hleft le_rfl
    have hnone := hfirst before' back hback hne
    rw [← htail] at hnone
    exact takeHere_ne_none hstands.isRelease hstands.slash hnone

/-- The search finds nothing in a path in which no release stands, and only there. -/
theorem find?_eq_none_iff : find? f.path.toList = none ↔ f.IsBare := by
  constructor
  · intro h before release rest hstands
    exact takeHere_ne_none hstands.isRelease hstands.slash (find?_eq_none h hstands.cut)
  · intro h
    by_contra hne
    rcases Option.ne_none_iff_exists'.mp hne with ⟨p, hp⟩
    rcases shows_of_find? hp with ⟨before, rest, -, hstands, -⟩
    exact h _ _ _ hstands

end SubmittedFile

/-! ## The reading -/

/-- A release is read as a version of its two numbers. -/
theorem Version.parse_of_isRelease {release : String} (h : IsRelease IsNumeral release.toList) :
    ∃ major minor, IsNumeral major ∧ IsNumeral minor ∧
      release.toList = 'v' :: (major ++ '.' :: minor) ∧
        parse release = .ok ⟨decimalValue major, decimalValue minor, 0, ""⟩ := by
  rcases h with ⟨major, minor, hmajor, hminor, htext⟩
  let p : Spelling :=
    ⟨true, [major, minor], none, none, List.cons_ne_nil _ _, by simp, by simp [hmajor, hminor], by simp, by simp⟩
  have hp : p.text = release.toList := by
    simp [p, Spelling.text, labelled, htext]
  refine ⟨major, minor, hmajor, hminor, htext, parse_eq_ok_iff.mpr ⟨p, ?_, ?_⟩⟩
  · rw [strip, String.toList_ofList, ← hp, p.stripChars_text]
  · simp only [Spelling.version, Spelling.number_eq]
    rfl

/-- What a review does with the version that its release is read as. The release is not read anywhere that
    this could fail: what is left to fail is the latest release, the manifest and the evidence. -/
structure Brief.Reads (b : Brief) (v : Version) : Prop where
  /-- Whether the release is waited for is a matter of the latest release and the manifest. -/
  waiting : Verdict.isUnpublished b = if b.latest = "" then .ok false else do
    let newest ← reporting (Version.parse b.latest)
    if v.lt newest then return false
    let published ← breaking (Manifest.isPublished b.disk b.metadata b.target)
    return !published
  /-- Whether the release is supported is a matter of the latest release. -/
  supported : ∀ version, Check.releaseSupported.examine b version =
    if b.latest = "" then .ok .no else do
      let newest ← reporting (Version.parse b.latest)
      let oldest := Version.oldestSupported newest b.lookback
      Examination.findIf (v.lt oldest) (.releaseTooOld (strip b.target) oldest.minorRelease)
  /-- Which tests are missing is a matter of the manifest and the evidence. -/
  missing : Check.missingTests b = do
    let records ← Manifest.load b.disk b.metadata b.target
    let required ← reporting (Requirement.ofRecords v records)
    let outcomes ← reporting (Evidence.submitted b.submission)
    return (required.reconcile outcomes).missing

/-- A review whose release can be read never fails on reading it. -/
theorem Brief.reads_of_parse {b : Brief} {v : Version} (h : Version.parse b.target = .ok v) :
    b.Reads v := by
  have htarget : b.target.isEmpty = false := by
    rw [← Bool.not_eq_true, String.isEmpty_iff]
    exact Version.ne_empty_of_parse h
  refine ⟨?_, fun version => ?_, ?_⟩
  · by_cases hlatest : b.latest = ""
    · simp [Verdict.isUnpublished, hlatest]
    · simp [Verdict.isUnpublished, htarget, hlatest, h]
  · by_cases hlatest : b.latest = ""
    · simp [Check.examine, hlatest]
    · -- Of the two versions that are compared only the latest release can be unreadable.
      rcases hnewest : Version.parse b.latest with problem | newest
      · simp [Check.examine, Version.checkSupported, htarget, hlatest, h, hnewest, reporting]
      · cases hold : v.lt (newest.oldestSupported b.lookback) <;>
          simp [Check.examine, Version.checkSupported, htarget, hlatest, h, hnewest, hold, reporting,
            Examination.findIf]
  · have hread : reporting (Version.parse b.target) = .ok v := reporting_eq_ok_iff.mpr h
    simp only [Check.missingTests, Requirement.resolve, hread, ok_bind, bind_assoc]

/-! ## The release of a submission -/

namespace Submission

theorem release_of_placement? {s : Submission} {p : Placement} (h : s.placement? = some p) :
    s.release = p.release ∧ s.product = p.product := by
  rw [release, product, h]
  exact ⟨rfl, rfl⟩

/-- A submission has no release where no path shows one. -/
theorem release_eq_empty_iff {s : Submission} : s.release = "" ↔ ∀ f ∈ s.files, f.IsBare := by
  simp only [← SubmittedFile.find?_eq_none_iff]
  constructor
  · intro h
    rcases hp : s.placement? with _ | p
    · exact List.findSome?_eq_none_iff.mp hp
    · -- A release that was found is not empty.
      rcases List.exists_of_findSome?_eq_some hp with ⟨f, -, hf⟩
      rcases Placement.isRelease_of_find? hf with ⟨major, minor, -, -, htext⟩
      rw [(release_of_placement? hp).1] at h
      rw [h] at htext
      cases htext
  · intro h
    rw [release, placement?, List.findSome?_eq_none_iff.mpr h]
    rfl

/-- A submission that has a release has the one that the first path with any shows. -/
theorem exists_shows_of_release {s : Submission} (h : s.release ≠ "") : ∃ earlier f later,
    s.files = earlier ++ f :: later ∧ (∀ g ∈ earlier, g.IsBare) ∧ f.Shows s.release s.product := by
  rcases hp : s.placement? with _ | p
  · rw [release, hp] at h
    exact absurd rfl h
  · rcases List.findSome?_eq_some_iff.mp hp with ⟨earlier, f, later, hfiles, hf, hearlier⟩
    rw [(release_of_placement? hp).1, (release_of_placement? hp).2]
    refine ⟨earlier, f, later, hfiles, fun g hg => ?_, SubmittedFile.shows_of_find? hf⟩
    exact SubmittedFile.find?_eq_none_iff.mp (hearlier g hg)

/-- A submission of two files with releases further down in their paths: no slash follows the first, and
    another one follows the second, before a product and a line break. -/
def layered : Submission :=
  { blank with
    files := [⟨"v1.2/README.md", "", none⟩, ⟨"old-v1.30//p/q\n/v1.31/r/PRODUCT.yaml", "", none⟩] }

end Submission

end Assay
