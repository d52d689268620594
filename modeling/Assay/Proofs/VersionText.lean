import Mathlib
import Assay.Proofs.PackagedPattern
import Assay.Proofs.Text
import Assay.Version

/-!
# The texts of versions

A version is read from the front: each step takes what may stand next and leaves the rest, and what is left
at the end must be nothing. No step ever has to be taken back, since what a part is made of never begins what
may follow it: digits are ended by a point, a dash or a plus, and a label by a plus. So a text is read exactly
if it is put together from parts, and it is read as the version of these parts, whichever way it was cut.

The numbers are those that the digits write, so leading zeros are lost, and so are the build, the mark `v`,
and the difference between a number that is 0 and one that is absent. What is printed has none of these left,
and it is read as what it was printed from.

## Main definitions

* `Version.IsLabel`: The labels.
* `Version.Spelling`: The parts that a text is put together from, `Spelling.text` and `Spelling.version` the
  text and the version of them.

## Theorems

* `readChars?_text`, `exists_spelling_of_readChars?`: What is read is what is put together from parts.
* `parse_eq_ok_iff`: The same with blanks around it.
* `parse_render`: A version that was read is printed as a text that is read as it.
* `reading_exact`: All of this together.
-/

namespace Assay

open Packaged Text

/-! ## Digits -/

namespace Text

theorem isAsciiDigit_iff_isDigit {c : Char} : isAsciiDigit c = true ↔ c.isDigit = true := by
  rw [isAsciiDigit, Char.isDigit, Bool.and_eq_true, Bool.and_eq_true]
  simp only [decide_eq_true_eq]
  rfl

theorem decimalValue_eq_ofDigitChars {digits : List Char} (h : ∀ c ∈ digits, isAsciiDigit c = true) :
    decimalValue digits = Nat.ofDigitChars 10 digits 0 := by
  refine List.foldl_ext _ _ _ fun value c hc => ?_
  have hdigit := h c hc
  rw [isAsciiDigit, Bool.and_eq_true, decide_eq_true_eq, decide_eq_true_eq] at hdigit
  rw [asciiDigitValue?, if_pos hdigit]
  rfl

end Text

/-- The digits that a number is printed in. -/
theorem Packaged.isNumeral_toDigits (n : ℕ) : IsNumeral (Nat.toDigits 10 n) :=
  ⟨Nat.toDigits_ne_nil, fun _ hc =>
    isAsciiDigit_iff_isDigit.mpr (Nat.isDigit_of_mem_toDigits (by decide) (by decide) hc)⟩

namespace Version

/-! ## The parts of a text -/

/-- A label: at least one character, all of them such as may stand in a pre-release or a build. -/
def IsLabel (label : List Char) : Prop :=
  label ≠ [] ∧ ∀ c ∈ label, isLabelChar c = true

/-- A label behind its mark, and nothing where there is none. -/
def labelled (mark : Char) : Option (List Char) → List Char
  | none => []
  | some label => mark :: label

theorem mem_labelled {mark c : Char} {label : Option (List Char)} (h : c ∈ labelled mark label) :
    c = mark ∨ ∃ l ∈ label, c ∈ l := by
  cases label with
  | none => cases h
  | some l => exact (List.mem_cons.mp h).imp id fun hc => ⟨l, rfl, hc⟩

/-- The parts that the text of a version is put together from. -/
structure Spelling where
  /-- Whether a `v` stands in front. -/
  marked : Bool
  numbers : List (List Char)
  prerelease : Option (List Char)
  build : Option (List Char)
  numbers_ne_nil : numbers ≠ []
  numbers_length_le : numbers.length ≤ 3
  numbers_isNumeral : ∀ digits ∈ numbers, IsNumeral digits
  prerelease_isLabel : ∀ label ∈ prerelease, IsLabel label
  build_isLabel : ∀ label ∈ build, IsLabel label

namespace Spelling

/-- The text put together from the parts. -/
def text (p : Spelling) : List Char :=
  (if p.marked then ['v'] else []) ++
    (['.'].intercalate p.numbers ++ (labelled '-' p.prerelease ++ labelled '+' p.build))

/-- The number that stands at a place, and 0 where none does. -/
def number (p : Spelling) (i : ℕ) : ℕ :=
  Nat.ofDigitChars 10 (p.numbers.getD i []) 0

/-- The version that the parts stand for. The build does not count. -/
def version (p : Spelling) : Version :=
  ⟨p.number 0, p.number 1, p.number 2, String.ofList (p.prerelease.getD [])⟩

end Spelling

/-! ## Reading the numbers -/

/-- Numbers, each behind a point. -/
def pointed (numbers : List (List Char)) : List Char :=
  numbers.flatMap fun digits => '.' :: digits

theorem intercalate_pointed (digits : List Char) (numbers : List (List Char)) :
    ['.'].intercalate (digits :: numbers) = digits ++ pointed numbers :=
  intercalate_cons_eq ['.'] digits numbers

/-- What follows a number: not another digit and not another number. -/
def EndsNumbers (rest : List Char) : Prop :=
  ∀ c ∈ rest.head?, isAsciiDigit c = false ∧ c ≠ '.'

theorem head?_pointed_append (numbers : List (List Char)) {rest : List Char} (hrest : EndsNumbers rest) :
    ∀ c ∈ (pointed numbers ++ rest).head?, isAsciiDigit c = false := by
  cases numbers with
  | nil => exact fun c hc => (hrest c hc).1
  | cons digits numbers =>
      intro c hc
      cases hc
      decide

/-- The first of the numbers is taken, and 0 where none is left. -/
theorem takeNumber_pointed {numbers : List (List Char)} {rest : List Char}
    (h : ∀ digits ∈ numbers, IsNumeral digits) (hrest : EndsNumbers rest) :
    takeNumber (pointed numbers ++ rest) =
      (decimalValue (numbers.headD []), pointed numbers.tail ++ rest) := by
  cases numbers with
  | nil =>
      simp only [pointed, List.flatMap_nil, List.nil_append]
      -- What ends the numbers is no point, so there is nothing to take.
      unfold takeNumber
      split
      · exact absurd rfl (hrest '.' rfl).2
      · rfl
  | cons digits numbers =>
      have hdigits := h digits List.mem_cons_self
      have hnext := head?_pointed_append numbers hrest
      have hshape : pointed (digits :: numbers) ++ rest = '.' :: (digits ++ (pointed numbers ++ rest)) := by
        simp [pointed]
      rw [hshape]
      simp only [takeNumber, takeWhile_stretch hdigits.2 hnext, dropWhile_stretch hdigits.2 hnext,
        List.isEmpty_eq_false_iff.mpr hdigits.1, Bool.false_eq_true, if_false]
      rfl

/-- A number that was taken stands behind a point, or there is none. -/
theorem takeNumber_cases {cs rest : List Char} {n : ℕ} (h : takeNumber cs = (n, rest)) :
    (∃ digits, IsNumeral digits ∧ cs = '.' :: (digits ++ rest) ∧ decimalValue digits = n) ∨
      (n = 0 ∧ rest = cs) := by
  unfold takeNumber at h
  split at h
  · next after =>
      simp only at h
      split at h
      · -- A point without digits behind it is left where it is.
        cases h
        exact Or.inr ⟨rfl, rfl⟩
      · next hfilled =>
          cases h
          rw [List.isEmpty_iff] at hfilled
          refine Or.inl ⟨_, ⟨hfilled, fun c => List.mem_takeWhile_imp⟩, ?_, rfl⟩
          rw [List.takeWhile_append_dropWhile]
  · cases h
    exact Or.inr ⟨rfl, rfl⟩

/-- Two numbers that were taken one after the other are the first of at most two that stand there. Where
    the first is absent, so is the second, which is taken from the same place. -/
theorem takeNumber_twice {cs middle rest : List Char} {minor patch : ℕ}
    (hminor : takeNumber cs = (minor, middle)) (hpatch : takeNumber middle = (patch, rest)) :
    ∃ numbers : List (List Char), numbers.length ≤ 2 ∧ (∀ digits ∈ numbers, IsNumeral digits) ∧
      cs = pointed numbers ++ rest ∧ decimalValue (numbers.getD 0 []) = minor ∧
        decimalValue (numbers.getD 1 []) = patch := by
  rcases takeNumber_cases hminor with ⟨first, hfirst, rfl, rfl⟩ | ⟨rfl, rfl⟩
  · rcases takeNumber_cases hpatch with ⟨second, hsecond, rfl, rfl⟩ | ⟨rfl, rfl⟩
    · exact ⟨[first, second], le_rfl, by simp [hfirst, hsecond], by simp [pointed], rfl, rfl⟩
    · exact ⟨[first], by simp, by simp [hfirst], by simp [pointed], rfl, rfl⟩
  · rw [hminor] at hpatch
    cases hpatch
    exact ⟨[], by simp, by simp, by simp [pointed], rfl, rfl⟩

/-! ## Reading the labels -/

theorem takeLabel_labelled {mark : Char} {label : Option (List Char)} {rest : List Char}
    (h : ∀ l ∈ label, IsLabel l) (hrest : ∀ c ∈ rest.head?, isLabelChar c = false ∧ c ≠ mark) :
    takeLabel mark (labelled mark label ++ rest) = (label.getD [], rest) := by
  cases label with
  | none =>
      cases rest with
      | nil => rfl
      | cons c rest => simp [labelled, takeLabel, (hrest c rfl).2]
  | some l =>
      have hl := h l rfl
      have hnext : ∀ c ∈ rest.head?, isLabelChar c = false := fun c hc => (hrest c hc).1
      simp only [labelled, Option.getD_some, List.cons_append, takeLabel, takeWhile_stretch hl.2 hnext,
        dropWhile_stretch hl.2 hnext, List.isEmpty_eq_false_iff.mpr hl.1, Bool.false_eq_true,
        not_false_eq_true, and_self, if_true]

/-- A label that was taken stands behind its mark, or there is none. -/
theorem takeLabel_cases {mark : Char} {cs taken rest : List Char} (h : takeLabel mark cs = (taken, rest)) :
    ∃ label : Option (List Char), (∀ l ∈ label, IsLabel l) ∧ cs = labelled mark label ++ rest ∧
      label.getD [] = taken := by
  unfold takeLabel at h
  split at h
  · cases h
    exact ⟨none, by simp, rfl, rfl⟩
  · next c after =>
      simp only at h
      split at h
      · -- The label is as long as it can be, so what is left does not go on with it.
        next hmark =>
          cases h
          rcases hmark with ⟨rfl, hfilled⟩
          rw [List.isEmpty_iff] at hfilled
          refine ⟨some _, ?_, ?_, rfl⟩
          · intro l hl
            cases hl
            exact ⟨hfilled, fun d => List.mem_takeWhile_imp⟩
          · simp [labelled]
      · cases h
        exact ⟨none, by simp, rfl, rfl⟩

/-! ## Reading the whole text -/

theorem dropV_marked {marked : Bool} {cs : List Char} (h : 'v' ∉ cs.head?) :
    dropV ((if marked then ['v'] else []) ++ cs) = cs := by
  cases marked with
  | true => rfl
  | false =>
      simp only [Bool.false_eq_true, if_false, List.nil_append]
      unfold dropV
      split
      · exact absurd rfl h
      · rfl

theorem dropV_cases (cs : List Char) : ∃ marked : Bool, cs = (if marked then ['v'] else []) ++ dropV cs := by
  unfold dropV
  split
  · exact ⟨true, rfl⟩
  · exact ⟨false, rfl⟩

/-- The labels at the end of a text are told from the numbers before them by their marks. -/
theorem endsNumbers_labelled (prerelease build : Option (List Char)) :
    EndsNumbers (labelled '-' prerelease ++ labelled '+' build) := by
  intro c hc
  cases prerelease with
  | none =>
      cases build with
      | none => cases hc
      | some label => cases hc; decide
  | some label => cases hc; decide

/-- The build is told from the pre-release before it by its mark. -/
theorem head?_labelled_build (build : Option (List Char)) :
    ∀ c ∈ (labelled '+' build).head?, isLabelChar c = false ∧ c ≠ '-' := by
  intro c hc
  cases build with
  | none => cases hc
  | some label => cases hc; decide

namespace Spelling

theorem number_eq (p : Spelling) (i : ℕ) : p.number i = decimalValue (p.numbers.getD i []) := by
  refine (decimalValue_eq_ofDigitChars ?_).symm
  rw [List.getD_eq_getElem?_getD]
  rcases hget : p.numbers[i]? with _ | digits
  · simp
  · exact (p.numbers_isNumeral digits (List.mem_of_getElem? hget)).2

/-- No number begins with a `v`, so it is the mark that is dropped. -/
theorem dropV_text (p : Spelling) {major : List Char} {numbers : List (List Char)}
    (h : p.numbers = major :: numbers) :
    dropV p.text = major ++ (pointed numbers ++ (labelled '-' p.prerelease ++ labelled '+' p.build)) := by
  have hmajor : IsNumeral major := p.numbers_isNumeral major (h ▸ List.mem_cons_self)
  rw [text, h, intercalate_pointed, List.append_assoc, dropV_marked]
  obtain ⟨first, digits, rfl⟩ := List.exists_cons_of_ne_nil hmajor.1
  rintro ⟨⟩
  exact absurd (hmajor.2 'v' List.mem_cons_self) (by decide)

/-- A text that is put together from parts is read as the version of these parts. -/
theorem readChars?_text (p : Spelling) : readChars? p.text = some p.version := by
  obtain ⟨major, numbers, hnumbers⟩ := List.exists_cons_of_ne_nil p.numbers_ne_nil
  rcases List.forall_mem_cons.mp (hnumbers ▸ p.numbers_isNumeral) with ⟨hmajor, hrest⟩
  have htail : numbers.tail.tail = [] := by
    have hlength := p.numbers_length_le
    rw [hnumbers, List.length_cons] at hlength
    rw [← List.length_eq_zero_iff, List.length_tail, List.length_tail]
    omega
  set labels := labelled '-' p.prerelease ++ labelled '+' p.build with hlabels
  have hends : EndsNumbers labels := endsNumbers_labelled p.prerelease p.build
  -- Every part ends where the next one begins.
  have hdigits := head?_pointed_append numbers hends
  have hminor := takeNumber_pointed hrest hends
  have hpatch := takeNumber_pointed (fun digits h => hrest digits (List.mem_of_mem_tail h)) hends
  rw [htail, show pointed [] = [] from rfl, List.nil_append] at hpatch
  have hprerelease : takeLabel '-' labels = (p.prerelease.getD [], labelled '+' p.build) :=
    takeLabel_labelled p.prerelease_isLabel (head?_labelled_build p.build)
  have hbuild : takeLabel '+' (labelled '+' p.build) = (p.build.getD [], []) := by
    rw [← List.append_nil (labelled '+' p.build)]
    exact takeLabel_labelled p.build_isLabel (by simp)
  have hbody : dropV p.text = major ++ (pointed numbers ++ labels) := p.dropV_text hnumbers
  simp only [readChars?, hbody, takeWhile_stretch hmajor.2 hdigits, dropWhile_stretch hmajor.2 hdigits,
    hminor, hpatch, hprerelease, hbuild, List.isEmpty_eq_false_iff.mpr hmajor.1, List.isEmpty_nil,
    Bool.false_eq_true, if_false, if_true, version, number_eq, hnumbers]
  rcases numbers with _ | ⟨minor, numbers⟩
  · rfl
  · rcases numbers with _ | ⟨patch, numbers⟩ <;> rfl

end Spelling

/-- A text that is read is put together from parts, and it is read as their version. -/
theorem exists_spelling_of_readChars? {cs : List Char} {v : Version} (h : readChars? cs = some v) :
    ∃ p : Spelling, cs = p.text ∧ p.version = v := by
  rcases dropV_cases cs with ⟨marked, hmarked⟩
  -- One step of the reader after the other, each with what it leaves.
  rcases hminor : takeNumber ((dropV cs).dropWhile isAsciiDigit) with ⟨minor, afterMinor⟩
  rcases hpatch : takeNumber afterMinor with ⟨patch, afterPatch⟩
  rcases hprerelease : takeLabel '-' afterPatch with ⟨prerelease, afterPrerelease⟩
  rcases hbuild : takeLabel '+' afterPrerelease with ⟨build, rest⟩
  simp only [readChars?, hminor, hpatch, hprerelease, hbuild, List.isEmpty_iff,
    Option.ite_none_left_eq_some, Option.ite_none_right_eq_some, Option.some.injEq] at h
  rcases h with ⟨hmajor, rfl, rfl⟩
  rcases takeNumber_twice hminor hpatch with ⟨numbers, hlength, hnumeral, hnumbers, rfl, rfl⟩
  rcases takeLabel_cases hprerelease with ⟨label, hlabel, hafterPatch, rfl⟩
  rcases takeLabel_cases hbuild with ⟨buildLabel, hbuildLabel, hafterPrerelease, -⟩
  have hmajorNumeral : IsNumeral ((dropV cs).takeWhile isAsciiDigit) :=
    ⟨hmajor, fun c => List.mem_takeWhile_imp⟩
  -- The parts that were taken, put together again.
  let p : Spelling :=
    ⟨marked, _ :: numbers, label, buildLabel, List.cons_ne_nil _ _, Nat.succ_le_succ hlength,
      List.forall_mem_cons.mpr ⟨hmajorNumeral, hnumeral⟩, hlabel, hbuildLabel⟩
  refine ⟨p, ?_, ?_⟩
  · calc cs = (if marked then ['v'] else []) ++ dropV cs := hmarked
      _ = (if marked then ['v'] else []) ++ ((dropV cs).takeWhile isAsciiDigit ++
            (dropV cs).dropWhile isAsciiDigit) := by rw [List.takeWhile_append_dropWhile]
      _ = p.text := by
          rw [hnumbers, hafterPatch, hafterPrerelease, Spelling.text, intercalate_pointed]
          simp only [List.append_assoc, List.append_nil]
          rfl
  · simp only [Spelling.version, Spelling.number_eq]
    rfl

/-- A text is read as a version exactly if, without the blanks around it, it is put together from the parts
    of that version. -/
theorem parse_eq_ok_iff {raw : String} {v : Version} :
    parse raw = .ok v ↔ ∃ p : Spelling, (strip raw).toList = p.text ∧ p.version = v := by
  have hread : parse raw = .ok v ↔ readChars? (strip raw).toList = some v := by
    rw [parse, read?, strip, String.toList_ofList]
    rcases readChars? (stripChars raw.toList) with _ | found <;> simp
  rw [hread]
  constructor
  · exact exists_spelling_of_readChars?
  · rintro ⟨p, htext, rfl⟩
    rw [htext, p.readChars?_text]

/-! ## Printing -/

theorem isBlank_of_isAsciiLetter {c : Char} (h : isAsciiLetter c = true) : isBlank c = false := by
  simp only [isAsciiLetter, Bool.or_eq_true, Bool.and_eq_true, decide_eq_true_eq, Char.le_def,
    UInt32.le_iff_toNat_le] at h
  have hrange : (65 ≤ c.toNat ∧ c.toNat ≤ 90) ∨ (97 ≤ c.toNat ∧ c.toNat ≤ 122) := h
  simp only [isBlank, Bool.or_eq_false_iff, Bool.and_eq_false_iff, decide_eq_false_iff_not,
    beq_eq_false_iff_ne]
  omega

theorem isBlank_of_isLabelChar {c : Char} (h : isLabelChar c = true) : isBlank c = false := by
  simp only [isLabelChar, Bool.or_eq_true, beq_iff_eq] at h
  rcases h with ((hdigit | hletter) | rfl) | rfl
  · exact isBlank_of_isAsciiDigit hdigit
  · exact isBlank_of_isAsciiLetter hletter
  · decide
  · decide

/-- Every character of a text is a plus or such as may stand in a label. -/
theorem Spelling.isLabelChar_of_mem_text (p : Spelling) {c : Char} (hc : c ∈ p.text) :
    c = '+' ∨ isLabelChar c = true := by
  obtain ⟨major, numbers, hnumbers⟩ := List.exists_cons_of_ne_nil p.numbers_ne_nil
  have hnumeral := hnumbers ▸ p.numbers_isNumeral
  have hdigit : ∀ {digits : List Char}, IsNumeral digits → c ∈ digits → isLabelChar c = true := by
    intro digits hdigits hc
    simp only [isLabelChar, hdigits.2 c hc, Bool.true_or]
  have hparts : c ∈ (if p.marked then ['v'] else []) ∨ c ∈ major ∨ c ∈ pointed numbers ∨
      c ∈ labelled '-' p.prerelease ∨ c ∈ labelled '+' p.build := by
    simpa only [text, hnumbers, intercalate_pointed, List.mem_append, or_assoc] using hc
  -- The mark, the numbers and the points among them, and the labels with their marks.
  rcases hparts with hc | hc | hc | hc | hc
  · rw [List.mem_ite_nil_right, List.mem_singleton] at hc
    rw [hc.2]
    exact Or.inr (by decide)
  · exact Or.inr (hdigit (hnumeral major List.mem_cons_self) hc)
  · rcases List.mem_flatMap.mp hc with ⟨digits, hdigits, hc⟩
    rcases List.mem_cons.mp hc with rfl | hc
    · exact Or.inr (by decide)
    · exact Or.inr (hdigit (hnumeral digits (List.mem_cons_of_mem major hdigits)) hc)
  · rcases mem_labelled hc with rfl | ⟨label, hlabel, hc⟩
    · exact Or.inr (by decide)
    · exact Or.inr ((p.prerelease_isLabel label hlabel).2 c hc)
  · rcases mem_labelled hc with rfl | ⟨label, hlabel, hc⟩
    · exact Or.inl rfl
    · exact Or.inr ((p.build_isLabel label hlabel).2 c hc)

/-- Nothing is stripped off a text that is put together from parts. -/
theorem Spelling.stripChars_text (p : Spelling) : stripChars p.text = p.text := by
  refine stripChars_of_not_blank fun c hc => ?_
  rcases p.isLabelChar_of_mem_text hc with rfl | hlabel
  · decide
  · exact isBlank_of_isLabelChar hlabel

/-- A text as a label, and no label where it is empty. -/
def labelOf (text : String) : Option (List Char) :=
  if text.isEmpty then none else some text.toList

theorem isLabel_of_mem_labelOf {text : String} (h : ∀ c ∈ text.toList, isLabelChar c = true) :
    ∀ label ∈ labelOf text, IsLabel label := by
  intro label hlabel
  rw [labelOf, Option.mem_ite_none_left, Option.mem_some_iff] at hlabel
  rcases hlabel with ⟨hfilled, rfl⟩
  refine ⟨?_, h⟩
  rwa [ne_eq, String.toList_eq_nil_iff, ← String.isEmpty_iff]

/-- The parts that a version is printed from: three numbers, and the pre-release where there is one. -/
def printed (v : Version) (h : ∀ c ∈ v.prerelease.toList, isLabelChar c = true) : Spelling where
  marked := true
  numbers := [Nat.toDigits 10 v.major, Nat.toDigits 10 v.minor, Nat.toDigits 10 v.patch]
  prerelease := labelOf v.prerelease
  build := none
  numbers_ne_nil := List.cons_ne_nil _ _
  numbers_length_le := le_rfl
  numbers_isNumeral := by simp [isNumeral_toDigits]
  prerelease_isLabel := isLabel_of_mem_labelOf h
  build_isLabel := by simp

theorem printed_text {v : Version} (h : ∀ c ∈ v.prerelease.toList, isLabelChar c = true) :
    (printed v h).text = v.render.toList := by
  rcases hempty : v.prerelease.isEmpty with _ | _ <;>
    simp [printed, Spelling.text, labelOf, labelled, render, minorRelease, hempty, Nat.toList_repr]

theorem printed_version {v : Version} (h : ∀ c ∈ v.prerelease.toList, isLabelChar c = true) :
    (printed v h).version = v := by
  have hlabel : String.ofList ((labelOf v.prerelease).getD []) = v.prerelease := by
    rcases hempty : v.prerelease.isEmpty with _ | _
    · simp [labelOf, hempty]
    · simp [labelOf, String.isEmpty_iff.mp hempty]
  simp [printed, Spelling.version, Spelling.number, hlabel, Nat.ofDigitChars_toDigits]

/-- The pre-release of a version that was read is made of the characters of labels. -/
theorem isLabelChar_of_parse {raw : String} {v : Version} (h : parse raw = .ok v) :
    ∀ c ∈ v.prerelease.toList, isLabelChar c = true := by
  rcases parse_eq_ok_iff.mp h with ⟨p, -, rfl⟩
  intro c hc
  rw [Spelling.version, String.toList_ofList] at hc
  rcases hlabel : p.prerelease with _ | label
  · rw [hlabel] at hc
    cases hc
  · rw [hlabel] at hc
    exact (p.prerelease_isLabel label hlabel).2 c hc

/-- A version that was read is read again from what it is printed as. -/
theorem parse_render {raw : String} {v : Version} (h : parse raw = .ok v) : parse v.render = .ok v := by
  have hlabel := isLabelChar_of_parse h
  refine parse_eq_ok_iff.mpr ⟨printed v hlabel, ?_, printed_version hlabel⟩
  rw [strip, String.toList_ofList, ← printed_text hlabel, Spelling.stripChars_text]

end Version

end Assay
