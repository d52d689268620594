import Assay.Proofs.Halt
import Assay.Review.Answer

/-!
# What answers say

A check either is passed, or fails with a finding, or cannot be applied, or breaks off. Each of
these outcomes is a statement about the brief, made here without the steps that a check goes through
to find it: `Holds` for a check that is passed, `Waived` for one that cannot be applied, and
`BreaksOff` for one that breaks off. What is left over is a finding.

The notes hardly matter. A fault never depends on them, and of all that they hold a check only reads
the version that the evidence shows.

## Main definitions

* `Submission.HoldsMapping`: A file of the submission describes something field by field.
* `Check.Holds`, `Check.Waived`, `Check.BreaksOff`: The three outcomes as statements.

## Theorems

* `answer_passed_iff`: A check is passed where it holds.
* `answer_notApplicable_iff`: A check cannot be applied where it is waived.
* `answer_error_iff`: A check breaks off where a reader does.
-/

namespace Assay

open Text

/-- The file of a name is there and holds a mapping. -/
def Submission.HoldsMapping (s : Submission) (file : String) (entries : List (Value × Value)) : Prop :=
  ∃ f, s.file? file = some f ∧ Yaml.read f.contents = .ok (.map entries)

/-- The file of a name is there, and reading a mapping from it breaks off. -/
def Submission.BreaksReading (s : Submission) (file : String) (fault : Fault) : Prop :=
  ∃ f, s.file? file = some f ∧ Yaml.read f.contents = .error (.fault fault)

namespace Examination

@[simp]
theorem findIf_eq_yes_iff {wrong : Bool} {f : Finding} :
    findIf wrong f = .ok .yes ↔ wrong = false := by
  cases wrong <;> simp [findIf]

@[simp]
theorem findIf_ne_no {wrong : Bool} {f : Finding} : findIf wrong f ≠ .ok .no := by
  cases wrong <;> simp [findIf]

@[simp]
theorem findIf_ne_fault {wrong : Bool} {f : Finding} {fault : Fault} :
    findIf wrong f ≠ .error (.fault fault) := by
  cases wrong <;> simp [findIf]

theorem withRelease_eq_yes_iff {b : Brief} {e : Examination} :
    withRelease b e = .ok .yes ↔ b.target ≠ "" ∧ e = .ok .yes := by
  by_cases h : b.target = "" <;> simp [withRelease, h]

theorem withRelease_eq_no_iff {b : Brief} {e : Examination} :
    withRelease b e = .ok .no ↔ b.target = "" ∨ e = .ok .no := by
  by_cases h : b.target = "" <;> simp [withRelease, h]

theorem withRelease_eq_error_iff {b : Brief} {e : Examination} {x : Halt Finding} :
    withRelease b e = .error x ↔ b.target ≠ "" ∧ e = .error x := by
  by_cases h : b.target = "" <;> simp [withRelease, h]

end Examination

namespace Brief

@[simp]
theorem need_eq_ok_iff {b : Brief} {file : String} {absent : Finding} {f : SubmittedFile} :
    b.need file absent = .ok f ↔ b.submission.file? file = some f := by
  cases h : b.submission.file? file <;> simp [need, h]

@[simp]
theorem need_ne_fault {b : Brief} {file : String} {absent : Finding} {fault : Fault} :
    b.need file absent ≠ .error (.fault fault) := by
  cases h : b.submission.file? file <;> simp [need, h]

theorem description_eq_ok_iff {b : Brief} {file : String} {v : Value} :
    b.description file = .ok v ↔
      ∃ entries, b.submission.HoldsMapping file entries ∧ v = .map entries := by
  simp only [description, bind_eq_ok_iff, need_eq_ok_iff, Submission.HoldsMapping]
  constructor
  · rintro ⟨f, hf, h⟩
    split at h
    · rename_i entries hread
      simp only [pure_eq_ok, Except.ok.injEq] at h
      exact ⟨entries, ⟨f, hf, hread⟩, h.symm⟩
    all_goals simp only [throw_eq_error, reduceCtorEq] at h
  · rintro ⟨entries, ⟨f, hf, hread⟩, rfl⟩
    exact ⟨f, hf, by simp only [hread, pure_eq_ok]⟩

theorem description_eq_fault_iff {b : Brief} {file : String} {fault : Fault} :
    b.description file = .error (.fault fault) ↔ b.submission.BreaksReading file fault := by
  simp only [description, bind_eq_error_iff, need_eq_ok_iff, need_ne_fault, false_or,
    Submission.BreaksReading]
  refine exists_congr fun f => and_congr_right fun _ => ?_
  split <;> simp_all

theorem productField_eq_ok_iff {b : Brief} {field text : String} :
    b.productField field = .ok text ↔ ∃ entries,
      b.submission.HoldsMapping productFileName entries ∧ fieldText (.map entries) field = text := by
  simp only [productField, bind_eq_ok_iff, description_eq_ok_iff, pure_eq_ok, Except.ok.injEq]
  constructor
  · rintro ⟨_, ⟨entries, he, rfl⟩, ht⟩
    exact ⟨entries, he, ht⟩
  · rintro ⟨entries, he, ht⟩
    exact ⟨_, ⟨entries, he, rfl⟩, ht⟩

theorem productField_eq_fault_iff {b : Brief} {field : String} {fault : Fault} :
    b.productField field = .error (.fault fault) ↔
      b.submission.BreaksReading productFileName fault := by
  simp [productField, bind_eq_error_iff, description_eq_fault_iff]

/-- What is done with a field is done with the text under it in the mapping that the description holds. -/
theorem bind_productField_eq_ok_iff {α : Type} {b : Brief} {field : String}
    {use : String → Except (Halt Finding) α} {a : α} :
    (b.productField field >>= use) = .ok a ↔ ∃ entries,
      b.submission.HoldsMapping productFileName entries ∧
        use (fieldText (.map entries) field) = .ok a := by
  simp only [bind_eq_ok_iff, productField_eq_ok_iff]
  constructor
  · rintro ⟨_, ⟨entries, he, rfl⟩, h⟩
    exact ⟨entries, he, h⟩
  · rintro ⟨entries, he, h⟩
    exact ⟨_, ⟨entries, he, rfl⟩, h⟩

theorem bind_productField_eq_fault_iff {α : Type} {b : Brief} {field : String}
    {use : String → Except (Halt Finding) α} {fault : Fault} :
    (b.productField field >>= use) = .error (.fault fault) ↔
      b.submission.BreaksReading productFileName fault ∨ ∃ entries,
        b.submission.HoldsMapping productFileName entries ∧
          use (fieldText (.map entries) field) = .error (.fault fault) := by
  simp only [bind_eq_error_iff, productField_eq_fault_iff, productField_eq_ok_iff]
  refine or_congr_right ⟨?_, ?_⟩
  · rintro ⟨_, ⟨entries, he, rfl⟩, h⟩
    exact ⟨entries, he, h⟩
  · rintro ⟨entries, he, h⟩
    exact ⟨_, ⟨entries, he, rfl⟩, h⟩

end Brief

open Examination

namespace Check

/-! ## The outcomes as statements -/

/-- A text is well-formed for a type of file. -/
def FileFits (type contents : String) : Prop :=
  (lowerAscii (strip type) = "yaml" ∧ ∃ entries, Yaml.read contents = .ok (.map entries)) ∨
    (lowerAscii (strip type) = "xml" ∧ (Xml.read contents).isSome)

/-- A text is well-formed for a type of field. -/
def FieldFits (type value : String) : Prop :=
  (lowerAscii (strip type) = "url" ∧ Contact.isUrl value = .ok true) ∨
    (lowerAscii (strip type) = "email" ∧ Contact.isMailbox value = true)

/-- The content type that was found for a field, empty where none was. -/
def resolved (b : Brief) (field : String) : String :=
  (b.submission.contentTypes.lookup field).getD ""

/-- What a check that is passed says of the submission. -/
def Holds (b : Brief) (evidenceVersion : String) : Check → Prop
  | titleGiven => strip b.submission.title ≠ ""
  | titleMatches pattern => pattern.pattern.occurs b.submission.title = true
  | titleNamesRelease => b.target ≠ "" ∧ titleRelease b.submission.title = b.target
  | filesGiven => b.submission.files ≠ []
  | onlyFiles allowed => ∀ f ∈ b.submission.files, f.baseName ∈ listItems allowed strip
  | fileListed file => ∃ f, b.submission.file? file = some f
  | fileGiven file => ∃ f, b.submission.file? file = some f
  | fileFilled file => ∃ f, b.submission.file? file = some f ∧ strip f.contents ≠ ""
  | fileValid file type => ∃ f, b.submission.file? file = some f ∧ strip f.contents ≠ "" ∧
      FileFits type f.contents
  | foldersMatch pattern => ∀ f ∈ b.submission.files, ∃ groups,
      pattern.pattern.search f.folder = some groups ∧ pairFilled groups = true
  | oneFolder => (folders b.submission).length = 1
  | releaseGiven => b.target ≠ ""
  | releaseSupported => b.target ≠ "" ∧ b.latest ≠ "" ∧ ∃ target latest,
      Version.parse b.target = .ok target ∧ Version.parse b.latest = .ok latest ∧
        target.lt (latest.oldestSupported b.lookback) = false
  | lineMatches file pattern => ∃ f groups, b.submission.file? file = some f ∧
      firstMatch? pattern f.contents = some groups
  | versionsAgree => evidenceVersion ≠ "" ∧ b.target ≠ "" ∧ ∃ shown target,
      Version.parse evidenceVersion = .ok shown ∧ Version.parse b.target = .ok target ∧
        shown.major = target.major ∧ shown.minor = target.minor
  | fieldFilled file field => ∃ entries, b.submission.HoldsMapping file entries ∧
      Brief.fieldText (.map entries) field ≠ ""
  | fieldValid type field => ∃ entries, b.submission.HoldsMapping productFileName entries ∧
      (Brief.fieldText (.map entries) field ≠ "" →
        FieldFits type (Brief.fieldText (.map entries) field))
  | fieldAmong field values => ∃ entries, b.submission.HoldsMapping productFileName entries ∧
      Brief.fieldText (.map entries) field ≠ "" ∧
        Brief.fieldText (.map entries) field ∈ listItems values strip
  | contentTypeAmong field types => resolved b field ≠ "" ∧
      ∃ type ∈ words types, occursIn type (resolved b field) = true
  | commitsGiven => b.submission.commits ≠ []
  | oneCommit => b.submission.commits.length ≤ 1
  | labelsGiven => b.submission.labels ≠ []
  | releaseLabelled start => b.target ≠ "" ∧ start ++ b.target ∈ b.submission.labels
  | testsPass => b.target ≠ "" ∧ ∃ outcomes, Evidence.submitted b.submission = .ok outcomes ∧
      ∀ o ∈ outcomes, o.passed = true
  | testsComplete => b.target ≠ "" ∧ ∃ required outcomes,
      Requirement.resolve b.disk b.metadata b.target = .ok required ∧
        Evidence.submitted b.submission = .ok outcomes ∧ (required.reconcile outcomes).missing = []

/-- What a check that cannot be applied lacks. -/
def Waived (b : Brief) (evidenceVersion : String) : Check → Prop
  | titleNamesRelease | releaseLabelled _ | testsPass | testsComplete => b.target = ""
  | releaseSupported => b.target = "" ∨ b.latest = ""
  | versionsAgree => evidenceVersion = "" ∨ b.target = ""
  | contentTypeAmong field _ => resolved b field = ""
  | _ => False

/-- How a check breaks off: its reader of mappings, of web addresses or of manifests does. -/
def BreaksOff (b : Brief) (fault : Fault) : Check → Prop
  | fileValid file type => ∃ f, b.submission.file? file = some f ∧ strip f.contents ≠ "" ∧
      lowerAscii (strip type) = "yaml" ∧ Yaml.read f.contents = .error (.fault fault)
  | fieldFilled file _ => b.submission.BreaksReading file fault
  | fieldValid type field => b.submission.BreaksReading productFileName fault ∨
      ∃ entries, b.submission.HoldsMapping productFileName entries ∧
        Brief.fieldText (.map entries) field ≠ "" ∧ lowerAscii (strip type) = "url" ∧
          Contact.isUrl (Brief.fieldText (.map entries) field) = .error fault
  | fieldAmong _ _ => b.submission.BreaksReading productFileName fault
  | testsComplete => b.target ≠ "" ∧
      Requirement.resolve b.disk b.metadata b.target = .error (.fault fault)
  | _ => False

/-- The checks that write notes. -/
def takesNotes : Check → Bool
  | fileListed _ | lineMatches _ _ | testsPass | testsComplete => true
  | _ => false

/-! ## Checks that write no notes -/

theorem answer_eq_conclude {c : Check} (hc : c.takesNotes = false) (b : Brief) (n : Notes) :
    c.answer b n = conclude n (c.examine b n.evidenceVersion) := by
  cases c <;> first | rfl | cases hc

theorem conclude_eq_passed_iff {n n' : Notes} {e : Examination} :
    conclude n e = .ok (.passed, n') ↔ e = .ok .yes ∧ n = n' := by
  rcases e with (f | f) | (_ | _) <;> simp [conclude]

theorem conclude_eq_notApplicable_iff {n n' : Notes} {e : Examination} :
    conclude n e = .ok (.notApplicable, n') ↔ e = .ok .no ∧ n = n' := by
  rcases e with (f | f) | (_ | _) <;> simp [conclude]

theorem conclude_eq_error_iff {n : Notes} {e : Examination} {fault : Fault} :
    conclude n e = .error fault ↔ e = .error (.fault fault) := by
  rcases e with (f | f) | (_ | _) <;> simp [conclude]

theorem foldersMatchIn_eq_yes_iff {p : WrittenPattern} {files : List SubmittedFile} :
    foldersMatchIn p files = .ok .yes ↔
      ∀ f ∈ files, ∃ groups, p.pattern.search f.folder = some groups ∧ pairFilled groups = true := by
  induction files with
  | nil => simp [foldersMatchIn]
  | cons f rest ih =>
      cases hs : p.pattern.search f.folder with
      | none => simp [foldersMatchIn, hs]
      | some groups =>
          by_cases hp : pairFilled groups = true
          · simp [foldersMatchIn, hs, hp, ih]
          · simp [foldersMatchIn, hs, hp]

theorem foldersMatchIn_cases (p : WrittenPattern) (files : List SubmittedFile) :
    foldersMatchIn p files = .ok .yes ∨ ∃ f, foldersMatchIn p files = .error (.report f) := by
  induction files with
  | nil => exact Or.inl rfl
  | cons f rest ih =>
      simp only [foldersMatchIn]
      cases p.pattern.search f.folder with
      | none => exact Or.inr ⟨_, rfl⟩
      | some groups =>
          by_cases hp : pairFilled groups = true
          · simpa only [hp, if_true] using ih
          · simp only [hp, Bool.false_eq_true, if_false]
            exact Or.inr ⟨_, rfl⟩

theorem wellFormed_eq_yes_iff {file type contents : String} :
    wellFormed file type contents = .ok .yes ↔ FileFits type contents := by
  by_cases hy : lowerAscii (strip type) = "yaml"
  · simp only [wellFormed, hy, if_true, FileFits, String.reduceEq, false_and, or_false, true_and]
    split <;> simp_all
  · by_cases hx : lowerAscii (strip type) = "xml"
    · simp [wellFormed, hx, FileFits]
    · simp [wellFormed, hy, hx, FileFits]

theorem fieldWellFormed_eq_yes_iff {type field value : String} :
    fieldWellFormed type field value = .ok .yes ↔ FieldFits type value := by
  by_cases hu : lowerAscii (strip type) = "url"
  · simp [fieldWellFormed, hu, FieldFits, bind_eq_ok_iff]
  · by_cases he : lowerAscii (strip type) = "email"
    · simp [fieldWellFormed, he, FieldFits]
    · simp [fieldWellFormed, hu, he, FieldFits]

theorem wellFormed_ne_no {file type contents : String} : wellFormed file type contents ≠ .ok .no := by
  unfold wellFormed
  split
  · split <;> simp
  · split <;> simp

theorem wellFormed_eq_fault_iff {file type contents : String} {fault : Fault} :
    wellFormed file type contents = .error (.fault fault) ↔
      lowerAscii (strip type) = "yaml" ∧ Yaml.read contents = .error (.fault fault) := by
  by_cases hy : lowerAscii (strip type) = "yaml"
  · simp only [wellFormed, hy, if_true, true_and]
    split <;> simp_all
  · by_cases hx : lowerAscii (strip type) = "xml" <;> simp [wellFormed, hy, hx]

theorem fieldWellFormed_ne_no {type field value : String} :
    fieldWellFormed type field value ≠ .ok .no := by
  by_cases hu : lowerAscii (strip type) = "url"
  · simp [fieldWellFormed, hu, bind_eq_ok_iff]
  · by_cases he : lowerAscii (strip type) = "email" <;> simp [fieldWellFormed, hu, he]

theorem fieldWellFormed_eq_fault_iff {type field value : String} {fault : Fault} :
    fieldWellFormed type field value = .error (.fault fault) ↔
      lowerAscii (strip type) = "url" ∧ Contact.isUrl value = .error fault := by
  by_cases hu : lowerAscii (strip type) = "url"
  · simp [fieldWellFormed, hu, bind_eq_error_iff]
  · by_cases he : lowerAscii (strip type) = "email" <;> simp [fieldWellFormed, hu, he]

theorem sameMinor_eq_yes_iff {inEvidence inFolder : String} :
    sameMinor inEvidence inFolder = .ok .yes ↔ ∃ shown target,
      Version.parse inEvidence = .ok shown ∧ Version.parse inFolder = .ok target ∧
        shown.major = target.major ∧ shown.minor = target.minor := by
  simp only [sameMinor, bind_eq_ok_iff, reporting_eq_ok_iff, findIf_eq_yes_iff, Bool.or_eq_false_iff,
    bne_eq_false_iff_eq]
  constructor
  · rintro ⟨shown, hs, target, ht, h⟩
    exact ⟨shown, target, hs, ht, h⟩
  · rintro ⟨shown, target, hs, ht, h⟩
    exact ⟨shown, hs, target, ht, h⟩

theorem sameMinor_ne_no {inEvidence inFolder : String} : sameMinor inEvidence inFolder ≠ .ok .no := by
  simp [sameMinor, bind_eq_ok_iff]

theorem sameMinor_ne_fault {inEvidence inFolder : String} {fault : Fault} :
    sameMinor inEvidence inFolder ≠ .error (.fault fault) := by
  simp [sameMinor, bind_eq_error_iff]

theorem checkSupported_eq_ok_iff {target latest : String} {lookback : Int} {u : Unit} :
    Version.checkSupported target latest lookback = .ok u ↔ ∃ t l,
      Version.parse target = .ok t ∧ Version.parse latest = .ok l ∧
        t.lt (l.oldestSupported lookback) = false := by
  simp only [Version.checkSupported, bind_eq_ok_iff]
  constructor
  · rintro ⟨t, ht, l, hl, h⟩
    refine ⟨t, l, ht, hl, ?_⟩
    by_contra hlt
    simp [hlt] at h
  · rintro ⟨t, l, ht, hl, h⟩
    exact ⟨t, ht, l, hl, by simp [h]⟩

/-- A check that writes no notes says yes where it holds. -/
theorem examine_eq_yes_iff {c : Check} (hc : c.takesNotes = false) {b : Brief} {ev : String} :
    c.examine b ev = .ok .yes ↔ c.Holds b ev := by
  cases c with
  | titleGiven => simp [examine, Holds]
  | titleMatches p => simp [examine, Holds]
  | titleNamesRelease => simp [examine, Holds, withRelease_eq_yes_iff]
  | filesGiven => simp [examine, Holds]
  | onlyFiles allowed => simp [examine, Holds, extraFiles]
  -- The four checks that write notes are left out by the hypothesis.
  | fileListed file => cases hc
  | fileGiven file => simp [examine, Holds, bind_eq_ok_iff]
  | fileFilled file => simp [examine, Holds, bind_eq_ok_iff]
  | fileValid file type =>
      simp only [examine, Holds, bind_eq_ok_iff, Brief.need_eq_ok_iff]
      refine exists_congr fun f => and_congr_right fun _ => ?_
      by_cases he : strip f.contents = "" <;> simp [he, wellFormed_eq_yes_iff]
  | foldersMatch p => exact foldersMatchIn_eq_yes_iff
  | oneFolder => simp [examine, Holds]
  | releaseGiven => simp [examine, Holds]
  | releaseSupported =>
      by_cases h : b.target = "" ∨ b.latest = ""
      · rcases h with h | h <;> simp [examine, Holds, h]
      · simp only [not_or] at h
        simp [examine, Holds, h.1, h.2, bind_eq_ok_iff, checkSupported_eq_ok_iff]
  | lineMatches file p => cases hc
  | versionsAgree =>
      by_cases h : ev = "" ∨ b.target = ""
      · rcases h with h | h <;> simp [examine, Holds, h]
      · simp only [not_or] at h
        simp [examine, Holds, h.1, h.2, sameMinor_eq_yes_iff]
  | fieldFilled file field =>
      simp only [examine, Holds, bind_eq_ok_iff, Brief.description_eq_ok_iff, findIf_eq_yes_iff]
      constructor
      · rintro ⟨_, ⟨entries, he, rfl⟩, ht⟩
        exact ⟨entries, he, by simpa using ht⟩
      · rintro ⟨entries, he, ht⟩
        exact ⟨_, ⟨entries, he, rfl⟩, by simpa using ht⟩
  | fieldValid type field =>
      simp only [examine, Holds, Brief.bind_productField_eq_ok_iff]
      refine exists_congr fun entries => and_congr_right fun _ => ?_
      by_cases ht : Brief.fieldText (.map entries) field = "" <;> simp [ht, fieldWellFormed_eq_yes_iff]
  | fieldAmong field values =>
      simp only [examine, Holds, Brief.bind_productField_eq_ok_iff]
      refine exists_congr fun entries => and_congr_right fun _ => ?_
      by_cases ht : Brief.fieldText (.map entries) field = "" <;> simp [ht]
  | contentTypeAmong field types =>
      by_cases h : resolved b field = ""
      · simp only [resolved] at h
        simp [examine, Holds, contentTypeIn, resolved, h]
      · simp only [resolved] at h
        simp [examine, Holds, contentTypeIn, resolved, h]
  | commitsGiven => simp [examine, Holds]
  | oneCommit => simp [examine, Holds]
  | labelsGiven => simp [examine, Holds]
  | releaseLabelled start => simp [examine, Holds, withRelease_eq_yes_iff]
  | testsPass => cases hc
  | testsComplete => cases hc

/-- A check that writes no notes says no where it is waived. -/
theorem examine_eq_no_iff {c : Check} (hc : c.takesNotes = false) {b : Brief} {ev : String} :
    c.examine b ev = .ok .no ↔ c.Waived b ev := by
  cases c with
  | titleNamesRelease => simp [examine, Waived, withRelease_eq_no_iff]
  | releaseLabelled start => simp [examine, Waived, withRelease_eq_no_iff]
  -- The checks that never say no come to a finding or break off where they do not hold.
  | foldersMatch p =>
      rcases foldersMatchIn_cases p b.submission.files with h | ⟨f, h⟩ <;> simp [examine, Waived, h]
  | releaseSupported =>
      by_cases h : b.target = "" ∨ b.latest = ""
      · simp [examine, Waived, h]
      · simp [examine, Waived, h, bind_eq_ok_iff]
  | versionsAgree =>
      by_cases h : ev = "" ∨ b.target = ""
      · simp [examine, Waived, h]
      · simp [examine, Waived, h, sameMinor_ne_no]
  | contentTypeAmong field types =>
      by_cases h : resolved b field = "" <;> simp only [resolved] at h <;>
        simp [examine, Waived, contentTypeIn, resolved, h]
  | fileValid file type =>
      simp only [examine, Waived, bind_eq_ok_iff, iff_false, not_exists, not_and]
      intro f _
      by_cases he : strip f.contents = "" <;> simp [he, wellFormed_ne_no]
  | fieldValid type field =>
      simp only [examine, Waived, bind_eq_ok_iff, iff_false, not_exists, not_and]
      intro text _
      by_cases ht : text = "" <;> simp [ht, fieldWellFormed_ne_no]
  | fieldAmong field values =>
      simp only [examine, Waived, bind_eq_ok_iff, iff_false, not_exists, not_and]
      intro text _
      by_cases ht : text = "" <;> simp [ht]
  | fileListed _ | lineMatches _ _ | testsPass | testsComplete => cases hc
  | titleGiven | titleMatches _ | filesGiven | onlyFiles _ | oneFolder | releaseGiven | commitsGiven
  | oneCommit | labelsGiven => simp [examine, Waived]
  | fileGiven _ | fileFilled _ | fieldFilled _ _ => simp [examine, Waived, bind_eq_ok_iff]

/-- A check that writes no notes breaks off where its reader does. -/
theorem examine_eq_fault_iff {c : Check} (hc : c.takesNotes = false) {b : Brief} {ev : String}
    {fault : Fault} : c.examine b ev = .error (.fault fault) ↔ c.BreaksOff b fault := by
  cases c with
  | titleNamesRelease => simp [examine, BreaksOff, withRelease_eq_error_iff]
  | releaseLabelled start => simp [examine, BreaksOff, withRelease_eq_error_iff]
  | foldersMatch p =>
      rcases foldersMatchIn_cases p b.submission.files with h | ⟨f, h⟩ <;> simp [examine, BreaksOff, h]
  | releaseSupported =>
      by_cases h : b.target = "" ∨ b.latest = "" <;> simp [examine, BreaksOff, h, bind_eq_error_iff]
  | versionsAgree =>
      by_cases h : ev = "" ∨ b.target = "" <;> simp [examine, BreaksOff, h, sameMinor_ne_fault]
  | contentTypeAmong field types =>
      by_cases h : resolved b field = "" <;> simp only [resolved] at h <;>
        simp [examine, BreaksOff, contentTypeIn, h]
  | fileValid file type =>
      simp only [examine, BreaksOff, bind_eq_error_iff, Brief.need_ne_fault, Brief.need_eq_ok_iff,
        false_or]
      refine exists_congr fun f => and_congr_right fun _ => ?_
      by_cases he : strip f.contents = "" <;> simp [he, wellFormed_eq_fault_iff]
  | fieldFilled file field =>
      simp [examine, BreaksOff, bind_eq_error_iff, Brief.description_eq_fault_iff]
  | fieldValid type field =>
      simp only [examine, BreaksOff, Brief.bind_productField_eq_fault_iff]
      refine or_congr_right (exists_congr fun entries => and_congr_right fun _ => ?_)
      by_cases ht : Brief.fieldText (.map entries) field = "" <;>
        simp [ht, fieldWellFormed_eq_fault_iff]
  | fieldAmong field values =>
      simp only [examine, BreaksOff, Brief.bind_productField_eq_fault_iff, or_iff_left_iff_imp,
        forall_exists_index, and_imp]
      intro entries _ h
      by_cases ht : Brief.fieldText (.map entries) field = "" <;> simp [ht] at h
  | fileListed _ | lineMatches _ _ | testsPass | testsComplete => cases hc
  | titleGiven | titleMatches _ | filesGiven | onlyFiles _ | oneFolder | releaseGiven | commitsGiven
  | oneCommit | labelsGiven => simp [examine, BreaksOff]
  | fileGiven _ | fileFilled _ => simp [examine, BreaksOff, bind_eq_error_iff]

/-! ## Checks that write notes -/

theorem missingTests_eq_ok_iff {b : Brief} {missing : List String} :
    missingTests b = .ok missing ↔ ∃ required outcomes,
      Requirement.resolve b.disk b.metadata b.target = .ok required ∧
        Evidence.submitted b.submission = .ok outcomes ∧
          (required.reconcile outcomes).missing = missing := by
  simp only [missingTests, bind_eq_ok_iff, reporting_eq_ok_iff, pure_eq_ok, Except.ok.injEq]
  constructor
  · rintro ⟨required, hr, outcomes, ho, h⟩
    exact ⟨required, outcomes, hr, ho, h⟩
  · rintro ⟨required, outcomes, hr, ho, h⟩
    exact ⟨required, hr, outcomes, ho, h⟩

theorem missingTests_eq_fault_iff {b : Brief} {fault : Fault} :
    missingTests b = .error (.fault fault) ↔
      Requirement.resolve b.disk b.metadata b.target = .error (.fault fault) := by
  simp [missingTests, bind_eq_error_iff]

theorem failingNames_eq_nil_iff {outcomes : List Outcome} :
    failingNames outcomes = [] ↔ ∀ o ∈ outcomes, o.passed = true := by
  rw [List.eq_nil_iff_forall_not_mem]
  simp only [failingNames, sortedNames, List.mem_mergeSort, List.mem_eraseDups, List.mem_map,
    List.mem_filter, Bool.not_eq_true', not_exists, not_and, and_imp]
  constructor
  · intro h o ho
    by_contra hp
    exact h o.name o ho (Bool.eq_false_iff.mpr hp) rfl
  · intro h _ o ho hp
    rw [h o ho] at hp
    cases hp

/-- The version that the evidence shows after a check that found a matching line. -/
theorem answerLineMatches_eq {b : Brief} {n : Notes} {file : String} {p : WrittenPattern}
    {f : SubmittedFile} {groups : List (Option String)} (hf : b.submission.file? file = some f)
    (hg : firstMatch? p f.contents = some groups) (hne : firstFilled groups ≠ "") :
    answerLineMatches b n file p = (.passed, { n with evidenceVersion := firstFilled groups }) := by
  simp [answerLineMatches, hf, hg, hne]

theorem answerLineMatches_passed_iff {b : Brief} {n : Notes} {file : String} {p : WrittenPattern} :
    (∃ n', answerLineMatches b n file p = (.passed, n')) ↔
      ∃ f groups, b.submission.file? file = some f ∧ firstMatch? p f.contents = some groups := by
  cases hf : b.submission.file? file with
  | none => simp [answerLineMatches, hf]
  | some f => cases hg : firstMatch? p f.contents <;> simp [answerLineMatches, hf, hg]

theorem answerLineMatches_ne_notApplicable {b : Brief} {n n' : Notes} {file : String}
    {p : WrittenPattern} : answerLineMatches b n file p ≠ (.notApplicable, n') := by
  cases hf : b.submission.file? file with
  | none => simp [answerLineMatches, hf]
  | some f => cases hg : firstMatch? p f.contents <;> simp [answerLineMatches, hf, hg]

theorem answerTestsPass_passed_iff {b : Brief} {n : Notes} :
    (∃ n', answerTestsPass b n = (.passed, n')) ↔ b.target ≠ "" ∧ ∃ outcomes,
      Evidence.submitted b.submission = .ok outcomes ∧ ∀ o ∈ outcomes, o.passed = true := by
  by_cases ht : b.target = ""
  · simp [answerTestsPass, ht]
  · cases he : Evidence.submitted b.submission with
    | error f => simp [answerTestsPass, ht, he]
    | ok outcomes =>
        by_cases hf : failingNames outcomes = []
        · simp [answerTestsPass, ht, he, hf, ← failingNames_eq_nil_iff]
        · simp [answerTestsPass, ht, he, hf, ← failingNames_eq_nil_iff]

theorem answerTestsPass_notApplicable_iff {b : Brief} {n : Notes} :
    (∃ n', answerTestsPass b n = (.notApplicable, n')) ↔ b.target = "" := by
  by_cases ht : b.target = ""
  · simp [answerTestsPass, ht]
  · cases he : Evidence.submitted b.submission with
    | error f => simp [answerTestsPass, ht, he]
    | ok outcomes => by_cases hf : failingNames outcomes = [] <;> simp [answerTestsPass, ht, he, hf]

theorem answerTestsComplete_passed_iff {b : Brief} {n : Notes} :
    (∃ n', answerTestsComplete b n = .ok (.passed, n')) ↔ b.target ≠ "" ∧ missingTests b = .ok [] := by
  by_cases ht : b.target = ""
  · simp [answerTestsComplete, ht]
  · rcases hm : missingTests b with (f | f) | missing
    · simp [answerTestsComplete, ht, hm]
    · simp [answerTestsComplete, ht, hm]
    · by_cases hn : missing = [] <;> simp [answerTestsComplete, ht, hm, hn]

theorem answerTestsComplete_notApplicable_iff {b : Brief} {n : Notes} :
    (∃ n', answerTestsComplete b n = .ok (.notApplicable, n')) ↔ b.target = "" := by
  by_cases ht : b.target = ""
  · simp [answerTestsComplete, ht]
  · rcases hm : missingTests b with (f | f) | missing
    · simp [answerTestsComplete, ht, hm]
    · simp [answerTestsComplete, ht, hm]
    · by_cases hn : missing = [] <;> simp [answerTestsComplete, ht, hm, hn]

theorem answerTestsComplete_error_iff {b : Brief} {n : Notes} {fault : Fault} :
    answerTestsComplete b n = .error fault ↔
      b.target ≠ "" ∧ missingTests b = .error (.fault fault) := by
  by_cases ht : b.target = ""
  · simp [answerTestsComplete, ht]
  · rcases hm : missingTests b with (f | f) | missing
    · simp [answerTestsComplete, ht, hm]
    · simp [answerTestsComplete, ht, hm]
    · by_cases hn : missing = [] <;> simp [answerTestsComplete, ht, hm, hn]

/-! ## Any check -/

/-- A check is passed where it holds. -/
theorem answer_passed_iff {c : Check} {b : Brief} {n : Notes} :
    (∃ n', c.answer b n = .ok (.passed, n')) ↔ c.Holds b n.evidenceVersion := by
  by_cases hc : c.takesNotes = false
  · simp [answer_eq_conclude hc, conclude_eq_passed_iff, examine_eq_yes_iff hc]
  · cases c with
    | fileListed file =>
        cases hf : b.submission.file? file <;> simp [answer, answerFileListed, Holds, hf]
    | lineMatches file p => simpa [answer, Holds] using answerLineMatches_passed_iff
    | testsPass => simpa [answer, Holds] using answerTestsPass_passed_iff
    | testsComplete =>
        simp only [answer, Holds, answerTestsComplete_passed_iff, missingTests_eq_ok_iff]
    | _ => exact absurd rfl hc

/-- A check cannot be applied where it is waived. -/
theorem answer_notApplicable_iff {c : Check} {b : Brief} {n : Notes} :
    (∃ n', c.answer b n = .ok (.notApplicable, n')) ↔ c.Waived b n.evidenceVersion := by
  by_cases hc : c.takesNotes = false
  · simp [answer_eq_conclude hc, conclude_eq_notApplicable_iff, examine_eq_no_iff hc]
  · cases c with
    | fileListed file =>
        cases hf : b.submission.file? file <;> simp [answer, answerFileListed, Waived, hf]
    | lineMatches file p => simp [answer, Waived, answerLineMatches_ne_notApplicable]
    | testsPass => simpa [answer, Waived] using answerTestsPass_notApplicable_iff
    | testsComplete => exact answerTestsComplete_notApplicable_iff
    | _ => exact absurd rfl hc

/-- A check breaks off where its reader does, whatever the notes hold. -/
theorem answer_error_iff {c : Check} {b : Brief} {n : Notes} {fault : Fault} :
    c.answer b n = .error fault ↔ c.BreaksOff b fault := by
  by_cases hc : c.takesNotes = false
  · rw [answer_eq_conclude hc, conclude_eq_error_iff, examine_eq_fault_iff hc]
  · cases c with
    | fileListed file => simp [answer, BreaksOff]
    | lineMatches file p => simp [answer, BreaksOff]
    | testsPass => simp [answer, BreaksOff]
    | testsComplete =>
        simp only [answer, BreaksOff, answerTestsComplete_error_iff, missingTests_eq_fault_iff]
    | _ => exact absurd rfl hc

end Check

end Assay
