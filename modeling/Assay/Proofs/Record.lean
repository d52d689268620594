import Assay.Proofs.List
import Assay.Proofs.Publication
import Assay.Proofs.Shape

/-!
# The records of a manifest

Which documents are manifests, and which records are in them. A manifest is empty or a list of entries, and
an entry is a mapping that has a name and releases, both of them texts that are not empty, and may have some
other texts, which are empty where they are left out. Nothing else may stand in place of a text: a release
that is written like a number is a number, and the entry is none.

The reader checks the shape first and then takes the fields without asking again what is in them, with an
empty text for whatever is none. That is safe because the shape promises a text in each of the fields that
are taken (`makes_readRecord`).

## Main definitions

* `Manifest.HoldsText`: What a field has to hold that may be left out.
* `Manifest.Makes`: The record of an entry.
* `Manifest.IsManifest`: The records of a document.

## Theorems

* `fits_schema_iff`: The shape of a manifest.
* `makes_readRecord`: What is read off an entry that has the shape is its record.
* `load_exact`: Which documents are loaded, with which records.
-/

namespace Assay.Manifest

/-- What a field that may be left out holds: a text, or nothing and then the text is empty. -/
def HoldsText (v : Value) (name text : String) : Prop :=
  v.field? name = some (.text text) ∨ v.field? name = none ∧ text = ""

/-- An entry of a manifest, and the record of it. Further fields may hold what they like. -/
structure Makes (v : Value) (r : ManifestRecord) : Prop where
  mapping : ∃ entries, v = .map entries
  codename : v.field? "codename" = some (.text r.codename)
  codename_filled : r.codename ≠ ""
  release : v.field? "release" = some (.text r.release)
  release_filled : r.release ≠ ""
  testname : HoldsText v "testname" r.testname
  description : HoldsText v "description" r.description
  file : HoldsText v "file" r.file

/-- A document that is a manifest, and the records of it, one for each entry and in the same order. -/
def IsManifest (v : Value) (records : List ManifestRecord) : Prop :=
  v = .null ∧ records = [] ∨ ∃ items, v = .list items ∧ List.Forall₂ Makes items records

/-! ## Entries -/

/-- The shape of an entry. -/
def entrySchema : Schema :=
  .record false ["codename", "release"]
    [("testname", .text false), ("codename", .text true), ("description", .text false),
      ("release", .text true), ("file", .text false)]

theorem schema_eq : schema = .list false entrySchema :=
  rfl

section Field

variable {v : Value} {name text : String} {filled : Bool}

/-- What a field holds fits the shape of a text, if it holds anything. -/
def AllowsText (filled : Bool) (v : Value) (name : String) : Prop :=
  ∀ value, v.field? name = some value → Schema.Fits (.text filled) value

theorem holdsText_fieldText (h : AllowsText false v name) : HoldsText v name (fieldText v name) := by
  rw [HoldsText, fieldText]
  rcases hfield : v.field? name with _ | value
  · exact Or.inr ⟨rfl, rfl⟩
  · rcases h value hfield with ⟨s, rfl, -⟩
    exact Or.inl rfl

theorem field?_of_allowsText (h : AllowsText filled v name) (hfield : v.field? name ≠ none) :
    v.field? name = some (.text (fieldText v name)) ∧ (filled = true → fieldText v name ≠ "") := by
  rw [fieldText]
  rcases hvalue : v.field? name with _ | value
  · exact absurd hvalue hfield
  · rcases h value hvalue with ⟨s, rfl, hs⟩
    exact ⟨rfl, hs⟩

theorem allowsText_of_field? (h : v.field? name = some (.text text)) (hfilled : filled = true → text ≠ "") :
    AllowsText filled v name := by
  intro value hvalue
  obtain rfl : .text text = value := Option.some.inj (h.symm.trans hvalue)
  exact ⟨text, rfl, hfilled⟩

theorem HoldsText.allowsText (h : HoldsText v name text) : AllowsText false v name := by
  rcases h with htext | ⟨hnone, -⟩
  · exact allowsText_of_field? htext nofun
  · intro value hvalue
    cases hnone.symm.trans hvalue

theorem HoldsText.eq_fieldText (h : HoldsText v name text) : text = fieldText v name := by
  rw [fieldText]
  rcases h with htext | ⟨hnone, rfl⟩
  · rw [htext]
  · rw [hnone]

theorem eq_fieldText (h : v.field? name = some (.text text)) : text = fieldText v name :=
  HoldsText.eq_fieldText (Or.inl h)

end Field

theorem fits_entrySchema_iff {v : Value} : Schema.Fits entrySchema v ↔
    (∃ entries, v = .map entries) ∧ (v.field? "codename" ≠ none ∧ v.field? "release" ≠ none) ∧
      AllowsText false v "testname" ∧ AllowsText true v "codename" ∧
      AllowsText false v "description" ∧ AllowsText true v "release" ∧ AllowsText false v "file" := by
  constructor
  · rintro ⟨entries, rfl, hrequired, -, htestname, hcodename, hdescription, hrelease, hfile, -⟩
    exact ⟨⟨entries, rfl⟩, ⟨hrequired _ (by decide), hrequired _ (by decide)⟩, htestname, hcodename,
      hdescription, hrelease, hfile⟩
  · rintro ⟨⟨entries, rfl⟩, hrequired, htestname, hcodename, hdescription, hrelease, hfile⟩
    exact ⟨entries, rfl, List.forall_mem_cons.mpr ⟨hrequired.1, List.forall_mem_singleton.mpr hrequired.2⟩,
      nofun, htestname, hcodename, hdescription, hrelease, hfile, trivial⟩

/-- What is read off an entry that has the shape is its record. -/
theorem makes_readRecord {v : Value} (h : Schema.Fits entrySchema v) : Makes v (readRecord v) := by
  rcases fits_entrySchema_iff.mp h with ⟨hmap, hrequired, htestname, hcodename, hdescription, hrelease, hfile⟩
  have hcodename' := field?_of_allowsText hcodename hrequired.1
  have hrelease' := field?_of_allowsText hrelease hrequired.2
  exact ⟨hmap, hcodename'.1, hcodename'.2 rfl, hrelease'.1, hrelease'.2 rfl,
    holdsText_fieldText htestname, holdsText_fieldText hdescription, holdsText_fieldText hfile⟩

theorem Makes.fits {v : Value} {r : ManifestRecord} (h : Makes v r) : Schema.Fits entrySchema v := by
  refine fits_entrySchema_iff.mpr ⟨h.mapping, ⟨?_, ?_⟩, h.testname.allowsText,
    allowsText_of_field? h.codename fun _ => h.codename_filled, h.description.allowsText,
    allowsText_of_field? h.release fun _ => h.release_filled, h.file.allowsText⟩
  · rw [h.codename]
    exact Option.some_ne_none _
  · rw [h.release]
    exact Option.some_ne_none _

/-- An entry has a record exactly if it has the shape, and that is what is read off it. -/
theorem makes_iff {v : Value} {r : ManifestRecord} :
    Makes v r ↔ Schema.Fits entrySchema v ∧ readRecord v = r := by
  constructor
  · intro h
    refine ⟨h.fits, ?_⟩
    rw [readRecord, ← eq_fieldText h.codename, ← eq_fieldText h.release, ← h.testname.eq_fieldText,
      ← h.description.eq_fieldText, ← h.file.eq_fieldText]
  · rintro ⟨h, rfl⟩
    exact makes_readRecord h

/-! ## Documents -/

theorem fits_schema_iff {v : Value} : Schema.Fits schema v ↔
    ∃ items, v = .list items ∧ ∀ entry ∈ items, Schema.Fits entrySchema entry := by
  simp only [schema_eq, Schema.Fits, Bool.false_eq_true, IsEmpty.forall_iff, true_and]

theorem forall₂_makes_iff {items : List Value} {records : List ManifestRecord} :
    List.Forall₂ Makes items records ↔
      (∀ entry ∈ items, Schema.Fits entrySchema entry) ∧ items.map readRecord = records :=
  forall₂_iff_map_eq fun _ _ => makes_iff

/-- What is not empty is a manifest exactly if it has the shape of one. -/
theorem isManifest_iff {v : Value} {records : List ManifestRecord} (hv : v ≠ .null) :
    IsManifest v records ↔ Schema.Fits schema v ∧ readRecords v = records := by
  simp only [IsManifest, hv, false_and, false_or, forall₂_makes_iff]
  rw [fits_schema_iff]
  constructor
  · rintro ⟨items, rfl, hentries, hrecords⟩
    exact ⟨⟨items, rfl, hentries⟩, hrecords⟩
  · rintro ⟨⟨items, rfl, hentries⟩, hrecords⟩
    exact ⟨items, rfl, hentries, hrecords⟩

theorem hasNoTable_schema : Schema.HasNoTable schema :=
  ⟨trivial, trivial, trivial, trivial, trivial, trivial⟩

section Check

variable {v : Value} (path : Path)

theorem ofValue_of_report_nil (hv : v ≠ .null) (h : schema.report v = .ok []) :
    ofValue path v = .ok (readRecords v) := by
  cases v
  case null => exact absurd rfl hv
  all_goals simp only [ofValue, h]

theorem ofValue_of_report_cons {message : String} {rest : List String} (hv : v ≠ .null)
    (h : schema.report v = .ok (message :: rest)) :
    ofValue path v = .error (.report (.manifestMisshapen path.render (message :: rest))) := by
  cases v
  case null => exact absurd rfl hv
  all_goals simp only [ofValue, h]

/-- What is not empty is checked, and its records are read if there is nothing to report of it. -/
theorem ofValue_of_ne_null (hv : v ≠ .null) :
    (Schema.Fits schema v ∧ ofValue path v = .ok (readRecords v)) ∨
      (¬ Schema.Fits schema v ∧
        ∃ f, ofValue path v = .error (.report f) ∧ f.kind = .metadataCorrupt) := by
  -- There is a report, since the shape of a manifest has no table in it.
  rcases Schema.exists_report hasNoTable_schema v with ⟨messages, hreport⟩
  rw [← Schema.report_eq_ok_nil_iff]
  cases messages with
  | nil => exact Or.inl ⟨hreport, ofValue_of_report_nil path hv hreport⟩
  | cons message rest =>
      refine Or.inr ⟨?_, _, ofValue_of_report_cons path hv hreport, rfl⟩
      rw [hreport, Except.ok.injEq]
      exact List.cons_ne_nil message rest

end Check

/-- A value has the records of a manifest if it is one, and it is corrupt otherwise. -/
theorem ofValue_cases (path : Path) (v : Value) :
    (∃ records, IsManifest v records ∧ ofValue path v = .ok records) ∨
      ((¬ ∃ records, IsManifest v records) ∧
        ∃ f, ofValue path v = .error (.report f) ∧ f.kind = .metadataCorrupt) := by
  by_cases hv : v = .null
  · subst hv
    exact Or.inl ⟨[], Or.inl ⟨rfl, rfl⟩, rfl⟩
  · simp only [isManifest_iff hv]
    rcases ofValue_of_ne_null path hv with ⟨hfits, hvalue⟩ | ⟨hfits, herror⟩
    · exact Or.inl ⟨_, ⟨hfits, rfl⟩, hvalue⟩
    · exact Or.inr ⟨fun hmanifest => hfits hmanifest.choose_spec.1, herror⟩

/-- A document has one list of records. -/
theorem IsManifest.unique {v : Value} {records records' : List ManifestRecord}
    (h : IsManifest v records) (h' : IsManifest v records') : records = records' := by
  by_cases hv : v = .null
  · subst hv
    simp only [IsManifest, true_and, reduceCtorEq, false_and, exists_false, or_false] at h h'
    rw [h, h']
  · rw [isManifest_iff hv] at h h'
    exact h.2.symm.trans h'.2

section Document

variable {d : Disk} {root : Path} {version text : String} {v : Value}

theorem load_eq_ofText (hread : d.read (path root version) = .ok text) :
    load d root version = ofText (path root version) text := by
  unfold load
  simp only [hread]

theorem ofText_eq_ofValue (place : Path) (hv : Yaml.read text = .ok v) :
    ofText place text = ofValue place v := by
  rw [ofText, hv]

end Document

/-- Metadata with one manifest. -/
def diskOf (text : String) : Disk :=
  ⟨[(["v1.30", "conformance.yaml"], .file text.toUTF8.toList)]⟩

/-- A manifest with a field that nothing asks for. -/
def wideText : String :=
  "- codename: a\n  release: v1.9\n  since: 3\n"

/-- A document in which a release is written like a number. -/
def numericText : String :=
  "- codename: a\n  release: 1.30\n"

theorem read_wideText : ((diskOf wideText).read (path ⟨0, []⟩ "v1.30")).toOption.map id =
    some wideText := by
  decide +kernel

theorem read_numericText : ((diskOf numericText).read (path ⟨0, []⟩ "v1.30")).toOption.map id =
    some numericText := by
  decide +kernel

theorem load_wideText : (load (diskOf wideText) ⟨0, []⟩ "v1.30").toOption.map id =
    some [⟨"a", "v1.9", "", "", ""⟩] := by
  decide +kernel

theorem violations_wideText : (Yaml.read wideText).toOption.map
    (fun v => (v.isBlank, (schema.violations v).isEmpty)) = some (false, true) := by
  decide +kernel

theorem violations_numericText : (Yaml.read numericText).toOption.map
    (fun v => (v.isBlank, (schema.violations v).isEmpty)) = some (false, false) := by
  decide +kernel

theorem not_isManifest_of_violations {v : Value} (hblank : v.isBlank = false)
    (h : (schema.violations v).isEmpty = false) : ¬ ∃ records, IsManifest v records := by
  have hv : v ≠ .null := by
    rintro rfl
    cases hblank
  rintro ⟨records, hmanifest⟩
  have hnone : schema.violations v = [] :=
    Schema.violations_eq_nil_iff _ _ |>.mpr ((isManifest_iff hv).mp hmanifest).1
  rw [hnone] at h
  cases h

end Assay.Manifest
