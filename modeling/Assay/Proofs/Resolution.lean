import Assay.Proofs.List
import Assay.Proofs.Precedence
import Assay.Proofs.Reconciliation

/-!
# The tests that a release requires

Which requirements the records of a manifest make of a target. A release that a record lists is *due* if
it is the target or lies before it, and a record that lists a due release makes its requirement, wherever
in the list that release is. The scan of a list stops at the first due release, so what cannot be read as a
version does harm only before it: the list is then *blocked*. Once it is known whether a list is blocked,
the order in it makes no difference.

A later target has more releases due. Its scan of a list may stop earlier than that of an earlier target and
never stops later, so it is blocked by fewer lists, and it requires more.

## Main definitions

* `IsDue`: A release that the target has come to.
* `Blocks`: A list whose scan runs into what is not a version.
* `dueNames`: The names of the records that list a due release.
* `Requires`: The requirement set that some records make of a target.
* `ComesTo`: What some records come to, be it a requirement set or a complaint.
* `SameReleases`: Records that differ in the order of their releases at most.

## Theorems

* `isIncluded_of_blocks`, `isIncluded_of_not_blocks`: What the scan of a list comes to.
* `IsDue.mono`, `Blocks.anti`: Due releases and blocked lists of a later target.
* `names_foldl_require`: The names of a set with requirements added.
* `comesTo_ofRecords`: What some records come to for a target.
* `resolution_exact`: The same of a manifest, next to other orders of releases and to later targets.
-/

namespace Assay

open Text

/-! ## Requirements in a row -/

namespace RequirementSet

theorem names_empty : empty.names = [] :=
  rfl

theorem names_require (r : RequirementSet) (name : String) :
    (r.require name).names = if name ∈ r.names then r.names else r.names ++ [name] :=
  names_requireIn name r.entries

/-- Requirements are added in their order, each once. -/
theorem names_foldl_require (names : List String) (r : RequirementSet) :
    (names.foldl require r).names =
      r.names ++ (names.filter fun name => decide (name ∉ r.names)).eraseDups := by
  induction names generalizing r with
  | nil => rw [List.foldl_nil, List.filter_nil, List.eraseDups_nil, List.append_nil]
  | cons name rest ih =>
      rw [List.foldl_cons, ih, names_require]
      by_cases h : name ∈ r.names
      · rw [if_pos h, List.filter_cons_of_neg (by simpa using h)]
      · rw [if_neg h, eraseDups_filter_cons h, List.append_assoc, List.singleton_append]

theorem unmet_foldl_require (names : List String) {r : RequirementSet} (h : r.Unmet) :
    (names.foldl require r).Unmet := by
  induction names generalizing r with
  | nil => exact h
  | cons name rest ih => exact ih (h.require name)

end RequirementSet

namespace Requirement

variable {target later : Version}

/-! ## Due releases -/

/-- A release that a target has come to. -/
def IsDue (target : Version) (release : String) : Prop :=
  ∃ v, Version.parse release = .ok v ∧ v.le target = true

instance (target : Version) (release : String) : Decidable (IsDue target release) :=
  decidable_of_iff ((Version.parse release).toOption.any (·.le target) = true) <| by
    rw [Option.any_eq_true]
    refine exists_congr fun v => and_congr_left fun _ => ?_
    cases Version.parse release <;> simp [Except.toOption]

/-- A list with something in it that is not a version, before any due release. -/
def Blocks (target : Version) (releases : List String) : Prop :=
  ∃ before release after, releases = before ++ release :: after ∧
    (∀ v, Version.parse release ≠ .ok v) ∧ ∀ earlier ∈ before, ¬ IsDue target earlier

theorem IsDue.mono {release : String} (hlater : target.le later = true) (h : IsDue target release) :
    IsDue later release := by
  rcases h with ⟨v, hv, hle⟩
  exact ⟨v, hv, Version.le_trans hle hlater⟩

theorem Blocks.anti {releases : List String} (hlater : target.le later = true)
    (h : Blocks later releases) : Blocks target releases := by
  rcases h with ⟨before, release, after, hsplit, hunreadable, hbefore⟩
  exact ⟨before, release, after, hsplit, hunreadable,
    fun earlier hearlier hdue => hbefore earlier hearlier (hdue.mono hlater)⟩

/-- A list is blocked at its head, or behind it if the head is not due. -/
theorem blocks_cons_iff {release : String} {rest : List String} :
    Blocks target (release :: rest) ↔ (∀ v, Version.parse release ≠ .ok v) ∨
      ¬ IsDue target release ∧ Blocks target rest := by
  constructor
  · rintro ⟨before, unreadable, after, hsplit, hunreadable, hbefore⟩
    -- The unreadable release is the head itself, or the head stands before it and is not due.
    cases before with
    | nil =>
        rw [List.nil_append, List.cons.injEq] at hsplit
        exact Or.inl (hsplit.1 ▸ hunreadable)
    | cons head before =>
        rw [List.cons_append, List.cons.injEq] at hsplit
        rw [List.forall_mem_cons] at hbefore
        rcases hsplit with ⟨rfl, hsplit⟩
        exact Or.inr ⟨hbefore.1, before, unreadable, after, hsplit, hunreadable, hbefore.2⟩
  · rintro (hunreadable | ⟨hdue, before, unreadable, after, rfl, hunreadable, hbefore⟩)
    · exact ⟨[], release, rest, rfl, hunreadable, fun _ h => absurd h List.not_mem_nil⟩
    · exact ⟨release :: before, unreadable, after, rfl, hunreadable,
        List.forall_mem_cons.mpr ⟨hdue, hbefore⟩⟩

/-! ## The scan of a list -/

theorem parse_error_kind {raw : String} {f : Finding} (h : Version.parse raw = .error f) :
    f.kind = .malformedVersion := by
  unfold Version.parse at h
  split at h
  · cases h
  · cases h
    rfl

theorem isIncluded_of_blocks {releases : List String} (h : Blocks target releases) :
    ∃ f, isIncluded target releases = .error f ∧ f.kind = .malformedVersion := by
  induction releases with
  | nil =>
      rcases h with ⟨before, release, after, hsplit, -⟩
      exact absurd hsplit (by simp)
  | cons release rest ih =>
      rw [isIncluded]
      rcases hparse : Version.parse release with f | v
      · exact ⟨f, rfl, parse_error_kind hparse⟩
      · rcases blocks_cons_iff.mp h with hunreadable | ⟨hdue, hrest⟩
        · exact absurd hparse (hunreadable v)
        · -- The head is not due, so the search goes on to what stands behind it.
          have hlt : target.lt v = true := by
            by_contra hlt
            exact hdue ⟨v, hparse, Version.not_lt_iff_le.mp hlt⟩
          rw [ok_bind, if_pos hlt]
          exact ih hrest

theorem isIncluded_of_not_blocks {releases : List String} (h : ¬ Blocks target releases) :
    isIncluded target releases = .ok (decide (∃ release ∈ releases, IsDue target release)) := by
  induction releases with
  | nil => rfl
  | cons release rest ih =>
      rw [blocks_cons_iff, not_or, not_and] at h
      rcases hparse : Version.parse release with f | v
      · exact absurd (fun v hv => by rw [hparse] at hv; cases hv) h.1
      · rw [isIncluded, hparse, ok_bind]
        -- The first release that is due ends the search, so what stands behind it need not be readable.
        by_cases hlt : target.lt v = true
        · have hdue : ¬ IsDue target release := by
            rintro ⟨v', hparse', hle⟩
            obtain rfl : v = v' := Except.ok.inj (hparse.symm.trans hparse')
            exact Version.not_lt_iff_le.mpr hle hlt
          simp only [hlt, if_true, ih (h.2 hdue), List.exists_mem_cons_iff, hdue, false_or]
        · have hdue : IsDue target release := ⟨v, hparse, Version.not_lt_iff_le.mp hlt⟩
          simp only [hlt, List.exists_mem_cons_iff, hdue, true_or, decide_true]
          rfl

/-! ## Records -/

/-- The names of the records that list a due release, in order. -/
def dueNames (target : Version) (records : List ManifestRecord) : List String :=
  (records.filter fun r => decide (∃ release ∈ r.releases, IsDue target release)).map
    ManifestRecord.codename

theorem dueNames_cons (target : Version) (r : ManifestRecord) (rest : List ManifestRecord) :
    dueNames target (r :: rest) = if ∃ release ∈ r.releases, IsDue target release then
      r.codename :: dueNames target rest else dueNames target rest := by
  simp only [dueNames, List.filter_cons, decide_eq_true_eq]
  split
  · rw [List.map_cons]
  · rfl

theorem mem_dueNames_iff {records : List ManifestRecord} {name : String} :
    name ∈ dueNames target records ↔
      ∃ r ∈ records, r.codename = name ∧ ∃ release ∈ r.releases, IsDue target release := by
  simp only [dueNames, List.mem_map, List.mem_filter, decide_eq_true_eq]
  exact exists_congr fun r => and_assoc.trans (and_congr_right fun _ => and_comm)

theorem addRecords_of_not_blocks {records : List ManifestRecord} (required : RequirementSet)
    (h : ∀ r ∈ records, ¬ Blocks target r.releases) :
    addRecords target records required =
      .ok ((dueNames target records).foldl RequirementSet.require required) := by
  induction records generalizing required with
  | nil => rfl
  | cons r rest ih =>
      rw [List.forall_mem_cons] at h
      rw [addRecords, isIncluded_of_not_blocks h.1, ok_bind, dueNames_cons]
      by_cases hdue : ∃ release ∈ r.releases, IsDue target release
      · rw [if_pos (decide_eq_true hdue), if_pos hdue, ih (required.require r.codename) h.2,
          List.foldl_cons]
      · rw [if_neg (by simpa using hdue), if_neg hdue, ih required h.2]

theorem addRecords_of_blocks {records : List ManifestRecord} {r : ManifestRecord} (hr : r ∈ records)
    (h : Blocks target r.releases) (required : RequirementSet) :
    ∃ f, addRecords target records required = .error f ∧ f.kind = .malformedVersion := by
  induction records generalizing required with
  | nil => exact absurd hr List.not_mem_nil
  | cons first rest ih =>
      rw [addRecords]
      -- The complaint is about the first blocked list, which need not be that of `r`.
      by_cases hfirst : Blocks target first.releases
      · rcases isIncluded_of_blocks hfirst with ⟨f, hf, hkind⟩
        exact ⟨f, by rw [hf, error_bind], hkind⟩
      · have hrest : r ∈ rest := (List.mem_cons.mp hr).resolve_left fun heq => hfirst (heq ▸ h)
        rw [isIncluded_of_not_blocks hfirst, ok_bind]
        split
        · exact ih hrest _
        · exact ih hrest _

/-- The requirement set that records make of a target: the names of the records that list a due release, in
    the order in which they first come, each of them once and with nothing shown for it yet. -/
structure Requires (target : Version) (records : List ManifestRecord) (required : RequirementSet) :
    Prop where
  unmet : required.Unmet
  names : required.names = (dueNames target records).eraseDups

theorem Requires.entries_eq {records : List ManifestRecord} {required : RequirementSet}
    (h : Requires target records required) :
    required.entries = (dueNames target records).eraseDups.map fun name => (name, false) := by
  rw [← h.names, RequirementSet.names, List.map_map]
  refine (List.map_id _).symm.trans (List.map_congr_left fun e he => ?_)
  exact Prod.ext rfl (h.unmet e he)

/-- What records require depends on the names that are due alone. -/
theorem Requires.unique {records records' : List ManifestRecord} {required required' : RequirementSet}
    (h : Requires target records required) (h' : Requires target records' required')
    (hsame : dueNames target records = dueNames target records') : required = required' :=
  RequirementSet.eq_of_entries (by rw [h.entries_eq, h'.entries_eq, hsame])

/-- What records come to for a target: their requirements, or the complaint about a release of a blocked
    list. -/
def ComesTo (target : Version) (records : List ManifestRecord) : Except Finding RequirementSet → Prop
  | .ok required => (∀ r ∈ records, ¬ Blocks target r.releases) ∧ Requires target records required
  | .error f => (∃ r ∈ records, Blocks target r.releases) ∧ f.kind = .malformedVersion

theorem requires_foldl (target : Version) (records : List ManifestRecord) :
    Requires target records ((dueNames target records).foldl RequirementSet.require .empty) where
  unmet := RequirementSet.unmet_foldl_require _ RequirementSet.unmet_empty
  names := by
    rw [RequirementSet.names_foldl_require, RequirementSet.names_empty, List.nil_append]
    exact congrArg List.eraseDups (List.filter_eq_self.mpr fun name _ => by simp)

theorem comesTo_ofRecords (target : Version) (records : List ManifestRecord) :
    ComesTo target records (ofRecords target records) := by
  by_cases h : ∃ r ∈ records, Blocks target r.releases
  · rcases h with ⟨r, hr, hblocks⟩
    rcases addRecords_of_blocks hr hblocks .empty with ⟨f, hf, hkind⟩
    rw [ofRecords, hf]
    exact ⟨⟨r, hr, hblocks⟩, hkind⟩
  · have hnone : ∀ r ∈ records, ¬ Blocks target r.releases :=
      fun r hr hblocks => h ⟨r, hr, hblocks⟩
    rw [ofRecords, addRecords_of_not_blocks .empty hnone]
    exact ⟨hnone, requires_foldl target records⟩

/-- Two records of one test that list the same releases, be it in another order. -/
def SameReleases (r r' : ManifestRecord) : Prop :=
  r.codename = r'.codename ∧ ∀ release, release ∈ r.releases ↔ release ∈ r'.releases

theorem dueNames_congr {records records' : List ManifestRecord}
    (h : List.Forall₂ SameReleases records records') :
    dueNames target records = dueNames target records' := by
  induction h with
  | nil => rfl
  | cons hsame _ ih => simp only [dueNames_cons, hsame.1, hsame.2, ih]

theorem dueNames_mono (hlater : target.le later = true) (records : List ManifestRecord) :
    dueNames target records ⊆ dueNames later records := by
  intro name hname
  rw [mem_dueNames_iff] at hname ⊢
  rcases hname with ⟨r, hr, hcodename, release, hrelease, hdue⟩
  exact ⟨r, hr, hcodename, release, hrelease, hdue.mono hlater⟩

/-- Metadata in which a pre-release is due for a test, with something after it that is not a version. -/
def sampleDisk : Disk :=
  ⟨[(["v1.30", "conformance.yaml"], .file ("- codename: a\n  release: ' v1.30-rc.1 , , someday'\n" ++
    "- codename: b\n  release: v1.31, 1.32\n- codename: a\n  release: v1.9\n").toUTF8.toList)]⟩

/-- Records, of which the second lists some releases. -/
def sampleRecords (releases : String) : List ManifestRecord :=
  [⟨"a", " v1.30-rc.1 , , someday", "", "", ""⟩, ⟨"b", releases, "", "", ""⟩, ⟨"a", "v1.9", "", "", ""⟩]

theorem load_sampleDisk : (Manifest.load sampleDisk ⟨0, []⟩ " v1.30").toOption.map id =
    some (sampleRecords "v1.31, 1.32") := by
  decide +kernel

theorem ofRecords_sampleRecords :
    (ofRecords ⟨1, 30, 0, ""⟩ (sampleRecords "v1.31, 1.32")).toOption.map RequirementSet.names =
      some ["a"] := by
  decide +kernel

theorem ofRecords_sampleRecords_swapped :
    (ofRecords ⟨1, 30, 0, ""⟩ (sampleRecords "1.32,v1.31")).toOption.map RequirementSet.names =
      some ["a"] := by
  decide +kernel

theorem sameReleases_swapped :
    List.Forall₂ SameReleases (sampleRecords "v1.31, 1.32") (sampleRecords "1.32,v1.31") := by
  have hreleases : listItems "v1.31, 1.32" strip = ["v1.31", "1.32"] ∧
      listItems "1.32,v1.31" strip = ["1.32", "v1.31"] := by decide +kernel
  refine .cons ⟨rfl, fun _ => Iff.rfl⟩ (.cons ⟨rfl, fun release => ?_⟩ (.cons ⟨rfl, fun _ => Iff.rfl⟩ .nil))
  rw [ManifestRecord.releases, ManifestRecord.releases, hreleases.1, hreleases.2]
  simp only [List.mem_cons, List.not_mem_nil, or_false]
  exact or_comm

end Requirement

end Assay
