import Assay.Proofs.Placement
import Assay.Proofs.Publication

/-!
# The file of a manifest

Of all the metadata a review of one submission reads a single file, the manifest of the release in
the name under which the folders show it. Two states of the files that hold the same manifest there,
or none, are alike to the manifest's reader.

The question whether there is a manifest can still tell them apart where there is none: names are
looked up one after the other, so a name that no file can have breaks the question off only where
the directories before it are there. With the metadata in place in both it depends on the names
alone.

## Main definitions

* `Path.HasNull`: A path cannot be looked up because of a null character in it.
* `Disk.SameFile`: Two states of the files hold the same file at a path, or none.

## Theorems

* `Manifest.path_of_parse`: Where the manifest of the release of a submission is kept.
* `Manifest.load_congr`: The manifest's reader sees the manifest and nothing else.
* `Disk.follow_eq_nameTooLong_iff`: Which paths below a directory are not looked up.
-/

namespace Assay

open Text

/-! ## Where a manifest is kept -/

/-- A version whose text is one name has its manifest two names below the metadata. -/
theorem Manifest.path_of_name {root : Path} {version : String} (hslash : '/' ∉ (strip version).toList)
    (hempty : strip version ≠ "") (hpoint : strip version ≠ ".") :
    path root version = (root.child (strip version)).child fileName := by
  have hpieces : splitAt '/' (strip version) = [strip version] := by
    rw [splitAt, splitChars_of_not_mem hslash, List.map_singleton, String.ofList_toList]
  have hslashes : Path.leadingSlashes (strip version).toList = 0 := by
    rw [Path.leadingSlashes, List.takeWhile_eq_nil_iff.mpr]
    · rfl
    · intro hlength hhead
      exact hslash (beq_iff_eq.mp hhead ▸ List.getElem_mem hlength)
  have hkept : (strip version != "" && strip version != ".") = true := by
    rw [Bool.and_eq_true, bne_iff_ne, bne_iff_ne]
    exact ⟨hempty, hpoint⟩
  rw [path, Path.ofText, hpieces, hslashes, List.filter_singleton, hkept, cond_true]
  rfl

/-- A release is one name. -/
theorem Manifest.path_of_isRelease {root : Path} {release : String}
    (h : Packaged.IsRelease Packaged.IsNumeral release.toList) :
    path root release = (root.child release).child fileName := by
  have hstrip : strip release = release := by
    rw [strip, stripChars_of_not_blank, String.ofList_toList]
    exact h.forall_mem (by decide) (by decide) fun c => isBlank_of_isAsciiDigit
  have hslash : '/' ∉ release.toList := h.not_mem (by decide) (by decide) (by decide)
  -- A release begins with a letter, so it is neither empty nor a point.
  have hne : ∀ name : String, name.toList.head? ≠ some 'v' → release ≠ name := by
    rintro name hhead rfl
    rcases h with ⟨major, minor, -, -, heq⟩
    exact hhead (by rw [heq]; rfl)
  have hpath : path root release = (root.child (strip release)).child fileName :=
    path_of_name (hstrip.symm ▸ hslash) (hstrip.symm ▸ hne "" (by decide)) (hstrip.symm ▸ hne "." (by decide))
  rwa [hstrip] at hpath

/-- A release of a submission that can be read as a version was found in a path, so it is one name. -/
theorem Manifest.path_of_parse {root : Path} {s : Submission} {version : Version}
    (h : Version.parse s.release = .ok version) :
    path root s.release = (root.child s.release).child fileName :=
  path_of_isRelease (s.release_eq_empty_or_isRelease.resolve_left (Version.ne_empty_of_parse h))

/-! ## Looking up a path -/

/-- A path cannot be looked up, whatever files there are, because of a null character in it. -/
def Path.HasNull (p : Path) : Prop :=
  p.render.toList.contains (Char.ofNat 0) = true

instance (p : Path) : Decidable p.HasNull :=
  inferInstanceAs (Decidable (_ = true))

/-- A null character in a path stands in one of its names. -/
theorem Path.hasNull_iff {p : Path} : p.HasNull ↔ ∃ name ∈ p.names, Char.ofNat 0 ∈ name.toList := by
  rw [HasNull, List.contains_iff_mem, render]
  split
  · rename_i hempty
    rw [Bool.and_eq_true, List.isEmpty_iff] at hempty
    simp only [hempty.2, List.not_mem_nil, false_and, exists_false, iff_false]
    decide
  · have hslash : Char.ofNat 0 ∉ List.replicate p.slashes '/' := fun hmem =>
      absurd (List.eq_of_mem_replicate hmem) (by decide)
    rw [String.toList_append, String.toList_ofList, List.mem_append, or_iff_right hslash,
      String.toList_intercalate, mem_intercalate_iff (by decide)]
    simp only [List.mem_map, exists_exists_and_eq_and]

theorem Path.hasNull_child_iff {p : Path} {name : String} :
    (p.child name).HasNull ↔ p.HasNull ∨ Char.ofNat 0 ∈ name.toList := by
  simp only [hasNull_iff, child, List.mem_append, List.mem_singleton, or_and_right, exists_or,
    exists_eq_left]

namespace Disk

theorem enter_eq_error {d : Disk} {spot : Spot} {name : String} {problem : ReadProblem}
    (h : d.enter spot name = .error problem) :
    problem ∈ [.notFound, .notADirectory, .nameTooLong] := by
  unfold enter at h
  repeat' split at h
  all_goals cases h <;> decide

theorem foldlM_enter_eq_error {d : Disk} {names : List String} {spot : Spot} {problem : ReadProblem}
    (h : names.foldlM d.enter spot = .error problem) :
    problem ∈ [.notFound, .notADirectory, .nameTooLong] := by
  -- The spot is general, since each name is entered from where the names before it lead.
  induction names generalizing spot with
  | nil => cases h
  | cons name rest ih =>
      rw [List.foldlM_cons] at h
      rcases bind_eq_error_iff.mp h with hname | ⟨next, -, hrest⟩
      · exact enter_eq_error hname
      · exact ih hrest

theorem follow_of_hasNull {d : Disk} {p : Path} (h : p.HasNull) :
    d.follow p = .error .nulInPath :=
  if_pos h

theorem follow_of_not_hasNull {d : Disk} {p : Path} (h : ¬ p.HasNull) :
    d.follow p = if longestPath < p.render.utf8ByteSize then .error .nameTooLong
      else p.names.foldlM d.enter (origin p) :=
  if_neg h

/-- A path that cannot be a path shows this wherever it is looked up, and no other path does. -/
theorem bytesAt_eq_error {d : Disk} {p : Path} {problem : ReadProblem}
    (h : d.bytesAt p = .error problem) :
    (p.HasNull ∧ problem = .nulInPath) ∨
      (¬ p.HasNull ∧ problem ∈ [.notFound, .notADirectory, .nameTooLong, .isADirectory]) := by
  by_cases hnull : p.HasNull
  · rw [bytesAt, follow_of_hasNull hnull, error_bind, Except.error.injEq] at h
    exact Or.inl ⟨hnull, h.symm⟩
  · -- Without a null character the path is walked, and only then is there an entry to look at.
    refine Or.inr ⟨hnull, ?_⟩
    rcases bind_eq_error_iff.mp h with hfollow | ⟨spot, -, hentry⟩
    · rw [follow_of_not_hasNull hnull] at hfollow
      split at hfollow
      · rw [← Except.error.inj hfollow]
        decide
      · exact List.mem_append_left [.isADirectory] (foldlM_enter_eq_error hfollow)
    · split at hentry
      · cases hentry
      · rw [← Except.error.inj hentry]
        decide

/-- Two states of the files hold the same file at a path, or neither of them holds one. -/
def SameFile (d d' : Disk) (p : Path) : Prop :=
  ∀ bytes, d.bytesAt p = .ok bytes ↔ d'.bytesAt p = .ok bytes

theorem read_of_bytesAt {d : Disk} {p : Path} {bytes : List UInt8} (h : d.bytesAt p = .ok bytes) :
    d.read p = match decodeUtf8 bytes with
      | .ok text => .ok (unifyBreaks text)
      | .error stretch => .error (.undecodable stretch) := by
  rw [read, h]
  rfl

end Disk

/-- Without a file the manifest's reader reports a missing one, unless the path is none. -/
theorem Manifest.load_of_no_file {d : Disk} {root : Path} {version : String}
    (h : ∀ bytes, d.bytesAt (path root version) ≠ .ok bytes) : load d root version =
      if (path root version).HasNull then .error (.fault .nulInPath)
      else .error (.report (.manifestUnavailable (strip version) (path root version).render)) := by
  rcases hbytes : d.bytesAt (path root version) with problem | bytes
  · have hread : d.read (path root version) = .error problem := by
      rw [Disk.read, hbytes]
      rfl
    -- The reader has one report for all problems but two, and one of these has to do with the text.
    unfold load
    rcases Disk.bytesAt_eq_error hbytes with ⟨hnull, rfl⟩ | ⟨hnull, hmem⟩
    · simp only [hread, hnull, if_true]
    · simp only [List.mem_cons, List.not_mem_nil, or_false] at hmem
      rcases hmem with rfl | rfl | rfl | rfl <;> simp only [hread, hnull, if_false]
  · exact absurd hbytes (h bytes)

/-- The manifest's reader sees the manifest and nothing else of the files. -/
theorem Manifest.load_congr {d d' : Disk} {root : Path} {version : String}
    (h : d.SameFile d' (path root version)) : load d root version = load d' root version := by
  by_cases hfile : ∃ bytes, d.bytesAt (path root version) = .ok bytes
  · rcases hfile with ⟨bytes, hbytes⟩
    have hread : d.read (path root version) = d'.read (path root version) := by
      rw [Disk.read_of_bytesAt hbytes, Disk.read_of_bytesAt ((h bytes).mp hbytes)]
    unfold load
    simp only [hread]
  · -- What is reported of a missing manifest is read off its path, which is the same in both.
    rw [not_exists] at hfile
    have hfile' : ∀ bytes, d'.bytesAt (path root version) ≠ .ok bytes :=
      fun bytes hbytes => hfile bytes ((h bytes).mpr hbytes)
    rw [load_of_no_file hfile, load_of_no_file hfile']

/-! ## Names that no file can have -/

namespace Disk

theorem isDirectory_eq_true_iff {d : Disk} {p : Path} : d.isDirectory p = .ok true ↔
    ∃ spot, d.follow p = .ok spot ∧ d.at? spot = some .directory := by
  simp only [isDirectory, holdsAt_eq_true_iff]
  constructor
  · rintro ⟨spot, entry, hspot, hentry, htest⟩
    cases entry with
    | file bytes => cases htest
    | directory => exact ⟨spot, hspot, hentry⟩
  · rintro ⟨spot, hspot, hentry⟩
    exact ⟨spot, _, hspot, hentry, rfl⟩

theorem enter_eq_nameTooLong_iff {d : Disk} {spot : Spot} {name : String}
    (hspot : d.at? spot = some .directory) :
    d.enter spot name = .error .nameTooLong ↔ name ≠ ".." ∧ longestName < name.utf8ByteSize := by
  unfold enter
  simp only [hspot]
  by_cases hup : name = ".."
  · simp only [hup, if_true, reduceCtorEq, ne_eq, not_true_eq_false, false_and]
  · by_cases hlong : longestName < name.utf8ByteSize
    · simp only [hup, hlong, if_true, if_false, ne_eq, not_false_eq_true, and_self]
    · simp only [hup, hlong, if_false, and_false, iff_false]
      split
      · simp only [Except.error.injEq, reduceCtorEq, not_false_eq_true]
      · split <;> simp only [Except.error.injEq, reduceCtorEq, not_false_eq_true]

theorem enter_ne_nameTooLong {d : Disk} {spot : Spot} {name : String}
    (h : name.utf8ByteSize ≤ longestName) : d.enter spot name ≠ .error .nameTooLong := by
  unfold enter
  repeat' split
  all_goals first | omega | exact fun heq => by cases heq

theorem foldlM_of_follow {d : Disk} {p : Path} {spot : Spot} (h : d.follow p = .ok spot) :
    p.names.foldlM d.enter (origin p) = .ok spot := by
  unfold follow at h
  split at h
  · cases h
  · split at h
    · cases h
    · exact h

/-- Below a directory two more names are looked up one after the other. -/
theorem foldlM_below {d : Disk} {root : Path} {spot : Spot} (h : d.follow root = .ok spot)
    (folder file : String) : ((root.child folder).child file).names.foldlM d.enter
      (origin ((root.child folder).child file)) = d.enter spot folder >>= fun s => d.enter s file := by
  have horigin : origin ((root.child folder).child file) = origin root := rfl
  rw [horigin, Path.child, Path.child, List.append_assoc, List.foldlM_append, foldlM_of_follow h,
    ok_bind, List.singleton_append]
  simp only [List.foldlM_cons, List.foldlM_nil, bind_pure]

/-- Below a directory it depends on the names alone whether a path is not looked up. -/
theorem follow_eq_nameTooLong_iff {d : Disk} {root : Path} {folder file : String}
    (hroot : d.isDirectory root = .ok true) (hfile : file.utf8ByteSize ≤ longestName) :
    d.follow ((root.child folder).child file) = .error .nameTooLong ↔
      ¬ ((root.child folder).child file).HasNull ∧
        (longestPath < ((root.child folder).child file).render.utf8ByteSize ∨
          folder ≠ ".." ∧ longestName < folder.utf8ByteSize) := by
  rcases isDirectory_eq_true_iff.mp hroot with ⟨spot, hfollow, hspot⟩
  by_cases hnull : ((root.child folder).child file).HasNull
  · simp only [follow_of_hasNull hnull, hnull, Except.error.injEq, reduceCtorEq, not_true_eq_false,
      false_and]
  · rw [follow_of_not_hasNull hnull]
    by_cases hlong : longestPath < ((root.child folder).child file).render.utf8ByteSize
    · simp only [hlong, if_true, hnull, not_false_eq_true, true_or, and_self]
    · -- The directory is there, so its name is looked at before that of the file.
      rw [if_neg hlong, foldlM_below hfollow, bind_eq_error_iff, enter_eq_nameTooLong_iff hspot]
      simp only [hnull, hlong, not_false_eq_true, false_or, true_and, or_iff_left_iff_imp]
      rintro ⟨next, -, hnext⟩
      exact absurd hnext (enter_ne_nameTooLong hfile)

end Disk

end Assay
