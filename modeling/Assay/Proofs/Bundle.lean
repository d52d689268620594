import Assay.Proofs.Manifest
import Assay.Review.Basic
import Assay.Submission.Loading

/-!
# Bundles

A directory that is laid out like a submission gives the same submission as a document that lists its
files, with one exception. The loader of documents takes the blanks off both ends of a path, which is
how it finds out that a path was given at all; the loader of directories takes the names as they are.
So the two agree where no path of a file, from the directory on, begins or ends with a blank, and
nowhere else.

That a directory can be loaded rests on what every file system keeps to: a place holds one thing,
nothing stands below a file, and no name is one that a file cannot have. From this the names of a file
lead to it, one after the other, from wherever the directory is.

## Main definitions

* `Disk.Sound`: What every file system keeps to.
* `Disk.HoldsTree`: A directory holds text files that can be looked up.
* `Submission.IsFileAt`: A file of a submission is the one that some names lead to.
* `Submission.treeDocument`: The document that lists some files.
* `Unpadded`: No blanks stand at the ends of a text.

## Theorems

* `Disk.Sound.foldlM_enter`: The names of a file lead to it.
* `Disk.Sound.read_join`: The text of a file below a directory.
* `Submission.ofBundle_of_holdsTree`: What the directory of a tree is loaded as.
* `Submission.ofValue_treeDocument_eq_ok_iff`: When a document gives the files that it lists.
* `bundle_agrees`: The two ways to load a tree.
-/

namespace Assay

open Text

/-! ## Sound disks -/

namespace Disk

/-- A name that a file can have. -/
structure IsName (name : String) : Prop where
  given : name ≠ ""
  proper : name ≠ ".."
  short : name.utf8ByteSize ≤ longestName

/-- A place holds one thing, nothing stands below a file, and all names are those of files. -/
structure Sound (d : Disk) : Prop where
  distinct : (d.entries.map Prod.fst).Nodup
  bare : ∀ place bytes, (place, .file bytes) ∈ d.entries → ∀ other ∈ d.entries.map Prod.fst,
    place <+: other → other = place
  named : ∀ place ∈ d.entries.map Prod.fst, ∀ name ∈ place, IsName name

theorem below?_eq_some_iff {front names rest : List String} :
    below? front names = some rest ↔ names = front ++ rest := by
  induction front generalizing names with
  | nil => rw [below?, Option.some.injEq, List.nil_append]
  | cons f fs ih =>
      cases names with
      | nil => simp only [below?, reduceCtorEq, List.cons_append]
      | cons n ns =>
          rw [below?, List.cons_append, List.cons.injEq]
          by_cases h : f = n
          · rw [if_pos h, ih, h]
            simp only [true_and]
          · rw [if_neg h]
            simp only [reduceCtorEq, Ne.symm h, false_and]

theorem lookup_of_mem {entries : List (List String × Entry)} (h : (entries.map Prod.fst).Nodup)
    {place : List String} {e : Entry} (hmem : (place, e) ∈ entries) :
    entries.lookup place = some e := by
  induction entries with
  | nil => cases hmem
  | cons head rest ih =>
      rw [List.map_cons, List.nodup_cons] at h
      rw [List.lookup_cons]
      rcases List.mem_cons.mp hmem with rfl | hrest
      · simp only [beq_self_eq_true]
      · have hne : (place == head.1) = false := by
          rw [beq_eq_false_iff_ne]
          rintro rfl
          exact h.1 (List.mem_map.mpr ⟨_, hrest, rfl⟩)
        simp only [hne, ih h.2 hrest]

theorem mem_of_lookup {entries : List (List String × Entry)} {place : List String} {e : Entry}
    (h : entries.lookup place = some e) : (place, e) ∈ entries := by
  rcases List.lookup_eq_some_iff.mp h with ⟨front, back, rfl, -⟩
  exact List.mem_append_right _ List.mem_cons_self

section Walk

variable {d : Disk} {place : List String} {e : Entry}

/-- What is listed for a place stands there. -/
theorem Sound.entry? (hd : d.Sound) (h : (place, e) ∈ d.entries) : d.entry? place = some e := by
  rw [Disk.entry?, lookup_of_mem hd.distinct h]

/-- What stands above a place is a directory. -/
theorem Sound.entry?_above (hd : d.Sound) (h : (place, e) ∈ d.entries) {front rest : List String}
    (hplace : place = front ++ rest) (hrest : rest ≠ []) : d.entry? front = some .directory := by
  unfold Disk.entry?
  split
  · rename_i above habove
    cases above with
    | directory => rfl
    -- A file that stood there would have nothing below it.
    | file bytes =>
        have hsame := hd.bare front bytes (mem_of_lookup habove) place (List.mem_map_of_mem h)
          (hplace ▸ List.prefix_append _ _)
        rw [hplace, List.append_right_eq_self] at hsame
        exact absurd hsame hrest
  · have hany : (d.entries.any fun other => (below? front other.1).isSome) = true := by
      refine List.any_eq_true.mpr ⟨(place, e), h, ?_⟩
      rw [below?_eq_some_iff.mpr hplace]
      rfl
    exact if_pos (Bool.or_eq_true_iff.mpr (Or.inr hany))

/-- The names of what is listed below a directory lead to it, one after the other. -/
theorem Sound.foldlM_enter (hd : d.Sound) (h : (place, e) ∈ d.entries) {base names : List String}
    (hplace : place = base ++ names) :
    names.foldlM d.enter (.inside base) = .ok (.inside place) := by
  -- The names that are still to come get fewer, while the directory that they start from goes down.
  induction names generalizing base with
  | nil =>
      rw [List.append_nil] at hplace
      rw [hplace]
      rfl
  | cons name rest ih =>
      have hbase := hd.entry?_above h hplace (List.cons_ne_nil _ _)
      have hname : IsName name := by
        refine hd.named place (List.mem_map_of_mem h) name ?_
        rw [hplace]
        exact List.mem_append_right _ List.mem_cons_self
      rw [← List.singleton_append, ← List.append_assoc] at hplace
      have hthere : (d.entry? (base ++ [name])).isSome = true := by
        by_cases hrest : rest = []
        · rw [hrest, List.append_nil] at hplace
          rw [← hplace, hd.entry? h]
          rfl
        · rw [hd.entry?_above h hplace hrest]
          rfl
      have henter : d.enter (.inside base) name = .ok (.inside (base ++ [name])) := by
        unfold enter
        simp only [at?, hbase, hname.proper, Nat.not_lt.mpr hname.short, if_false, hthere, if_true]
      rw [List.foldlM_cons, henter, ok_bind, ih hplace]

/-- A path that can be looked up, as far as its text goes. -/
def Usable (p : Path) : Prop :=
  ¬ p.HasNull ∧ p.render.utf8ByteSize ≤ longestPath

theorem Sound.follow_join (hd : d.Sound) {bundle : Path} {base names : List String}
    (hbase : d.follow bundle = .ok (.inside base)) (h : (base ++ names, e) ∈ d.entries)
    (husable : Usable (bundle.join ⟨0, names⟩)) :
    d.follow (bundle.join ⟨0, names⟩) = .ok (.inside (base ++ names)) := by
  have hjoin : bundle.join ⟨0, names⟩ = ⟨bundle.slashes, bundle.names ++ names⟩ := rfl
  have horigin : origin ⟨bundle.slashes, bundle.names ++ names⟩ = origin bundle := rfl
  rw [follow_of_not_hasNull husable.1, if_neg (Nat.not_lt.mpr husable.2), hjoin, horigin,
    List.foldlM_append, foldlM_of_follow hbase, ok_bind]
  exact hd.foldlM_enter h rfl

/-- The text of a file below a directory. -/
theorem Sound.read_join (hd : d.Sound) {bundle : Path} {base names : List String}
    {bytes : List UInt8} {text : String} (hbase : d.follow bundle = .ok (.inside base))
    (h : (base ++ names, .file bytes) ∈ d.entries) (husable : Usable (bundle.join ⟨0, names⟩))
    (htext : decodeUtf8 bytes = .ok text) :
    d.read (bundle.join ⟨0, names⟩) = .ok (unifyBreaks text) := by
  have hbytes : d.bytesAt (bundle.join ⟨0, names⟩) = .ok bytes :=
    bytesAt_eq_ok_iff.mpr ⟨_, hd.follow_join hbase h husable, hd.entry? h⟩
  rw [read_of_bytesAt hbytes, htext]

/-- The files below a directory are listed by their names from there. -/
theorem mem_filesBelow_iff {base names : List String} :
    names ∈ d.filesBelow (.inside base) ↔ ∃ bytes, (base ++ names, .file bytes) ∈ d.entries := by
  unfold filesBelow
  rw [List.mem_mergeSort, List.mem_filterMap]
  constructor
  · rintro ⟨⟨place, e⟩, hmem, hfound⟩
    -- Directories are not listed, and files elsewhere have no name from there.
    cases e with
    | directory => cases hfound
    | file bytes =>
        rcases hbelow : below? base place with _ | rest
        · simp only [hbelow, reduceCtorEq] at hfound
        · simp only [hbelow, Option.some.injEq] at hfound
          rw [below?_eq_some_iff] at hbelow
          rw [hbelow, hfound] at hmem
          exact ⟨bytes, hmem⟩
  · rintro ⟨bytes, hmem⟩
    refine ⟨_, hmem, ?_⟩
    simp only [below?_eq_some_iff.mpr rfl]

end Walk

/-- A path leads to a directory, and every file below it can be looked up and is a text without
    carriage returns. -/
structure HoldsTree (d : Disk) (bundle : Path) (base : List String) : Prop where
  leads : d.follow bundle = .ok (.inside base)
  directory : d.entry? base = some .directory
  usable : ∀ names bytes, (base ++ names, .file bytes) ∈ d.entries → Usable (bundle.join ⟨0, names⟩)
  texts : ∀ names bytes, (base ++ names, .file bytes) ∈ d.entries →
    ∃ text, decodeUtf8 bytes = .ok text ∧ '\r' ∉ text.toList

end Disk

theorem unifyBreaks_of_not_mem {text : String} (h : '\r' ∉ text.toList) : unifyBreaks text = text := by
  have hchars : ∀ cs : List Char, '\r' ∉ cs → unifyBreaksChars cs = cs := by
    intro cs
    induction cs with
    | nil => exact fun _ => rfl
    | cons c rest ih =>
        intro hnot
        rw [List.mem_cons, not_or] at hnot
        rw [unifyBreaksChars, ih hnot.2]
        · rintro _ rfl
          exact absurd rfl hnot.1
        · rintro rfl
          exact absurd rfl hnot.1
  rw [unifyBreaks, hchars _ h, String.ofList_toList]

/-! ## Loading a directory -/

namespace Submission

/-- A file of a submission that some names lead to below a directory. -/
structure IsFileAt (d : Disk) (base names : List String) (f : SubmittedFile) : Prop where
  path : f.path = String.intercalate "/" names
  address : f.address = none
  contents : ∃ bytes, (base ++ names, .file bytes) ∈ d.entries ∧ decodeUtf8 bytes = .ok f.contents

variable {d : Disk} {bundle : Path} {base : List String}

theorem exists_isFileAt (hd : d.Sound) (h : d.HoldsTree bundle base) {names : List String}
    (hnames : names ∈ d.filesBelow (.inside base)) :
    ∃ f, readBundleFile d bundle names = .ok f ∧ IsFileAt d base names f := by
  rcases Disk.mem_filesBelow_iff.mp hnames with ⟨bytes, hmem⟩
  rcases h.texts names bytes hmem with ⟨text, htext, hbreaks⟩
  have hread := hd.read_join h.leads hmem (h.usable names bytes hmem) htext
  rw [unifyBreaks_of_not_mem hbreaks] at hread
  refine ⟨⟨String.intercalate "/" names, text, none⟩, ?_, rfl, rfl, bytes, hmem, htext⟩
  rw [readBundleFile, hread]

/-- The submission of some files under a title, as a directory gives it. -/
def ofFiles (title : String) (number : Int) (labels : List String) (files : List SubmittedFile) :
    Submission :=
  ⟨number, title, "", "", "", files, labels, [localCommit], []⟩

/-- What the directory of a tree is loaded as. -/
theorem ofBundle_of_holdsTree (hd : d.Sound) (h : d.HoldsTree bundle base) (title : String)
    (number : Int) (labels : List String) :
    ∃ files, ofBundle d bundle title number labels = .ok (ofFiles title number labels files) ∧
      List.Forall₂ (IsFileAt d base) (d.filesBelow (.inside base)) files := by
  rcases exists_mapM_ok fun names hnames => exists_isFileAt hd h hnames with ⟨files, hload, hfiles⟩
  have hdirectory : d.isDirectory bundle = .ok true :=
    Disk.isDirectory_eq_true_iff.mpr ⟨_, h.leads, h.directory⟩
  refine ⟨files, ?_, hfiles⟩
  rw [ofBundle, hdirectory]
  simp only [h.leads, hload, ok_bind]
  rfl

/-! ## Loading a document -/

/-- A file of a document. -/
def fileEntry (f : SubmittedFile) : Value :=
  .map [(.text "path", .text f.path), (.text "contents", .text f.contents)]

/-- The document of a submission with one commit that lists some files by path and contents. -/
def treeDocument (title : String) (number : Int) (labels : List String)
    (files : List SubmittedFile) : Value :=
  .map [(.text "number", .int number), (.text "title", .text title),
    (.text "labels", .list (labels.map .text)),
    (.text "commits", .list [.map [(.text "oid", .text "local")]]),
    (.text "files", .list (files.map fileEntry))]

theorem textField_of_text {doc : Value} {name text : String} (h : doc.field? name = some (.text text)) :
    textField doc name = text := by
  rw [textField, h]
  by_cases hempty : text = ""
  · rw [hempty]
    rfl
  · simp only [Value.isBlank, String.isEmpty_iff, hempty, if_false]
    rfl

/-- A file of a document is read with its path stripped, and not at all where nothing is left. -/
theorem readFile_fileEntry (f : SubmittedFile) : readFile (fileEntry f) =
    if (strip f.path).isEmpty then .error (.report .pathMissing)
    else .ok ⟨strip f.path, f.contents, none⟩ := by
  have hpath : textField (fileEntry f) "path" = f.path := textField_of_text rfl
  have hcontents : textField (fileEntry f) "contents" = f.contents := textField_of_text rfl
  have hname : textField (fileEntry f) "name" = "" := rfl
  have haddress : textField (fileEntry f) "blob_url" = "" := rfl
  -- Without a path the name counts, and there is none, so it is the path either way.
  have hwritten : (if f.path.isEmpty then "" else f.path) = f.path := by
    split
    · rename_i hempty
      exact (String.isEmpty_iff.mp hempty).symm
    · rfl
  simp only [readFile, hpath, hcontents, hname, haddress, hwritten]
  rfl

/-- A file of a document is read as it is listed where no blanks are around its path. -/
theorem readFile_fileEntry_eq_ok_iff {f : SubmittedFile} (hpath : f.path ≠ "")
    (haddress : f.address = none) : readFile (fileEntry f) = .ok f ↔ strip f.path = f.path := by
  rw [readFile_fileEntry]
  constructor
  · intro h
    split at h
    · cases h
    · rw [Except.ok.injEq] at h
      exact congrArg SubmittedFile.path h
  · intro h
    rw [h, if_neg (by rwa [String.isEmpty_iff]), ← haddress]

theorem ofValue_treeDocument (title : String) (number : Int) (labels : List String)
    (files : List SubmittedFile) : ofValue (treeDocument title number labels files) =
      (files.map fileEntry).mapM readFile >>= fun read => .ok (ofFiles title number labels read) := by
  -- The number 0 is blank as a value, and read as 0 all the same.
  have hnumber : numberField (treeDocument title number labels files) = .ok number := by
    change (if (Value.int number).isBlank then Except.ok 0 else Except.ok number) = _
    by_cases hzero : number = 0
    · rw [hzero]
      rfl
    · rw [if_neg (by rwa [Value.isBlank, beq_iff_eq])]
  have htitle : textField (treeDocument title number labels files) "title" = title :=
    textField_of_text rfl
  have hfiles : readFiles (treeDocument title number labels files) =
      (files.map fileEntry).mapM readFile := by
    have hmappings : (files.map fileEntry).filter isMapping = files.map fileEntry := by
      rw [List.filter_eq_self]
      intro v hv
      rcases List.mem_map.mp hv with ⟨f, -, rfl⟩
      rfl
    change ((files.map fileEntry).filter isMapping).mapM readFile = _
    rw [hmappings]
  have hlabels : (listField (treeDocument title number labels files) "labels").filterMap label? =
      labels := by
    change (labels.map Value.text).filterMap label? = labels
    rw [List.filterMap_map]
    exact List.filterMap_some
  have hlist : filesAreList (treeDocument title number labels files) = true := rfl
  have hmapping : isMapping (treeDocument title number labels files) = true := rfl
  rw [ofValue, hmapping, hnumber, hlist, hfiles, htitle, hlabels]
  rfl

/-- A document gives the files that it lists where no blanks are around their paths. -/
theorem ofValue_treeDocument_eq_ok_iff {title : String} {number : Int} {labels : List String}
    {files : List SubmittedFile} (hfiles : ∀ f ∈ files, f.path ≠ "" ∧ f.address = none) :
    ofValue (treeDocument title number labels files) = .ok (ofFiles title number labels files) ↔
      ∀ f ∈ files, strip f.path = f.path := by
  rw [ofValue_treeDocument, bind_eq_ok_iff]
  have hread : (files.map fileEntry).mapM readFile = .ok files ↔ ∀ f ∈ files, strip f.path = f.path := by
    rw [mapM_eq_ok_iff, List.forall₂_map_left_iff, List.forall₂_same]
    exact forall₂_congr fun f hf => readFile_fileEntry_eq_ok_iff (hfiles f hf).1 (hfiles f hf).2
  rw [← hread]
  constructor
  · rintro ⟨read, hread, heq⟩
    rw [Except.ok.injEq, ofFiles, ofFiles, Submission.mk.injEq] at heq
    rw [hread, heq.2.2.2.2.2.1]
  · exact fun h => ⟨files, h, rfl⟩

/-- The path of a file of a tree has a name in it. -/
theorem IsFileAt.path_ne_empty {d : Disk} {bundle : Path} {base names : List String}
    {f : SubmittedFile} (hd : d.Sound) (h : d.HoldsTree bundle base) (hf : IsFileAt d base names f) :
    f.path ≠ "" := by
  rcases hf.contents with ⟨bytes, hmem, -⟩
  rw [hf.path]
  cases names with
  | nil =>
      -- Nothing but the directory stands where no name leads away from it.
      have hentry := hd.entry? hmem
      rw [List.append_nil, h.directory] at hentry
      cases hentry
  | cons name rest =>
      have hname : Disk.IsName name := by
        refine hd.named _ (List.mem_map_of_mem hmem) name ?_
        exact List.mem_append_right _ List.mem_cons_self
      cases rest with
      | nil =>
          rw [String.intercalate_singleton]
          exact hname.given
      | cons next rest =>
          rw [String.intercalate_cons_cons]
          simp [hname.given]

end Submission

/-! ## The two ways -/

/-- No blanks stand at the ends of a text. -/
def Unpadded (text : String) : Prop :=
  (∀ c ∈ text.toList.head?, isBlank c = false) ∧ ∀ c ∈ text.toList.getLast?, isBlank c = false

theorem unpadded_iff {text : String} : Unpadded text ↔ strip text = text :=
  (strip_eq_self_iff.trans stripChars_eq_self_iff).symm

/-- The directory of a tree of text files can be loaded, and the document that lists the same files
    in the same order gives the same submission where no blanks stand at the ends of their paths, and
    nowhere else. Every review of the two is then the same. -/
theorem bundle_agrees {d : Disk} {bundle : Path} {base : List String} (hd : d.Sound)
    (h : d.HoldsTree bundle base) (title : String) (number : Int) (labels : List String) :
    ∃ s, Submission.ofBundle d bundle title number labels = .ok s ∧
      List.Forall₂ (Submission.IsFileAt d base) (d.filesBelow (.inside base)) s.files ∧
      (Submission.ofValue (Submission.treeDocument title number labels s.files) = .ok s ↔
        ∀ f ∈ s.files, Unpadded f.path) ∧
      ((∀ f ∈ s.files, Unpadded f.path) → ∀ (d' : Disk) (settings : Settings),
        (reportingAs Problem.document (Submission.ofValue
            (Submission.treeDocument title number labels s.files)) >>=
          Review.ofSubmission d' settings) = Review.ofSubmission d' settings s) := by
  rcases Submission.ofBundle_of_holdsTree hd h title number labels with ⟨files, hload, hfiles⟩
  have hlisted : ∀ f ∈ files, f.path ≠ "" ∧ f.address = none := by
    intro f hf
    rcases List.forall₂_iff_get.mp hfiles with ⟨hlength, hget⟩
    rcases List.get_of_mem hf with ⟨i, rfl⟩
    have hat := hget i (by rw [hlength]; exact i.isLt) i.isLt
    exact ⟨hat.path_ne_empty hd h, hat.address⟩
  have hagree : Submission.ofValue (Submission.treeDocument title number labels files) =
      .ok (Submission.ofFiles title number labels files) ↔ ∀ f ∈ files, Unpadded f.path := by
    rw [Submission.ofValue_treeDocument_eq_ok_iff hlisted]
    exact forall₂_congr fun f _ => unpadded_iff.symm
  refine ⟨_, hload, hfiles, hagree, fun hpaths d' settings => ?_⟩
  change (reportingAs Problem.document (Submission.ofValue (Submission.treeDocument title number
    labels files)) >>= _) = _
  rw [hagree.mpr hpaths]
  rfl

/-- A disk with one file of some name two directories below the directory `b`. -/
def Disk.ofName (name : String) : Disk :=
  ⟨[(["b", "v1.30", "p", name], .file "Run it.".toUTF8.toList)]⟩

theorem Disk.sound_ofName {name : String} (h : IsName name) : (ofName name).Sound where
  distinct := List.nodup_singleton _
  bare := by
    intro place bytes hmem other hother _
    rw [ofName, List.mem_singleton, Prod.mk.injEq] at hmem
    rw [ofName, List.map_singleton, List.mem_singleton] at hother
    rw [hother, hmem.1]
  named := by
    intro place hplace
    rw [ofName, List.map_singleton, List.mem_singleton] at hplace
    rw [hplace]
    simp only [List.forall_mem_cons, List.not_mem_nil, false_implies, implies_true, and_true]
    exact ⟨⟨by decide, by decide, by decide⟩, ⟨by decide, by decide, by decide⟩,
      ⟨by decide, by decide, by decide⟩, h⟩

theorem Disk.holdsTree_ofName {name : String} (h : Usable ⟨0, ["b", "v1.30", "p", name]⟩) :
    (ofName name).HoldsTree ⟨0, ["b"]⟩ ["b"] where
  leads := by rfl
  directory := by rfl
  usable := by
    intro names bytes hmem
    rw [ofName, List.mem_singleton, Prod.mk.injEq] at hmem
    have hjoin : (Path.mk 0 ["b"]).join ⟨0, names⟩ = ⟨0, ["b"] ++ names⟩ := rfl
    rw [hjoin, hmem.1]
    exact h
  texts := by
    intro names bytes hmem
    rw [ofName, List.mem_singleton, Prod.mk.injEq, Entry.file.injEq] at hmem
    have htext : decodeUtf8 "Run it.".toUTF8.toList = .ok "Run it." := by decide +kernel
    exact ⟨"Run it.", hmem.2 ▸ htext, by decide⟩

theorem Disk.isName_readme : IsName "README.md" ∧ IsName "README.md " :=
  ⟨⟨by decide, by decide, by decide⟩, ⟨by decide, by decide, by decide⟩⟩

theorem Disk.usable_readme : Usable ⟨0, ["b", "v1.30", "p", "README.md"]⟩ ∧
    Usable ⟨0, ["b", "v1.30", "p", "README.md "]⟩ :=
  ⟨⟨by decide +kernel, by decide +kernel⟩, ⟨by decide +kernel, by decide +kernel⟩⟩

theorem files_readme : ((Submission.ofBundle (.ofName "README.md") ⟨0, ["b"]⟩
    "Conformance results for v1.30/p" 7 []).toOption.map Submission.files) =
      some [⟨"v1.30/p/README.md", "Run it.", none⟩] := by
  decide +kernel

theorem bundle_agrees_of_readme : (Disk.ofName "README.md").Sound ∧
    (Disk.ofName "README.md").HoldsTree ⟨0, ["b"]⟩ ["b"] ∧
      ∃ s, Submission.ofBundle (.ofName "README.md") ⟨0, ["b"]⟩ "Conformance results for v1.30/p" 7 [] =
          .ok s ∧
        s.files = [⟨"v1.30/p/README.md", "Run it.", none⟩] ∧
          Submission.ofValue (Submission.treeDocument "Conformance results for v1.30/p" 7 [] s.files) =
            .ok s := by
  have hsound := Disk.sound_ofName Disk.isName_readme.1
  have htree := Disk.holdsTree_ofName Disk.usable_readme.1
  refine ⟨hsound, htree, ?_⟩
  rcases bundle_agrees hsound htree "Conformance results for v1.30/p" 7 [] with
    ⟨s, hload, -, hagree, -⟩
  rcases exists_of_map_toOption files_readme with ⟨loaded, hloaded, hfiles⟩
  rw [hload, Except.ok.injEq] at hloaded
  rw [← hloaded] at hfiles
  refine ⟨s, hload, hfiles, hagree.mpr ?_⟩
  rw [hfiles, List.forall_mem_singleton]
  exact unpadded_iff.mpr (by decide +kernel)

theorem files_trailing : ((Submission.ofBundle (.ofName "README.md ") ⟨0, ["b"]⟩
    "Conformance results for v1.30/p" 7 []).toOption.map Submission.files) =
      some [⟨"v1.30/p/README.md ", "Run it.", none⟩] := by
  decide +kernel

/-- A file whose name ends with a blank is in the directory under another path than in the document. -/
theorem bundle_differs_of_trailing : (Disk.ofName "README.md ").Sound ∧
    (Disk.ofName "README.md ").HoldsTree ⟨0, ["b"]⟩ ["b"] ∧
      ∃ s, Submission.ofBundle (.ofName "README.md ") ⟨0, ["b"]⟩ "Conformance results for v1.30/p" 7 [] =
          .ok s ∧
        s.files = [⟨"v1.30/p/README.md ", "Run it.", none⟩] ∧
          Submission.ofValue (Submission.treeDocument "Conformance results for v1.30/p" 7 [] s.files) ≠
            .ok s := by
  have hsound := Disk.sound_ofName Disk.isName_readme.2
  have htree := Disk.holdsTree_ofName Disk.usable_readme.2
  refine ⟨hsound, htree, ?_⟩
  rcases Submission.ofBundle_of_holdsTree hsound htree "Conformance results for v1.30/p" 7 [] with
    ⟨files, hload, -⟩
  rcases exists_of_map_toOption files_trailing with ⟨s, hloaded, hfiles⟩
  rw [hload, Except.ok.injEq] at hloaded
  have heq : files = [⟨"v1.30/p/README.md ", "Run it.", none⟩] := by
    rw [← hfiles, ← hloaded]
    rfl
  refine ⟨_, hload, heq, fun hagree => ?_⟩
  rw [heq] at hagree
  -- The path that the document gives has lost its blank.
  have hlisted : ∀ f ∈ [(⟨"v1.30/p/README.md ", "Run it.", none⟩ : SubmittedFile)],
      f.path ≠ "" ∧ f.address = none := by
    rw [List.forall_mem_singleton]
    exact ⟨by decide, rfl⟩
  have hstrip := (Submission.ofValue_treeDocument_eq_ok_iff hlisted).mp hagree _ List.mem_cons_self
  exact absurd hstrip (by decide +kernel)

end Assay
