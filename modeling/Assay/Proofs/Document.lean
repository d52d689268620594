import Assay.Command.Run
import Assay.Proofs.Halt
import Assay.Proofs.Manifest
import Assay.Proofs.Sweep
import Assay.Proofs.Value

/-!
# Submission documents

Every document gives a submission or is refused with a report. All of its parts are read leniently, whatever
stands in them, and the files of a submission have their paths. The one number that is no integer and of
which nobody is told is an infinite one: it breaks the reading off.

A sweep over a directory reads its documents one after the other. Those that are refused are listed, and the
others are reviewed as if they were alone. A document with an infinite number breaks off all of it.

## Main definitions

* `Submission.HasInfiniteNumber`: A document that breaks its reading off.
* `Command.loaded?`, `Command.refused?`: What a sweep makes of a document.

## Theorems

* `Submission.ofValue_concludes`, `Submission.load_concludes`: How the reading of a document ends.
* `Command.gather_of_spared`, `Command.gather_breaks`: What a sweep finds in a directory.
* `documents_exact`: How documents are read, alone and in a directory.
-/

namespace Assay

open Text

namespace Submission

variable {doc : Value} {j : Json}

/-- A document with an infinite number in the place of its number. -/
def HasInfiniteNumber (j : Json) : Prop :=
  ∃ negative, j.member? "number" = some (.float (.infinite negative))

/-- The paths of a submission's files have something in them and no blanks around them. -/
def HasPaths (s : Submission) : Prop :=
  ∀ file ∈ s.files, file.path ≠ "" ∧ strip file.path = file.path

/-! ## Numbers -/

/-- A value is taken for an integer or refused, unless it is infinite. -/
theorem readNumber_eq_fault_iff {v : Value} {f : Fault} : readNumber v = .error (.fault f) ↔
    f = .infiniteNumber ∧ ∃ negative, v = .float (.infinite negative) := by
  cases v
  case float x =>
    cases x
    case infinite negative => simp [readNumber, eq_comm]
    all_goals
      simp only [readNumber]
      split <;> simp
  case text s =>
    simp only [readNumber]
    split <;> simp
  all_goals simp [readNumber]

theorem numberField_eq_fault_iff {f : Fault} : numberField j.toValue = .error (.fault f) ↔
    f = .infiniteNumber ∧ HasInfiniteNumber j := by
  rw [numberField, Json.field?_toValue, HasInfiniteNumber]
  rcases j.member? "number" with _ | number
  · simp
  · by_cases hblank : number.toValue.isBlank
    · -- What counts as absent is not infinite.
      simp only [Option.map_some, hblank, if_true, reduceCtorEq, false_iff, Option.some.injEq]
      rintro ⟨-, negative, rfl⟩
      cases hblank
    · simp only [Option.map_some, hblank, Bool.false_eq_true, if_false, readNumber_eq_fault_iff,
        Option.some.injEq, Json.toValue_eq_float_iff]

/-! ## Files -/

/-- A file has its path, which is stripped, or it is refused. -/
theorem readFile_cases (doc : Value) : readFile doc = .error (.report .pathMissing) ∨
    ∃ file, readFile doc = .ok file ∧ file.path ≠ "" ∧ strip file.path = file.path := by
  -- It does not matter which of the two fields the path is taken from.
  obtain ⟨written, hwritten⟩ : ∃ written, strip (if (textField doc "path").isEmpty
      then textField doc "name" else textField doc "path") = strip written := ⟨_, rfl⟩
  simp only [readFile, hwritten]
  by_cases hempty : (strip written).isEmpty
  · rw [if_pos hempty]
    exact Or.inl rfl
  · rw [if_neg hempty]
    rw [String.isEmpty_iff] at hempty
    exact Or.inr ⟨_, rfl, hempty, strip_strip written⟩

theorem mem_readFiles {files : List SubmittedFile} (h : readFiles doc = .ok files) {file : SubmittedFile}
    (hfile : file ∈ files) : file.path ≠ "" ∧ strip file.path = file.path := by
  rcases exists_of_mem_right (mapM_eq_ok_iff.mp h) hfile with ⟨v, -, hv⟩
  rcases readFile_cases v with hmissing | ⟨file', hfile', hpath⟩
  · cases hv.symm.trans hmissing
  · cases hv.symm.trans hfile'
    exact hpath

theorem readFiles_ne_fault {f : Fault} : readFiles doc ≠ .error (.fault f) := by
  intro h
  rcases mapM_eq_error_iff.mp h with ⟨-, v, -, -, -, hv⟩
  rcases readFile_cases v with hmissing | ⟨file, hfile, -⟩
  · cases hv.symm.trans hmissing
  · cases hv.symm.trans hfile

/-! ## Documents -/

theorem ofValue_of_not_mapping (h : isMapping doc = false) : ofValue doc = .error (.report .notObject) := by
  rw [ofValue, h]
  rfl

theorem ofValue_of_number_fault {f : Fault} (hmapping : isMapping doc = true)
    (h : numberField doc = .error (.fault f)) : ofValue doc = .error (.fault f) := by
  rw [ofValue, hmapping, h]
  rfl

/-- A document whose number does not break it off gives a submission whose files have their paths, or it is
    refused. -/
theorem ofValue_of_spared (h : ∀ f, numberField doc ≠ .error (.fault f)) :
    (∃ s, ofValue doc = .ok s ∧ s.HasPaths) ∨ ∃ p, ofValue doc = .error (.report p) := by
  rcases hmapping : isMapping doc
  · exact Or.inr ⟨_, ofValue_of_not_mapping hmapping⟩
  -- The number is read before anything is asked of the files.
  rcases hnumber : numberField doc with (p | f) | number
  · refine Or.inr ⟨p, ?_⟩
    rw [ofValue, hmapping, hnumber]
    rfl
  · exact absurd hnumber (h f)
  rcases hlist : filesAreList doc
  · refine Or.inr ⟨.filesNotList, ?_⟩
    rw [ofValue, hmapping, hnumber, hlist]
    rfl
  rcases hfiles : readFiles doc with (p | f) | files
  · refine Or.inr ⟨p, ?_⟩
    rw [ofValue, hmapping, hnumber, hlist, hfiles]
    rfl
  · exact absurd hfiles readFiles_ne_fault
  · have hvalue : ∃ s, ofValue doc = .ok s ∧ s.files = files := by
      rw [ofValue, hmapping, hnumber, hlist, hfiles]
      exact ⟨_, rfl, rfl⟩
    rcases hvalue with ⟨s, hs, rfl⟩
    exact Or.inl ⟨s, hs, fun file => mem_readFiles hfiles⟩

theorem HasInfiniteNumber.isMapping (h : HasInfiniteNumber j) : isMapping j.toValue = true := by
  rcases h with ⟨negative, hnumber⟩
  cases j
  case object members => rfl
  all_goals cases hnumber

/-- A document gives a submission whose files have their paths, or it is refused, unless its number is
    infinite. -/
theorem ofValue_concludes (j : Json) : Concludes (ofValue j.toValue) HasPaths (fun _ => True)
    (fun f => f = .infiniteNumber ∧ HasInfiniteNumber j) := by
  constructor
  · by_cases h : HasInfiniteNumber j
    · refine Or.inr (Or.inr ⟨.infiniteNumber, ofValue_of_number_fault h.isMapping ?_, rfl, h⟩)
      exact numberField_eq_fault_iff.mpr ⟨rfl, h⟩
    · rcases ofValue_of_spared fun f hf => h (numberField_eq_fault_iff.mp hf).2 with hgiven | ⟨p, hp⟩
      · exact Or.inl hgiven
      · exact Or.inr (Or.inl ⟨p, hp, trivial⟩)
  · rintro f ⟨rfl, h⟩
    exact ofValue_of_number_fault h.isMapping (numberField_eq_fault_iff.mpr ⟨rfl, h⟩)

/-- A file that holds a document with an infinite number. -/
def HoldsInfiniteNumber (d : Disk) (path : Path) : Prop :=
  ∃ text j, d.read path = .ok text ∧ Json.read? text = some j ∧ HasInfiniteNumber j

/-- A file gives a submission or is refused, unless it holds a document with an infinite number. -/
theorem load_concludes (d : Disk) (path : Path) : Concludes (load d path) HasPaths (fun _ => True)
    (fun f => f = .infiniteNumber ∧ HoldsInfiniteNumber d path) := by
  unfold load HoldsInfiniteNumber
  rcases hread : d.read path with problem | text
  · exact .of_report rfl trivial fun f hf => by simp at hf
  rcases hdocument : Json.read? text with _ | j
  · simp only [hdocument]
    exact .of_report rfl trivial fun f hf => by simp [hdocument] at hf
  simp only [hdocument]
  by_cases hmapping : isMapping j.toValue
  · rw [if_pos hmapping]
    refine (ofValue_concludes j).imp (fun _ => id) (fun _ => id) fun f => ?_
    simp [hdocument]
  · -- A document that is no mapping is refused before its number is looked for, and it has none.
    rw [if_neg hmapping]
    refine .of_report rfl trivial ?_
    rintro f ⟨-, text', j', htext, hj, hinfinite⟩
    cases htext
    cases hdocument.symm.trans hj
    exact absurd hinfinite.isMapping hmapping

end Submission

/-! ## Directories -/

namespace Command

variable {d : Disk} {directory : Path} {names : List String}

/-- The submission in a document of a directory, if it gives one. -/
def loaded? (d : Disk) (directory : Path) (name : String) : Option Submission :=
  (Submission.load d (directory.child name)).toOption

/-- A document of a directory that was refused, and why. -/
def refused? (d : Disk) (directory : Path) (name : String) : Option (Path × String × DocumentProblem) :=
  match Submission.load d (directory.child name) with
  | .error (.report p) => some (directory.child name, name, p)
  | _ => none

/-- A sweep finds the submissions of a directory and the documents that were refused, each in order, if none
    of the documents breaks it off. -/
theorem gather_of_spared (h : ∀ name ∈ names, ∀ f, Submission.load d (directory.child name) ≠ .error (.fault f)) :
    gather d directory names =
      .ok ⟨names.filterMap (loaded? d directory), names.filterMap (refused? d directory)⟩ := by
  induction names with
  | nil => rfl
  | cons name rest ih =>
      rw [List.forall_mem_cons] at h
      rw [gather, ih h.2, List.filterMap_cons, List.filterMap_cons, loaded?, refused?]
      rcases hload : Submission.load d (directory.child name) with (p | f) | s
      · rfl
      · exact absurd hload (h.1 f)
      · rfl

/-- Every document of a directory that breaks no sweep off is a submission or was refused. -/
theorem length_gathered (h : ∀ name ∈ names, ∀ f, Submission.load d (directory.child name) ≠ .error (.fault f)) :
    (names.filterMap (loaded? d directory)).length + (names.filterMap (refused? d directory)).length =
      names.length := by
  induction names with
  | nil => rfl
  | cons name rest ih =>
      rw [List.forall_mem_cons] at h
      have := ih h.2
      rw [List.filterMap_cons, List.filterMap_cons, loaded?, refused?, List.length_cons]
      rcases hload : Submission.load d (directory.child name) with (p | f) | s
      · simp only [Except.toOption, List.length_cons]
        omega
      · exact absurd hload (h.1 f)
      · simp only [Except.toOption, List.length_cons]
        omega

/-- A document with an infinite number breaks the sweep off, wherever it stands in the directory. -/
theorem gather_breaks (h : ∃ name ∈ names, Submission.HoldsInfiniteNumber d (directory.child name)) :
    gather d directory names = .error .infiniteNumber := by
  induction names with
  | nil =>
      rcases h with ⟨name, hname, -⟩
      exact absurd hname List.not_mem_nil
  | cons name rest ih =>
      rw [List.exists_mem_cons_iff] at h
      have hends := Submission.load_concludes d (directory.child name)
      rw [gather]
      -- A document that does not break off is not the one with the number, so that one comes later.
      rcases hload : Submission.load d (directory.child name) with (p | f) | s
      · have hrest := h.resolve_left fun hinfinite => by
          cases hload.symm.trans (hends.breaks _ ⟨rfl, hinfinite⟩)
        rw [ih hrest]
        rfl
      · rw [(hends.eq_fault_iff.mp hload).1]
      · have hrest := h.resolve_left fun hinfinite => by
          cases hload.symm.trans (hends.breaks _ ⟨rfl, hinfinite⟩)
        rw [ih hrest]
        rfl

/-- The documents in a directory, by their names. -/
def documentNames (d : Disk) (spot : Spot) : List String :=
  (d.namesIn spot).filter isDocumentName

/-- The names in a directory, each of them once and in order. -/
theorem namesIn_inside (d : Disk) (place : List String) : d.namesIn (.inside place) =
    (d.entries.filterMap fun e => (Disk.below? place e.1).bind List.head?).eraseDups.mergeSort
      fun a b => decide (a ≤ b) :=
  rfl

/-- The documents in a directory are the files and directories in it with a name of the right kind. -/
theorem mem_documentNames_iff {place : List String} {name : String} :
    name ∈ documentNames d (.inside place) ↔
      (∃ e ∈ d.entries, (Disk.below? place e.1).bind List.head? = some name) ∧
        isDocumentName name = true := by
  rw [documentNames, namesIn_inside, List.mem_filter, List.mem_mergeSort, List.mem_eraseDups,
    List.mem_filterMap]

/-- A sweep gathers the documents of its directory first. -/
theorem sweep_of_directory {environment : Option String} {r : SweepRequest} {spot : Spot}
    (hdirectory : d.isDirectory (Path.ofText r.directory) = .ok true)
    (hspot : d.follow (Path.ofText r.directory) = .ok spot) :
    sweep d environment r = gather d (Path.ofText r.directory) (documentNames d spot) >>= fun g =>
      (sweepGathered d environment r g).map .completed := by
  rw [sweep, hdirectory, ok_bind, documentNames]
  simp only [Bool.not_true, Bool.false_eq_true, if_false, hspot]
  rfl

/-- A sweep over what a directory held comes to its summary, if what it has to write can be written. -/
theorem sweepGathered_of_run {environment : Option String} {r : SweepRequest} {g : Gathered} {s : Sweep}
    {d' : Disk} (hrun : Sweep.run d (r.settings.settings environment) g.submissions = .ok s)
    (hwrite : d.write (Path.ofText r.output)
      (String.join (s.reviews.map fun review => review.toJson.line ++ "\n")) = .ok d') :
    ∃ c, sweepGathered d environment r g = .ok c ∧ c.exit = sweepExitCode g s ∧
      c.output = (sweepSummary g s).indented ++ "\n" := by
  simp only [sweepGathered, hrun, hwrite, ok_bind, pure_eq_ok, Except.ok.injEq, exists_eq_left', and_self]

/-- How documents are read. Each of them gives a submission whose files have their paths, or it is refused,
    unless its number is infinite. In a directory such a document breaks the whole sweep off. Without one the
    documents that give submissions are swept, whatever the others hold, and the others are listed. -/
theorem documents_exact (d : Disk) :
    (∀ j, Concludes (Submission.ofValue j.toValue) Submission.HasPaths (fun _ => True)
      fun f => f = .infiniteNumber ∧ Submission.HasInfiniteNumber j) ∧
    (∀ path, Concludes (Submission.load d path) Submission.HasPaths (fun _ => True)
      fun f => f = .infiniteNumber ∧ Submission.HoldsInfiniteNumber d path) ∧
    ∀ (environment : Option String) (r : SweepRequest) (spot : Spot),
      d.isDirectory (Path.ofText r.directory) = .ok true →
      d.follow (Path.ofText r.directory) = .ok spot →
      ((∃ name ∈ documentNames d spot,
          Submission.HoldsInfiniteNumber d ((Path.ofText r.directory).child name)) →
        sweep d environment r = .error .infiniteNumber) ∧
      ((∀ name ∈ documentNames d spot,
          ¬ Submission.HoldsInfiniteNumber d ((Path.ofText r.directory).child name)) →
        ∃ g : Gathered,
          g.submissions = (documentNames d spot).filterMap (loaded? d (Path.ofText r.directory)) ∧
          g.unreadable = (documentNames d spot).filterMap (refused? d (Path.ofText r.directory)) ∧
          g.submissions.length + g.unreadable.length = (documentNames d spot).length ∧
          sweep d environment r = (sweepGathered d environment r g).map .completed ∧
          ∀ s d', Sweep.run d (r.settings.settings environment) g.submissions = .ok s →
            d.write (Path.ofText r.output)
              (String.join (s.reviews.map fun review => review.toJson.line ++ "\n")) = .ok d' →
            s.Tallies g.submissions.length ∧ ∃ c, sweepGathered d environment r g = .ok c ∧
              c.exit = sweepExitCode g s ∧ c.output = (sweepSummary g s).indented ++ "\n") := by
  refine ⟨Submission.ofValue_concludes, Submission.load_concludes d, ?_⟩
  intro environment r spot hdirectory hspot
  rw [sweep_of_directory hdirectory hspot]
  constructor
  · intro hinfinite
    rw [gather_breaks hinfinite]
    rfl
  · intro hspared
    have hloads : ∀ name ∈ documentNames d spot, ∀ f,
        Submission.load d ((Path.ofText r.directory).child name) ≠ .error (.fault f) := by
      intro name hname f hload
      exact hspared name hname ((Submission.load_concludes d _).eq_fault_iff.mp hload).2
    rw [gather_of_spared hloads, ok_bind]
    exact ⟨_, rfl, rfl, length_gathered hloads, rfl, fun s d' hrun hwrite =>
      ⟨Sweep.tallies_of_run hrun, sweepGathered_of_run hrun hwrite⟩⟩

/-- The fault of the document in a file. -/
def faultAt (d : Disk) (path : Path) : Option Fault :=
  match Submission.load d path with
  | .error (.fault f) => some f
  | _ => none

theorem faultAt_eq_some_iff {path : Path} {f : Fault} :
    faultAt d path = some f ↔ f = .infiniteNumber ∧ Submission.HoldsInfiniteNumber d path := by
  rw [← (Submission.load_concludes d path).eq_fault_iff, faultAt]
  rcases Submission.load d path with (p | g) | s <;> simp

/-- Two documents, of which one is refused. -/
def refusedDisk : Disk :=
  ⟨[(["docs", "a.json"], .file "\x7b\"number\": 7\x7d".toUTF8.toList),
    (["docs", "b.json"], .file "\x7b\"number\": \"x\"\x7d".toUTF8.toList)]⟩

/-- The same two, and one with an infinite number. -/
def infiniteDisk : Disk :=
  ⟨refusedDisk.entries ++ [(["docs", "c.json"], .file "\x7b\"number\": 1e999\x7d".toUTF8.toList)]⟩

/-- A sweep over the directory of these documents. -/
def sweepDocs : SweepRequest :=
  ⟨"docs", ⟨none, some "v1.30", none, []⟩, "out"⟩

theorem documentNames_refusedDisk : documentNames refusedDisk (.inside ["docs"]) = ["a.json", "b.json"] := by
  have hfound : (refusedDisk.entries.filterMap fun e =>
      (Disk.below? ["docs"] e.1).bind List.head?) = ["a.json", "b.json"] := by
    decide +kernel
  have hdistinct : ["a.json", "b.json"].eraseDups = ["a.json", "b.json"] := by
    simp [List.eraseDups_cons]
  rw [documentNames, namesIn_inside, hfound, hdistinct, List.mergeSort_of_pairwise (by decide)]
  decide +kernel

/-- A document that is refused leaves the sweep to the other, and one with an infinite number ends it. -/
theorem documents_exact_of_infinite :
    (∃ g : Gathered, g.submissions.length = 1 ∧ g.unreadable.length = 1 ∧
      sweep refusedDisk none sweepDocs =
        (sweepGathered refusedDisk none sweepDocs g).map .completed) ∧
      sweep infiniteDisk none sweepDocs = .error .infiniteNumber := by
  have hdirectory : ∀ d ∈ [refusedDisk, infiniteDisk], d.isDirectory (Path.ofText "docs") = .ok true ∧
      d.follow (Path.ofText "docs") = .ok (.inside ["docs"]) := by
    decide +kernel
  have hrefused := hdirectory _ List.mem_cons_self
  have hinfinite := hdirectory _ (List.mem_cons_of_mem _ List.mem_cons_self)
  constructor
  · have hfaults : ∀ name ∈ ["a.json", "b.json"],
        faultAt refusedDisk ((Path.ofText "docs").child name) = none := by
      decide +kernel
    have hspared : ∀ name ∈ documentNames refusedDisk (.inside ["docs"]),
        ¬ Submission.HoldsInfiniteNumber refusedDisk ((Path.ofText "docs").child name) := by
      intro name hname h
      rw [documentNames_refusedDisk] at hname
      cases (hfaults name hname).symm.trans (faultAt_eq_some_iff.mpr ⟨rfl, h⟩)
    rcases ((documents_exact refusedDisk).2.2 none sweepDocs _ hrefused.1 hrefused.2).2 hspared with
      ⟨g, hsubmissions, hunreadable, -, hsweep, -⟩
    rw [documentNames_refusedDisk] at hsubmissions hunreadable
    refine ⟨g, ?_, ?_, hsweep⟩
    · rw [hsubmissions]
      decide +kernel
    · rw [hunreadable]
      decide +kernel
  · have hfault : faultAt infiniteDisk ((Path.ofText "docs").child "c.json") = some .infiniteNumber := by
      decide +kernel
    have hname : "c.json" ∈ documentNames infiniteDisk (.inside ["docs"]) :=
      mem_documentNames_iff.mpr (by decide +kernel)
    exact ((documents_exact infiniteDisk).2.2 none sweepDocs _ hinfinite.1 hinfinite.2).1
      ⟨"c.json", hname, (faultAt_eq_some_iff.mp hfault).2⟩

end Command

end Assay
