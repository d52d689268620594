import Assay.Proofs.Acceptance
import Assay.Proofs.Placement

/-!
# The folder of an accepted submission

The folder should be a release and a product. It is seen in two ways: the release is read off the
path of a file, and the folder is held against a pattern. Both are searched for, so nothing asks for
the release to come first, and what stands before it, the rest of a directory's name or whole
directories, is accepted with it.

The release that is read off the path is the first one in it, and the pattern has a match somewhere
in the folder. That is enough for the release to be followed by a product: if the folder ended with
it, the match would stand before it, and would have been the release that is read off the path. The
one way around this is a line break between the two, since a product does not run on over the end of
a line.

## Theorems

* `folderChars_of_release`: A folder with a release in its path ends after it or goes on with a
  product.
* `folder_of_placement`: The folder of a path with a placement and a match.
* `folder_of_success`: The folder of an accepted submission is a release and a product, with anything
  before them.
-/

namespace Assay

open Packaged Pattern Text

/-! ## The folder of a path -/

/-- What is dropped at the end of characters does not reach beyond one that is kept. -/
theorem rdropWhile_append_of_kept {α : Type} {test : α → Bool} {front back : List α}
    (hne : front ≠ []) (hkept : ¬ test (front.getLast hne)) :
    (front ++ back).rdropWhile test = front ++ back.rdropWhile test := by
  -- From the end of the list, where the dropping begins.
  induction back using List.reverseRecOn with
  | nil =>
      rw [List.append_nil, List.rdropWhile_nil, List.append_nil]
      exact List.rdropWhile_eq_self_iff.mpr fun _ => hkept
  | append_singleton back c ih =>
      rw [← List.append_assoc, List.rdropWhile_concat, List.rdropWhile_concat]
      split
      · exact ih
      · exact List.append_assoc ..

/-- What is kept of a slash and what follows it, without the slashes at the end, is nothing, or it has
    something behind the first slash. -/
theorem rdropWhile_slash_cases (cs : List Char) : ('/' :: cs).rdropWhile (· == '/') = [] ∨
    ∃ product, product ≠ [] ∧ ('/' :: cs).rdropWhile (· == '/') = '/' :: product := by
  have hfront := List.rdropWhile_prefix (· == '/') ('/' :: cs)
  have hend := List.rdropWhile_last_not (· == '/') ('/' :: cs)
  generalize ('/' :: cs).rdropWhile (· == '/') = kept at hfront hend ⊢
  cases kept with
  | nil => exact Or.inl rfl
  | cons c product =>
      rw [List.cons_prefix_cons] at hfront
      rcases hfront with ⟨rfl, -⟩
      refine Or.inr ⟨product, ?_, rfl⟩
      rintro rfl
      exact hend (List.cons_ne_nil _ _) rfl

/-- A folder with a release and another slash behind it in its path ends after the release or goes on
    with a product. -/
theorem SubmittedFile.folderChars_of_release {release rest : List Char} (before : List Char)
    (h : IsRelease IsNumeral release) (hslash : '/' ∈ rest) : ∃ after,
      folderChars (before ++ (release ++ '/' :: rest)) = before ++ release ++ after ∧
        (after = [] ∨ ∃ product, product ≠ [] ∧ after = '/' :: product) := by
  -- The last slash of the path is the last one behind the release.
  rcases hcut : partitionLastChars '/' rest with _ | ⟨below, name⟩
  · exact absurd hcut (partitionLastChars_ne_none hslash)
  rcases partitionLastChars_eq_some_iff.mp hcut with ⟨rfl, hname⟩
  have hlast : partitionLastChars '/' (before ++ (release ++ '/' :: (below ++ '/' :: name))) =
      some (before ++ release ++ '/' :: below, name) := by
    rw [partitionLastChars_eq_some_iff]
    exact ⟨by simp only [List.append_assoc, List.cons_append], hname⟩
  -- The release does not end in a slash, so it is kept.
  have hfilled : release ≠ [] := by
    rcases h with ⟨major, minor, -, -, rfl⟩
    exact List.cons_ne_nil _ _
  have hne : before ++ release ≠ [] := List.append_ne_nil_of_right_ne_nil _ hfilled
  have hkept : ¬ ((before ++ release).getLast hne == '/') = true := by
    rw [beq_iff_eq, List.getLast_append_of_ne_nil _ hfilled]
    have hnoSlash : '/' ∉ release := h.not_mem (by decide) (by decide) (by decide)
    exact fun heq => hnoSlash (heq ▸ List.getLast_mem hfilled)
  have htrim : ((before ++ release ++ '/' :: below).reverse.dropWhile (· == '/')).reverse =
      before ++ release ++ ('/' :: below).rdropWhile (· == '/') :=
    rdropWhile_append_of_kept hne hkept
  refine ⟨('/' :: below).rdropWhile (· == '/'), ?_, rdropWhile_slash_cases below⟩
  rw [folderChars, hlast]
  simp only [htrim]
  rw [if_neg]
  rw [List.isEmpty_iff]
  exact List.append_ne_nil_of_left_ne_nil hne _

/-! ## Accepted folders -/

/-- A folder with a match has a release in it, and a slash behind the release. -/
theorem Packaged.folderPattern_sound {folder : String} {groups : List (Option String)}
    (h : folderPattern.pattern.search folder = some groups) : ∃ before release after,
      folder.toList = before ++ (release ++ '/' :: after) ∧ IsRelease IsNumeral release := by
  rcases search_sound h with ⟨p, q, -, htext, ⟨m, hgroup, m', hslash, -⟩, -⟩
  have hspells : Spells (releaseBefore id) (IsRelease IsNumeral) := releaseBefore_spells digits_spells
  rcases hspells.group hgroup with ⟨release, hrelease, hread, -⟩
  rcases letter_spells '/' hslash with ⟨_, rfl, hread', -⟩
  refine ⟨p.before.reverse, release, m'.after, ?_, hrelease⟩
  rw [← htext, hread.after, hread'.after]
  rfl

/-- Where a path holds a placement and its folder has a match, the release is followed by a product,
    or the match is on another line before it. -/
theorem folder_of_placement {f : SubmittedFile} {p : Placement}
    (hfind : Placement.find? f.path.toList = some p) {groups : List (Option String)}
    (hmatch : folderPattern.pattern.search f.folder = some groups) : ∃ before after,
      f.folder.toList = before ++ p.release.toList ++ after ∧
        ((∃ product, product ≠ [] ∧ after = '/' :: product) ∨ after = [] ∧ '\n' ∈ before) := by
  rcases Placement.exists_of_find? hfind with ⟨before, tail, hpath, htail, hfirst⟩
  rcases Placement.eq_append_of_takeHere htail with ⟨hrelease, rest, rfl, hslash⟩
  have hrest : '/' ∈ rest := (List.takeWhile_prefix _).subset hslash
  rcases SubmittedFile.folderChars_of_release before hrelease hrest with ⟨after, hfolder, hafter⟩
  have htext : f.folder.toList = before ++ p.release.toList ++ after := by
    rw [SubmittedFile.folder, String.toList_ofList, hpath, hfolder]
  refine ⟨before, after, htext, hafter.symm.imp_right fun hempty => ⟨hempty, ?_⟩⟩
  -- Where the folder ends with the release, the match stands before it.
  rcases folderPattern_sound hmatch with ⟨front, earlier, back, hfound, hearlier⟩
  rw [htext, hempty, List.append_nil, ← List.append_assoc] at hfound
  have hnoSlash : '/' ∉ p.release.toList := hrelease.not_mem (by decide) (by decide) (by decide)
  rcases exists_of_append_eq_append_cons hnoSlash hfound with ⟨between, hbefore⟩
  rw [List.append_assoc] at hbefore
  have hnone := hfirst front (earlier ++ '/' :: between) hbefore
    (List.append_ne_nil_of_right_ne_nil _ (List.cons_ne_nil _ _))
  -- It would make a placement itself if its line did not end before the release.
  by_contra hline
  have hnoBreak : '\n' ∉ between ++ p.release.toList := by
    rw [List.mem_append, not_or]
    refine ⟨fun hmem => hline ?_, hrelease.not_mem (by decide) (by decide) (by decide)⟩
    rw [hbefore]
    exact List.mem_append_right _ (List.mem_append_right _ (List.mem_cons_of_mem _ hmem))
  rw [List.append_assoc, List.cons_append, ← List.append_assoc between] at hnone
  exact Placement.takeHere_ne_none hearlier (mem_takeWhile_of_not_mem hnoBreak (by decide)) hnone

/-- The folder of an accepted submission is a release and a product with anything before them, unless
    a line break keeps the release from a product. -/
theorem folder_of_success {d : Disk} {settings : Settings} {s : Submission} {r : Review}
    (hrules : settings.rules = .packaged) (h : Review.ofSubmission d settings s = .ok r)
    (hv : r.verdict.state = .success) : ∃ before after : String,
      (∀ f ∈ s.files, f.folder = before ++ s.release ++ after) ∧
        ((∃ product, product ≠ "" ∧ after = "/" ++ product) ∨
          after = "" ∧ '\n' ∈ before.toList) := by
  rcases Review.exists_hold_of_packaged hrules h with ⟨latest, hlatest, hhold⟩
  rcases Settings.parse_of_latest hlatest with ⟨version, hversion⟩
  have hne : latest ≠ "" := Version.ne_empty_of_parse hversion
  have haccepted : Accepted (Review.briefOf d settings latest s) :=
    accepted_of_met hne (met_of_success hhold hv)
  -- The release was read off the path of some file, whose folder is that of all files.
  rcases hplacement : s.placement? with _ | p
  · refine absurd ?_ haccepted.supported.1
    exact congrArg (fun p => (p.map Placement.release).getD "") hplacement
  rcases List.exists_of_findSome?_eq_some hplacement with ⟨f, hf, hfind⟩
  have hrelease : s.release = p.release := by
    rw [Submission.release, hplacement]
    rfl
  rcases haccepted.folders f hf with ⟨groups, hmatch, -⟩
  rcases folder_of_placement hfind hmatch with ⟨before, after, hfolder, hafter⟩
  refine ⟨String.ofList before, String.ofList after, fun g hg => ?_, ?_⟩
  · rw [haccepted.together g hg f hf, hrelease]
    apply String.toList_injective
    rw [hfolder, String.toList_append, String.toList_append, String.toList_ofList,
      String.toList_ofList]
  · rcases hafter with ⟨product, hproduct, rfl⟩ | ⟨rfl, hline⟩
    · have hcut : String.ofList (['/'] ++ product) = "/" ++ String.ofList product :=
        String.ofList_append
      refine Or.inl ⟨String.ofList product, ?_, hcut⟩
      rwa [ne_eq, String.ofList_eq_empty_iff]
    · refine Or.inr ⟨rfl, ?_⟩
      rwa [String.toList_ofList]

/-- The complete submission in a directory whose name only ends in a release. -/
def Submission.misplaced : Submission :=
  { Submission.complete with
    files := Submission.complete.files.map fun f => { f with path := "old-" ++ f.path } }

theorem Review.exists_hold_misplaced : ∃ r,
    hold .ofOneTest (.given "v1.30") compiled "v1.30" .misplaced = .ok r ∧
      r.verdict.state = .success :=
  exists_hold_of_clear (by decide +kernel) (by decide +kernel) (by decide +kernel) (by decide +kernel)

theorem folder_of_success_of_misplaced : ∃ r,
    Review.ofSubmission .ofOneTest (Settings.given "v1.30") .misplaced = .ok r ∧
      r.verdict.state = .success ∧
        (¬ ∃ product, ∀ f ∈ Submission.misplaced.files,
          f.folder = Submission.misplaced.release ++ "/" ++ product) ∧
        ∃ before after : String, ∀ f ∈ Submission.misplaced.files,
          f.folder = before ++ Submission.misplaced.release ++ after := by
  rcases Review.exists_hold_misplaced with ⟨r, hhold, hv⟩
  rw [← Review.ofSubmission_eq_hold (Settings.load_of_packaged rfl) (Settings.given_latest _)] at hhold
  rcases folder_of_success rfl hhold hv with ⟨before, after, hfolders, -⟩
  refine ⟨r, hhold, hv, ?_, before, after, hfolders⟩
  rintro ⟨product, hall⟩
  -- The folder begins with the first letter of the directory and not with that of a release.
  have hfirst : "old-v1.30/p" = "v1.30" ++ "/" ++ product := hall _ List.mem_cons_self
  have hhead : 'o' = 'v' := by
    simpa using congrArg (fun text => text.toList.head?) hfirst
  exact absurd hhead (by decide)

end Assay
