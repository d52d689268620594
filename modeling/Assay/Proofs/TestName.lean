import Assay.Proofs.Extraction
import Assay.Proofs.Reconciliation

/-!
# Names of tests

Under which names a test can be reported so that it satisfies a requirement. Requirements name a test as
the manifest does, and a report has its names rewritten before they are looked up: some texts are
replaced in them, and a mark is taken off in front. A name in which none of these texts occurs is *plain*.
It is left as it is, up to the mark.

The rewriting leaves plain names only. None of the texts can be put together out of what is put in its
place, or in the place of a later one, so once a text has been replaced it does not come back
(`not_infix_replaceEach_of_mem`). A requirement whose name is not plain is therefore looked up in vain, in
whatever way it is reported.

For the same reason a name that was rewritten has nothing left in it to be replaced. Rewriting is still not
the same twice as once, because only one mark is taken off: a name behind two marks keeps the second, and
loses it the next time. What rewriting leaves as it is are the plain names without a mark
(`normalizeName_eq_self_iff`).

## Main definitions

* `replaceEach`: Replacements in a row.
* `IsPlain`: A name in which nothing is to be replaced.
* `Evidence.ShowsPassed`: A report in which a test of a name passed.
* `Evidence.Overlooked`: A requirement that stays open although a test of its name passed.

## Theorems

* `not_infix_replaceEach_of_mem`: What is left of the texts that were replaced.
* `normalizeName_of_isPlain`: The form of a plain name.
* `isPlain_normalizeName`: The forms of names are plain.
* `normalizeName_eq_self_iff`: The names that are in form already.
* `name_form_exact`: What is left in the form of a name, and what a second round does to it.
* `satisfied_by_own_name`: Which requirements are satisfied by a test that is reported by their name.
* `overlooked_by_own_name`: Requirements that are not.
-/

namespace Assay

open Text

/-! ## Marks -/

theorem dropMark_append (mark s : String) : dropMark mark (mark ++ s) = s := by
  have hfront : dropFront? mark.toList (mark ++ s).toList = some s.toList :=
    dropFront?_eq_some_iff.mpr String.toList_append
  simp only [dropMark, hfront, String.ofList_toList]

theorem dropMark_of_not_prefix {mark s : String} (h : ¬ mark.toList <+: s.toList) :
    dropMark mark s = s := by
  rw [dropMark, dropFront?_eq_none_iff.mpr h]

theorem dropMark_eq_self_iff {mark s : String} (hmark : mark.toList ≠ []) :
    dropMark mark s = s ↔ ¬ mark.toList <+: s.toList := by
  refine ⟨fun h hbegins => ?_, dropMark_of_not_prefix⟩
  rcases hbegins with ⟨rest, hrest⟩
  have hs : s = mark ++ String.ofList rest := by
    rw [← String.toList_inj, String.toList_append, String.toList_ofList, hrest]
  -- What stands behind the mark would be the whole text.
  rw [hs, dropMark_append, ← String.toList_inj, String.toList_append] at h
  exact hmark (List.self_eq_append_left.mp h)

theorem suffix_dropMark (mark s : String) : (dropMark mark s).toList <:+ s.toList := by
  rw [dropMark]
  rcases hfront : dropFront? mark.toList s.toList with _ | rest
  · exact List.suffix_rfl
  · rw [String.toList_ofList, dropFront?_eq_some_iff.mp hfront]
    exact List.suffix_append _ _

/-! ## Replacements in a row -/

/-- A text with some others replaced in it, one after the other. -/
def replaceEach (replacements : List (String × String)) (s : String) : String :=
  replacements.foldl (fun s p => replaceAll p.1 p.2 s) s

section Replacements

variable {replacements : List (String × String)} {s : String}

theorem replaceEach_cons (p : String × String) (rest : List (String × String)) (s : String) :
    replaceEach (p :: rest) s = replaceEach rest (replaceAll p.1 p.2 s) :=
  rfl

theorem replaceEach_of_not_infix (h : ∀ p ∈ replacements, ¬ p.1.toList <:+: s.toList) :
    replaceEach replacements s = s := by
  induction replacements with
  | nil => rfl
  | cons p rest ih =>
      rw [List.forall_mem_cons] at h
      rw [replaceEach_cons, replaceAll_of_not_infix h.1]
      exact ih h.2

/-- Replacements that take no part in a word do not bring it about. -/
theorem not_infix_replaceEach {word : List Char} (hword : word ≠ [])
    (hkeeps : ∀ p ∈ replacements, KeepsOut word p.2.toList) (h : ¬ word <:+: s.toList) :
    ¬ word <:+: (replaceEach replacements s).toList := by
  induction replacements generalizing s with
  | nil => exact h
  | cons p rest ih =>
      rw [List.forall_mem_cons] at hkeeps
      rw [replaceEach_cons]
      refine ih hkeeps.2 ?_
      rw [replaceAll, String.toList_ofList]
      -- The word began nowhere, so in particular nowhere but where the replaced text did.
      exact not_infix_replaceFrom hword hkeeps.1
        (fun rest hrest hbegins => absurd (hbegins.isInfix.trans hrest.isInfix) h) 0

/-- No text is left of those that were replaced, if none of them can be put together out of what is put
    in its place or in the place of a later one. -/
theorem not_infix_replaceEach_of_mem (hfilled : ∀ p ∈ replacements, p.1.toList ≠ [])
    (hown : ∀ p ∈ replacements, KeepsOut p.1.toList p.2.toList)
    (hlater : replacements.Pairwise fun p q => KeepsOut p.1.toList q.2.toList) :
    ∀ p ∈ replacements, ¬ p.1.toList <:+: (replaceEach replacements s).toList := by
  induction replacements generalizing s with
  | nil => exact fun p hp => absurd hp List.not_mem_nil
  | cons p rest ih =>
      rw [List.forall_mem_cons] at hfilled hown
      rw [List.pairwise_cons] at hlater
      rw [replaceEach_cons]
      refine List.forall_mem_cons.mpr ⟨?_, ih hfilled.2 hown.2 hlater.2⟩
      -- The first text is gone after its own replacement, and the later ones do not bring it back.
      refine not_infix_replaceEach hfilled.1 hlater.1 ?_
      rw [replaceAll, String.toList_ofList]
      exact not_infix_replaceFrom hfilled.1 hown.1 (fun rest _ hbegins => hbegins) 0

end Replacements

/-! ## Plain names -/

theorem normalizeName_eq (raw : String) :
    normalizeName raw = dropMark nameMark (replaceEach nameReplacements raw) :=
  rfl

/-- A name in which nothing is to be replaced. -/
def IsPlain (name : String) : Prop :=
  ∀ p ∈ nameReplacements, ¬ p.1.toList <:+: name.toList

instance (name : String) : Decidable (IsPlain name) :=
  inferInstanceAs (Decidable (∀ p ∈ nameReplacements, ¬ p.1.toList <:+: name.toList))

/-- A plain name stays plain behind the mark, since no text that is replaced begins in the mark. -/
theorem IsPlain.nameMark_append {name : String} (h : IsPlain name) : IsPlain (nameMark ++ name) := by
  have hfirst : ∀ p ∈ nameReplacements, p.1.toList ≠ [] ∧
      p.1.toList.head?.all (· ∉ nameMark.toList) = true := by decide +kernel
  intro p hp hpart
  rw [String.toList_append] at hpart
  refine h p hp (infix_of_infix_append (hfirst p hp).1 (fun c hc => ?_) hpart)
  exact of_decide_eq_true ((Option.all_eq_true _ _).mp (hfirst p hp).2 c hc)

/-- A plain name is brought into form by taking the mark off. -/
theorem normalizeName_of_isPlain {name : String} (h : IsPlain name) :
    normalizeName name = dropMark nameMark name := by
  rw [normalizeName_eq, replaceEach_of_not_infix h]

theorem keepsOut_nameReplacements :
    (∀ p ∈ nameReplacements, p.1.toList ≠ []) ∧
      (∀ p ∈ nameReplacements, KeepsOut p.1.toList p.2.toList) ∧
        nameReplacements.Pairwise fun p q => KeepsOut p.1.toList q.2.toList := by
  decide +kernel

/-- The forms of names are plain, whatever the report writes. -/
theorem isPlain_normalizeName (raw : String) : IsPlain (normalizeName raw) := by
  rcases keepsOut_nameReplacements with ⟨hfilled, hown, hlater⟩
  intro p hp hpart
  rw [normalizeName_eq] at hpart
  exact not_infix_replaceEach_of_mem hfilled hown hlater p hp
    (hpart.trans (suffix_dropMark _ _).isInfix)

/-! ## Names in form -/

/-- The texts that do not occur in a plain name, written out. -/
theorem isPlain_iff {name : String} : IsPlain name ↔
    ∀ word ∈ ["&#39;", "&#34;", "&gt;", "'cat /tmp/health'"], ¬ word.toList <:+: name.toList := by
  have hwords : nameReplacements.map Prod.fst = ["&#39;", "&#34;", "&gt;", "'cat /tmp/health'"] := rfl
  rw [← hwords, List.forall_mem_map, IsPlain]

/-- The names that are in form already are the plain ones that do not begin with the mark. -/
theorem normalizeName_eq_self_iff {name : String} :
    normalizeName name = name ↔ IsPlain name ∧ ¬ nameMark.toList <+: name.toList := by
  have hmark : nameMark.toList ≠ [] := by decide
  constructor
  · intro h
    -- A name that is left as it is is a form itself, and so there is nothing in it to be replaced.
    have hplain : IsPlain name := h ▸ isPlain_normalizeName name
    rw [normalizeName_of_isPlain hplain, dropMark_eq_self_iff hmark] at h
    exact ⟨hplain, h⟩
  · rintro ⟨hplain, hbegins⟩
    rw [normalizeName_of_isPlain hplain, dropMark_of_not_prefix hbegins]

/-- In the form of a name none of the texts is left that are replaced, whatever the report writes. Brought
    into form again it loses one further mark, if it begins with one, and nothing else. The names that are
    left as they are from the start are those in which none of the texts occurs and that do not begin with
    the mark. -/
theorem name_form_exact :
    (∀ raw, ∀ word ∈ ["&#39;", "&#34;", "&gt;", "'cat /tmp/health'"],
      ¬ word.toList <:+: (normalizeName raw).toList) ∧
    (∀ raw,
      (∀ rest, normalizeName raw = "[It] " ++ rest → normalizeName (normalizeName raw) = rest) ∧
      (¬ "[It] ".toList <+: (normalizeName raw).toList →
        normalizeName (normalizeName raw) = normalizeName raw)) ∧
    ∀ name, normalizeName name = name ↔
      (∀ word ∈ ["&#39;", "&#34;", "&gt;", "'cat /tmp/health'"], ¬ word.toList <:+: name.toList) ∧
        ¬ "[It] ".toList <+: name.toList := by
  refine ⟨fun raw => isPlain_iff.mp (isPlain_normalizeName raw), fun raw => ?_, fun name => ?_⟩
  · have hplain : IsPlain (normalizeName raw) := isPlain_normalizeName raw
    -- The second round finds nothing to replace, so all that it can do is to take off a mark.
    have hsecond : normalizeName (normalizeName raw) = dropMark nameMark (normalizeName raw) :=
      normalizeName_of_isPlain hplain
    constructor
    · intro rest hrest
      rw [hsecond, hrest]
      exact dropMark_append nameMark rest
    · intro hmark
      rw [hsecond]
      exact dropMark_of_not_prefix hmark
  · rw [normalizeName_eq_self_iff, isPlain_iff, nameMark]

/-- A name behind two marks, with the command in quotes that only come out of another replacement. -/
def twiceMarkedName : String :=
  "[It] [It] &#39;cat /tmp/health&#39; -&gt; &#34;0&#34;"

/-- The same name when nothing of it is left to be rewritten. -/
def unmarkedName : String := "\"cat /tmp/health\" -> \"0\""

theorem name_form_exact_of_twiceMarked :
    ¬ "'cat /tmp/health'".toList <:+: (normalizeName twiceMarkedName).toList ∧
    normalizeName twiceMarkedName = "[It] " ++ unmarkedName ∧
    normalizeName (normalizeName twiceMarkedName) = unmarkedName ∧
    normalizeName (normalizeName (normalizeName twiceMarkedName)) =
      normalizeName (normalizeName twiceMarkedName) ∧
    normalizeName unmarkedName = unmarkedName := by
  have hform : normalizeName twiceMarkedName = "[It] " ++ unmarkedName := by decide +kernel
  have hplain : ∀ word ∈ ["&#39;", "&#34;", "&gt;", "'cat /tmp/health'"],
      ¬ word.toList <:+: unmarkedName.toList := by decide +kernel
  have hmark : ¬ "[It] ".toList <+: unmarkedName.toList := by decide +kernel
  have hagain : normalizeName (normalizeName twiceMarkedName) = unmarkedName :=
    (name_form_exact.2.1 twiceMarkedName).1 unmarkedName hform
  refine ⟨name_form_exact.1 twiceMarkedName _ (by decide), hform, hagain, ?_,
    (name_form_exact.2.2 unmarkedName).mpr ⟨hplain, hmark⟩⟩
  refine (name_form_exact.2.1 (normalizeName twiceMarkedName)).2 ?_
  rw [hagain]
  exact hmark

/-! ## Requirements that a report satisfies -/

namespace Evidence

/-- A report in which a test of a name passed: one that was not skipped, and in which there is neither a
    failure nor an error. -/
def ShowsPassed (report raw : String) : Prop :=
  ∃ root place case, Xml.read report = some root ∧ IsReport root ∧ root.at? place = some case ∧
    case.name? = some "testcase" ∧ case.attribute? "name" = some raw ∧
    ∀ tag ∈ ["skipped", "failure", "error"], ¬ case.Has tag

/-- A test that passed is among the outcomes by the form of its name, if it is in scope. -/
theorem normalizeName_mem_passedNames {report raw : String} (h : ShowsPassed report raw)
    (hscope : scopeMark.toList <:+: raw.toList) :
    ∃ os, outcomes report = .ok os ∧ normalizeName raw ∈ passedNames os := by
  rcases h with ⟨root, place, case, hread, hroot, hat, helement, hnamed, hnone⟩
  have hskipped : ¬ case.Has "skipped" := hnone _ List.mem_cons_self
  have hpassed : ¬ case.Has "failure" ∧ ¬ case.Has "error" :=
    ⟨hnone _ (by decide), hnone _ (by decide)⟩
  have hcase : IsCase case raw := ⟨helement, hskipped, hnamed, hscope⟩
  have houtcome : IsOutcome case raw (outcome case) := isOutcome_outcome hcase
  -- Not skipped, named and in scope, so the element is counted as a test.
  have hcounted : case ∈ (root.descendants "testcase").filter counts :=
    List.mem_filter.mpr ⟨Xml.Node.mem_descendants_iff.mpr ⟨place, hat, helement⟩,
      (counts_iff helement).mpr ⟨raw, hcase⟩⟩
  refine ⟨_, outcomes_eq_ok_iff.mpr ⟨root, hread, hroot, rfl⟩, ?_⟩
  rw [passedNames, ← houtcome.name]
  exact List.mem_map_of_mem (List.mem_filter.mpr
    ⟨List.mem_map_of_mem hcounted, houtcome.passed.mpr hpassed⟩)

/-- The outcomes of a report have plain names. -/
theorem isPlain_of_mem_passedNames {report name : String} {os : List Outcome}
    (hos : outcomes report = .ok os) (h : name ∈ passedNames os) : IsPlain name := by
  rcases outcomes_eq_ok_iff.mp hos with ⟨root, -, -, rfl⟩
  rcases List.mem_map.mp h with ⟨o, ho, rfl⟩
  rcases List.mem_map.mp (List.mem_filter.mp ho).1 with ⟨case, -, rfl⟩
  rw [outcome_name]
  exact isPlain_normalizeName _

/-- A requirement whose name is plain and in scope is satisfied by a report in which a test passed that is
    called by this name, unless the mark would be taken off the name, or by this name behind the mark. A
    requirement whose name is not plain is satisfied by no report. -/
theorem satisfied_by_own_name (r : RequirementSet) {codename : String}
    (hscope : scopeMark.toList <:+: codename.toList) :
    (IsPlain codename → ∀ report,
      ShowsPassed report codename ∧ ¬ nameMark.toList <+: codename.toList ∨
        ShowsPassed report (nameMark ++ codename) →
      ∃ os, outcomes report = .ok os ∧ codename ∉ (r.reconcile os).missing) ∧
    (¬ IsPlain codename → ∀ report os, outcomes report = .ok os →
      (codename ∈ (r.reconcile os).missing ↔ codename ∈ r.missing)) := by
  refine ⟨fun hplain report hreport => ?_, fun hplain report os hos => ?_⟩
  · have hpassed : ∃ os, outcomes report = .ok os ∧ codename ∈ passedNames os := by
      rcases hreport with ⟨hshows, hmark⟩ | hshows
      · have hname : normalizeName codename = codename := by
          rw [normalizeName_of_isPlain hplain, dropMark_of_not_prefix hmark]
        exact hname ▸ normalizeName_mem_passedNames hshows hscope
      · have hname : normalizeName (nameMark ++ codename) = codename := by
          rw [normalizeName_of_isPlain hplain.nameMark_append, dropMark_append]
        have hscope' : scopeMark.toList <:+: (nameMark ++ codename).toList := by
          rw [String.toList_append]
          exact hscope.trans (List.suffix_append _ _).isInfix
        exact hname ▸ normalizeName_mem_passedNames hshows hscope'
    rcases hpassed with ⟨os, hos, hname⟩
    exact ⟨os, hos, fun hmissing => ((RequirementSet.mem_missing_reconcile_iff r).mp hmissing).2 hname⟩
  · -- No test passes under a name that is not plain, since no name is looked up in such a form.
    rw [RequirementSet.mem_missing_reconcile_iff]
    exact and_iff_left fun hname => hplain (isPlain_of_mem_passedNames hos hname)

/-- A report of one test, which passed. -/
def reportOf (quote name : String) : String :=
  "<testsuite><testcase name=" ++ quote ++ name ++ quote ++ "/></testsuite>"

/-- The name of a test in which a command is quoted. -/
def commandName (quote : String) : String :=
  "[sig-node] Probing should run " ++ quote ++ "cat /tmp/health" ++ quote ++ " [Conformance]"

theorem showsPassed_of_read {report name : String} (h : Xml.read report =
    some (.element "testsuite" [] [.element "testcase" [("name", name)] []])) :
    ShowsPassed report name := by
  refine ⟨_, [0], .element "testcase" [("name", name)] [], h, ⟨"testsuite", by decide, rfl⟩, rfl, rfl,
    rfl, ?_⟩
  rintro tag - ⟨part, hpart, -⟩
  exact absurd hpart List.not_mem_nil

theorem satisfied_by_own_name_of_commandName :
    scopeMark.toList <:+: (commandName "\"").toList ∧ IsPlain (commandName "\"") ∧
      ShowsPassed (reportOf "'" (nameMark ++ commandName "\"")) (nameMark ++ commandName "\"") ∧
      (∃ os, outcomes (reportOf "'" (nameMark ++ commandName "\"")) = .ok os ∧ commandName "\"" ∉
        ((RequirementSet.empty.require (commandName "\"")).reconcile os).missing) ∧
    scopeMark.toList <:+: (commandName "'").toList ∧ ¬ IsPlain (commandName "'") ∧
      ∀ report os, outcomes report = .ok os →
        (commandName "'" ∈ ((RequirementSet.empty.require (commandName "'")).reconcile os).missing ↔
          commandName "'" ∈ (RequirementSet.empty.require (commandName "'")).missing) := by
  have hscope : scopeMark.toList <:+: (commandName "\"").toList := by decide +kernel
  have hscope' : scopeMark.toList <:+: (commandName "'").toList := by decide +kernel
  have hplain : IsPlain (commandName "\"") := by decide +kernel
  have hplain' : ¬ IsPlain (commandName "'") := by decide +kernel
  have hshows : ShowsPassed (reportOf "'" (nameMark ++ commandName "\""))
      (nameMark ++ commandName "\"") := showsPassed_of_read rfl
  exact ⟨hscope, hplain, hshows, (satisfied_by_own_name _ hscope).1 hplain _ (Or.inr hshows),
    hscope', hplain', (satisfied_by_own_name _ hscope').2 hplain'⟩

/-- A requirement that stays open although a test passed that is called by its name. -/
def Overlooked (report codename : String) : Prop :=
  codename ∈ (RequirementSet.empty.require codename).names ∧
    scopeMark.toList <:+: codename.toList ∧ ShowsPassed report codename ∧
    ∃ os, outcomes report = .ok os ∧
      codename ∈ ((RequirementSet.empty.require codename).reconcile os).missing

theorem passedNames_commandName :
    (outcomes (reportOf "\"" (commandName "'"))).toOption.map passedNames =
      some [commandName "\""] := by
  decide +kernel

theorem passedNames_marked : (outcomes (reportOf "\"" "[It] Pods [Conformance]")).toOption.map
    passedNames = some ["Pods [Conformance]"] := by
  decide +kernel

theorem Overlooked.of_passedNames {report codename : String} {names : List String}
    (hscope : scopeMark.toList <:+: codename.toList) (hshows : ShowsPassed report codename)
    (hnames : (outcomes report).toOption.map passedNames = some names) (hmissed : codename ∉ names) :
    Overlooked report codename := by
  have hrequired : codename ∈ (RequirementSet.empty.require codename).names :=
    List.mem_singleton_self codename
  rcases exists_of_map_toOption hnames with ⟨os, hos, rfl⟩
  have hmissing : codename ∈ (RequirementSet.empty.require codename).missing :=
    (RequirementSet.mem_missing_of_unmet (RequirementSet.unmet_empty.require codename)).mpr hrequired
  exact ⟨hrequired, hscope, hshows, os, hos,
    (RequirementSet.mem_missing_reconcile_iff _).mpr ⟨hmissing, hmissed⟩⟩

/-- The command is quoted in another way, or the mark is taken off, before the name is looked up. -/
theorem overlooked_by_own_name :
    Overlooked (reportOf "\"" (commandName "'")) (commandName "'") ∧
      Overlooked (reportOf "\"" "[It] Pods [Conformance]") "[It] Pods [Conformance]" :=
  ⟨.of_passedNames (by decide +kernel) (showsPassed_of_read rfl) passedNames_commandName
      (by decide +kernel),
    .of_passedNames (by decide +kernel) (showsPassed_of_read rfl) passedNames_marked
      (by decide +kernel)⟩

end Evidence

end Assay
