import Assay.Proofs.Evidence
import Assay.Proofs.List
import Assay.Proofs.Search

/-!
# The test cases of a report

Which outcomes a report has, said of its tree and not of the search that goes through it. A node has a
place in a tree, the way to it from the root: the number of the part to enter on each level. Places are
compared like words in a dictionary, so that a node comes before all that is inside of it and before all
that is inside of later parts. That is the order in which the start tags are written, the order of the
document.

A search by name goes through a tree in this order and finds the elements of the name, at whatever depth
they are (`forall₂_placesOf`, `mem_placesOf_iff`). What is said of an outcome is then said of one test
case. The elements that tell of a failure count as such by being there: an empty one has no account to
give, and the test failed all the same.

## Main definitions

* `Node.at?`, `Node.placesOf`: The node at a place, and the places of the elements of a name.
* `Node.Has`, `Node.IsFirst`: What is directly inside an element.
* `Evidence.IsReport`, `Evidence.IsCase`: The roots of reports, and the test cases that count.
* `Evidence.Tells`: What an element tells of a failure.
* `Evidence.IsOutcome`, `Evidence.Extracts`: The outcome of a test case, and those of a report.
* `Evidence.casePlaces`: The places of the test cases that count.

## Theorems

* `pairwise_placesOf`, `mem_placesOf_iff`, `forall₂_placesOf`: A search by name.
* `isOutcome_outcome`: The outcome that is read off a test case is that of the test case.
* `outcomes_eq_ok_iff`: A report has the outcomes of its test cases that count.
* `outcomes_exact`: The outcomes of a text, which is corrupt if it is not a report.
-/

namespace Assay

open Text

namespace Xml.Node

/-! ## Places -/

/-- The node at a place of a tree: the way from the root says which part to enter on each level. -/
def at? : Node → List Nat → Option Node
  | n, [] => some n
  | n, i :: way => n.parts[i]?.bind fun p => p.at? way

mutual

/-- The places of the elements of a name, in the order of the document. -/
def placesOf (name : String) : Node → List (List Nat)
  | text _ => []
  | element own _ ps =>
    let below := placesIn name 0 ps
    if own = name then [] :: below else below

/-- The same for the parts of an element from the part with the number `i` on. -/
def placesIn (name : String) (i : Nat) : List Node → List (List Nat)
  | [] => []
  | p :: ps => (placesOf name p).map (i :: ·) ++ placesIn name (i + 1) ps

end

/-- The node at a place below the parts of an element from the part with the number `i` on. -/
def AtIn (ps : List Node) (i : Nat) (place : List Nat) (n : Node) : Prop :=
  ∃ j way p, place = (i + j) :: way ∧ ps[j]? = some p ∧ p.at? way = some n

theorem atIn_cons_iff {p n : Node} {ps : List Node} {i : Nat} {place : List Nat} :
    AtIn (p :: ps) i place n ↔
      (∃ way, place = i :: way ∧ p.at? way = some n) ∨ AtIn ps (i + 1) place n := by
  constructor
  · rintro ⟨j, way, q, rfl, hq, hn⟩
    -- The first turn leads to the head of the parts, or to one of those behind it.
    cases j with
    | zero =>
        rw [List.getElem?_cons_zero, Option.some.injEq] at hq
        exact Or.inl ⟨way, rfl, hq ▸ hn⟩
    | succ j =>
        rw [List.getElem?_cons_succ] at hq
        exact Or.inr ⟨j, way, q, by rw [Nat.add_right_comm, Nat.add_assoc], hq, hn⟩
  · rintro (⟨way, rfl, hn⟩ | ⟨j, way, q, rfl, hq, hn⟩)
    · exact ⟨0, way, p, rfl, rfl, hn⟩
    · exact ⟨j + 1, way, q, by rw [Nat.add_right_comm, Nat.add_assoc], hq, hn⟩

theorem at?_eq_some_iff {n m : Node} {place : List Nat} :
    n.at? place = some m ↔ place = [] ∧ m = n ∨ AtIn n.parts 0 place m := by
  cases place with
  | nil =>
      simp only [at?, Option.some.injEq, true_and, AtIn, reduceCtorEq, false_and, exists_false,
        or_false]
      exact eq_comm
  | cons i way =>
      simp only [at?, Option.bind_eq_some_iff, reduceCtorEq, false_and, false_or, AtIn,
        Nat.zero_add, List.cons.injEq]
      constructor
      · rintro ⟨p, hp, hm⟩
        exact ⟨i, way, p, ⟨rfl, rfl⟩, hp, hm⟩
      · rintro ⟨j, way', p, ⟨rfl, rfl⟩, hp, hm⟩
        exact ⟨p, hp, hm⟩

mutual

/-- A search finds the nodes at the places of the elements, one at each. -/
theorem forall₂_placesOf (name : String) : ∀ n : Node,
    List.Forall₂ (fun place m => n.at? place = some m) (placesOf name n) (descendants name n)
  | text _ => .nil
  | element own as ps => by
      have hbelow : List.Forall₂ (fun place m => (element own as ps).at? place = some m)
          (placesIn name 0 ps) (descendantsOf name ps) :=
        (forall₂_placesIn name 0 ps).imp fun _ _ h => at?_eq_some_iff.mpr (Or.inr h)
      rw [placesOf, descendants]
      by_cases h : own = name
      · rw [if_pos h, if_pos h]
        exact .cons rfl hbelow
      · rw [if_neg h, if_neg h]
        exact hbelow

theorem forall₂_placesIn (name : String) (i : Nat) : ∀ ps : List Node,
    List.Forall₂ (AtIn ps i) (placesIn name i ps) (descendantsOf name ps)
  | [] => .nil
  | p :: ps => by
      have hhere : List.Forall₂ (AtIn (p :: ps) i) ((placesOf name p).map (i :: ·))
          (descendants name p) := by
        rw [List.forall₂_map_left_iff]
        exact (forall₂_placesOf name p).imp fun way _ h => atIn_cons_iff.mpr (Or.inl ⟨way, rfl, h⟩)
      have hthere : List.Forall₂ (AtIn (p :: ps) i) (placesIn name (i + 1) ps)
          (descendantsOf name ps) :=
        (forall₂_placesIn name (i + 1) ps).imp fun _ _ h => atIn_cons_iff.mpr (Or.inr h)
      exact List.rel_append hhere hthere

end

mutual

/-- A search passes by every element of the name. -/
theorem mem_placesOf_iff (name : String) : ∀ (n : Node) (place : List Nat),
    place ∈ placesOf name n ↔ ∃ m, n.at? place = some m ∧ m.name? = some name
  | text cs, place => by
      simp only [placesOf, List.not_mem_nil, false_iff, not_exists, not_and]
      intro m hm hname
      rcases at?_eq_some_iff.mp hm with ⟨-, rfl⟩ | ⟨j, way, p, -, hp, -⟩
      · cases hname
      · cases hp
  | element own as ps, place => by
      have hbelow : place ∈ placesIn name 0 ps ↔
          ∃ m, AtIn (element own as ps).parts 0 place m ∧ m.name? = some name :=
        mem_placesIn_iff name 0 ps place
      simp only [at?_eq_some_iff, or_and_right, exists_or, ← hbelow, and_assoc, exists_and_left,
        exists_eq_left, placesOf]
      -- The element itself stands at the empty place, if it has the name.
      by_cases h : own = name
      · simp only [h, if_true, List.mem_cons, name?, and_true]
      · simp only [h, if_false, name?, Option.some.injEq, and_false, false_or]

theorem mem_placesIn_iff (name : String) (i : Nat) : ∀ (ps : List Node) (place : List Nat),
    place ∈ placesIn name i ps ↔ ∃ m, AtIn ps i place m ∧ m.name? = some name
  | [], place => by
      simp only [placesIn, List.not_mem_nil, AtIn, List.getElem?_nil, reduceCtorEq, false_and,
        and_false, exists_false]
  | p :: ps, place => by
      simp only [placesIn, List.mem_append, List.mem_map, atIn_cons_iff, or_and_right, exists_or,
        mem_placesIn_iff name (i + 1) ps place]
      refine or_congr_left ⟨?_, ?_⟩
      · rintro ⟨way, hway, rfl⟩
        rcases (mem_placesOf_iff name p way).mp hway with ⟨m, hm, hname⟩
        exact ⟨m, ⟨way, rfl, hm⟩, hname⟩
      · rintro ⟨m, ⟨way, rfl, hm⟩, hname⟩
        exact ⟨way, (mem_placesOf_iff name p way).mpr ⟨m, hm, hname⟩, rfl⟩

end

mutual

/-- A search goes through the document in its order. -/
theorem pairwise_placesOf (name : String) : ∀ n : Node, (placesOf name n).Pairwise (· < ·)
  | text _ => .nil
  | element own as ps => by
      rw [placesOf]
      by_cases h : own = name
      · rw [if_pos h]
        refine List.pairwise_cons.mpr ⟨fun place hplace => ?_, pairwise_placesIn name 0 ps⟩
        rcases (mem_placesIn_iff name 0 ps place).mp hplace with ⟨m, ⟨j, way, p, rfl, -⟩, -⟩
        exact List.nil_lt_cons _ _
      · rw [if_neg h]
        exact pairwise_placesIn name 0 ps

theorem pairwise_placesIn (name : String) (i : Nat) : ∀ ps : List Node,
    (placesIn name i ps).Pairwise (· < ·)
  | [] => .nil
  | p :: ps => by
      refine List.pairwise_append.mpr ⟨?_, pairwise_placesIn name (i + 1) ps, ?_⟩
      · rw [List.pairwise_map]
        exact (pairwise_placesOf name p).imp fun h => List.cons_lt_cons_iff.mpr (Or.inr ⟨rfl, h⟩)
      · -- What is in a later part has a higher number where the places part.
        intro place hplace later hlater
        rcases List.mem_map.mp hplace with ⟨way, -, rfl⟩
        rcases (mem_placesIn_iff name (i + 1) ps later).mp hlater with ⟨m, ⟨j, way', q, rfl, -⟩, -⟩
        exact List.cons_lt_cons_iff.mpr (Or.inl (by omega))

end

/-- What a search by name finds is in the tree, and it is called by the name. -/
theorem mem_descendants_iff {name : String} {n m : Node} :
    m ∈ n.descendants name ↔ ∃ place, n.at? place = some m ∧ m.name? = some name := by
  have heach := forall₂_placesOf name n
  constructor
  · intro hm
    rcases exists_of_mem_right heach hm with ⟨place, hplace, hat⟩
    rcases (mem_placesOf_iff name n place).mp hplace with ⟨m', hat', hname⟩
    obtain rfl : m' = m := Option.some.inj (hat'.symm.trans hat)
    exact ⟨place, hat, hname⟩
  · rintro ⟨place, hat, hname⟩
    rcases exists_of_mem_left heach ((mem_placesOf_iff name n place).mpr ⟨m, hat, hname⟩) with
      ⟨m', hm', hat'⟩
    obtain rfl : m = m' := Option.some.inj (hat.symm.trans hat')
    exact hm'

/-! ## What is directly inside an element -/

/-- There is an element of a name directly inside an element. -/
def Has (n : Node) (name : String) : Prop :=
  ∃ p ∈ n.parts, p.name? = some name

/-- The first element of a name directly inside an element. -/
def IsFirst (n : Node) (name : String) (child : Node) : Prop :=
  ∃ before after, n.parts = before ++ child :: after ∧ child.name? = some name ∧
    ∀ p ∈ before, p.name? ≠ some name

theorem find?_eq_none_iff {n : Node} {name : String} : n.find? name = none ↔ ¬ n.Has name := by
  simp only [find?, List.find?_eq_none, beq_iff_eq, Has, not_exists, not_and]

theorem find?_eq_some_iff {n child : Node} {name : String} :
    n.find? name = some child ↔ n.IsFirst name child := by
  simp only [find?, List.find?_eq_some_iff_append, beq_iff_eq, IsFirst, Bool.not_eq_true',
    beq_eq_false_iff_ne]
  constructor
  · rintro ⟨hname, before, after, hparts, hbefore⟩
    exact ⟨before, after, hparts, hname, hbefore⟩
  · rintro ⟨before, after, hparts, hname, hbefore⟩
    exact ⟨hname, before, after, hparts, hbefore⟩

end Xml.Node

namespace Evidence

/-! ## Test cases -/

/-- The root of a report. -/
def IsReport (root : Xml.Node) : Prop :=
  ∃ name ∈ rootNames, root.name? = some name

/-- A test case that counts, with its name as the report writes it. An element of a namespace has
    another name than `testcase`. -/
structure IsCase (case : Xml.Node) (raw : String) : Prop where
  element : case.name? = some "testcase"
  ran : ¬ case.Has "skipped"
  named : case.attribute? "name" = some raw
  inScope : scopeMark.toList <:+: raw.toList

/-- What an element of the name `tag` tells of a failure: its message; without one its text; and if that
    is blank its own name. -/
inductive Tells (tag : String) (n : Xml.Node) : String → Prop
  | message {s : String} (h : n.attribute? "message" = some s) (filled : s ≠ "") : Tells tag n s
  | text (silent : ∀ s, n.attribute? "message" = some s → s = "") (filled : strip n.leadingText ≠ "") :
    Tells tag n (strip n.leadingText)
  | name (silent : ∀ s, n.attribute? "message" = some s → s = "") (blank : strip n.leadingText = "") :
    Tells tag n tag

/-- An outcome is that of a test case: it failed if there is a failure or an error in it, with what the
    first failure tells, or where there is none what the first error tells. -/
structure IsOutcome (case : Xml.Node) (raw : String) (o : Outcome) : Prop where
  name : o.name = normalizeName raw
  passed : o.passed = true ↔ ¬ case.Has "failure" ∧ ¬ case.Has "error"
  silent : o.passed = true → o.failure = none
  told : o.passed = false → ∃ detail, o.failure = some detail ∧ detail ≠ "" ∧
    ((∃ child, case.IsFirst "failure" child ∧ Tells "failure" child detail) ∨
      ¬ case.Has "failure" ∧ ∃ child, case.IsFirst "error" child ∧ Tells "error" child detail)

/-- Some outcomes are those of a report: one for each test case that counts, wherever it is, in the order
    of the document. -/
def Extracts (root : Xml.Node) (outcomes : List Outcome) : Prop :=
  ∃ places : List (List Nat), places.Pairwise (· < ·) ∧
    (∀ place, place ∈ places ↔ ∃ case raw, root.at? place = some case ∧ IsCase case raw) ∧
    List.Forall₂ (fun place o => ∃ case raw, root.at? place = some case ∧ IsCase case raw ∧
      IsOutcome case raw o) places outcomes

theorem Tells.ne_empty {tag detail : String} {n : Xml.Node} (htag : tag ≠ "") (h : Tells tag n detail) :
    detail ≠ "" := by
  cases h with
  | message _ filled => exact filled
  | text _ filled => exact filled
  | name _ _ => exact htag

/-- The account of a failure is what the element tells. -/
theorem tells_account (tag : String) (n : Xml.Node) : Tells tag n (account tag n) := by
  by_cases hmessage : (n.attribute? "message").getD "" = ""
  · have hsilent : ∀ s, n.attribute? "message" = some s → s = "" := by
      intro s hs
      rwa [hs, Option.getD_some] at hmessage
    have haccount : account tag n =
        if strip n.leadingText = "" then tag else strip n.leadingText := by
      simp only [account, hmessage, String.isEmpty_iff, if_true]
    rw [haccount]
    by_cases hblank : strip n.leadingText = ""
    · rw [if_pos hblank]
      exact .name hsilent hblank
    · rw [if_neg hblank]
      exact .text hsilent hblank
  · -- A message that is given and not empty comes before everything else.
    rcases hgiven : n.attribute? "message" with _ | s
    · rw [hgiven] at hmessage
      exact absurd rfl hmessage
    · rw [hgiven, Option.getD_some] at hmessage
      have haccount : account tag n = s := by
        simp only [account, hgiven, Option.getD_some, String.isEmpty_iff, hmessage, if_false]
      rw [haccount]
      exact .message hgiven hmessage

theorem failure?_eq_none_iff {case : Xml.Node} :
    failure? case = none ↔ ¬ case.Has "failure" ∧ ¬ case.Has "error" := by
  rw [← Xml.Node.find?_eq_none_iff, ← Xml.Node.find?_eq_none_iff]
  exact Option.isNone_iff_eq_none.symm.trans outcome_passed_iff

theorem failure?_eq_some {case : Xml.Node} {detail : String} (h : failure? case = some detail) :
    detail ≠ "" ∧
      ((∃ child, case.IsFirst "failure" child ∧ Tells "failure" child detail) ∨
        ¬ case.Has "failure" ∧ ∃ child, case.IsFirst "error" child ∧ Tells "error" child detail) := by
  unfold failure? at h
  -- A failure is told before an error, wherever the two stand.
  rcases hfailure : case.find? "failure" with _ | child
  · rw [hfailure, Option.map_eq_some_iff] at h
    rcases h with ⟨child, herror, rfl⟩
    have htells : Tells "error" child (account "error" child) := tells_account _ _
    exact ⟨htells.ne_empty (by decide), Or.inr ⟨Xml.Node.find?_eq_none_iff.mp hfailure, child,
      Xml.Node.find?_eq_some_iff.mp herror, htells⟩⟩
  · rw [hfailure, Option.some.injEq] at h
    subst h
    have htells : Tells "failure" child (account "failure" child) := tells_account _ _
    exact ⟨htells.ne_empty (by decide), Or.inl ⟨child, Xml.Node.find?_eq_some_iff.mp hfailure, htells⟩⟩

/-! ## The outcomes of a report -/

/-- Whether a test case counts is seen from its name alone and from what is directly inside it. One
    without a name does not count, since an empty text lacks the mark. -/
theorem counts_iff {case : Xml.Node} (helement : case.name? = some "testcase") :
    counts case = true ↔ ∃ raw, IsCase case raw := by
  rw [counts, Bool.and_eq_true, Option.isNone_iff_eq_none, Xml.Node.find?_eq_none_iff, occursIn_iff,
    rawName]
  constructor
  · rintro ⟨hran, hscope⟩
    rcases hname : case.attribute? "name" with _ | raw
    · rw [hname, Option.getD_none] at hscope
      exact absurd (List.infix_nil.mp hscope) (by decide +kernel)
    · rw [hname, Option.getD_some] at hscope
      exact ⟨raw, helement, hran, hname, hscope⟩
  · rintro ⟨raw, hcase⟩
    rw [hcase.named, Option.getD_some]
    exact ⟨hcase.ran, hcase.inScope⟩

theorem isOutcome_outcome {case : Xml.Node} {raw : String} (h : IsCase case raw) :
    IsOutcome case raw (outcome case) where
  name := by rw [outcome, rawName, h.named, Option.getD_some]
  passed := Option.isNone_iff_eq_none.trans failure?_eq_none_iff
  silent hpassed := Option.isNone_iff_eq_none.mp hpassed
  told hfailed := by
    rcases hfailure : failure? case with _ | detail
    · exact absurd (Option.isNone_iff_eq_none.mpr hfailure) (Bool.eq_false_iff.mp hfailed)
    · exact ⟨detail, hfailure, failure?_eq_some hfailure⟩

/-- The places of the test cases that count. -/
def casePlaces (root : Xml.Node) : List (List Nat) :=
  (root.placesOf "testcase").filter fun place => (root.at? place).any counts

theorem mem_casePlaces_iff {root : Xml.Node} {place : List Nat} :
    place ∈ casePlaces root ↔ ∃ case raw, root.at? place = some case ∧ IsCase case raw := by
  simp only [casePlaces, List.mem_filter, Xml.Node.mem_placesOf_iff, Option.any_eq_true]
  constructor
  · rintro ⟨⟨case, hat, helement⟩, case', hat', hcounts⟩
    obtain rfl : case = case' := Option.some.inj (hat.symm.trans hat')
    rcases (counts_iff helement).mp hcounts with ⟨raw, hcase⟩
    exact ⟨case, raw, hat, hcase⟩
  · rintro ⟨case, raw, hat, hcase⟩
    exact ⟨⟨case, hat, hcase.element⟩, case, hat, (counts_iff hcase.element).mpr ⟨raw, hcase⟩⟩

/-- The search for test cases comes to the places of those that count, one after the other. -/
theorem forall₂_casePlaces (root : Xml.Node) :
    List.Forall₂ (fun place case => root.at? place = some case) (casePlaces root)
      ((root.descendants "testcase").filter counts) := by
  refine List.rel_filter ?_ (Xml.Node.forall₂_placesOf "testcase" root)
  intro place case hat
  simp only [hat, Option.any_some]

/-- The outcomes that are read off the test cases that count are those of the report. -/
theorem extracts_filter_counts (root : Xml.Node) :
    Extracts root (((root.descendants "testcase").filter counts).map outcome) := by
  refine ⟨casePlaces root, (Xml.Node.pairwise_placesOf _ root).filter _,
    fun _ => mem_casePlaces_iff, ?_⟩
  rw [List.forall₂_map_right_iff]
  refine ((List.forall₂_and_left _ _).mpr
    ⟨fun place hplace => mem_casePlaces_iff.mp hplace, forall₂_casePlaces root⟩).imp ?_
  rintro place case ⟨⟨case', raw, hat', hcase⟩, hat⟩
  obtain rfl : case' = case := Option.some.inj (hat'.symm.trans hat)
  exact ⟨case', raw, hat, hcase, isOutcome_outcome hcase⟩

/-- The name of a root is looked up as a text that is empty for want of a name, and no report is called
    by an empty text. -/
theorem isReport_iff {root : Xml.Node} :
    IsReport root ↔ rootNames.contains (root.name?.getD "") = true := by
  rw [List.contains_iff_mem]
  constructor
  · rintro ⟨name, hname, hroot⟩
    rwa [hroot, Option.getD_some]
  · intro hmem
    rcases hroot : root.name? with _ | name
    · rw [hroot, Option.getD_none] at hmem
      exact absurd hmem (by decide)
    · rw [hroot, Option.getD_some] at hmem
      exact ⟨name, hmem, hroot⟩

/-- A report has the outcomes of its test cases that count. -/
theorem outcomes_eq_ok_iff {report : String} {os : List Outcome} :
    outcomes report = .ok os ↔ ∃ root, Xml.read report = some root ∧ IsReport root ∧
      os = ((root.descendants "testcase").filter counts).map outcome := by
  rw [outcomes]
  rcases Xml.read report with _ | root
  · simp only [reduceCtorEq, false_and, exists_false]
  · by_cases hroot : IsReport root
    · simp only [Option.some.injEq, exists_eq_left', hroot, true_and, isReport_iff.mp hroot, if_true,
        Except.ok.injEq, eq_comm]
    · have hcontains : ¬ rootNames.contains (root.name?.getD "") = true := mt isReport_iff.mpr hroot
      simp only [Option.some.injEq, exists_eq_left', hroot, false_and, hcontains, Bool.false_eq_true,
        if_false, reduceCtorEq]

/-- What is not a report has no outcomes. -/
theorem outcomes_eq_error {report : String}
    (h : ∀ root, Xml.read report = some root → ¬ IsReport root) :
    ∃ f, outcomes report = .error f ∧ f.kind = .evidenceCorrupt := by
  rcases hread : Xml.read report with _ | root
  · exact ⟨.evidenceUnparsable, by simp only [outcomes, hread], rfl⟩
  · have hroot : ¬ rootNames.contains (root.name?.getD "") = true :=
      fun hcontains => h root hread (isReport_iff.mpr hcontains)
    refine ⟨.evidenceRoot (root.name?.getD ""), ?_, rfl⟩
    simp only [outcomes, hread]
    exact if_neg hroot

-- A failure that says nothing, and a test case inside of another one that is out of scope.
example : (outcomes ("<testsuite><testcase name='[Conformance] a'><failure/></testcase>" ++
    "<testcase name='b'><testcase name='[Conformance]'/></testcase></testsuite>")).toOption.map
      (fun os => os.map fun o => (o.name, o.failure)) =
    some [("[Conformance] a", some "failure"), ("[Conformance]", none)] := by decide +kernel

end Evidence

end Assay
