import Assay.Proofs.Requirement
import Assay.Requirement.Operation

/-!
# Requirement sets under operations

An operation on a requirement set satisfies some names and does nothing else to the entries: each of
them keeps its place, and one that is satisfied stays so. That is one equation, `Gains`, and it has
the same form for any number of operations in a row (`gains_performAll`), so all that can be said of
a set with a history follows from it. A set in which nothing was satisfied to begin with is exact
after any history: a required name is satisfied if some operation has satisfied it, and for no other
reason.

Of the outcomes of a report only the names that passed count, and those only as a set. A test that
failed neither satisfies its name nor takes back that it is satisfied, so the order of the outcomes,
their number and the reports that they come in make no difference.

## Main definitions

* `Lists`: A list of the names of a kind, in order.
* `passedNames`: The names that passed among some outcomes.
* `RequirementSet.Gains`: A set after some more names have been satisfied.
* `RequirementSet.Operation.satisfies`: Whether an operation satisfies a name.
* `RequirementSet.Open`: A name that no operation of a history has satisfied.
* `RequirementSet.Answers`: What the reply to an operation after a history has to be.
* `RequirementSet.Exact`: What a set has come to by a history.

## Theorems

* `gains_performAll`: What operations in a row satisfy.
* `lists_missing_performAll`: The missing names after a history are those that are open.
* `reconcile_congr`, `reconcile_append`: Reconciling goes by the set of the names that passed.
* `unmet_exact`: A set in which nothing was satisfied is exact after any history.
-/

namespace Assay

/-! ## Names in order -/

/-- A list of the names of a kind: there is each of them once, in the order of code points. -/
structure Lists (names : List String) (kind : String → Prop) : Prop where
  mem_iff : ∀ name, name ∈ names ↔ kind name
  ascending : names.Pairwise (· < ·)

/-- There is one way to list the names of a kind. -/
theorem Lists.unique {names names' : List String} {kind : String → Prop} (h : Lists names kind)
    (h' : Lists names' kind) : names = names' :=
  h.ascending.eq_of_mem_iff h'.ascending fun name => (h.mem_iff name).trans (h'.mem_iff name).symm

theorem lists_mergeSort {names : List String} (h : names.Nodup) :
    Lists (names.mergeSort fun a b => decide (a ≤ b)) (· ∈ names) where
  mem_iff := fun _ => List.mem_mergeSort
  ascending := by
    have hsorted : (names.mergeSort fun a b => decide (a ≤ b)).Pairwise (· ≤ ·) :=
      List.pairwise_mergeSort' (· ≤ ·) names
    have hdistinct : (names.mergeSort fun a b => decide (a ≤ b)).Pairwise (· ≠ ·) :=
      List.nodup_mergeSort.mpr h
    exact hsorted.imp₂ (fun _ _ hle hne => lt_of_le_of_ne hle hne) hdistinct

/-! ## Outcomes -/

/-- The names of the tests that passed among some outcomes. -/
def passedNames (outcomes : List Outcome) : List String :=
  (outcomes.filter Outcome.passed).map Outcome.name

theorem mem_passedNames_iff {name : String} {outcomes : List Outcome} :
    name ∈ passedNames outcomes ↔ (outcomes.any fun o => o.passed && name == o.name) = true := by
  simp only [passedNames, List.mem_map, List.mem_filter, List.any_eq_true, Bool.and_eq_true,
    beq_iff_eq]
  refine exists_congr fun o => ?_
  rw [and_assoc, eq_comm (a := o.name)]

namespace RequirementSet

/-! ## Entries -/

theorem eq_of_entries {r r' : RequirementSet} (h : r.entries = r'.entries) : r = r' := by
  cases r
  cases r'
  cases h
  rfl

section Missing

variable {r : RequirementSet}

theorem mem_missing_iff {name : String} : name ∈ r.missing ↔ (name, false) ∈ r.entries := by
  unfold missing
  rw [List.mem_mergeSort, List.mem_map]
  constructor
  · rintro ⟨⟨name', satisfied⟩, hmem, rfl⟩
    rw [List.mem_filter, Bool.not_eq_true'] at hmem
    exact hmem.2 ▸ hmem.1
  · intro h
    exact ⟨(name, false), List.mem_filter.mpr ⟨h, rfl⟩, rfl⟩

/-- The missing names are listed in order. -/
theorem lists_missing (r : RequirementSet) : Lists r.missing (· ∈ r.missing) where
  mem_iff := fun _ => Iff.rfl
  ascending := by
    -- No two entries have the same name, and a part of the entries is no different.
    have hdistinct : ((r.entries.filter fun e => !e.2).map Prod.fst).Nodup :=
      r.distinct.sublist (List.filter_sublist.map Prod.fst)
    exact (lists_mergeSort hdistinct).ascending

theorem mem_missing_of_unmet (hr : r.Unmet) {name : String} :
    name ∈ r.missing ↔ name ∈ r.names := by
  rw [mem_missing_iff, names, List.mem_map]
  constructor
  · intro h
    exact ⟨_, h, rfl⟩
  · rintro ⟨⟨name', satisfied⟩, hmem, rfl⟩
    have hfalse : satisfied = false := hr _ hmem
    exact hfalse ▸ hmem

end Missing

/-- A set after some more names have been satisfied: each entry is in its place, and it is satisfied
    where it was or where its name is one of these. -/
def Gains (r : RequirementSet) (gained : String → Bool) (r' : RequirementSet) : Prop :=
  r'.entries = r.entries.map fun e => (e.1, e.2 || gained e.1)

namespace Gains

variable {r m r' : RequirementSet} {gained more : String → Bool}

theorem none (r : RequirementSet) : r.Gains (fun _ => false) r := by
  simp only [Gains, Bool.or_false, List.map_id']

theorem trans (h : r.Gains gained m) (h' : m.Gains more r') :
    r.Gains (fun name => gained name || more name) r' := by
  unfold Gains at h h' ⊢
  rw [h', h, List.map_map]
  refine List.map_congr_left fun e _ => ?_
  simp only [Function.comp_apply, Bool.or_assoc]

theorem names (h : r.Gains gained r') : r'.names = r.names := by
  unfold RequirementSet.names
  rw [h, List.map_map]
  rfl

/-- A name is missing where it was and has not been satisfied since. -/
theorem mem_missing_iff (h : r.Gains gained r') {name : String} :
    name ∈ r'.missing ↔ name ∈ r.missing ∧ gained name = false := by
  rw [RequirementSet.mem_missing_iff, RequirementSet.mem_missing_iff, h, List.mem_map]
  constructor
  · rintro ⟨⟨name', satisfied⟩, hmem, heq⟩
    rw [Prod.mk.injEq, Bool.or_eq_false_iff] at heq
    rcases heq with ⟨rfl, rfl, hgained⟩
    exact ⟨hmem, hgained⟩
  · rintro ⟨hmem, hgained⟩
    exact ⟨(name, false), hmem, by rw [hgained, Bool.or_false]⟩

theorem missing_subset (h : r.Gains gained r') : r'.missing ⊆ r.missing :=
  fun _ hname => (h.mem_missing_iff.mp hname).1

/-- Where nothing was satisfied before, the entries say what has been satisfied since. -/
theorem satisfied_iff (hr : r.Unmet) (h : r.Gains gained r') {name : String} :
    (name, true) ∈ r'.entries ↔ name ∈ r.names ∧ gained name = true := by
  rw [h, RequirementSet.names, List.mem_map, List.mem_map]
  constructor
  · rintro ⟨e, he, heq⟩
    -- The entry was not satisfied before, so it is satisfied because its name has been since.
    rw [Prod.mk.injEq, hr e he, Bool.false_or] at heq
    exact ⟨⟨e, he, heq.1⟩, heq.1 ▸ heq.2⟩
  · rintro ⟨⟨e, he, rfl⟩, hgained⟩
    exact ⟨e, he, by rw [hgained, Bool.or_true]⟩

end Gains

/-! ## Reconciling -/

section Reconciling

variable (r : RequirementSet) {outcomes outcomes' : List Outcome}

theorem gains_reconcile (outcomes : List Outcome) :
    r.Gains (fun name => outcomes.any fun o => o.passed && name == o.name) (r.reconcile outcomes) :=
  entries_reconcile r outcomes

/-- Reconciling goes by the names that passed. -/
theorem reconcile_congr
    (h : ∀ name, name ∈ passedNames outcomes ↔ name ∈ passedNames outcomes') :
    r.reconcile outcomes = r.reconcile outcomes' := by
  refine eq_of_entries ?_
  rw [entries_reconcile, entries_reconcile]
  refine List.map_congr_left fun e _ => ?_
  -- An entry asks of the outcomes only whether its own name is among those that passed.
  have hsame : (outcomes.any fun o => o.passed && e.1 == o.name) =
      outcomes'.any fun o => o.passed && e.1 == o.name := by
    rw [Bool.eq_iff_iff, ← mem_passedNames_iff, ← mem_passedNames_iff]
    exact h e.1
  rw [hsame]

theorem reconcile_append (outcomes outcomes' : List Outcome) :
    r.reconcile (outcomes ++ outcomes') = (r.reconcile outcomes).reconcile outcomes' :=
  List.foldl_append

theorem mem_missing_reconcile_iff {name : String} :
    name ∈ (r.reconcile outcomes).missing ↔ name ∈ r.missing ∧ name ∉ passedNames outcomes := by
  rw [(gains_reconcile r outcomes).mem_missing_iff, ← Bool.not_eq_true, ← mem_passedNames_iff]

/-- More names that passed leave fewer names missing. -/
theorem missing_reconcile_subset (h : passedNames outcomes ⊆ passedNames outcomes') :
    (r.reconcile outcomes').missing ⊆ (r.reconcile outcomes).missing := by
  intro name hname
  rw [mem_missing_reconcile_iff] at hname ⊢
  exact ⟨hname.1, fun hpassed => hname.2 (h hpassed)⟩

end Reconciling

/-! ## Operations -/

/-- Whether an operation satisfies a name: it marks the name, or it reconciles the set with outcomes
    in which a test of that name passed. -/
def Operation.satisfies (name : String) : Operation → Bool
  | .mark marked => name == marked
  | .reconcile (.ok outcomes) => outcomes.any fun o => o.passed && name == o.name
  | _ => false

/-- An operation satisfies the names that it satisfies and changes nothing else. -/
theorem gains_perform (r : RequirementSet) (op : Operation) :
    r.Gains (fun name => op.satisfies name) (r.perform op).2 := by
  cases op with
  | mark name => rfl
  | contains name => exact .none r
  | size => exact .none r
  | missing => exact .none r
  | reconcile evidence =>
      cases evidence with
      | ok outcomes => exact gains_reconcile r outcomes
      | error f => exact .none r

/-- Operations in a row satisfy the names that any of them satisfies and change nothing else. -/
theorem gains_performAll (r : RequirementSet) (ops : List Operation) :
    r.Gains (fun name => ops.any fun op => op.satisfies name) (r.performAll ops).2 := by
  induction ops generalizing r with
  | nil => exact .none r
  | cons op rest ih =>
      -- What the first operation satisfies comes before what the rest satisfy of the set it leaves.
      exact (gains_perform r op).trans (ih (r.perform op).2)

section Histories

variable (r : RequirementSet)

theorem performAll_append (before after : List Operation) :
    r.performAll (before ++ after) =
      ((r.performAll before).1 ++ ((r.performAll before).2.performAll after).1,
        ((r.performAll before).2.performAll after).2) := by
  induction before generalizing r with
  | nil => rfl
  | cons op rest ih =>
      simp only [List.cons_append, performAll, ih]

theorem length_performAll (ops : List Operation) : (r.performAll ops).1.length = ops.length := by
  induction ops generalizing r with
  | nil => rfl
  | cons op rest ih => exact congrArg (· + 1) (ih (r.perform op).2)

/-- The reply to an operation is the one of the set that the operations before it have left. -/
theorem reply_performAll (before : List Operation) (op : Operation) (after : List Operation) :
    (r.performAll (before ++ op :: after)).1[before.length]? =
      some ((r.performAll before).2.perform op).1 := by
  -- The replies to the operations before it fill just the places before it.
  have hlength := length_performAll r before
  rw [performAll_append, List.getElem?_append_right hlength.le, hlength, Nat.sub_self]
  rfl

/-- A required name that no operation of a history has satisfied. -/
def Open (ops : List Operation) (name : String) : Prop :=
  name ∈ r.names ∧ ∀ op ∈ ops, op.satisfies name = false

variable {r}

/-- The missing names after a history are those that are open. -/
theorem lists_missing_performAll (hr : r.Unmet) (ops : List Operation) :
    Lists (r.performAll ops).2.missing (r.Open ops) where
  mem_iff := by
    intro name
    rw [(gains_performAll r ops).mem_missing_iff, mem_missing_of_unmet hr, Open, List.any_eq_false]
    simp only [Bool.not_eq_true]
  ascending := (lists_missing _).ascending

/-- What the reply to an operation after a history has to be. -/
def Answers (r : RequirementSet) (before : List Operation) : Operation → Reply → Prop
  | .mark name, .truth value => value = true ↔ name ∈ r.names
  | .contains name, .truth value => value = true ↔ name ∈ r.names
  | .size, .number value => value = r.names.length
  | .missing, .names value => Lists value (r.Open before)
  | .reconcile (.ok outcomes), .names value =>
    Lists value (r.Open (before ++ [.reconcile (.ok outcomes)]))
  | .reconcile (.error f), .finding value => value = f
  | _, _ => False

/-- A set in which nothing was satisfied replies to each operation as it has to. -/
theorem answers_perform (hr : r.Unmet) (before : List Operation) (op : Operation) :
    r.Answers before op ((r.performAll before).2.perform op).1 := by
  have hcontains (name : String) : (r.performAll before).2.contains name = true ↔ name ∈ r.names := by
    rw [contains, (gains_performAll r before).names, List.contains_iff_mem]
  cases op with
  | mark name => exact hcontains name
  | contains name => exact hcontains name
  | size =>
      change (r.performAll before).2.entries.length = r.names.length
      rw [← (gains_performAll r before).names, names, List.length_map]
  | missing => exact lists_missing_performAll hr before
  | reconcile evidence =>
      cases evidence with
      | ok outcomes =>
          -- The names in the reply are those missing after the operation, which ends a longer history.
          have hafter := lists_missing_performAll hr (before ++ [.reconcile (.ok outcomes)])
          rw [performAll_append] at hafter
          exact hafter
      | error f => rfl

end Histories

/-! ## Exactness -/

/-- What a set has come to by a history, and what it comes to if it is then reconciled with the
    outcomes of a report. -/
structure Exact (r : RequirementSet) (ops : List Operation) : Prop where
  /-- The names are those it started with, in the same order. -/
  names : (r.performAll ops).2.names = r.names
  /-- A name is satisfied where it is required and some operation has satisfied it. -/
  satisfied : ∀ name, (name, true) ∈ (r.performAll ops).2.entries ↔
    name ∈ r.names ∧ ∃ op ∈ ops, op.satisfies name = true
  /-- Each operation has had the reply that it has to have after those before it. -/
  replies : ∀ before op after, ops = before ++ op :: after →
    ∃ reply, (r.performAll ops).1[before.length]? = some reply ∧ r.Answers before op reply
  /-- A report that cannot be read leaves the set as it is. -/
  unread : ∀ report f, Evidence.outcomes report = .error f →
    (r.performAll ops).2.perform (.reconcile (Evidence.outcomes report)) =
      (.finding f, (r.performAll ops).2)
  /-- Reports in which tests of the same names passed have the same reply and leave the same set. -/
  unordered : ∀ outcomes outcomes',
    (∀ name, name ∈ passedNames outcomes ↔ name ∈ passedNames outcomes') →
      (r.performAll ops).2.perform (.reconcile (.ok outcomes)) =
        (r.performAll ops).2.perform (.reconcile (.ok outcomes'))
  /-- Two reports in turn leave the set that the outcomes of both leave, and the second has the same
      reply as these. -/
  in_turn : ∀ outcomes outcomes',
    ((r.performAll ops).2.perform (.reconcile (.ok outcomes))).2.perform (.reconcile (.ok outcomes')) =
      (r.performAll ops).2.perform (.reconcile (.ok (outcomes ++ outcomes')))
  /-- With more outcomes no name is missing that was not. -/
  more_outcomes : ∀ outcomes outcomes', outcomes ⊆ outcomes' →
    ((r.performAll ops).2.reconcile outcomes').missing ⊆
      ((r.performAll ops).2.reconcile outcomes).missing
  /-- After more operations no name is missing that was not. -/
  more_operations : ∀ more, (r.performAll (ops ++ more)).2.missing ⊆ (r.performAll ops).2.missing

/-- A set in which nothing was satisfied is exact after any history. -/
theorem unmet_exact {r : RequirementSet} (hr : r.Unmet) (ops : List Operation) : r.Exact ops where
  names := (gains_performAll r ops).names
  satisfied := by
    intro name
    rw [(gains_performAll r ops).satisfied_iff hr, List.any_eq_true]
  replies := by
    rintro before op after rfl
    exact ⟨_, reply_performAll r before op after, answers_perform hr before op⟩
  unread := by
    intro report f hreport
    rw [hreport]
    rfl
  unordered := by
    intro outcomes outcomes' h
    have hsame := reconcile_congr (r.performAll ops).2 h
    rw [perform, perform, hsame]
  in_turn := by
    intro outcomes outcomes'
    have hturn := reconcile_append (r.performAll ops).2 outcomes outcomes'
    rw [perform, perform, perform, hturn]
  more_outcomes := by
    intro outcomes outcomes' h
    refine missing_reconcile_subset _ fun name hname => ?_
    exact List.map_subset _ (List.filter_subset _ h) hname
  more_operations := by
    intro more name hname
    rw [performAll_append] at hname
    exact (gains_performAll _ more).missing_subset hname

/-- A set that requires two tests. -/
def ofTwoTests : RequirementSet :=
  (empty.require "b").require "a"

/-- A history in which one of the two passed, the other failed, and a third is not required. -/
def mixedHistory : List Operation :=
  [.reconcile (.ok [⟨"b", some "failed"⟩, ⟨"a", none⟩, ⟨"a", some "failed"⟩, ⟨"c", none⟩]),
    .mark "c", .missing]

theorem unmet_exact_of_twoTests : ofTwoTests.Unmet ∧ ofTwoTests.Exact mixedHistory ∧
    (ofTwoTests.performAll mixedHistory).2.entries = [("b", false), ("a", true)] ∧
      Lists ["b"] (ofTwoTests.Open mixedHistory) := by
  have hunmet : ofTwoTests.Unmet := (unmet_empty.require "b").require "a"
  have hmissing : (ofTwoTests.performAll mixedHistory).2.missing = ["b"] := by
    decide +kernel
  exact ⟨hunmet, unmet_exact hunmet mixedHistory, by decide +kernel,
    hmissing ▸ lists_missing_performAll hunmet mixedHistory⟩

end RequirementSet

end Assay
