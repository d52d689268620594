import Assay.Evidence.Outcome

/-!
# Requirement sets

The tests that a release requires, in the order in which the manifest first names them, each
satisfied or not. A name stands in a set at most once, and no operation but the adding of a
requirement changes which names there are.

## Main definitions

* `RequirementSet`: The sets.
* `RequirementSet.require`, `RequirementSet.mark`: A set with a requirement added, and with one
  satisfied.
* `RequirementSet.missing`: The names that are not satisfied, in order.
* `RequirementSet.reconcile`: A set with every test satisfied that passed.

## Theorems

* `names_markIn`, `names_requireIn`: What the two operations do to the names.
-/

namespace Assay

/-- Required tests, in order, each with whether it is satisfied. -/
structure RequirementSet where
  entries : List (String × Bool)
  distinct : (entries.map Prod.fst).Nodup

namespace RequirementSet

/-- The entries with `name` required and not satisfied; a name that is there keeps its place. -/
def requireIn (name : String) : List (String × Bool) → List (String × Bool)
  | [] => [(name, false)]
  | (n, satisfied) :: rest =>
    if n = name then (n, false) :: rest else (n, satisfied) :: requireIn name rest

/-- The entries with `name` satisfied. -/
def markIn (name : String) (entries : List (String × Bool)) : List (String × Bool) :=
  entries.map fun e => (e.1, e.2 || e.1 == name)

theorem names_markIn (name : String) (entries : List (String × Bool)) :
    (markIn name entries).map Prod.fst = entries.map Prod.fst := by
  simp [markIn]

theorem names_requireIn (name : String) (entries : List (String × Bool)) :
    (requireIn name entries).map Prod.fst =
      if name ∈ entries.map Prod.fst then entries.map Prod.fst
      else entries.map Prod.fst ++ [name] := by
  induction entries with
  | nil => simp [requireIn]
  | cons e rest ih =>
      by_cases h : e.1 = name
      · simp [requireIn, h]
      · have h' : ¬ name = e.1 := fun eq => h eq.symm
        simp only [requireIn, h, if_false, List.map_cons, ih, List.mem_cons, h', false_or]
        split <;> simp

theorem nodup_requireIn (name : String) {entries : List (String × Bool)}
    (h : (entries.map Prod.fst).Nodup) : ((requireIn name entries).map Prod.fst).Nodup := by
  rw [names_requireIn]
  split
  · exact h
  · rename_i hn
    rw [List.nodup_append]
    refine ⟨h, by simp, ?_⟩
    intro a ha b hb
    rw [List.mem_singleton] at hb
    subst hb
    exact fun eq => hn (eq ▸ ha)

/-- The set that requires nothing. -/
def empty : RequirementSet := ⟨[], by simp⟩

/-- The required names, in order. -/
def names (r : RequirementSet) : List String :=
  r.entries.map Prod.fst

/-- A set with `name` required and not satisfied. -/
def require (r : RequirementSet) (name : String) : RequirementSet :=
  ⟨requireIn name r.entries, nodup_requireIn name r.distinct⟩

/-- A set with `name` satisfied, if it is required. -/
def mark (r : RequirementSet) (name : String) : RequirementSet :=
  ⟨markIn name r.entries, by rw [names_markIn]; exact r.distinct⟩

/-- Whether a name is required. -/
def contains (r : RequirementSet) (name : String) : Bool :=
  r.names.contains name

/-- The number of required names. -/
def size (r : RequirementSet) : Nat :=
  r.entries.length

/-- The names that are not satisfied, in order. -/
def missing (r : RequirementSet) : List String :=
  ((r.entries.filter fun e => !e.2).map Prod.fst).mergeSort fun a b => decide (a ≤ b)

/-- A set with every required test satisfied that passed. -/
def reconcile (r : RequirementSet) (outcomes : List Outcome) : RequirementSet :=
  outcomes.foldl (fun r o => if o.passed then r.mark o.name else r) r

end RequirementSet

end Assay
