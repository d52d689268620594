import Mathlib
import Assay.Version

/-!
# The order of versions

The order of versions is that of their keys, and keys are compared like words: number by number, then a
pre-release before a release, then pre-releases by their text. A version has a key of its own, so what holds
of the order of keys holds of that of versions: it is total, and being at or before another version is the
same as not being after it.

Versions that compare equal are the same version, so that sorting leaves equal versions in the order given
cannot be seen on the versions alone. It is stated of items that are sorted by a version read off each of
them: sorting versions is sorting such items, and the items of one version stay in the order given.

## Main definitions

* `Version.key`: What versions are compared by.
* `Version.numbers`, `Version.final`: The numbers of a version, and the release that it leads up to.
* `Version.sortOn`: Items in the order of their versions.

## Theorems

* `key_injective`: No two versions have the same key.
* `lt_iff_key_lt`, `le_iff_key_le`: The order of versions is that of their keys.
* `not_lt_iff_le`, `le_trans`: It is total, and transitive.
* `lt_exclusive`, `lt_trans`, `le_iff_lt_or_eq`, `ge_iff_le`, `gt_iff_lt`: The comparisons are those of one
  total order.
* `lt_of_numbers_lt`, `numbers_le_of_lt`, `lt_final`: Numbers count first, and a pre-release lies before its
  release.
* `sort_map`, `sortOn_perm`, `sortOn_ordered`, `sortOn_stable`: Sorting reorders, into the order of versions,
  and leaves what is equal in the order given.
* `order_total`: All of this together.
-/

namespace Assay.Version

variable {a b c : Version}

/-- What versions are compared by, in this order: the three numbers, whether it is a release, and the text
    of the pre-release. -/
def key (v : Version) : ℕ ×ₗ ℕ ×ₗ ℕ ×ₗ Bool ×ₗ String :=
  toLex (v.major, toLex (v.minor, toLex (v.patch, toLex (!v.isPrerelease, v.prerelease))))

theorem key_injective : Function.Injective key := by
  rintro ⟨major, minor, patch, label⟩ ⟨major', minor', patch', label'⟩ h
  simp only [key, toLex_inj, Prod.mk.injEq] at h
  rcases h with ⟨rfl, rfl, rfl, -, rfl⟩
  rfl

theorem prerelease_eq_empty (h : a.isPrerelease = false) : a.prerelease = "" := by
  rwa [isPrerelease, Bool.not_eq_false', String.isEmpty_iff] at h

theorem lt_iff_key_lt : a.lt b = true ↔ a.key < b.key := by
  simp only [lt, key, Prod.Lex.toLex_lt_toLex]
  by_cases hmajor : a.major = b.major
  · by_cases hminor : a.minor = b.minor
    · by_cases hpatch : a.patch = b.patch
      · simp only [hmajor, hminor, hpatch, ne_eq, not_true_eq_false, if_false, lt_irrefl, false_or,
          true_and]
        rcases ha : a.isPrerelease with _ | _ <;> rcases hb : b.isPrerelease with _ | _
        · -- Releases with the same numbers have the same empty text.
          simp [prerelease_eq_empty ha, prerelease_eq_empty hb]
        · simp
        · simp
        · simp
      · simp [hmajor, hminor, hpatch]
    · simp [hmajor, hminor]
  · simp [hmajor]

theorem le_iff_key_le : a.le b = true ↔ a.key ≤ b.key := by
  rw [le, Bool.or_eq_true, lt_iff_key_lt, beq_iff_eq, ← key_injective.eq_iff, le_iff_lt_or_eq]

/-- A version lies at or before another exactly if the other does not lie before it. -/
theorem not_lt_iff_le : ¬ a.lt b = true ↔ b.le a = true := by
  rw [lt_iff_key_lt, le_iff_key_le, not_lt]

theorem le_trans (h : a.le b = true) (h' : b.le c = true) : a.le c = true := by
  rw [le_iff_key_le] at h h' ⊢
  exact h.trans h'

/-! ## Comparing -/

theorem lt_trans (h : a.lt b = true) (h' : b.lt c = true) : a.lt c = true := by
  rw [lt_iff_key_lt] at h h' ⊢
  exact h.trans h'

/-- Of two versions one lies before the other, or they are the same, and only one of this holds. -/
theorem lt_exclusive (a b : Version) :
    (a.lt b = true ∧ a ≠ b ∧ b.lt a = false) ∨ (a.lt b = false ∧ a = b ∧ b.lt a = false) ∨
      (a.lt b = false ∧ a ≠ b ∧ b.lt a = true) := by
  simp only [← Bool.not_eq_true, lt_iff_key_lt, ne_eq, ← key_injective.eq_iff, not_lt]
  rcases lt_trichotomy a.key b.key with h | h | h
  · exact Or.inl ⟨h, h.ne, h.le⟩
  · exact Or.inr (Or.inl ⟨h.ge, h, h.le⟩)
  · exact Or.inr (Or.inr ⟨h.le, h.ne', h⟩)

/-- A version lies at or before another where it lies before it or is the same. -/
theorem le_iff_lt_or_eq : a.le b = true ↔ a.lt b = true ∨ a = b := by
  rw [le, Bool.or_eq_true, beq_iff_eq]

/-- A version lies at or behind another exactly if the other lies at or before it. -/
theorem ge_iff_le : a.ge b = true ↔ b.le a = true := by
  rw [ge, Bool.not_eq_true', ← Bool.not_eq_true, not_lt_iff_le]

/-- A version lies behind another exactly if the other lies before it. -/
theorem gt_iff_lt : a.gt b = true ↔ b.lt a = true := by
  rw [gt, Bool.and_eq_true, Bool.not_eq_true', bne_iff_ne]
  rcases lt_exclusive a b with ⟨hab, -, hba⟩ | ⟨-, heq, hba⟩ | ⟨hab, hne, hba⟩
  · simp [hab, hba]
  · simp [heq, heq ▸ hba]
  · simp [hab, hne, hba]

/-! ## Numbers and pre-releases -/

/-- The three numbers of a version, in the order in which they count. -/
def numbers (v : Version) : ℕ ×ₗ ℕ ×ₗ ℕ :=
  toLex (v.major, toLex (v.minor, v.patch))

/-- The release that a version is, or that it leads up to. -/
def final (v : Version) : Version :=
  { v with prerelease := "" }

/-- Versions are compared by their numbers first. -/
theorem lt_of_numbers_lt (h : a.numbers < b.numbers) : a.lt b = true := by
  rw [lt_iff_key_lt]
  simp only [numbers, key, Prod.Lex.toLex_lt_toLex] at h ⊢
  tauto

theorem numbers_le_of_lt (h : a.lt b = true) : a.numbers ≤ b.numbers := by
  by_contra hnot
  have hback := lt_trans h (lt_of_numbers_lt (not_le.mp hnot))
  exact absurd (lt_iff_key_lt.mp hback) (lt_irrefl a.key)

/-- A pre-release lies before the release that it leads up to. -/
theorem lt_final (h : a.prerelease ≠ "") : a.lt a.final = true := by
  have hlabel : a.isPrerelease = true := by
    rwa [isPrerelease, Bool.not_eq_true', ← Bool.not_eq_true, String.isEmpty_iff]
  rw [lt_iff_key_lt]
  simp only [final, key, Prod.Lex.toLex_lt_toLex, lt_self_iff_false, false_or, true_and, hlabel]
  exact Or.inl rfl

/-! ## Sorting -/

variable {α : Type}

/-- Items in the order of their versions, those of the same version in the order given. -/
def sortOn (version : α → Version) (items : List α) : List α :=
  items.mergeSort fun a b => !(version b).lt (version a)

/-- Sorting versions is sorting the items that they are read off. -/
theorem sort_map (version : α → Version) (items : List α) :
    sort (items.map version) = (sortOn version items).map version :=
  Eq.symm (List.map_mergeSort (f := version) fun _ _ _ _ => rfl)

theorem sortOn_perm (version : α → Version) (items : List α) : (sortOn version items).Perm items :=
  List.mergeSort_perm items _

section

variable (version : α → Version)

theorem sortOn_trans (a b c : α) (h : (!(version b).lt (version a)) = true)
    (h' : (!(version c).lt (version b)) = true) : (!(version c).lt (version a)) = true := by
  rw [Bool.not_eq_true', ← Bool.not_eq_true, not_lt_iff_le] at h h' ⊢
  exact le_trans h h'

theorem sortOn_total (a b : α) :
    ((!(version b).lt (version a)) || !(version a).lt (version b)) = true := by
  rw [Bool.or_eq_true, Bool.not_eq_true', Bool.not_eq_true']
  rcases lt_exclusive (version a) (version b) with h | h | h
  · exact Or.inl h.2.2
  · exact Or.inl h.2.2
  · exact Or.inr h.1

/-- No item stands before one of an earlier version. -/
theorem sortOn_ordered (items : List α) :
    (sortOn version items).Pairwise fun a b => (version b).lt (version a) = false := by
  have hsorted := List.pairwise_mergeSort (sortOn_trans version) (sortOn_total version) items
  exact hsorted.imp fun h => Bool.not_eq_true' _ ▸ h

/-- The items of a version stay in the order given. -/
theorem sortOn_stable (items : List α) (v : Version) :
    (sortOn version items).filter (fun a => version a = v) = items.filter (fun a => version a = v) := by
  -- The items of one version are in order already, so sorting keeps them as a part of the list.
  have hsame : (items.filter fun a => version a = v).Pairwise
      fun a b => (!(version b).lt (version a)) = true := by
    refine List.pairwise_of_forall_mem_list fun a ha b hb => ?_
    rw [List.mem_filter, decide_eq_true_eq] at ha hb
    rw [ha.2, hb.2, Bool.not_eq_true', ← Bool.not_eq_true, lt_iff_key_lt]
    exact lt_irrefl v.key
  have hkept := List.sublist_mergeSort (sortOn_trans version) (sortOn_total version) hsame
    List.filter_sublist
  have hfiltered := hkept.filter fun a => version a = v
  simp only [List.filter_filter, Bool.and_self] at hfiltered
  exact (hfiltered.eq_of_length ((sortOn_perm version items).filter _).length_eq.symm).symm

end

/-! ## One total order -/

/-- The comparisons of versions are those of one total order. Exactly one of before, the same and behind
    holds of two versions, before is transitive, and the other three comparisons follow from before and
    from being the same. The numbers count first, a pre-release lies behind every version of smaller
    numbers and before its own release, and sorting puts versions into this order and is stable. -/
theorem order_total :
    (∀ a b : Version, (a.lt b = true ∧ a ≠ b ∧ b.lt a = false) ∨ (a.lt b = false ∧ a = b ∧ b.lt a = false) ∨
      (a.lt b = false ∧ a ≠ b ∧ b.lt a = true)) ∧
    (∀ a b c : Version, a.lt b = true → b.lt c = true → a.lt c = true) ∧
    (∀ a b : Version, (a.le b = true ↔ a.lt b = true ∨ a = b) ∧ (a.gt b = true ↔ b.lt a = true) ∧
      (a.ge b = true ↔ b.lt a = true ∨ a = b)) ∧
    (∀ a b : Version, (a.numbers < b.numbers → a.lt b = true) ∧
      (a.lt b = true → a.numbers < b.numbers ∨ a.numbers = b.numbers)) ∧
    (∀ a : Version, a.prerelease ≠ "" →
      a.lt a.final = true ∧ ∀ b : Version, b.numbers < a.numbers → b.lt a = true) ∧
    (∀ versions : List Version,
      (sort versions).Perm versions ∧ (sort versions).Pairwise fun a b => a.le b = true) ∧
    (∀ (α : Type) (version : α → Version) (items : List α),
      sort (items.map version) = (sortOn version items).map version ∧ (sortOn version items).Perm items ∧
        ∀ v : Version, (sortOn version items).filter (fun a => version a = v) =
          items.filter (fun a => version a = v)) := by
  refine ⟨lt_exclusive, fun a b c => lt_trans, ?comparisons, ?numbers, ?prerelease, ?sorted, ?stable⟩
  case comparisons =>
    intro a b
    refine ⟨le_iff_lt_or_eq, gt_iff_lt, ?_⟩
    rw [ge_iff_le, le_iff_lt_or_eq, eq_comm (a := a)]
  case numbers =>
    exact fun a b => ⟨lt_of_numbers_lt, fun h => (numbers_le_of_lt h).lt_or_eq⟩
  case prerelease =>
    exact fun a h => ⟨lt_final h, fun b => lt_of_numbers_lt⟩
  case sorted =>
    intro versions
    refine ⟨List.mergeSort_perm versions _, ?_⟩
    have hordered := sortOn_ordered id versions
    exact hordered.imp fun h => not_lt_iff_le.mp (Bool.not_eq_true _ ▸ h)
  case stable =>
    intro α version items
    exact ⟨sort_map version items, sortOn_perm version items, sortOn_stable version items⟩

/-- The candidate of a release lies between the last patch before the release and the release itself. -/
theorem order_total_of_candidate :
    Version.lt ⟨1, 29, 4, ""⟩ ⟨1, 30, 0, "rc.1"⟩ = true ∧ Version.lt ⟨1, 30, 0, "rc.1"⟩ ⟨1, 30, 0, ""⟩ = true ∧
      Version.lt ⟨1, 29, 4, ""⟩ ⟨1, 30, 0, ""⟩ = true := by
  have hcandidate := order_total.2.2.2.2.1 ⟨1, 30, 0, "rc.1"⟩ (by decide)
  have hpatch := hcandidate.2 ⟨1, 29, 4, ""⟩ (by decide)
  exact ⟨hpatch, hcandidate.1, order_total.2.1 _ _ _ hpatch hcandidate.1⟩

end Assay.Version
