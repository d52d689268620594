import Mathlib

/-!
# Lists

What is asked of lists in several places: what stands next to an item in lists that go together item by item,
what does not change when a list is put in another order, and what is left of a list when each item is kept
only where it first comes.

What is left has three properties that together determine it: no item comes twice, the items are those of
the list that are kept, and they are in the order in which they first come.

## Main definitions

* `FirstsOf`: The items of a list that are kept, each once and in order.

## Theorems

* `exists_of_mem_left`, `exists_of_mem_right`: The partner of an item.
* `exists_forall₂_iff`: A list whose items all have partners.
* `forall₂_iff_map_eq`: Lists of which one is read off the other.
* `map_eq_map_of_perm`: Items that all read the same.
* `nodup_eraseDups`: What is left is free of repetitions.
* `eraseDups_filter_cons`: What is left of a list without what was seen before it.
* `ordered_eraseDups`, `firstsOf_eraseDups`: What is left is in the order of the list.
-/

namespace Assay

/-! ## Lists that go together -/

section Matched

variable {α β : Type} {r : α → β → Prop} {as : List α} {bs : List β}

theorem exists_of_mem_left (h : List.Forall₂ r as bs) {a : α} (ha : a ∈ as) : ∃ b ∈ bs, r a b := by
  induction h with
  | nil => exact absurd ha List.not_mem_nil
  | @cons a' b' _ _ hab _ ih =>
      rcases List.mem_cons.mp ha with rfl | hrest
      · exact ⟨b', List.mem_cons_self, hab⟩
      · rcases ih hrest with ⟨b, hb, h⟩
        exact ⟨b, List.mem_cons_of_mem _ hb, h⟩

theorem exists_of_mem_right (h : List.Forall₂ r as bs) {b : β} (hb : b ∈ bs) : ∃ a ∈ as, r a b :=
  exists_of_mem_left h.flip hb

/-- A list goes together with some other where each item has a partner. -/
theorem exists_forall₂_iff : (∃ bs, List.Forall₂ r as bs) ↔ ∀ a ∈ as, ∃ b, r a b := by
  induction as with
  | nil => simp only [List.forall₂_nil_left_iff, exists_eq, List.not_mem_nil, false_implies, implies_true]
  | cons a as ih =>
      rw [List.forall_mem_cons, ← ih]
      constructor
      · rintro ⟨_, hall⟩
        rcases List.forall₂_cons_left_iff.mp hall with ⟨b, bs, hb, hbs, rfl⟩
        exact ⟨⟨b, hb⟩, bs, hbs⟩
      · rintro ⟨⟨b, hb⟩, bs, hbs⟩
        exact ⟨b :: bs, .cons hb hbs⟩

/-- Lists go together where the items of the one are of a kind and give those of the other. -/
theorem forall₂_iff_map_eq {p : α → Prop} {f : α → β} (h : ∀ a b, r a b ↔ p a ∧ f a = b) :
    List.Forall₂ r as bs ↔ (∀ a ∈ as, p a) ∧ as.map f = bs := by
  have hr : r = fun a b => p a ∧ f a = b := by
    funext a b
    exact propext (h a b)
  rw [hr, List.forall₂_and_left, ← List.forall₂_map_left_iff, List.forall₂_eq_eq_eq]

end Matched

/-! ## Lists in another order -/

/-- Items that cannot be told apart read the same in every order. -/
theorem map_eq_map_of_perm {α β : Type} {f : α → β} {as bs : List α} (hperm : as.Perm bs)
    (hsame : ∀ a ∈ as, ∀ a' ∈ as, f a = f a') : bs.map f = as.map f := by
  cases as with
  | nil => rw [hperm.symm.eq_nil]
  | cons a rest =>
      have hall : (a :: rest).map f = List.replicate (a :: rest).length (f a) :=
        List.map_eq_replicate_iff.mpr fun b hb => hsame b hb a List.mem_cons_self
      rw [hall, ← List.perm_replicate, ← hall]
      exact (hperm.map f).symm

/-! ## Lists without repetitions -/

theorem nodup_eraseDups (names : List String) : names.eraseDups.Nodup := by
  cases names with
  | nil => exact .nil
  | cons name rest =>
      rw [List.eraseDups_cons, List.nodup_cons]
      -- The recursion is on the rest without the first name, so that name does not come again.
      refine ⟨fun hmem => ?_, nodup_eraseDups _⟩
      rw [List.mem_eraseDups, List.mem_filter, beq_self_eq_true] at hmem
      cases hmem.2
termination_by names.length
decreasing_by exact Nat.lt_succ_of_le (List.length_filter_le _ _)

/-- The first of the items that are left, and what is left after it. -/
theorem eraseDups_filter_cons {item : String} {seen rest : List String} (h : item ∉ seen) :
    ((item :: rest).filter fun other => decide (other ∉ seen)).eraseDups =
      item :: (rest.filter fun other => decide (other ∉ seen ++ [item])).eraseDups := by
  rw [List.filter_cons_of_pos (by simpa using h), List.eraseDups_cons, List.filter_filter]
  refine congrArg (fun kept => item :: List.eraseDups kept) (List.filter_congr fun other _ => ?_)
  simp [and_comm, beq_eq_decide]

/-- Some items are those of a list that are kept, each once and in the order in which they first
    come. -/
structure FirstsOf (kept : String → Prop) (source items : List String) : Prop where
  nodup : items.Nodup
  mem_iff : ∀ item, item ∈ items ↔ item ∈ source ∧ kept item
  ordered : items.Pairwise fun a b => source.idxOf a < source.idxOf b

/-- Items that are kept have the order that they have among all. -/
theorem idxOf_lt_of_filter {test : String → Bool} {source : List String} {a b : String}
    (hb : test b = true) (h : (source.filter test).idxOf a < (source.filter test).idxOf b) :
    source.idxOf a < source.idxOf b := by
  induction source with
  | nil => exact absurd h (Nat.lt_irrefl _)
  | cons c rest ih =>
      by_cases hcb : c = b
      · -- Nothing stands before the first item, and it is kept.
        rw [hcb, List.filter_cons_of_pos hb, List.idxOf_cons_self] at h
        exact absurd h (Nat.not_lt_zero _)
      · by_cases hca : c = a
        · rw [hca, List.idxOf_cons_self, List.idxOf_cons_ne _ (hca ▸ hcb)]
          exact Nat.succ_pos _
        · rw [List.idxOf_cons_ne _ hca, List.idxOf_cons_ne _ hcb]
          refine Nat.succ_lt_succ (ih ?_)
          by_cases hc : test c = true
          · rw [List.filter_cons_of_pos hc, List.idxOf_cons_ne _ hca, List.idxOf_cons_ne _ hcb] at h
            exact Nat.lt_of_succ_lt_succ h
          · rwa [List.filter_cons_of_neg hc] at h

/-- What is left of a list is in the order in which it first comes. -/
theorem ordered_eraseDups (source : List String) :
    source.eraseDups.Pairwise fun a b => source.idxOf a < source.idxOf b := by
  cases source with
  | nil => exact .nil
  | cons c rest =>
      rw [List.eraseDups_cons, List.pairwise_cons]
      have hother : ∀ b ∈ (rest.filter fun b => !b == c).eraseDups, (!b == c) = true := by
        intro b hb
        rw [List.mem_eraseDups, List.mem_filter] at hb
        exact hb.2
      have hne : ∀ b, (!b == c) = true → c ≠ b := by
        intro b hb
        rw [Bool.not_eq_true', beq_eq_false_iff_ne] at hb
        exact hb.symm
      constructor
      · intro b hb
        rw [List.idxOf_cons_self, List.idxOf_cons_ne _ (hne b (hother b hb))]
        exact Nat.succ_pos _
      · -- The rest is ordered as what is left of it without the first item.
        refine (ordered_eraseDups _).imp_of_mem fun {a b} ha hb hlt => ?_
        rw [List.idxOf_cons_ne _ (hne a (hother a ha)), List.idxOf_cons_ne _ (hne b (hother b hb))]
        exact Nat.succ_lt_succ (idxOf_lt_of_filter (hother b hb) hlt)
termination_by source.length
decreasing_by exact Nat.lt_succ_of_le (List.length_filter_le _ _)

theorem firstsOf_eraseDups (test : String → Bool) (source : List String) :
    FirstsOf (fun item => test item = true) source (source.filter test).eraseDups where
  nodup := nodup_eraseDups _
  mem_iff item := by rw [List.mem_eraseDups, List.mem_filter]
  ordered := by
    have hkept : ∀ b ∈ (source.filter test).eraseDups, test b = true := by
      intro b hb
      rw [List.mem_eraseDups, List.mem_filter] at hb
      exact hb.2
    exact (ordered_eraseDups _).imp_of_mem fun _ hb => idxOf_lt_of_filter (hkept _ hb)

end Assay
