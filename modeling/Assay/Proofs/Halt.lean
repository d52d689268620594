import Mathlib
import Assay.Halt
import Assay.Proofs.List

/-!
# Operations that can end early

How the outcome of a sequence of operations follows from the outcomes of its parts, and which of the
two early ends each of the three wrappers can bring.

## Main definitions

* `StopsAt`: A list that ends early, with one of its members.
* `Concludes`: The ways in which an operation can end.

## Theorems

* `bind_eq_ok_iff`, `bind_eq_error_iff`: The outcome of one operation after another.
* `mapM_eq_ok_iff`, `mapM_eq_error_iff`, `exists_mapM_ok`: The outcome of a list of operations.
* `reporting_eq_ok_iff`, `breaking_eq_ok_iff`, `reportingAs_eq_ok_iff`: A wrapped operation succeeds
  where the operation does.
* `map_bind_congr`: Operations that agree in what is read off their results.
* `reporting_ne_fault`, `breaking_ne_report`: What a wrapped operation cannot come to.
* `Concludes.eq_fault_iff`: The faults on which an operation breaks off.
* `Concludes.of_ok`, `Concludes.of_report`, `Concludes.of_fault`, `Concludes.imp`: How an operation is seen to
  conclude.
-/

namespace Assay

section Sequence

variable {ε α β : Type}

@[simp]
theorem ok_bind (a : α) (f : α → Except ε β) : (Except.ok a >>= f) = f a := rfl

@[simp]
theorem error_bind (e : ε) (f : α → Except ε β) : (Except.error e >>= f) = .error e := rfl

@[simp]
theorem pure_eq_ok (a : α) : (pure a : Except ε α) = .ok a := rfl

@[simp]
theorem throw_eq_error (e : ε) : (throw e : Except ε α) = .error e := rfl

theorem bind_eq_ok_iff {x : Except ε α} {f : α → Except ε β} {b : β} :
    (x >>= f) = .ok b ↔ ∃ a, x = .ok a ∧ f a = .ok b := by
  cases x with
  | ok a => simp only [ok_bind, Except.ok.injEq, exists_eq_left']
  | error e => simp only [error_bind, reduceCtorEq, false_and, exists_false]

theorem bind_eq_error_iff {x : Except ε α} {f : α → Except ε β} {e : ε} :
    (x >>= f) = .error e ↔ x = .error e ∨ ∃ a, x = .ok a ∧ f a = .error e := by
  cases x with
  | ok a => simp only [ok_bind, reduceCtorEq, Except.ok.injEq, exists_eq_left', false_or]
  | error e' =>
    simp only [error_bind, Except.error.injEq, reduceCtorEq, false_and, exists_false, or_false]

/-- The results of a list of operations. -/
theorem mapM_eq_ok_iff {f : α → Except ε β} {as : List α} {bs : List β} :
    as.mapM f = .ok bs ↔ List.Forall₂ (fun a b => f a = .ok b) as bs := by
  induction as generalizing bs with
  | nil => simp only [List.mapM_nil, pure_eq_ok, Except.ok.injEq, List.forall₂_nil_left_iff, eq_comm]
  | cons a as ih =>
      rw [List.mapM_cons, List.forall₂_cons_left_iff]
      simp only [bind_eq_ok_iff, ih, pure_eq_ok, Except.ok.injEq]
      constructor
      · rintro ⟨b, hb, bs', hbs, rfl⟩
        exact ⟨b, bs', hb, hbs, rfl⟩
      · rintro ⟨b, bs', hb, hbs, rfl⟩
        exact ⟨b, hb, bs', hbs, rfl⟩

/-- A list of operations succeeds where each of them does. -/
theorem exists_mapM_ok_iff {f : α → Except ε β} {as : List α} :
    (∃ bs, as.mapM f = .ok bs) ↔ ∀ a ∈ as, ∃ b, f a = .ok b := by
  simp only [mapM_eq_ok_iff, exists_forall₂_iff]

/-- Of a list some are fine, and one after them ends it. -/
def StopsAt (fine ending : α → Prop) (as : List α) : Prop :=
  ∃ before a after, as = before ++ a :: after ∧ (∀ b ∈ before, fine b) ∧ ending a

/-- A list of operations fails with the first of them that does. -/
theorem mapM_eq_error_iff {f : α → Except ε β} {as : List α} {e : ε} :
    as.mapM f = .error e ↔ StopsAt (fun a => ∃ b, f a = .ok b) (fun a => f a = .error e) as := by
  induction as with
  | nil =>
      simp only [List.mapM_nil, pure_eq_ok, reduceCtorEq, false_iff]
      rintro ⟨before, a, after, heq, -⟩
      exact List.append_ne_nil_of_right_ne_nil before (List.cons_ne_nil a after) heq.symm
  | cons a as ih =>
      simp only [List.mapM_cons, bind_eq_error_iff, ih, pure_eq_ok, reduceCtorEq, and_false, exists_false,
        or_false]
      constructor
      · -- Either the first operation fails, or it succeeds and the rest stops.
        rintro (ha | ⟨b, hb, before, a', after, rfl, hbefore, ha'⟩)
        · exact ⟨[], a, as, rfl, fun b hb => absurd hb List.not_mem_nil, ha⟩
        · exact ⟨a :: before, a', after, rfl, List.forall_mem_cons.mpr ⟨⟨b, hb⟩, hbefore⟩, ha'⟩
      · rintro ⟨_ | ⟨c, before⟩, a', after, heq, hbefore, ha'⟩
        · obtain ⟨rfl, -⟩ := List.cons.inj heq
          exact Or.inl ha'
        · obtain ⟨rfl, rfl⟩ := List.cons.inj heq
          rcases List.forall_mem_cons.mp hbefore with ⟨⟨b, hb⟩, hbefore⟩
          exact Or.inr ⟨b, hb, before, a', after, rfl, hbefore, ha'⟩

/-- Where each of some operations succeeds with a result of some kind, so does the list of them. -/
theorem exists_mapM_ok {f : α → Except ε β} {p : α → β → Prop} {as : List α}
    (h : ∀ a ∈ as, ∃ b, f a = .ok b ∧ p a b) :
    ∃ bs, as.mapM f = .ok bs ∧ List.Forall₂ p as bs := by
  induction as with
  | nil => exact ⟨[], rfl, .nil⟩
  | cons a as ih =>
      rcases h a List.mem_cons_self with ⟨b, hb, hp⟩
      rcases ih fun a' ha' => h a' (List.mem_cons_of_mem _ ha') with ⟨bs, hbs, hps⟩
      exact ⟨b :: bs, mapM_eq_ok_iff.mpr (.cons hb (mapM_eq_ok_iff.mp hbs)), .cons hp hps⟩

/-- An operation with something read off its result succeeds with a result that has it. -/
theorem exists_of_map_toOption {x : Except ε α} {f : α → β} {b : β}
    (h : x.toOption.map f = some b) : ∃ a, x = .ok a ∧ f a = b := by
  cases x with
  | error e => cases h
  | ok a => exact ⟨a, rfl, Option.some.inj h⟩

theorem eq_ok_of_toOption {x : Except ε α} {a : α} (h : x.toOption = some a) : x = .ok a := by
  cases x with
  | error e => cases h
  | ok a' => exact congrArg Except.ok (Option.some.inj h)

theorem map_ok (p : α → β) (a : α) : p <$> (Except.ok a : Except ε α) = .ok (p a) := rfl

theorem map_eq_ok_iff {p : α → β} {x : Except ε α} {b : β} :
    p <$> x = .ok b ↔ ∃ a, x = .ok a ∧ p a = b := by
  cases x with
  | error e =>
      constructor
      · intro h
        cases h
      · rintro ⟨a, h, -⟩
        cases h
  | ok a => simp only [map_ok, Except.ok.injEq, exists_eq_left']

/-- Operations that agree in what is read off their results agree however they go on, where what follows
    depends on no more than that. -/
theorem map_bind_congr {γ δ : Type} {p : α → γ} {q : β → δ} {x y : Except ε α} {f g : α → Except ε β}
    (hxy : p <$> x = p <$> y) (hfg : ∀ a b, p a = p b → q <$> f a = q <$> g b) :
    q <$> (x >>= f) = q <$> (y >>= g) := by
  rcases x with e | a
  · rcases y with e' | b
    · exact congrArg Except.error (Except.error.inj hxy)
    · cases hxy
  · rcases y with e' | b
    · cases hxy
    · exact hfg a b (Except.ok.inj hxy)

end Sequence

section Wrapping

variable {α β γ : Type}

@[simp]
theorem reporting_eq_ok_iff {x : Except α β} {b : β} :
    (reporting x : Except (Halt α) β) = .ok b ↔ x = .ok b := by
  cases x <;> simp only [reporting, reduceCtorEq, Except.ok.injEq]

@[simp]
theorem reporting_eq_report_iff {x : Except α β} {p : α} :
    (reporting x : Except (Halt α) β) = .error (.report p) ↔ x = .error p := by
  cases x <;> simp only [reporting, reduceCtorEq, Except.error.injEq, Halt.report.injEq]

@[simp]
theorem reporting_ne_fault {x : Except α β} {f : Fault} :
    (reporting x : Except (Halt α) β) ≠ .error (.fault f) := by
  cases x <;> simp only [reporting, ne_eq, reduceCtorEq, Except.error.injEq, not_false_eq_true]

@[simp]
theorem breaking_eq_ok_iff {x : Except Fault β} {b : β} :
    (breaking x : Except (Halt α) β) = .ok b ↔ x = .ok b := by
  cases x <;> simp only [breaking, reduceCtorEq, Except.ok.injEq]

@[simp]
theorem breaking_eq_fault_iff {x : Except Fault β} {f : Fault} :
    (breaking x : Except (Halt α) β) = .error (.fault f) ↔ x = .error f := by
  cases x <;> simp only [breaking, reduceCtorEq, Except.error.injEq, Halt.fault.injEq]

@[simp]
theorem breaking_ne_report {x : Except Fault β} {p : α} :
    (breaking x : Except (Halt α) β) ≠ .error (.report p) := by
  cases x <;> simp only [breaking, ne_eq, reduceCtorEq, Except.error.injEq, not_false_eq_true]

@[simp]
theorem reportingAs_eq_ok_iff {wrap : α → γ} {x : Except (Halt α) β} {b : β} :
    reportingAs wrap x = .ok b ↔ x = .ok b := by
  rcases x with (p | f) | b' <;> simp only [reportingAs, reduceCtorEq, Except.ok.injEq]

@[simp]
theorem reportingAs_eq_fault_iff {wrap : α → γ} {x : Except (Halt α) β} {f : Fault} :
    reportingAs wrap x = .error (.fault f) ↔ x = .error (.fault f) := by
  rcases x with (p | f') | b <;>
    simp only [reportingAs, reduceCtorEq, Except.error.injEq, Halt.fault.injEq]

theorem reportingAs_eq_report_iff {wrap : α → γ} {x : Except (Halt α) β} {q : γ} :
    reportingAs wrap x = .error (.report q) ↔ ∃ p, x = .error (.report p) ∧ wrap p = q := by
  rcases x with (p | f) | b <;>
    simp only [reportingAs, reduceCtorEq, Except.error.injEq, Halt.report.injEq, exists_eq_left',
      false_and, exists_false]

theorem map_breaking (p : β → γ) (x : Except Fault β) :
    p <$> (breaking x : Except (Halt α) β) = breaking (p <$> x) := by
  cases x <;> rfl

theorem map_reportingAs {δ : Type} (p : β → γ) (wrap : α → δ) (x : Except (Halt α) β) :
    p <$> reportingAs wrap x = reportingAs wrap (p <$> x) := by
  rcases x with (problem | f) | b <;> rfl

theorem report_ne_fault {p : α} {f : Fault} :
    (.error (.report p) : Except (Halt α) β) ≠ .error (.fault f) := by
  simp only [ne_eq, Except.error.injEq, reduceCtorEq, not_false_eq_true]

end Wrapping

/-! ## Conclusions -/

/-- The ways in which an operation can end: with a result of some kind, with a report of some kind, or, for
    some faults and for no others, by breaking off. -/
structure Concludes {α β : Type} (x : Except (Halt α) β) (result : β → Prop) (report : α → Prop)
    (breaks : Fault → Prop) : Prop where
  ends : (∃ b, x = .ok b ∧ result b) ∨ (∃ p, x = .error (.report p) ∧ report p) ∨
    ∃ f, x = .error (.fault f) ∧ breaks f
  breaks : ∀ f, breaks f → x = .error (.fault f)

namespace Concludes

variable {α β : Type} {x : Except (Halt α) β} {result : β → Prop} {report : α → Prop}
  {breaks : Fault → Prop}

/-- The faults on which an operation breaks off. -/
theorem eq_fault_iff (h : Concludes x result report breaks) {f : Fault} :
    x = .error (.fault f) ↔ breaks f := by
  refine ⟨fun hx => ?_, h.breaks f⟩
  rcases h.ends with ⟨b, hb, -⟩ | ⟨p, hp, -⟩ | ⟨g, hg, hbreaks⟩
  · cases hx.symm.trans hb
  · cases hx.symm.trans hp
  · cases hx.symm.trans hg
    exact hbreaks

/-! An operation whose outcome is known concludes with it, as long as nothing would have broken it off on
any other fault. -/

theorem of_ok {b : β} (hx : x = .ok b) (hb : result b) (hspared : ∀ f, ¬ breaks f) :
    Concludes x result report breaks :=
  ⟨Or.inl ⟨b, hx, hb⟩, fun f hf => absurd hf (hspared f)⟩

theorem of_report {p : α} (hx : x = .error (.report p)) (hp : report p) (hspared : ∀ f, ¬ breaks f) :
    Concludes x result report breaks :=
  ⟨Or.inr (Or.inl ⟨p, hx, hp⟩), fun f hf => absurd hf (hspared f)⟩

theorem of_fault {f : Fault} (hx : x = .error (.fault f)) (hbreaks : ∀ g, breaks g ↔ g = f) :
    Concludes x result report breaks :=
  ⟨Or.inr (Or.inr ⟨f, hx, (hbreaks f).mpr rfl⟩), fun g hg => (hbreaks g).mp hg ▸ hx⟩

/-- What is said of results and reports may be weakened, but not when the operation breaks off. -/
theorem imp {result' : β → Prop} {report' : α → Prop} {breaks' : Fault → Prop}
    (h : Concludes x result report breaks) (hresult : ∀ b, result b → result' b)
    (hreport : ∀ p, report p → report' p) (hbreaks : ∀ f, breaks f ↔ breaks' f) :
    Concludes x result' report' breaks' := by
  refine ⟨?_, fun f hf => h.breaks f ((hbreaks f).mpr hf)⟩
  rcases h.ends with ⟨b, hx, hb⟩ | ⟨p, hx, hp⟩ | ⟨f, hx, hf⟩
  · exact Or.inl ⟨b, hx, hresult b hb⟩
  · exact Or.inr (Or.inl ⟨p, hx, hreport p hp⟩)
  · exact Or.inr (Or.inr ⟨f, hx, (hbreaks f).mp hf⟩)

end Concludes

end Assay
