import Assay.Fault

/-!
# Halts

An operation ends early in one of two ways. It reports a problem, in a type of its own, or it breaks
off on a fault, about which nobody is told anything.

## Main definitions

* `Halt`: The two ways.
* `reporting`, `breaking`: Results that can fail in one of the two ways only.
* `reportingAs`: A result with its problem put into another type.
-/

namespace Assay

/-- Why an operation ends early. -/
inductive Halt (α : Type)
  | report (problem : α)
  | fault (f : Fault)
  deriving DecidableEq

/-- A result that can fail by a report only. -/
def reporting {α β : Type} : Except α β → Except (Halt α) β
  | .ok b => .ok b
  | .error problem => .error (.report problem)

/-- A result that can fail by a fault only. -/
def breaking {α β : Type} : Except Fault β → Except (Halt α) β
  | .ok b => .ok b
  | .error f => .error (.fault f)

/-- A result with its problem put into another type. -/
def reportingAs {α β γ : Type} (wrap : α → γ) : Except (Halt α) β → Except (Halt γ) β
  | .ok b => .ok b
  | .error (.report problem) => .error (.report (wrap problem))
  | .error (.fault f) => .error (.fault f)

end Assay
