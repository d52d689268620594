import Assay.Text.Blank
import Assay.Text.Lowercase
import Assay.Text.Word

/-!
# Character sets

What a pattern says about a single character: a set of code points given by ranges and by the
classes of digits, blanks and word characters, possibly negated, and compared with or without
regard to case.

Without regard to case a character is compared by its lower-case form. Some letters have no common
lower-case form and still count as one, such as the two small sigmas; they are the `siblings`.

## Main definitions

* `CaseRule`: How case is treated.
* `ClassItem`, `CharSet`: The members of a set, and a set.
* `CharSet.holds`: Whether a set holds a character.
-/

namespace Assay.Pattern

open Text

/-- How a comparison treats case: strictly, by the lower case of ASCII, or by that of Unicode. -/
inductive CaseRule
  | strict
  | ascii
  | unicode
  deriving DecidableEq, Repr

/-- The classes that a pattern can name. -/
inductive CharClass
  | digit
  | blank
  | word
  deriving DecidableEq, Repr

/-- A member of a set: a range of code points, or a class or its complement, looking at ASCII alone
    or at all of Unicode. -/
inductive ClassItem
  | range (low high : Nat)
  | ofClass (kind : CharClass) (negated ascii : Bool)
  deriving DecidableEq, Repr

/-- A set of characters. -/
structure CharSet where
  negated : Bool
  items : List ClassItem
  rule : CaseRule
  deriving DecidableEq, Repr

/-- Lower-case code points with the other lower-case code points that have the same capital. -/
def siblings : List (Nat × List Nat) :=
  [
    (105, [305]), (115, [383]), (181, [956]), (305, [105]), (383, [115]), (837, [953, 8126]),
    (912, [8147]), (944, [8163]), (946, [976]), (949, [1013]), (952, [977]), (953, [837,
    8126]), (954, [1008]), (956, [181]), (960, [982]), (961, [1009]), (962, [963]), (963,
    [962]), (966, [981]), (976, [946]), (977, [952]), (981, [966]), (982, [960]), (1008,
    [954]), (1009, [961]), (1013, [949]), (1074, [7296]), (1076, [7297]), (1086, [7298]),
    (1089, [7299]), (1090, [7300, 7301]), (1098, [7302]), (1123, [7303]), (7296, [1074]),
    (7297, [1076]), (7298, [1086]), (7299, [1089]), (7300, [1090, 7301]), (7301, [1090,
    7300]), (7302, [1098]), (7303, [1123]), (7304, [42571]), (7777, [7835]), (7835, [7777]),
    (8126, [837, 953]), (8147, [912]), (8163, [944]), (42571, [7304]), (64261, [64262]),
    (64262, [64261])]

/-- The lower-case form of a code point under a rule. -/
def CaseRule.lower : CaseRule → Nat → Nat
  | .strict, n => n
  | .ascii, n => lowerAsciiPoint n
  | .unicode, n => lowerPoint n

/-- Whether one of the code points that are `step` apart from `first` to `last` lies between `low`
    and `high`. -/
def meets (first last step low high : Nat) : Bool :=
  let next := if low ≤ first then first else first + (low - first + (step - 1)) / step * step
  next ≤ last && next ≤ high

/-- Whether some code point from `low` to `high` has a case: a lower-case form of its own, a code point
    of which it is the lower-case form, or a sibling. -/
def CaseRule.rangeHasCase (rule : CaseRule) (low high : Nat) : Bool :=
  match rule with
  | .strict => false
  | .ascii => meets 65 90 1 low high || meets 97 122 1 low high
  | .unicode =>
    meets 65 90 1 low high || meets 97 122 1 low high ||
      (siblings.any fun (n, _) => low ≤ n && n ≤ high) ||
      lowercaseRuns.any fun r =>
        let move (n : Nat) : Nat := ((n : Int) + r.offset).toNat
        meets r.first r.last r.step low high || meets (move r.first) (move r.last) r.step low high

/-- The code points whose lower-case form is `n`. -/
def CaseRule.raised (rule : CaseRule) (n : Nat) : List Nat :=
  let own := if rule.lower n = n then [n] else []
  match rule with
  | .strict => own
  | .ascii => if 97 ≤ n ∧ n ≤ 122 then (n - 32) :: own else own
  | .unicode =>
    let capital := if 97 ≤ n ∧ n ≤ 122 then [n - 32] else []
    let others := lowercaseRuns.filterMap fun r =>
      let m := Int.toNat ((n : Int) - r.offset)
      if r.holds m ∧ lowerPoint m = n then some m else none
    capital ++ others ++ own

/-- The lower-case code points that count as the lower-case code point `n`. -/
def CaseRule.alike (rule : CaseRule) (n : Nat) : List Nat :=
  match rule with
  | .unicode => n :: (siblings.lookup n).getD []
  | _ => [n]

/-- Whether a class holds a character. -/
def CharClass.holds (kind : CharClass) (ascii : Bool) (c : Char) : Bool :=
  match kind, ascii with
  | .digit, true => isAsciiDigit c
  | .digit, false => isDigit c
  | .blank, true => c == ' ' || (9 ≤ c.toNat && c.toNat ≤ 13)
  | .blank, false => isBlank c
  | .word, true => isAsciiWordChar c
  | .word, false => isWordChar c

/-- Whether a member holds a character strictly. -/
def ClassItem.holds (c : Char) : ClassItem → Bool
  | .range low high => low ≤ c.toNat && c.toNat ≤ high
  | .ofClass kind negated ascii => kind.holds ascii c != negated

/-- Whether a member of a set has a case. -/
def ClassItem.hasCase (rule : CaseRule) : ClassItem → Bool
  | .range low high => rule.rangeHasCase low high
  | .ofClass _ _ _ => false

/-- Whether a member holds a character without regard to case. -/
def ClassItem.holdsAlike (rule : CaseRule) (c : Char) : ClassItem → Bool
  | .range low high =>
    (rule.alike (rule.lower c.toNat)).any fun n =>
      (rule.raised n).any fun m => low ≤ m && m ≤ high
  | .ofClass kind negated ascii =>
    kind.holds ascii (Char.ofNat (rule.lower c.toNat)) != negated

/-- Whether a set holds a character. A set none of whose members has a case is compared strictly
    under every rule. -/
def CharSet.holds (s : CharSet) (c : Char) : Bool :=
  let inside :=
    if s.items.any fun i => i.hasCase s.rule then s.items.any fun i => i.holdsAlike s.rule c
    else s.items.any fun i => i.holds c
  inside != s.negated

/-- The set of one code point. -/
def CharSet.single (rule : CaseRule) (n : Nat) : CharSet :=
  ⟨false, [.range n n], rule⟩

end Assay.Pattern
