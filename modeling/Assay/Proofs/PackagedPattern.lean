import Assay.Proofs.Matching
import Assay.Rule.Check

/-!
# The packaged patterns

The three patterns of the packaged rules, as syntax trees, and what a match of the one that
searches the log is made of. A part whose texts are all of a kind hands that kind on to what it is
built into, so the kind of the text in a group can be read off the tree.

## Main definitions

* `Spells`: Every text that a part reads is of a kind.
* `titlePattern`, `folderPattern`, `logPattern`: The patterns of the packaged rules.
* `IsLogVersion`: The texts that the group of the log's pattern can hold.

## Theorems

* `logPattern_sound`: A match in a line of the log shows one version.
-/

namespace Assay.Pattern

/-! ## Kinds of texts -/

/-- Every text that a part reads is of a kind, and no group is matched on the way. -/
def Spells (node : Node) (kind : List Char → Prop) : Prop :=
  ∀ ⦃p q : Place⦄, Ends node p q → ∃ text, kind text ∧ Reads p text q ∧ q.captures = p.captures

theorem Spells.one (set : CharSet) :
    Spells (.one set) fun text => ∃ c, set.holds c = true ∧ text = [c] := by
  rintro p q ⟨c, hstep, hc⟩
  rcases step_eq_some_iff.mp hstep with ⟨hread, hcaptures⟩
  exact ⟨[c], ⟨c, hc, rfl⟩, hread, hcaptures⟩

theorem Spells.seq {a b : Node} {A B : List Char → Prop} (ha : Spells a A) (hb : Spells b B) :
    Spells (.seq a b) fun text => ∃ s t, A s ∧ B t ∧ text = s ++ t := by
  rintro p q ⟨m, hm, hq⟩
  rcases ha hm with ⟨s, hs, hreadS, hcapturesS⟩
  rcases hb hq with ⟨t, ht, hreadT, hcapturesT⟩
  exact ⟨s ++ t, ⟨s, t, hs, ht, rfl⟩, hreadS.trans hreadT, hcapturesT.trans hcapturesS⟩

/-- The rounds of a part spell as many texts of its kind in a row. -/
theorem Spells.rounds {body : Node} {kind : List Char → Prop} (h : Spells body kind)
    (greed : Greed) (least most : Nat) :
    Spells (.rounds greed least most body) fun text => ∃ parts : List (List Char),
      least ≤ parts.length ∧ parts.length ≤ max least most ∧ (∀ s ∈ parts, kind s) ∧
        text = parts.flatten := by
  -- By induction on the rounds, which are as many as the texts.
  have hrounds : ∀ {n : Nat} {p q : Place}, Rounds (Ends body) n p q →
      ∃ parts : List (List Char), parts.length = n ∧ (∀ s ∈ parts, kind s) ∧
        Reads p parts.flatten q ∧ q.captures = p.captures := by
    intro n p q hn
    induction hn with
    | done p =>
        exact ⟨[], rfl, fun _ hs => absurd hs List.not_mem_nil, Reads.nil p p.captures, rfl⟩
    | more first rest ih =>
        rcases h first with ⟨s, hs, hread, hcaptures⟩
        rcases ih with ⟨parts, hlen, hall, hreadRest, hcapturesRest⟩
        refine ⟨s :: parts, ?_, ?_, hread.trans hreadRest, hcapturesRest.trans hcaptures⟩
        · rw [List.length_cons, hlen]
        · intro t ht
          rcases List.mem_cons.mp ht with rfl | ht
          · exact hs
          · exact hall t ht
  rintro p q ⟨n, hleast, hmost, hn⟩
  rcases hrounds hn with ⟨parts, hlen, hall, hread, hcaptures⟩
  exact ⟨parts.flatten, ⟨parts, hlen ▸ hleast, hlen ▸ hmost, hall, rfl⟩, hread, hcaptures⟩

/-- A group holds the text that its body reads. -/
theorem Spells.group {body : Node} {kind : List Char → Prop} (h : Spells body kind) {index : Nat}
    {p q : Place} (hends : Ends (.group index body) p q) :
    ∃ text, kind text ∧ Reads p text q ∧ q.captures = (index, text) :: p.captures := by
  rcases hends with ⟨m, hm, rfl⟩
  rcases h hm with ⟨text, htext, hread, hcaptures⟩
  refine ⟨text, htext, ⟨hread.after, hread.before, hread.position⟩, ?_⟩
  simp only [hread.take, hcaptures]

end Assay.Pattern

namespace Assay.Packaged

open Pattern Text

/-! ## The patterns -/

/-- The part that matches one character. -/
def letter (c : Char) : Node :=
  .one ⟨false, [.range c.toNat c.toNat], .strict⟩

/-- The part that matches some characters in a row before another part. -/
def spelled (cs : List Char) (after : Node) : Node :=
  cs.foldr (fun c node => .seq (letter c) node) after

/-- The part that matches a number. -/
def digits : Node :=
  .rounds .greedy 1 unbounded (.one ⟨false, [.range 48 57], .strict⟩)

/-- The part that matches as much of a line as possible. -/
def anything : Node :=
  .rounds .greedy 0 unbounded (.one ⟨true, [.range 10 10], .strict⟩)

/-- The part that matches a minor release before another part. -/
def releaseBefore (after : Node → Node) : Node :=
  .seq (letter 'v') (.seq digits (.seq (letter '.') (after digits)))

/-- The pattern of a title: a release between a space and either a space or a slash. -/
def titlePattern : WrittenPattern :=
  ⟨"(.*) (v[0-9]+\\.[0-9]+)[ /](.*)",
    ⟨.seq (.group 1 anything) (.seq (letter ' ') (.seq (.group 2 (releaseBefore id))
      (.seq (.one ⟨false, [.range 32 32, .range 47 47], .strict⟩) (.group 3 anything)))), 3⟩⟩

/-- The pattern of a folder: a release, a slash and a product. -/
def folderPattern : WrittenPattern :=
  ⟨"(v[0-9]+\\.[0-9]+)/(.*)",
    ⟨.seq (.group 1 (releaseBefore id)) (.seq (letter '/') (.group 2 anything)), 2⟩⟩

/-- The version that a line of the log shows: a minor release, and perhaps a patch. -/
def logVersion : Node :=
  releaseBefore fun minor => .seq minor (.rounds .greedy 0 1 (.seq (letter '.') digits))

/-- The pattern of the line of the log that shows a version. -/
def logPattern : WrittenPattern :=
  ⟨"e2e (?:test|suite) version: (v[0-9]+\\.[0-9]+(?:\\.[0-9]+)?)",
    ⟨spelled ['e', '2', 'e', ' '] (.seq
      (.alt (spelled ['t', 'e', 's'] (letter 't')) (spelled ['s', 'u', 'i', 't'] (letter 'e')))
      (spelled [' ', 'v', 'e', 'r', 's', 'i', 'o', 'n', ':', ' '] (.group 1 logVersion))), 1⟩⟩

/-! ## What the log shows -/

theorem strictRange_holds_iff {low high : Nat} {c : Char} :
    CharSet.holds ⟨false, [.range low high], .strict⟩ c = true ↔
      low ≤ c.toNat ∧ c.toNat ≤ high := by
  simp [CharSet.holds, ClassItem.hasCase, CaseRule.rangeHasCase, ClassItem.holds]

theorem letter_spells (c : Char) : Spells (letter c) fun text => text = [c] := by
  intro p q h
  rcases Spells.one _ h with ⟨text, ⟨d, hd, rfl⟩, hread, hcaptures⟩
  rw [strictRange_holds_iff] at hd
  have : d = c := Char.toNat_inj.mp (Nat.le_antisymm hd.2 hd.1)
  exact ⟨[d], by rw [this], hread, hcaptures⟩

/-- A text of ASCII digits, at least one. -/
def IsNumeral (text : List Char) : Prop :=
  text ≠ [] ∧ ∀ c ∈ text, isAsciiDigit c = true

theorem digits_spells : Spells digits IsNumeral := by
  intro p q h
  rcases (Spells.one _).rounds .greedy 1 unbounded h with
    ⟨text, ⟨parts, hleast, -, hall, rfl⟩, hread, hcaptures⟩
  refine ⟨parts.flatten, ⟨?_, ?_⟩, hread, hcaptures⟩
  · cases parts with
    | nil => cases hleast
    | cons s rest =>
        rcases hall s (List.mem_cons_self ..) with ⟨c, -, rfl⟩
        exact List.cons_ne_nil c _
  · intro c hc
    rcases List.mem_flatten.mp hc with ⟨s, hs, hmem⟩
    rcases hall s hs with ⟨d, hd, rfl⟩
    rw [List.mem_singleton.mp hmem]
    rw [strictRange_holds_iff] at hd
    simpa [isAsciiDigit, Char.le_def, UInt32.le_iff_toNat_le] using hd

/-- The text `v`, a number, a period, and what follows of some kind. -/
def IsRelease (kind : List Char → Prop) (text : List Char) : Prop :=
  ∃ major rest, IsNumeral major ∧ kind rest ∧ text = 'v' :: (major ++ '.' :: rest)

theorem releaseBefore_spells {after : Node → Node} {kind : List Char → Prop}
    (h : Spells (after digits) kind) : Spells (releaseBefore after) (IsRelease kind) := by
  intro p q hends
  have hspells := (letter_spells 'v').seq (digits_spells.seq ((letter_spells '.').seq h))
  rcases hspells hends with ⟨_, ⟨_, _, rfl, ⟨major, _, hmajor, ⟨_, rest, rfl, hrest, rfl⟩, rfl⟩,
    rfl⟩, hread, hcaptures⟩
  exact ⟨_, ⟨major, rest, hmajor, hrest, rfl⟩, hread, hcaptures⟩

/-- What holds of the letter, of the period and of every digit holds of every character of a
    release. -/
theorem IsRelease.forall_mem {P : Char → Prop} {release : List Char}
    (h : IsRelease IsNumeral release) (hletter : P 'v') (hperiod : P '.')
    (hdigit : ∀ c, isAsciiDigit c = true → P c) : ∀ c ∈ release, P c := by
  rcases h with ⟨major, minor, hmajor, hminor, rfl⟩
  simp only [List.forall_mem_cons, List.forall_mem_append]
  exact ⟨hletter, fun c hc => hdigit c (hmajor.2 c hc), hperiod, fun c hc => hdigit c (hminor.2 c hc)⟩

/-- A character that is none of these is not in a release. -/
theorem IsRelease.not_mem {c : Char} {release : List Char} (h : IsRelease IsNumeral release)
    (hletter : 'v' ≠ c) (hperiod : '.' ≠ c) (hdigit : isAsciiDigit c = false) : c ∉ release := by
  have hother : ∀ d, isAsciiDigit d = true → d ≠ c := by
    rintro d hd rfl
    rw [hdigit] at hd
    cases hd
  exact fun hmem => h.forall_mem hletter hperiod hother c hmem rfl

/-- What the group of the log's pattern can hold: a minor release, and perhaps a patch after a
    period. -/
def IsLogVersion : List Char → Prop :=
  IsRelease fun rest => ∃ minor patch, IsNumeral minor ∧
    (patch = [] ∨ ∃ number, IsNumeral number ∧ patch = '.' :: number) ∧ rest = minor ++ patch

theorem logVersion_spells : Spells logVersion IsLogVersion := by
  refine releaseBefore_spells ?_
  intro p q hends
  have hspells := digits_spells.seq (((letter_spells '.').seq digits_spells).rounds .greedy 0 1)
  rcases hspells hends with
    ⟨_, ⟨minor, _, hminor, ⟨parts, -, hmost, hall, rfl⟩, rfl⟩, hread, hcaptures⟩
  refine ⟨_, ⟨minor, parts.flatten, hminor, ?_, rfl⟩, hread, hcaptures⟩
  -- There is one round at most.
  match parts, hmost, hall with
  | [], _, _ => exact Or.inl rfl
  | [part], _, hall =>
      rcases hall part (List.mem_cons_self ..) with ⟨_, number, rfl, hnumber, rfl⟩
      exact Or.inr ⟨number, hnumber, by simp only [List.flatten_cons, List.flatten_nil,
        List.append_nil, List.cons_append, List.nil_append]⟩
  | _ :: _ :: _, hmost, _ =>
      simp only [List.length_cons] at hmost
      omega

theorem ends_of_spelled {cs : List Char} {after : Node} :
    ∀ {p q : Place}, Ends (spelled cs after) p q → ∃ m, Ends after m q := by
  induction cs with
  | nil =>
      intro p q h
      exact ⟨p, h⟩
  | cons c rest ih =>
      rintro p q ⟨m, _, hm⟩
      exact ih hm

/-- A match in a line of the log shows one version. -/
theorem logPattern_sound {line : String} {groups : List (Option String)}
    (h : logPattern.pattern.search line = some groups) :
    ∃ version, IsLogVersion version ∧ groups = [some (String.ofList version)] := by
  rcases search_sound h with ⟨p, q, -, -, hends, rfl⟩
  rcases ends_of_spelled hends with ⟨_, _, -, hrest⟩
  rcases ends_of_spelled hrest with ⟨_, hgroup⟩
  rcases logVersion_spells.group hgroup with ⟨version, hversion, -, hcaptures⟩
  refine ⟨version, hversion, ?_⟩
  simp [logPattern, Place.capture?, hcaptures]

theorem IsLogVersion.ne_nil {version : List Char} (h : IsLogVersion version) : version ≠ [] := by
  rcases h with ⟨major, rest, -, -, rfl⟩
  exact List.cons_ne_nil _ _

end Assay.Packaged
