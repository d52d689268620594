import Assay.Pattern.Matcher

/-!
# What a match is

The matcher is written with what comes next: it hands each part the rest of the search and takes the
first outcome. What it finds can be said without the search, as a relation between the place where a
part starts and the places where it can end. The relation follows the syntax of patterns, and the
matcher never ends anywhere else.

A negated look is said only not to move; what it rules out is left open.

## Main definitions

* `Reads`: One place is another with some text read.
* `Rounds`: Some rounds of a part, one after another.
* `Ends`: A part that starts at one place can end at another.
* `Sound`: A way to run a part comes to what follows it only where the part can end.
* `RoundsLeft`: Some rounds of a part can still be made.

## Theorems

* `runSet_sound`, `runRounds_sound`, `runPossessive_sound`: The three loops make rounds.
* `run_sound`: What follows a part starts at a place where the part can end.
* `search_sound`: The groups of a match are those of a place where the pattern can end.
-/

namespace Assay.Pattern

/-! ## Places -/

/-- The place `q` is the place `p` after a text. -/
structure Reads (p : Place) (text : List Char) (q : Place) : Prop where
  after : p.after = text ++ q.after
  before : q.before = text.reverse ++ p.before
  position : q.position = p.position + text.length

namespace Reads

theorem nil (p : Place) (captures : List (Nat × List Char)) :
    Reads p [] { p with captures := captures } :=
  ⟨rfl, rfl, rfl⟩

theorem trans {p m q : Place} {s t : List Char} (hs : Reads p s m) (ht : Reads m t q) :
    Reads p (s ++ t) q := by
  refine ⟨?_, ?_, ?_⟩
  · rw [hs.after, ht.after, List.append_assoc]
  · rw [ht.before, hs.before, List.reverse_append, List.append_assoc]
  · rw [ht.position, hs.position, List.length_append, Nat.add_assoc]

/-- The text between two places is what the first has ahead, up to the distance. -/
theorem take {p q : Place} {text : List Char} (h : Reads p text q) :
    p.after.take (q.position - p.position) = text := by
  rw [h.position, h.after, Nat.add_sub_cancel_left, List.take_left]

end Reads

theorem step_eq_some_iff {p q : Place} {c : Char} :
    p.step? = some (c, q) ↔ Reads p [c] q ∧ q.captures = p.captures := by
  rcases p with ⟨position, before, _ | ⟨d, after⟩, captures⟩
  · refine ⟨fun h => by simp only [Place.step?, reduceCtorEq] at h, fun h => ?_⟩
    have := h.1.after
    simp only [List.cons_append, reduceCtorEq] at this
  · simp only [Place.step?, Option.some.injEq, Prod.mk.injEq]
    constructor
    · rintro ⟨rfl, rfl⟩
      exact ⟨⟨rfl, rfl, rfl⟩, rfl⟩
    · rintro ⟨⟨ha, hb, hp⟩, hc⟩
      rcases q with ⟨position', before', after', captures'⟩
      simp only [List.cons_append, List.nil_append, List.cons.injEq] at ha
      simp only at hb hp hc
      subst hb hp hc
      exact ⟨ha.1, by rw [ha.1, ha.2]; rfl⟩

/-- Going back from a place takes the last character off what was read. -/
theorem reads_of_back {p q m : Place} {text : List Char} {c : Char}
    (h : Reads p (text ++ [c]) q) (hback : q.back? = some m) :
    Reads p text m ∧ m.captures = q.captures := by
  rcases q with ⟨position, before, after, captures⟩
  -- The place before has the last character of the text at hand, so one step back puts it ahead again.
  have hb := h.before
  simp only [List.reverse_append, List.reverse_cons, List.reverse_nil, List.nil_append,
    List.cons_append] at hb
  subst hb
  simp only [Place.back?, Option.some.injEq] at hback
  subst hback
  refine ⟨⟨?_, rfl, ?_⟩, rfl⟩
  · rw [h.after, List.append_assoc]
    rfl
  · have hp := h.position
    simp only [List.length_append, List.length_cons, List.length_nil] at hp
    simp only
    omega

/-! ## Rounds and ends -/

/-- Some rounds of a part, one after another. -/
inductive Rounds (body : Place → Place → Prop) : Nat → Place → Place → Prop
  | done (p : Place) : Rounds body 0 p p
  | more {n : Nat} {p m q : Place} (first : body p m) (rest : Rounds body n m q) :
    Rounds body (n + 1) p q

/-- The places from which a look starts, given the width of its body. -/
def lookFrom (behind : Bool) (width : Nat) (p : Place) : Option Place :=
  if behind then p.retreat? width else some p

/-- A part that starts at one place can end at another. -/
def Ends : Node → Place → Place → Prop
  | .empty, p, q => q = p
  | .one set, p, q => ∃ c, p.step? = some (c, q) ∧ set.holds c = true
  | .seq a b, p, q => ∃ m, Ends a p m ∧ Ends b m q
  | .alt a b, p, q => Ends a p q ∨ Ends b p q
  | .group index body, p, q => ∃ m, Ends body p m ∧
      q = { m with captures := (index, p.after.take (m.position - p.position)) :: m.captures }
  | .rounds _ least most body, p, q =>
    ∃ n, least ≤ n ∧ n ≤ max least most ∧ Rounds (Ends body) n p q
  | .atomic body, p, q => Ends body p q
  | .look true _ _, p, q => q = p
  | .look false behind body, p, q => ∃ start m, lookFrom behind body.width.1 p = some start ∧
      Ends body start m ∧ q = { p with captures := m.captures }
  | .again group rule _, p, q =>
    ∃ text, p.capture? group = some text ∧ p.reread? rule text = some q
  | .choice group yes no, p, q =>
    if (p.capture? group).isSome then Ends yes p q else Ends no p q
  | .anchor a, p, q => a.holds p = true ∧ q = p

/-! ## Rounds of a set -/

/-- The rounds of a set are a text of its members. -/
theorem rounds_set_of_reads {set : CharSet} {text : List Char} :
    ∀ {p q : Place}, Reads p text q → q.captures = p.captures → (∀ c ∈ text, set.holds c = true) →
      Rounds (Ends (.one set)) text.length p q := by
  induction text with
  | nil =>
      intro p q h hc _
      have : q = p := by
        rcases p with ⟨position, before, after, captures⟩
        rcases q with ⟨position', before', after', captures'⟩
        rcases h with ⟨ha, hb, hp⟩
        simp only [List.nil_append, List.reverse_nil, List.length_nil, Nat.add_zero] at ha hb hp hc
        rw [ha, hb, hp, hc]
      rw [this]
      exact Rounds.done p
  | cons c rest ih =>
      intro p q h hc hall
      -- The place after the first character of the text.
      let m : Place := ⟨p.position + 1, c :: p.before, rest ++ q.after, p.captures⟩
      have hfirst : Reads p [c] m := ⟨h.after, rfl, rfl⟩
      have hrest : Reads m rest q := by
        refine ⟨rfl, ?_, ?_⟩
        · rw [h.before, List.reverse_cons, List.append_assoc]
          rfl
        · rw [h.position, List.length_cons]
          simp only [m]
          omega
      refine Rounds.more ⟨c, step_eq_some_iff.mpr ⟨hfirst, rfl⟩, hall c (List.mem_cons_self ..)⟩ ?_
      exact ih hrest hc fun d hd => hall d (List.mem_cons_of_mem c hd)

/-- A place reached from `p` over `n` characters of a set. -/
def ReachedOver (set : CharSet) (p : Place) (n : Nat) (q : Place) : Prop :=
  ∃ text, text.length = n ∧ Reads p text q ∧ q.captures = p.captures ∧
    ∀ c ∈ text, set.holds c = true

theorem ReachedOver.rounds {set : CharSet} {p q : Place} {n : Nat} (h : ReachedOver set p n q) :
    Rounds (Ends (.one set)) n p q := by
  rcases h with ⟨text, rfl, hread, hcaptures, hall⟩
  exact rounds_set_of_reads hread hcaptures hall

theorem ReachedOver.back {set : CharSet} {p q m : Place} {n : Nat}
    (h : ReachedOver set p (n + 1) q) (hback : q.back? = some m) : ReachedOver set p n m := by
  rcases h with ⟨text, hlen, hread, hcaptures, hall⟩
  rcases List.eq_nil_or_concat text with rfl | ⟨front, c, rfl⟩
  · cases hlen
  · rw [List.concat_eq_append] at hlen hread hall
    rcases reads_of_back hread hback with ⟨hm, hc⟩
    refine ⟨front, ?_, hm, hc.trans hcaptures, fun d hd => hall d (List.mem_append_left _ hd)⟩
    rw [List.length_append] at hlen
    exact Nat.add_right_cancel hlen

theorem ReachedOver.step {set : CharSet} {p q m : Place} {n : Nat} {c : Char}
    (h : ReachedOver set p n q) (hstep : q.step? = some (c, m)) (hc : set.holds c = true) :
    ReachedOver set p (n + 1) m := by
  rcases h with ⟨text, hlen, hread, hcaptures, hall⟩
  rcases step_eq_some_iff.mp hstep with ⟨hm, hcap⟩
  refine ⟨text ++ [c], ?_, hread.trans hm, hcap.trans hcaptures, fun d hd => ?_⟩
  · rw [List.length_append, hlen]
    rfl
  · rcases List.mem_append.mp hd with hd | hd
    · exact hall d hd
    · rw [List.mem_singleton.mp hd]
      exact hc

theorem ReachedOver.start (set : CharSet) (p : Place) : ReachedOver set p 0 p :=
  ⟨[], rfl, Reads.nil p p.captures, rfl, fun _ h => absurd h (List.not_mem_nil)⟩

/-- The characters that are read on the way to a place further on, of which some have been read. -/
theorem advance_go_sound {set : CharSet} {p : Place} {most : Nat} (after : List Char) :
    ∀ {before : List Char} {k n : Nat}, n + k = most →
      ReachedOver set p n ⟨p.position + n, before, after, p.captures⟩ →
        (Place.advance.go set p after before k n).1 ≤ most ∧
          ReachedOver set p (Place.advance.go set p after before k n).1
            (Place.advance.go set p after before k n).2 := by
  induction after with
  | nil =>
      intro before k n hk h
      exact ⟨by simp only [Place.advance.go]; omega, h⟩
  | cons c r ih =>
      intro before k n hk h
      cases k with
      | zero =>
          exact ⟨by simp only [Place.advance.go]; omega, h⟩
      | succ k =>
          by_cases hc : set.holds c = true
          · simp only [Place.advance.go, hc, if_true]
            refine ih (by omega) ?_
            exact h.step (m := ⟨p.position + (n + 1), c :: before, r, p.captures⟩)
              (by simp only [Place.step?]; rfl) hc
          · simp only [Place.advance.go, hc, Bool.false_eq_true, if_false]
            exact ⟨by omega, h⟩

theorem advance_sound (set : CharSet) (most : Nat) (p : Place) :
    (p.advance set most).1 ≤ most ∧
      ReachedOver set p (p.advance set most).1 (p.advance set most).2 :=
  advance_go_sound p.after (Nat.zero_add most) (ReachedOver.start set p)

/-- Going back one character at a time ends at one of the places that were passed. -/
theorem tryBack_sound {set : CharSet} {p r : Place} {next : Next} {least : Nat} :
    ∀ {n : Nat} {q : Place}, ReachedOver set p (least + n) q → tryBack next n q = some r →
      ∃ k m, least ≤ k ∧ k ≤ least + n ∧ ReachedOver set p k m ∧ next m = some r := by
  intro n
  induction n with
  | zero =>
      intro q hq h
      exact ⟨least, q, Nat.le_refl _, Nat.le_refl _, hq, h⟩
  | succ n ih =>
      intro q hq h
      unfold tryBack at h
      cases hnext : next q with
      | some r' =>
          simp only [hnext, Option.some.injEq] at h
          exact ⟨least + (n + 1), q, by omega, Nat.le_refl _, hq, by rw [hnext, h]⟩
      | none =>
          simp only [hnext] at h
          cases hback : q.back? with
          | none => simp only [hback, reduceCtorEq] at h
          | some m =>
              simp only [hback] at h
              -- One place back is one round fewer.
              rcases ih (hq.back hback) h with ⟨k, m', hk, hk', hm', hr⟩
              exact ⟨k, m', hk, by omega, hm', hr⟩

/-- Going on one character at a time ends at one of the places that are passed. -/
theorem tryForth_sound {set : CharSet} {p r : Place} {next : Next} :
    ∀ {n least : Nat} {q : Place}, ReachedOver set p least q → tryForth set next n q = some r →
      ∃ k m, least ≤ k ∧ k ≤ least + n ∧ ReachedOver set p k m ∧ next m = some r := by
  intro n
  induction n with
  | zero =>
      intro least q hq h
      exact ⟨least, q, Nat.le_refl _, Nat.le_refl _, hq, h⟩
  | succ n ih =>
      intro least q hq h
      unfold tryForth at h
      cases hnext : next q with
      | some r' =>
          simp only [hnext, Option.some.injEq] at h
          exact ⟨least, q, Nat.le_refl _, by omega, hq, by rw [hnext, h]⟩
      | none =>
          simp only [hnext] at h
          cases hstep : q.step? with
          | none => simp only [hstep, reduceCtorEq] at h
          | some step =>
              rcases step with ⟨c, m⟩
              simp only [hstep] at h
              by_cases hc : set.holds c = true
              · simp only [hc, if_true] at h
                -- One place on is one round more.
                rcases ih (hq.step hstep hc) h with ⟨k, m', hk, hk', hm', hr⟩
                exact ⟨k, m', by omega, by omega, hm', hr⟩
              · simp only [hc, Bool.false_eq_true, if_false, reduceCtorEq] at h

theorem runSet_sound {set : CharSet} {greed : Greed} {least most : Nat} {p r : Place} {next : Next}
    (h : runSet set greed least most p next = some r) :
    ∃ n q, least ≤ n ∧ n ≤ max least most ∧ Rounds (Ends (.one set)) n p q ∧ next q = some r := by
  cases greed with
  | greedy =>
      rcases advance_sound set most p with ⟨hle, hreach⟩
      unfold runSet at h
      by_cases hshort : (p.advance set most).1 < least
      · simp only [hshort, if_true, reduceCtorEq] at h
      · simp only [hshort, if_false] at h
        rw [← Nat.add_sub_of_le (Nat.not_lt.mp hshort)] at hreach
        -- The rounds that are required are never given back.
        rcases tryBack_sound hreach h with ⟨k, m, hk, hk', hm, hr⟩
        exact ⟨k, m, hk, by omega, hm.rounds, hr⟩
  | lazy =>
      -- A lazy loop reads only the required rounds at first.
      rcases advance_sound set least p with ⟨hle, hreach⟩
      unfold runSet at h
      by_cases hshort : (p.advance set least).1 < least
      · simp only [hshort, if_true, reduceCtorEq] at h
      · simp only [hshort, if_false] at h
        rcases tryForth_sound hreach h with ⟨k, m, hk, hk', hm, hr⟩
        exact ⟨k, m, by omega, by omega, hm.rounds, hr⟩
  | possessive =>
      rcases advance_sound set most p with ⟨hle, hreach⟩
      unfold runSet at h
      by_cases hshort : (p.advance set most).1 < least
      · simp only [hshort, if_true, reduceCtorEq] at h
      · simp only [hshort, if_false] at h
        exact ⟨_, _, Nat.not_lt.mp hshort, by omega, hreach.rounds, h⟩

/-! ## Rounds of a part -/

/-- A way to run a part only ever comes to what follows it at a place where the part can end. -/
def Sound (body : Place → Next → Option Place) (ends : Place → Place → Prop) : Prop :=
  ∀ ⦃p : Place⦄ ⦃next : Next⦄ ⦃r : Place⦄, body p next = some r → ∃ q, ends p q ∧ next q = some r

/-- A part that is run with nothing after it stops at a place where it can end. -/
theorem Sound.ends_of_some {body : Place → Next → Option Place} {ends : Place → Place → Prop}
    (hbody : Sound body ends) {p q : Place} (h : body p some = some q) : ends p q := by
  rcases hbody h with ⟨m, hm, heq⟩
  rw [Option.some.inj heq] at hm
  exact hm

/-- The places where rounds can end of which `done` are made already. Nothing bounds `done` itself, so the
    most is a bound only where a round is still made. -/
def RoundsLeft (ends : Place → Place → Prop) (least most done : Nat) (p q : Place) : Prop :=
  ∃ n, least ≤ done + n ∧ (n = 0 ∨ done + n ≤ max least most) ∧ Rounds ends n p q

namespace RoundsLeft

variable {ends : Place → Place → Prop} {least most done : Nat} {p m q : Place}

theorem stop (h : least ≤ done) : RoundsLeft ends least most done p p :=
  ⟨0, h, Or.inl rfl, Rounds.done p⟩

theorem more (hdone : done < max least most) (hm : ends p m)
    (h : RoundsLeft ends least most (done + 1) m q) : RoundsLeft ends least most done p q := by
  rcases h with ⟨n, hn, hn', hq⟩
  exact ⟨n + 1, by omega, by omega, Rounds.more hm hq⟩

theorem ends_rounds {greed : Greed} {body : Node} (h : RoundsLeft (Ends body) least most 0 p q) :
    Ends (.rounds greed least most body) p q := by
  rcases h with ⟨n, hn, hn', hq⟩
  exact ⟨n, by omega, by omega, hq⟩

end RoundsLeft

section Loops

variable {body : Place → Next → Option Place} {ends : Place → Place → Prop}
variable (hbody : Sound body ends)

include hbody

theorem runRounds_sound {greed : Greed} {least most : Nat} {next : Next} {r : Place} :
    ∀ {fuel done : Nat} {last : Option Nat} {p : Place},
      runRounds body greed least most next fuel done last p = some r →
        ∃ q, RoundsLeft ends least most done p q ∧ next q = some r := by
  intro fuel
  induction fuel with
  | zero =>
      intro done last p h
      simp only [runRounds, reduceCtorEq] at h
  | succ fuel ih =>
      intro done last p h
      have hmore : ∀ {last : Option Nat}, done < max least most →
          (body p fun q => runRounds body greed least most next fuel (done + 1) last q) = some r →
            ∃ q, RoundsLeft ends least most done p q ∧ next q = some r := by
        intro last hdone hrun
        rcases hbody hrun with ⟨m, hm, hrest⟩
        rcases ih hrest with ⟨q, hq, hr⟩
        exact ⟨q, hq.more hdone hm, hr⟩
      have hstop : least ≤ done → next p = some r →
          ∃ q, RoundsLeft ends least most done p q ∧ next q = some r :=
        fun hle hnext => ⟨p, RoundsLeft.stop hle, hnext⟩
      unfold runRounds at h
      by_cases hdone : done < least
      · simp only [hdone, if_true] at h
        exact hmore (by omega) h
      · simp only [hdone, if_false] at h
        -- A lazy loop tries what follows before another round, and the others after it.
        cases greed with
        | lazy =>
            cases hnext : next p with
            | some r' =>
                simp only [hnext, Option.some.injEq] at h
                exact hstop (Nat.not_lt.mp hdone) (by rw [hnext, h])
            | none =>
                by_cases hlast : most ≤ done ∨ some p.position = last
                · simp only [hnext, hlast, if_true, reduceCtorEq] at h
                · simp only [hnext, hlast, if_false] at h
                  exact hmore (by omega) h
        | greedy | possessive =>
            by_cases hgo : done < most ∧ some p.position ≠ last
            · simp only [if_pos hgo] at h
              split at h
              · rename_i hagain
                exact hmore (by omega) (hagain.trans h)
              · exact hstop (Nat.not_lt.mp hdone) h
            · simp only [if_neg hgo] at h
              exact hstop (Nat.not_lt.mp hdone) h

theorem runPossessive_sound {least most : Nat} {q : Place} :
    ∀ {fuel done : Nat} {last : Option Nat} {p : Place},
      runPossessive body least most fuel done last p = some q →
        RoundsLeft ends least most done p q := by
  intro fuel
  induction fuel with
  | zero =>
      intro done last p h
      simp only [runPossessive, reduceCtorEq] at h
  | succ fuel ih =>
      intro done last p h
      have hmore : ∀ {last : Option Nat} {m : Place}, done < max least most →
          body p some = some m → runPossessive body least most fuel (done + 1) last m = some q →
            RoundsLeft ends least most done p q :=
        fun hdone hrun hrest => (ih hrest).more hdone (hbody.ends_of_some hrun)
      have hstop : least ≤ done → some p = some q → RoundsLeft ends least most done p q := by
        intro hle heq
        rw [← Option.some.inj heq]
        exact RoundsLeft.stop hle
      unfold runPossessive at h
      by_cases hdone : done < least
      · simp only [hdone, if_true] at h
        split at h
        · rename_i m hm
          exact hmore (by omega) hm h
        · simp only [reduceCtorEq] at h
      · simp only [hdone, if_false] at h
        by_cases hgo : done < most ∧ some p.position ≠ last
        · rw [if_pos hgo] at h
          split at h
          · rename_i m hm
            exact hmore (by omega) hm h
          · exact hstop (Nat.not_lt.mp hdone) h
        · rw [if_neg hgo] at h
          exact hstop (Nat.not_lt.mp hdone) h

end Loops

/-! ## Any part -/

theorem run_one_sound (set : CharSet) : Sound (run (.one set)) (Ends (.one set)) := by
  intro p next r h
  unfold run at h
  cases hstep : p.step? with
  | none => simp only [hstep, reduceCtorEq] at h
  | some step =>
      rcases step with ⟨c, q⟩
      by_cases hc : set.holds c = true
      · simp only [hstep, hc, if_true] at h
        exact ⟨q, ⟨c, hstep, hc⟩, h⟩
      · simp only [hstep, hc, Bool.false_eq_true, if_false, reduceCtorEq] at h

theorem run_rounds_sound {greed : Greed} {least most : Nat} {body : Node}
    (hbody : Sound (run body) (Ends body)) :
    Sound (run (.rounds greed least most body)) (Ends (.rounds greed least most body)) := by
  intro p next r h
  -- The rounds of a set have a loop of their own, and those that are not gone back on another.
  by_cases hset : ∃ set, body = .one set
  · rcases hset with ⟨set, rfl⟩
    unfold run at h
    rcases runSet_sound h with ⟨n, q, hn, hn', hq, hr⟩
    exact ⟨q, ⟨n, hn, hn', hq⟩, hr⟩
  · have hother : ∀ set, body = .one set → False := fun set hs => hset ⟨set, hs⟩
    cases greed with
    | possessive =>
        rw [run] at h
        · split at h
          · rename_i q hq
            exact ⟨q, (runPossessive_sound hbody hq).ends_rounds, h⟩
          · simp only [reduceCtorEq] at h
        · exact hother
    | greedy | lazy =>
        rw [run] at h
        · rcases runRounds_sound hbody h with ⟨q, hq, hr⟩
          exact ⟨q, hq.ends_rounds, hr⟩
        · exact hother
        · exact Greed.noConfusion

theorem run_look_sound {negated behind : Bool} {body : Node} (hbody : Sound (run body) (Ends body)) :
    Sound (run (.look negated behind body)) (Ends (.look negated behind body)) := by
  intro p next r h
  unfold run at h
  simp only at h
  split at h
  -- Only a look that is not negated brings groups back from where it went.
  · rename_i q hfound
    split at hfound
    · rename_i start hstart
      exact ⟨_, ⟨start, q, hstart, hbody.ends_of_some hfound, rfl⟩, h⟩
    · simp only [reduceCtorEq] at hfound
  · exact ⟨p, rfl, h⟩
  · simp only [reduceCtorEq] at h

/-- What follows a part starts at a place where the part can end. -/
theorem run_sound (node : Node) : Sound (run node) (Ends node) := by
  induction node with
  | empty =>
      intro p next r h
      exact ⟨p, rfl, h⟩
  | one set => exact run_one_sound set
  | seq a b iha ihb =>
      intro p next r h
      unfold run at h
      rcases iha h with ⟨m, hm, hrest⟩
      rcases ihb hrest with ⟨q, hq, hr⟩
      exact ⟨q, ⟨m, hm, hq⟩, hr⟩
  | alt a b iha ihb =>
      intro p next r h
      unfold run at h
      split at h
      · rename_i hrun
        rcases iha (hrun.trans h) with ⟨q, hq, hr⟩
        exact ⟨q, Or.inl hq, hr⟩
      · rcases ihb h with ⟨q, hq, hr⟩
        exact ⟨q, Or.inr hq, hr⟩
  | group index body ih =>
      intro p next r h
      unfold run at h
      rcases ih h with ⟨m, hm, hrest⟩
      exact ⟨_, ⟨m, hm, rfl⟩, hrest⟩
  | rounds greed least most body ih => exact run_rounds_sound ih
  | atomic body ih =>
      intro p next r h
      unfold run at h
      split at h
      · rename_i q hq
        exact ⟨q, ih.ends_of_some hq, h⟩
      · simp only [reduceCtorEq] at h
  -- Nothing is said about the end of a negated look but that it does not move.
  | look negated behind body ih => exact run_look_sound ih
  | again group rule width =>
      intro p next r h
      unfold run at h
      split at h
      · rename_i text htext
        split at h
        · rename_i q hq
          exact ⟨q, ⟨text, htext, hq⟩, h⟩
        · simp only [reduceCtorEq] at h
      · simp only [reduceCtorEq] at h
  | choice group yes no ihyes ihno =>
      intro p next r h
      unfold run at h
      by_cases hgroup : (p.capture? group).isSome = true
      · rw [if_pos hgroup] at h
        rcases ihyes h with ⟨q, hq, hr⟩
        exact ⟨q, by simpa only [Ends, if_pos hgroup] using hq, hr⟩
      · rw [if_neg hgroup] at h
        rcases ihno h with ⟨q, hq, hr⟩
        exact ⟨q, by simpa only [Ends, if_neg hgroup] using hq, hr⟩
  | anchor a =>
      intro p next r h
      unfold run at h
      by_cases ha : a.holds p = true
      · rw [if_pos ha] at h
        exact ⟨p, ⟨ha, rfl⟩, h⟩
      · rw [if_neg ha] at h
        simp only [reduceCtorEq] at h

/-! ## A search -/

theorem searchFrom_sound {node : Node} {q : Place} (after : List Char) :
    ∀ {n : Nat} {before : List Char}, searchFrom node n before after = some q →
      ∃ p, p.captures = [] ∧ p.before.reverse ++ p.after = before.reverse ++ after ∧
        Ends node p q := by
  induction after with
  | nil =>
      intro n before h
      exact ⟨_, rfl, rfl, (run_sound node).ends_of_some h⟩
  | cons c r ih =>
      intro n before h
      unfold searchFrom at h
      split at h
      · rename_i q' hq'
        rw [Option.some.inj h] at hq'
        exact ⟨_, rfl, rfl, (run_sound node).ends_of_some hq'⟩
      · -- No match begins here, so the search goes on one character further.
        rcases ih h with ⟨p, hp, htext, hends⟩
        rw [List.reverse_cons, List.append_assoc] at htext
        exact ⟨p, hp, htext, hends⟩

/-- The groups of a match are those of a place where the pattern can end, begun at some place of the
    text. -/
theorem search_sound {pattern : Pattern} {s : String} {groups : List (Option String)}
    (h : pattern.search s = some groups) :
    ∃ p q, p.captures = [] ∧ p.before.reverse ++ p.after = s.toList ∧ Ends pattern.node p q ∧
      groups = (List.range pattern.groups).map fun i => (q.capture? (i + 1)).map String.ofList := by
  unfold Pattern.search at h
  rw [Option.map_eq_some_iff] at h
  rcases h with ⟨q, hq, hgroups⟩
  rcases searchFrom_sound _ hq with ⟨p, hp, htext, hends⟩
  exact ⟨p, q, hp, htext, hends, hgroups.symm⟩

end Assay.Pattern
