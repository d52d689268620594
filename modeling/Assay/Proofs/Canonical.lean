import Mathlib
import Assay.Json.Reading
import Assay.Proofs.Text
import Assay.Review.Verdict

/-!
# Canonical texts

Content hashes are taken of canonical texts, so two records with one canonical text could not be
told apart by their hashes, whatever the hash function does. They cannot have one: a canonical text
is read back as the document that it writes, with the members of each object in order, and from the
document of a record or a verdict everything in it can be read off.

The reader keeps the collections that are still open on a stack and goes on with what follows a
finished part. So what it does with a written document is stated for any stack and any text behind
it: after some steps it has that document in hand and the text behind it before it. The number of
steps only has to stay within the number that the reader allows itself for the length of the text.

Numbers are left out. No record and no verdict holds one.

## Main definitions

* `Json.ordered`: A document with the members of its objects in order.
* `Json.Plain`: A document without numbers, and with each name once in an object.
* `Json.ReadsBack`: The reader comes from the text of a document to the document.

## Theorems

* `Json.readText_escaped`: A string is read back.
* `Json.Plain.readsBack`: The text of a plain document is read back, whatever stands around it.
* `Json.read?_canonical`: A plain document is read back from its canonical text.
* `canonical_eq_iff`: Canonical texts of records are equal just where the records are, and so are those
  of verdicts.
-/

namespace Assay

open Text

namespace Json

/-! ## Strings -/

theorem readUnit_hexadecimal {n : Nat} (h : n < 32) (cs : List Char) :
    readUnit (hexadecimal 4 n ++ cs) = some (n, cs) := by
  interval_cases n <;> rfl

/-- A character that is written as it is, is read as it is. -/
theorem readText_plain (fuel : Nat) (read : List Char) {c : Char} (hquote : c ≠ '"')
    (hslash : c ≠ '\\') (hlow : ¬ c.toNat < 32) (cs : List Char) :
    readText (fuel + 1) read (c :: cs) = readText fuel (c :: read) cs := by
  rw [readText, if_neg hlow]
  · exact hquote
  · exact fun _ h _ => hslash h
  · exact fun _ _ h _ => hslash h

/-- The reader undoes the escape of one character. -/
theorem readText_escapeChar (fuel : Nat) (read : List Char) (c : Char) (cs : List Char) :
    readText (fuel + 1) read (escapeChar false c ++ cs) = readText fuel (c :: read) cs := by
  by_cases hshort : c ∈ ['"', '\\', '\n', '\r', '\t', '\x0c', '\x08']
  · simp only [List.mem_cons, List.not_mem_nil, or_false] at hshort
    rcases hshort with rfl | rfl | rfl | rfl | rfl | rfl | rfl <;> rfl
  · simp only [List.mem_cons, List.not_mem_nil, or_false, not_or] at hshort
    have hnone : shortEscape? c = none := by
      unfold shortEscape?
      split <;> simp_all
    simp only [escapeChar, hnone, Bool.false_and, Bool.false_eq_true, if_false]
    by_cases hlow : c.toNat < 32
    · -- The escape of a control character names its code point, which is no half of a pair.
      have hlead : ¬ (0xD800 ≤ c.toNat ∧ c.toNat ≤ 0xDBFF) := by omega
      have htrail : ¬ (0xDC00 ≤ c.toNat ∧ c.toNat ≤ 0xDFFF) := by omega
      rw [if_pos hlow, escapeUnit, List.cons_append, List.cons_append, readText,
        readUnit_hexadecimal hlow]
      simp only [hlead, htrail, if_false, Char.ofNat_toNat]
    · rw [if_neg hlow, List.singleton_append]
      exact readText_plain fuel read hshort.1 hshort.2.1 hlow cs

/-- A string is read back up to its closing quote, whatever follows. -/
theorem readText_escaped {cs : List Char} {fuel : Nat} (h : cs.length < fuel) (read rest : List Char) :
    readText fuel read (cs.flatMap (escapeChar false) ++ '"' :: rest) =
      some (String.ofList (read.reverse ++ cs), rest) := by
  induction cs generalizing fuel read with
  | nil =>
      rcases fuel with _ | fuel
      · cases h
      · rw [List.append_nil]
        rfl
  | cons c cs ih =>
      rcases fuel with _ | fuel
      · cases h
      · rw [List.flatMap_cons, List.append_assoc, readText_escapeChar,
          ih (Nat.lt_of_succ_lt_succ h), List.reverse_cons, List.append_assoc, List.singleton_append]

theorem escapeChar_ne_nil (ascii : Bool) (c : Char) : escapeChar ascii c ≠ [] := by
  unfold escapeChar
  split
  · exact List.cons_ne_nil _ _
  · split
    · exact List.cons_ne_nil _ _
    · split
      · unfold escapeUnits
        split <;> exact List.cons_ne_nil _ _
      · exact List.cons_ne_nil _ _

theorem length_le_escaped (cs : List Char) : cs.length ≤ (cs.flatMap (escapeChar false)).length := by
  induction cs with
  | nil => exact Nat.le_refl 0
  | cons c cs ih =>
      have hc : 0 < (escapeChar false c).length := List.length_pos_iff.mpr (escapeChar_ne_nil false c)
      rw [List.flatMap_cons, List.length_append, List.length_cons]
      omega

/-- The reader allows itself enough steps for the string that it has before it. -/
theorem readText_written (s : String) (rest : List Char) :
    readText ((s.toList.flatMap (escapeChar false) ++ '"' :: rest).length + 1) []
      (s.toList.flatMap (escapeChar false) ++ '"' :: rest) = some (s, rest) := by
  have hfuel : s.toList.length < (s.toList.flatMap (escapeChar false) ++ '"' :: rest).length + 1 := by
    have hlength := length_le_escaped s.toList
    rw [List.length_append]
    omega
  rw [readText_escaped hfuel, List.reverse_nil, List.nil_append, String.ofList_toList]

/-! ## Texts of documents -/

/-- The characters of the canonical text of a document. -/
def chars (j : Json) : List Char :=
  j.canonical.toList

/-- The characters of a member in the canonical text of an object. -/
def memberChars (m : String × Json) : List Char :=
  (quoted false m.1).toList ++ ':' :: m.2.chars

mutual

/-- A document with the members of its objects in order. -/
def ordered : Json → Json
  | array items => array (orderedItems items)
  | object members => object (sortMembers (orderedMembers members))
  | null => null
  | bool b => bool b
  | int n => int n
  | float x => float x
  | text s => text s

/-- The items of an array, with the members of their objects in order. -/
def orderedItems : List Json → List Json
  | [] => []
  | j :: js => ordered j :: orderedItems js

/-- The members of an object as they stand, with those of the objects in them in order. -/
def orderedMembers : List (String × Json) → List (String × Json)
  | [] => []
  | (name, j) :: rest => (name, ordered j) :: orderedMembers rest

end

theorem orderedItems_eq_map (items : List Json) : orderedItems items = items.map ordered := by
  induction items with
  | nil => rfl
  | cons j js ih => rw [orderedItems, ih, List.map_cons]

theorem orderedMembers_eq_map (members : List (String × Json)) :
    orderedMembers members = members.map fun m => (m.1, m.2.ordered) := by
  induction members with
  | nil => rfl
  | cons m rest ih => rw [orderedMembers, ih, List.map_cons]

theorem writeItems_eq_map (ascii : Bool) (comma colon : String) (items : List Json) :
    writeItems ascii comma colon items = items.map (write ascii comma colon) := by
  induction items with
  | nil => rfl
  | cons j js ih => rw [writeItems, ih, List.map_cons]

theorem writeMembers_eq_map (ascii : Bool) (comma colon : String) (members : List (String × Json)) :
    writeMembers ascii comma colon members = members.map fun m => (m.1, write ascii comma colon m.2) := by
  induction members with
  | nil => rfl
  | cons m rest ih => rw [writeMembers, ih, List.map_cons]

/-- Members keep their order whatever is done to what they hold. -/
theorem sortMembers_map {α β : Type} (f : α → β) (members : List (String × α)) :
    sortMembers (members.map fun m => (m.1, f m.2)) =
      (sortMembers members).map fun m => (m.1, f m.2) := by
  unfold sortMembers
  rw [List.map_mergeSort]
  exact fun _ _ _ _ => rfl

theorem toList_quoted (s : String) :
    (quoted false s).toList = '"' :: (s.toList.flatMap (escapeChar false) ++ ['"']) :=
  String.toList_ofList

theorem chars_text (s : String) : (text s).chars = (quoted false s).toList := rfl

theorem chars_array_cons (j : Json) (items : List Json) :
    (array (j :: items)).chars =
      '[' :: (j.chars ++ (items.flatMap (fun x => ',' :: x.chars) ++ [']'])) := by
  have hwrite : (array (j :: items)).canonical = "[" ++ String.intercalate ","
      ((j :: items).map fun x => x.canonical) ++ "]" := by
    rw [canonical, write, writeItems_eq_map]
    rfl
  rw [chars, hwrite, String.toList_append, String.toList_append, String.toList_intercalate,
    List.map_map, List.map_cons, intercalate_cons_eq, List.flatMap_map]
  simp [chars]

theorem chars_object_nil : (object []).chars = ['\x7b', '\x7d'] := by
  rw [chars, canonical, write, writeMembers, sortMembers, List.mergeSort_nil]
  rfl

theorem chars_object_cons {members : List (String × Json)} {m : String × Json}
    {rest : List (String × Json)} (h : sortMembers members = m :: rest) :
    (object members).chars =
      '\x7b' :: (memberChars m ++ (rest.flatMap (fun x => ',' :: memberChars x) ++ ['\x7d'])) := by
  have hwrite : (object members).canonical = "\x7b" ++ String.intercalate ","
      ((m :: rest).map fun x => quoted false x.1 ++ ":" ++ x.2.canonical) ++ "\x7d" := by
    rw [canonical, write, writeMembers_eq_map, sortMembers_map, h, List.map_map]
    rfl
  rw [chars, hwrite, String.toList_append, String.toList_append, String.toList_intercalate,
    List.map_map, List.map_cons, intercalate_cons_eq, List.flatMap_map]
  simp [memberChars, chars]

/-! ## Reading documents -/

theorem skip_cons {c : Char} (h : isSpace c = false) (cs : List Char) : skip (c :: cs) = c :: cs :=
  List.dropWhile_cons_of_neg (by rw [h]; exact Bool.false_ne_true)

/-- The reader comes from the text of a document to the document with its members in order. It begins
    at the first character, which closes no collection, and takes fewer than two steps for each
    character. -/
structure ReadsBack (j : Json) : Prop where
  start : ∃ c cs, j.chars = c :: cs ∧ isSpace c = false ∧ c ≠ ']'
  steps : ∃ n, n < 2 * j.chars.length ∧ ∀ fuel outer rest,
    readDocument (n + fuel) outer (j.chars ++ rest) = finish fuel outer j.ordered rest

theorem ReadsBack.skip_eq {j : Json} (h : j.ReadsBack) (rest : List Char) :
    skip (j.chars ++ rest) = j.chars ++ rest := by
  rcases h.start with ⟨c, cs, hchars, hspace, -⟩
  rw [hchars, List.cons_append, skip_cons hspace]

/-- The name of a written member is read, and the colon after it. -/
theorem readName_member {m : String × Json} (h : m.2.ReadsBack) (rest : List Char) :
    readName (memberChars m ++ rest) = some (m.1, m.2.chars ++ rest) := by
  have hname : memberChars m ++ rest =
      '"' :: (m.1.toList.flatMap (escapeChar false) ++ '"' :: (':' :: (m.2.chars ++ rest))) := by
    simp [memberChars, toList_quoted]
  rw [hname, readName, readText_written]
  simp only [skip_cons (show isSpace ':' = false by decide), h.skip_eq]

/-- The rest of an array is read item by item, up to its closing bracket. -/
theorem finish_items {items : List Json} (h : ∀ j ∈ items, j.ReadsBack) :
    ∃ n, n ≤ 2 * (items.flatMap fun x => ',' :: x.chars).length + 1 ∧
      ∀ fuel outer done j rest,
        finish (n + fuel) (.array done :: outer) j
            (items.flatMap (fun x => ',' :: x.chars) ++ ']' :: rest) =
          finish fuel outer (.array (done.reverse ++ j :: items.map ordered)) rest := by
  induction items with
  | nil =>
      refine ⟨1, Nat.le_refl 1, fun fuel outer done j rest => ?_⟩
      rw [Nat.add_comm, List.flatMap_nil, List.nil_append, finish,
        skip_cons (show isSpace ']' = false by decide)]
      simp
  | cons x items ih =>
      rcases (h x List.mem_cons_self).steps with ⟨n, hn, hread⟩
      rcases ih fun j hj => h j (List.mem_cons_of_mem x hj) with ⟨k, hk, hrest⟩
      refine ⟨1 + n + k, ?_, fun fuel outer done j rest => ?_⟩
      · simp only [List.flatMap_cons, List.length_append, List.length_cons] at hk ⊢
        omega
      · -- One step over the comma, those for the item, and those for what follows it.
        rw [show 1 + n + k + fuel = n + (k + fuel) + 1 by omega, List.flatMap_cons, List.cons_append,
          List.cons_append, finish, skip_cons (show isSpace ',' = false by decide)]
        simp only [List.append_assoc]
        rw [(h x List.mem_cons_self).skip_eq, hread, hrest, List.reverse_cons, List.append_assoc,
          List.map_cons, List.singleton_append]

/-- The rest of an object is read member by member, up to its closing brace. -/
theorem finish_members {members : List (String × Json)} (h : ∀ m ∈ members, m.2.ReadsBack) :
    ∃ n, n ≤ 2 * (members.flatMap fun x => ',' :: memberChars x).length + 1 ∧
      ∀ fuel outer done name j rest,
        finish (n + fuel) (.object done name :: outer) j
            (members.flatMap (fun x => ',' :: memberChars x) ++ '\x7d' :: rest) =
          finish fuel outer (.object (closeMembers
            ((members.map fun m => (m.1, m.2.ordered)).reverse ++ (name, j) :: done))) rest := by
  induction members with
  | nil =>
      refine ⟨1, Nat.le_refl 1, fun fuel outer done name j rest => ?_⟩
      rw [Nat.add_comm, List.flatMap_nil, List.nil_append, finish,
        skip_cons (show isSpace '\x7d' = false by decide)]
      rfl
  | cons x members ih =>
      rcases (h x List.mem_cons_self).steps with ⟨n, hn, hread⟩
      rcases ih fun m hm => h m (List.mem_cons_of_mem x hm) with ⟨k, hk, hrest⟩
      refine ⟨1 + n + k, ?_, fun fuel outer done name j rest => ?_⟩
      · simp only [List.flatMap_cons, List.length_append, List.length_cons, memberChars] at hk ⊢
        omega
      · -- A member begins with the quotation mark of its name, so no space is skipped behind the comma.
        have hspace : skip (memberChars x ++ (members.flatMap (fun x => ',' :: memberChars x) ++
            '\x7d' :: rest)) = memberChars x ++ (members.flatMap (fun x => ',' :: memberChars x) ++
              '\x7d' :: rest) := by
          rw [memberChars, toList_quoted]
          exact skip_cons (by decide) _
        rw [show 1 + n + k + fuel = n + (k + fuel) + 1 by omega, List.flatMap_cons, List.cons_append,
          List.cons_append, finish, skip_cons (show isSpace ',' = false by decide)]
        simp only [List.append_assoc]
        rw [hspace, readName_member (h x List.mem_cons_self)]
        simp only
        rw [hread, hrest]
        simp

/-! ## Plain documents -/

/-- A document without numbers, and with each name once in an object. -/
inductive Plain : Json → Prop
  | null : Plain null
  | bool (b : Bool) : Plain (bool b)
  | text (s : String) : Plain (text s)
  | array {items : List Json} (h : ∀ j ∈ items, Plain j) : Plain (array items)
  | object {members : List (String × Json)} (names : (members.map Prod.fst).Nodup)
      (h : ∀ m ∈ members, Plain m.2) : Plain (object members)

/-- A member with a name of its own goes to the end. -/
theorem putMember_of_notMem {name : String} {members : List (String × Json)} (j : Json)
    (h : name ∉ members.map Prod.fst) : putMember name j members = members ++ [(name, j)] := by
  induction members with
  | nil => rfl
  | cons m rest ih =>
      rw [List.map_cons, List.mem_cons, not_or] at h
      rw [putMember, if_neg (Ne.symm h.1), ih h.2, List.cons_append]

theorem foldl_putMember {front rest : List (String × Json)}
    (h : ((front ++ rest).map Prod.fst).Nodup) :
    rest.foldl (fun ms m => putMember m.1 m.2 ms) front = front ++ rest := by
  induction rest generalizing front with
  | nil => simp
  | cons m rest ih =>
      have hnew : m.1 ∉ front.map Prod.fst := by
        rw [List.map_append, List.map_cons] at h
        exact fun hmem => (List.nodup_append.mp h).2.2 _ hmem _ List.mem_cons_self rfl
      have hput : putMember m.1 m.2 front = front ++ [m] := putMember_of_notMem m.2 hnew
      rw [List.foldl_cons, hput, ih (by simpa using h), List.append_assoc, List.singleton_append]

/-- Members of different names are those that were read, in the order in which they stand. -/
theorem closeMembers_reverse {members : List (String × Json)} (h : (members.map Prod.fst).Nodup) :
    closeMembers members.reverse = members := by
  rw [closeMembers, List.reverse_reverse]
  exact @foldl_putMember [] members h

theorem sortMembers_perm {α : Type} (members : List (String × α)) :
    (sortMembers members).Perm members :=
  List.mergeSort_perm members _

theorem readDocument_array (fuel : Nat) (outer : List Open) {c : Char} (hspace : isSpace c = false)
    (hclose : c ≠ ']') (cs : List Char) :
    readDocument (fuel + 1) outer ('[' :: c :: cs) =
      readDocument fuel (.array [] :: outer) (c :: cs) := by
  rw [readDocument, skip_cons hspace]
  split
  · rename_i heq
    exact absurd (List.cons.inj heq).1 hclose
  · rfl

theorem readDocument_object (fuel : Nat) (outer : List Open) {m : String × Json}
    (h : m.2.ReadsBack) (cs : List Char) :
    readDocument (fuel + 1) outer ('\x7b' :: (memberChars m ++ cs)) =
      readDocument fuel (.object [] m.1 :: outer) (m.2.chars ++ cs) := by
  have hquote : memberChars m ++ cs = '"' :: (m.1.toList.flatMap (escapeChar false) ++
      '"' :: ':' :: (m.2.chars ++ cs)) := by
    simp [memberChars, toList_quoted]
  rw [readDocument, hquote, skip_cons (by decide), ← hquote]
  split
  · rename_i heq
    rw [hquote] at heq
    cases heq
  · rw [readName_member h]

theorem readsBack_text (s : String) : (text s).ReadsBack := by
  have hchars := (chars_text s).trans (toList_quoted s)
  refine ⟨⟨'"', _, hchars, by decide, by decide⟩, 1, ?_, fun fuel outer rest => ?_⟩
  · rw [hchars, List.length_cons]
    omega
  · rw [Nat.add_comm, hchars, List.cons_append, List.append_assoc, List.singleton_append,
      readDocument, readText_written]
    rfl

theorem readsBack_array {items : List Json} (h : ∀ j ∈ items, j.ReadsBack) :
    (array items).ReadsBack := by
  cases items with
  | nil => exact ⟨⟨'[', _, rfl, by decide, by decide⟩, 1, by decide, fun fuel outer rest => by
      rw [Nat.add_comm]; rfl⟩
  | cons x items =>
      have hx := h x List.mem_cons_self
      rcases hx.start with ⟨c, cs, hc, hspace, hclose⟩
      rcases hx.steps with ⟨n, hn, hread⟩
      rcases finish_items fun j hj => h j (List.mem_cons_of_mem x hj) with ⟨k, hk, hrest⟩
      -- One step into the array, those for the first item, and those up to its end.
      refine ⟨⟨'[', _, chars_array_cons x items, by decide, by decide⟩, 1 + n + k, ?_,
        fun fuel outer rest => ?_⟩
      · rw [chars_array_cons]
        simp only [List.length_cons, List.length_append, List.length_nil]
        omega
      · have hopen : readDocument (n + (k + fuel) + 1) outer ((array (x :: items)).chars ++ rest) =
            readDocument (n + (k + fuel)) (.array [] :: outer) (x.chars ++
              (items.flatMap (fun x => ',' :: x.chars) ++ ']' :: rest)) := by
          rw [chars_array_cons, hc]
          simp only [List.cons_append, List.append_assoc, List.nil_append]
          exact readDocument_array _ _ hspace hclose _
        rw [show 1 + n + k + fuel = n + (k + fuel) + 1 by omega, hopen, hread, hrest, ordered,
          orderedItems_eq_map]
        rfl

theorem readsBack_object {members : List (String × Json)} (names : (members.map Prod.fst).Nodup)
    (h : ∀ m ∈ members, m.2.ReadsBack) : (object members).ReadsBack := by
  have hsorted := sortMembers_perm members
  rcases hmembers : sortMembers members with _ | ⟨m, others⟩
  · rw [hmembers] at hsorted
    rw [hsorted.symm.eq_nil]
    refine ⟨⟨'\x7b', _, chars_object_nil, by decide, by decide⟩, 1, ?_, fun fuel outer rest => ?_⟩
    · rw [chars_object_nil]
      decide
    · rw [Nat.add_comm, chars_object_nil, ordered, orderedMembers, sortMembers, List.mergeSort_nil]
      rfl
  · rw [hmembers] at hsorted
    have hback : ∀ x ∈ m :: others, x.2.ReadsBack := fun x hx => h x (hsorted.mem_iff.mp hx)
    have hm := hback m List.mem_cons_self
    rcases hm.steps with ⟨n, hn, hread⟩
    rcases finish_members fun x hx => hback x (List.mem_cons_of_mem m hx) with ⟨k, hk, hrest⟩
    refine ⟨⟨'\x7b', _, chars_object_cons hmembers, by decide, by decide⟩, 1 + n + k, ?_,
      fun fuel outer rest => ?_⟩
    · rw [chars_object_cons hmembers, memberChars]
      simp only [List.length_cons, List.length_append, List.length_nil]
      omega
    · have hopen : readDocument (n + (k + fuel) + 1) outer ((object members).chars ++ rest) =
          readDocument (n + (k + fuel)) (.object [] m.1 :: outer) (m.2.chars ++
            (others.flatMap (fun x => ',' :: memberChars x) ++ '\x7d' :: rest)) := by
        rw [chars_object_cons hmembers]
        simp only [List.cons_append, List.append_assoc, List.nil_append]
        exact readDocument_object _ _ hm _
      -- The members come back in the order of the text, which is that of their names.
      have hnames : (((m :: others).map fun x => (x.1, x.2.ordered)).map Prod.fst).Nodup := by
        rw [List.map_map]
        exact (hsorted.map Prod.fst).nodup_iff.mpr names
      have hclosed : closeMembers ((others.map fun x => (x.1, x.2.ordered)).reverse ++
          [(m.1, m.2.ordered)]) = (m :: others).map fun x => (x.1, x.2.ordered) := by
        rw [← closeMembers_reverse hnames, List.map_cons, List.reverse_cons]
      rw [show 1 + n + k + fuel = n + (k + fuel) + 1 by omega, hopen, hread, hrest, hclosed, ordered,
        orderedMembers_eq_map, sortMembers_map, hmembers]

/-- The text of a plain document is read back, whatever stands around it. -/
theorem Plain.readsBack {j : Json} (h : j.Plain) : j.ReadsBack := by
  induction h with
  | null => exact ⟨⟨'n', _, rfl, by decide, by decide⟩, 1, by decide, fun fuel outer rest => by
      rw [Nat.add_comm]; rfl⟩
  | bool b =>
      cases b with
      | false => exact ⟨⟨'f', _, rfl, by decide, by decide⟩, 1, by decide, fun fuel outer rest => by
          rw [Nat.add_comm]; rfl⟩
      | true => exact ⟨⟨'t', _, rfl, by decide, by decide⟩, 1, by decide, fun fuel outer rest => by
          rw [Nat.add_comm]; rfl⟩
  | text s => exact readsBack_text s
  | array _ ih => exact readsBack_array ih
  | object names _ ih => exact readsBack_object names ih

/-- A plain document is read back from its canonical text, with the members of its objects in
    order. -/
theorem read?_canonical {j : Json} (h : j.Plain) : read? j.canonical = some j.ordered := by
  rcases h.readsBack.steps with ⟨n, hn, hread⟩
  have hskip : skip j.canonical.toList = j.chars := by
    have hskip := h.readsBack.skip_eq []
    rwa [List.append_nil] at hskip
  have hdocument : readDocument (2 * j.chars.length + 2) [] j.chars = some (j.ordered, []) := by
    rcases Nat.exists_eq_add_of_lt hn with ⟨spare, hspare⟩
    have hsteps := hread (spare + 3) [] []
    rw [List.append_nil] at hsteps
    rw [show 2 * j.chars.length + 2 = n + (spare + 3) by omega, hsteps]
    rfl
  unfold read?
  simp only [hskip, hdocument]
  rfl

theorem ordered_eq_of_canonical {j k : Json} (hj : j.Plain) (hk : k.Plain)
    (h : j.canonical = k.canonical) : j.ordered = k.ordered := by
  have hread : some j.ordered = some k.ordered := by
    rw [← read?_canonical hj, ← read?_canonical hk, h]
  exact Option.some.inj hread

end Json

/-! ## Records and verdicts -/

theorem StepStatus.word_injective {a b : StepStatus} (h : a.word = b.word) : a = b := by
  cases a <;> cases b <;> simp_all [word]

theorem VerdictState.word_injective {a b : VerdictState} (h : a.word = b.word) : a = b := by
  cases a <;> cases b <;> simp_all [word]

/-- The data of a message: its text, or nothing where there is none. -/
theorem message_injective {a b : Option String}
    (h : (a.map Json.text).getD .null = (b.map Json.text).getD .null) : a = b := by
  cases a <;> cases b <;> simp_all

theorem texts_injective {a b : List String} (h : Json.texts a = Json.texts b) : a = b := by
  rw [Json.texts, Json.texts, Json.array.injEq] at h
  exact List.map_injective_iff.mpr (fun _ _ hjson => Json.text.inj hjson) h

/-! The documents of records and verdicts are plain. -/

theorem StepResult.plain_toJson (s : StepResult) : s.toJson.Plain := by
  refine .object (by simp) ?_
  simp only [List.forall_mem_cons, List.not_mem_nil, false_implies, implies_true, and_true]
  refine ⟨.text _, .text _, ?_⟩
  cases s.message with
  | none => exact .null
  | some message => exact .text message

theorem ScenarioResult.plain_toJson (s : ScenarioResult) : s.toJson.Plain := by
  refine .object (by simp) ?_
  simp only [List.forall_mem_cons, List.not_mem_nil, false_implies, implies_true, and_true]
  exact ⟨.text _, .text _, .array (List.forall_mem_map.mpr fun step _ => step.plain_toJson)⟩

theorem RunRecord.plain_toJson (r : RunRecord) : r.toJson.Plain := by
  refine .object (by simp) ?_
  rw [List.forall_mem_singleton]
  exact .array (List.forall_mem_map.mpr fun s _ => s.plain_toJson)

theorem Verdict.plain_toJson (v : Verdict) : v.toJson.Plain := by
  refine .object (by simp) ?_
  simp only [List.forall_mem_cons, List.not_mem_nil, false_implies, implies_true, and_true]
  exact ⟨.text _, .array (List.forall_mem_map.mpr fun _ _ => .text _), .text _⟩

/-! Everything in a record or a verdict can be read off its document, whose objects have their members
in the order of the names. -/

theorem StepResult.ordered_toJson (s : StepResult) : s.toJson.ordered =
    .object [("message", (s.message.map Json.text).getD .null), ("status", .text s.status.word),
      ("text", .text s.text)] := by
  have hmessage : ((s.message.map Json.text).getD .null).ordered =
      (s.message.map Json.text).getD .null := by
    cases s.message <;> rfl
  simp [toJson, Json.ordered, Json.orderedMembers, Json.sortMembers, List.mergeSort,
    List.MergeSort.Internal.splitInTwo, hmessage]

theorem ScenarioResult.ordered_toJson (s : ScenarioResult) : s.toJson.ordered =
    .object [("description", .text s.description), ("name", .text s.name),
      ("steps", .array (s.steps.map fun step => step.toJson.ordered))] := by
  simp [toJson, Json.ordered, Json.orderedMembers, Json.orderedItems_eq_map, Json.sortMembers,
    List.mergeSort, List.MergeSort.Internal.splitInTwo]

theorem RunRecord.ordered_toJson (r : RunRecord) : r.toJson.ordered =
    .object [("scenarios", .array (r.scenarios.map fun s => s.toJson.ordered))] := by
  simp [toJson, Json.ordered, Json.orderedMembers, Json.orderedItems_eq_map, Json.sortMembers]

theorem Verdict.ordered_toJson (v : Verdict) : v.toJson.ordered = v.toJson := by
  simp [toJson, Json.ordered, Json.orderedMembers, Json.orderedItems_eq_map, Json.sortMembers,
    Json.texts, List.mergeSort, List.MergeSort.Internal.splitInTwo]

theorem StepResult.ordered_injective {a b : StepResult} (h : a.toJson.ordered = b.toJson.ordered) :
    a = b := by
  simp only [ordered_toJson, Json.object.injEq, List.cons.injEq, Prod.mk.injEq, Json.text.injEq,
    true_and, and_true] at h
  rcases a with ⟨text, status, message⟩
  rcases b with ⟨text', status', message'⟩
  rcases h with ⟨hmessage, hstatus, rfl⟩
  cases message_injective hmessage
  cases StepStatus.word_injective hstatus
  rfl

theorem ScenarioResult.ordered_injective {a b : ScenarioResult}
    (h : a.toJson.ordered = b.toJson.ordered) : a = b := by
  simp only [ordered_toJson, Json.object.injEq, List.cons.injEq, Prod.mk.injEq, Json.text.injEq,
    Json.array.injEq, true_and, and_true] at h
  rcases a with ⟨name, description, steps⟩
  rcases b with ⟨name', description', steps'⟩
  rcases h with ⟨rfl, rfl, hsteps⟩
  cases List.map_injective_iff.mpr (fun _ _ hstep => StepResult.ordered_injective hstep) hsteps
  rfl

theorem RunRecord.ordered_injective {a b : RunRecord} (h : a.toJson.ordered = b.toJson.ordered) :
    a = b := by
  simp only [ordered_toJson, Json.object.injEq, List.cons.injEq, Prod.mk.injEq, Json.array.injEq,
    true_and, and_true] at h
  rcases a with ⟨scenarios⟩
  rcases b with ⟨scenarios'⟩
  cases List.map_injective_iff.mpr (fun _ _ hs => ScenarioResult.ordered_injective hs) h
  rfl

theorem Verdict.toJson_injective {v w : Verdict} (h : v.toJson = w.toJson) : v = w := by
  simp only [toJson, Json.object.injEq, List.cons.injEq, Prod.mk.injEq, Json.text.injEq, true_and,
    and_true] at h
  rcases v with ⟨comment, labels, state⟩
  rcases w with ⟨comment', labels', state'⟩
  rcases h with ⟨rfl, hlabels, hstate⟩
  cases texts_injective hlabels
  cases VerdictState.word_injective hstate
  rfl

/-- Canonical texts of records are equal just where the records are, and so are those of verdicts.
    Two that differ are never hashed from one text. -/
theorem canonical_eq_iff : (∀ a b : RunRecord, a.canonical = b.canonical ↔ a = b) ∧
    (∀ v w : Verdict, v.toJson.canonical = w.toJson.canonical ↔ v = w) := by
  constructor
  · intro a b
    refine ⟨fun h => RunRecord.ordered_injective ?_, fun h => h ▸ rfl⟩
    exact Json.ordered_eq_of_canonical a.plain_toJson b.plain_toJson h
  · intro v w
    refine ⟨fun h => Verdict.toJson_injective ?_, fun h => h ▸ rfl⟩
    rw [← v.ordered_toJson, ← w.ordered_toJson]
    exact Json.ordered_eq_of_canonical v.plain_toJson w.plain_toJson h

end Assay
