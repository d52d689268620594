import Assay.Proofs.Disorder
import Assay.Proofs.Filling
import Assay.Proofs.List

/-!
# Scripts

What a document compiles to, and when it does. A document is a script if it has the shape of one; then it
holds templates, and each of them stands for its wordings, one for each of its examples or the one that it
has itself. A wording becomes a scenario when each of its steps asks for a check.

There is no compiling in part. Every template has to have its wordings, and every step of every wording has
to be bound, or no scenario comes out at all. What keeps a step from being bound is reported, with one
exception: the first pattern whose reading breaks off breaks off all of it.

## Main definitions

* `Script.IsExample`, `Script.IsTemplate`, `Script.IsScript`: What a document holds.
* `Template.HasColumns`: Every example of a template has the columns that its texts mention.
* `Template.HasWordings`: What a template stands for.
* `Wording.Binds`: The scenario with some texts.
* `Template.Yields`: The scenarios of a template.
* `Script.BreaksOff`: Templates that break the compiling off.

## Theorems

* `Script.isScript_iff`: The documents that have the shape of a script.
* `Template.exists_hasWordings_iff`: A template has its wordings where its examples have the columns.
* `Script.ofValue_exact`: What a document compiles to.
-/

namespace Assay

/-! ## Documents -/

namespace Schema

theorem fieldsFit_iff {fields : List (String × Schema)} {entries : List (Value × Value)} :
    FieldsFit fields entries ↔ ∀ field ∈ fields, ∀ value,
      Value.lookupText field.1 entries = some value → Fits field.2 value := by
  induction fields with
  | nil => simp [FieldsFit]
  | cons field rest ih => rw [FieldsFit, ih, List.forall_mem_cons]

/-- The documents that have the shape of a record without further fields. -/
theorem fits_record_toValue_iff {required : List String} {fields : List (String × Schema)} {j : Json} :
    Fits (.record true required fields) j.toValue ↔
      (∃ members, j = .object members ∧ ∀ m ∈ members, m.1 ∈ fields.map Prod.fst) ∧
        (∀ name ∈ required, j.member? name ≠ none) ∧
          ∀ field ∈ fields, ∀ value, j.member? field.1 = some value → Fits field.2 value.toValue := by
  have hfield : ∀ name, j.toValue.field? name = (j.member? name).map Json.toValue := j.field?_toValue
  constructor
  · rintro ⟨entries, hmap, hrequired, hclosed, hfields⟩
    -- A document with the value of a mapping is an object, and its members are the entries.
    rcases Json.toValue_eq_map_iff.mp hmap with ⟨members, rfl, rfl⟩
    simp only [hmap, Value.field?] at hfield
    refine ⟨⟨members, rfl, fun m hm => ?_⟩, fun name hname => ?_, fun field hmem value hvalue => ?_⟩
    · simpa [isNamed] using hclosed rfl _ (List.mem_map_of_mem hm)
    · have := hrequired name hname
      rwa [hfield, ne_eq, Option.map_eq_none_iff] at this
    · refine fieldsFit_iff.mp hfields field hmem _ ?_
      rw [hfield, hvalue, Option.map_some]
  · rintro ⟨⟨members, rfl, hnames⟩, hrequired, hfields⟩
    rcases Json.toValue_eq_map_iff.mpr ⟨members, rfl, rfl⟩ with hmap
    simp only [hmap, Value.field?] at hfield
    refine ⟨_, hmap, fun name hname => ?_, fun _ e he => ?_, fieldsFit_iff.mpr fun field hmem value hvalue => ?_⟩
    · rw [hfield, ne_eq, Option.map_eq_none_iff]
      exact hrequired name hname
    · rcases List.mem_map.mp he with ⟨m, hm, rfl⟩
      simpa [isNamed] using hnames m hm
    · rw [hfield] at hvalue
      rcases Option.map_eq_some_iff.mp hvalue with ⟨value, hmember, rfl⟩
      exact hfields field hmem value hmember

end Schema

namespace Script

variable {j : Json}

/-- An example of a document: an object of texts, by column, and not an empty one. -/
structure IsExample (j : Json) (row : Example) : Prop where
  columns : j = .object (row.map fun e => (e.1, .text e.2))
  filled : row ≠ []

/-- A template of a document. Its texts and its steps are not empty, and neither are its examples, which may
    be left out. -/
structure IsTemplate (j : Json) (t : Template) : Prop where
  object : ∃ members, j = .object members ∧
    ∀ m ∈ members, m.1 ∈ ["name", "description", "steps", "examples"]
  name : j.member? "name" = some (.text t.name)
  name_filled : t.name ≠ ""
  description : j.member? "description" = some (.text t.description)
  description_filled : t.description ≠ ""
  steps : j.member? "steps" = some (.texts t.steps)
  steps_filled : t.steps ≠ [] ∧ ∀ text ∈ t.steps, text ≠ ""
  examples : (j.member? "examples" = none ∧ t.examples = []) ∨
    ∃ items, j.member? "examples" = some (.array items) ∧ items ≠ [] ∧
      List.Forall₂ IsExample items t.examples

/-- A document that is a script, and its templates. It may have a name and a description of its own. -/
structure IsScript (j : Json) (templates : List Template) : Prop where
  object : ∃ members, j = .object members ∧ ∀ m ∈ members, m.1 ∈ ["name", "description", "scenarios"]
  name : ∀ value, j.member? "name" = some value → ∃ s, value = .text s
  description : ∀ value, j.member? "description" = some value → ∃ s, value = .text s
  scenarios : ∃ items, j.member? "scenarios" = some (.array items) ∧ items ≠ [] ∧
    List.Forall₂ IsTemplate items templates

theorem fits_text_toValue_iff {filled : Bool} :
    Schema.Fits (.text filled) j.toValue ↔ ∃ s, j = .text s ∧ (filled = true → s ≠ "") := by
  simp only [Schema.Fits, Json.toValue_eq_text_iff]

theorem fits_list_toValue_iff {item : Schema} : Schema.Fits (.list true item) j.toValue ↔
    ∃ items, j = .array items ∧ items ≠ [] ∧ ∀ part ∈ items, Schema.Fits item part.toValue := by
  simp only [Schema.Fits, Json.toValue_eq_list_iff, forall_const]
  constructor
  · rintro ⟨_, ⟨items, rfl, rfl⟩, hne, hparts⟩
    exact ⟨items, rfl, by simpa using hne, List.forall_mem_map.mp hparts⟩
  · rintro ⟨items, rfl, hne, hparts⟩
    exact ⟨_, ⟨items, rfl, rfl⟩, by simpa using hne, List.forall_mem_map.mpr hparts⟩

theorem textIn_of_member {name s : String} (h : j.member? name = some (.text s)) :
    textIn j.toValue name = s := by
  rw [textIn, Json.field?_toValue, h]
  rfl

theorem itemsIn_of_member {name : String} {items : List Json} (h : j.member? name = some (.array items)) :
    itemsIn j.toValue name = items.map Json.toValue := by
  rw [itemsIn, Json.field?_toValue, h, Option.map_some, Json.toValue, Json.toValues_eq_map]

theorem itemsIn_of_no_member {name : String} (h : j.member? name = none) : itemsIn j.toValue name = [] := by
  rw [itemsIn, Json.field?_toValue, h]
  rfl

theorem readExample_of_row (row : Example) :
    readExample (Json.object (row.map fun e => (e.1, .text e.2))).toValue = row := by
  rw [Json.toValue, Json.toEntries_eq_map, readExample, List.map_map, List.filterMap_map]
  exact List.filterMap_some

theorem exists_row {members : List (String × Json)}
    (h : ∀ m ∈ members, Schema.Fits (.text false) m.2.toValue) :
    ∃ row : Example, members = row.map fun e => (e.1, .text e.2) := by
  induction members with
  | nil => exact ⟨[], rfl⟩
  | cons m members ih =>
      rw [List.forall_mem_cons] at h
      rcases fits_text_toValue_iff.mp h.1 with ⟨s, hs, -⟩
      rcases ih h.2 with ⟨row, rfl⟩
      exact ⟨(m.1, s) :: row, by rw [List.map_cons, ← hs]⟩

/-- A document is an example if it has the shape of one, and the example is what is read off it. -/
theorem isExample_iff {row : Example} : IsExample j row ↔
    Schema.Fits (.table true (.text false)) j.toValue ∧ readExample j.toValue = row := by
  constructor
  · rintro ⟨rfl, hne⟩
    refine ⟨⟨_, Json.toValue_eq_map_iff.mpr ⟨_, rfl, rfl⟩, by simpa using hne, ?_⟩, readExample_of_row row⟩
    intro e he
    rw [List.map_map] at he
    rcases List.mem_map.mp he with ⟨m, -, rfl⟩
    exact ⟨m.2, rfl, nofun⟩
  · rintro ⟨⟨entries, hmap, hne, htexts⟩, rfl⟩
    rcases Json.toValue_eq_map_iff.mp hmap with ⟨members, rfl, rfl⟩
    rcases exists_row fun m hm => htexts _ (List.mem_map_of_mem hm) with ⟨row, rfl⟩
    rw [readExample_of_row]
    exact ⟨rfl, by simpa using hne⟩

theorem forall₂_isExample_iff {items : List Json} {rows : List Example} :
    List.Forall₂ IsExample items rows ↔
      (∀ item ∈ items, Schema.Fits (.table true (.text false)) item.toValue) ∧
        (items.map Json.toValue).map readExample = rows := by
  rw [List.map_map]
  exact forall₂_iff_map_eq fun _ _ => isExample_iff

/-- The texts of an array of texts. -/
theorem textsAmong_texts (texts : List String) :
    textsAmong ((texts.map Json.text).map Json.toValue) = texts := by
  rw [textsAmong, List.map_map, List.filterMap_map]
  exact List.filterMap_some

theorem exists_texts {items : List Json} (h : ∀ item ∈ items, Schema.Fits (.text true) item.toValue) :
    ∃ texts : List String, items = texts.map Json.text ∧ ∀ text ∈ texts, text ≠ "" := by
  induction items with
  | nil => exact ⟨[], rfl, fun _ htext => absurd htext List.not_mem_nil⟩
  | cons item items ih =>
      rw [List.forall_mem_cons] at h
      rcases fits_text_toValue_iff.mp h.1 with ⟨s, rfl, hs⟩
      rcases ih h.2 with ⟨texts, rfl, htexts⟩
      exact ⟨s :: texts, rfl, List.forall_mem_cons.mpr ⟨hs rfl, htexts⟩⟩

/-- What the shape of a record promises of a field that has to be there. -/
theorem exists_member {name : String} {schema : Schema} (hrequired : j.member? name ≠ none)
    (h : ∀ value, j.member? name = some value → Schema.Fits schema value.toValue) :
    ∃ value, j.member? name = some value ∧ Schema.Fits schema value.toValue := by
  rcases Option.ne_none_iff_exists'.mp hrequired with ⟨value, hvalue⟩
  exact ⟨value, hvalue, h value hvalue⟩

theorem fits_of_member {name : String} {schema : Schema} {value : Json} (h : j.member? name = some value)
    (hvalue : Schema.Fits schema value.toValue) :
    ∀ other, j.member? name = some other → Schema.Fits schema other.toValue := by
  intro other hother
  rw [h, Option.some.injEq] at hother
  exact hother ▸ hvalue

theorem IsTemplate.fits {t : Template} (h : IsTemplate j t) : Schema.Fits templateSchema j.toValue := by
  refine Schema.fits_record_toValue_iff.mpr ⟨h.object, ?_, ?_⟩
  · simp only [List.forall_mem_cons, List.not_mem_nil, false_implies, implies_true, and_true, h.name,
      h.description, h.steps, ne_eq, reduceCtorEq, not_false_eq_true]
  · simp only [List.forall_mem_cons, List.not_mem_nil, false_implies, implies_true, and_true]
    refine ⟨fits_of_member h.name ?_, fits_of_member h.description ?_, fits_of_member h.steps ?_, ?_⟩
    · exact fits_text_toValue_iff.mpr ⟨_, rfl, fun _ => h.name_filled⟩
    · exact fits_text_toValue_iff.mpr ⟨_, rfl, fun _ => h.description_filled⟩
    · refine fits_list_toValue_iff.mpr ⟨_, rfl, by simpa using h.steps_filled.1, ?_⟩
      exact List.forall_mem_map.mpr fun text htext =>
        fits_text_toValue_iff.mpr ⟨text, rfl, fun _ => h.steps_filled.2 text htext⟩
    · -- Examples may be left out, and where they are not there is one at least.
      rcases h.examples with ⟨hnone, -⟩ | ⟨items, hitems, hne, hrows⟩
      · intro value hvalue
        rw [hnone] at hvalue
        cases hvalue
      · exact fits_of_member hitems
          (fits_list_toValue_iff.mpr ⟨items, rfl, hne, (forall₂_isExample_iff.mp hrows).1⟩)

theorem IsTemplate.eq_readTemplate {t : Template} (h : IsTemplate j t) : readTemplate j.toValue = t := by
  have hexamples : (itemsIn j.toValue "examples").map readExample = t.examples := by
    rcases h.examples with ⟨hnone, hrows⟩ | ⟨items, hitems, -, hrows⟩
    · rw [itemsIn_of_no_member hnone, hrows, List.map_nil]
    · rw [itemsIn_of_member hitems, (forall₂_isExample_iff.mp hrows).2]
  rw [readTemplate, textIn_of_member h.name, textIn_of_member h.description, itemsIn_of_member h.steps,
    textsAmong_texts, hexamples]

/-- What is read off a document that has the shape of a template is its template. -/
theorem isTemplate_readTemplate (h : Schema.Fits templateSchema j.toValue) :
    IsTemplate j (readTemplate j.toValue) := by
  rcases Schema.fits_record_toValue_iff.mp h with ⟨hobject, hrequired, hfields⟩
  -- From here on there is one conjunct for each field, in the order of the shape.
  simp only [List.forall_mem_cons, List.not_mem_nil, false_implies, implies_true, and_true]
    at hrequired hfields
  rcases exists_member hrequired.1 hfields.1 with ⟨_, hname, hfits⟩
  rcases fits_text_toValue_iff.mp hfits with ⟨name, rfl, hname_filled⟩
  rcases exists_member hrequired.2.1 hfields.2.1 with ⟨_, hdescription, hfits⟩
  rcases fits_text_toValue_iff.mp hfits with ⟨description, rfl, hdescription_filled⟩
  rcases exists_member hrequired.2.2 hfields.2.2.1 with ⟨_, hsteps, hfits⟩
  rcases fits_list_toValue_iff.mp hfits with ⟨_, rfl, hsteps_filled, htexts⟩
  rcases exists_texts htexts with ⟨texts, rfl, htexts_filled⟩
  rw [readTemplate, textIn_of_member hname, textIn_of_member hdescription, itemsIn_of_member hsteps,
    textsAmong_texts]
  refine ⟨hobject, hname, hname_filled rfl, hdescription, hdescription_filled rfl, hsteps,
    ⟨by simpa using hsteps_filled, htexts_filled⟩, ?_⟩
  rcases hexamples : j.member? "examples" with _ | value
  · exact Or.inl ⟨rfl, by rw [itemsIn_of_no_member hexamples, List.map_nil]⟩
  · rcases fits_list_toValue_iff.mp (hfields.2.2.2 value hexamples) with ⟨items, rfl, hne, hrows⟩
    refine Or.inr ⟨items, rfl, hne, ?_⟩
    rw [itemsIn_of_member hexamples]
    exact forall₂_isExample_iff.mpr ⟨hrows, rfl⟩

/-- A document is a template if it has the shape of one, and the template is what is read off it. -/
theorem isTemplate_iff {t : Template} :
    IsTemplate j t ↔ Schema.Fits templateSchema j.toValue ∧ readTemplate j.toValue = t := by
  constructor
  · intro h
    exact ⟨h.fits, h.eq_readTemplate⟩
  · rintro ⟨h, rfl⟩
    exact isTemplate_readTemplate h

theorem forall₂_isTemplate_iff {items : List Json} {templates : List Template} :
    List.Forall₂ IsTemplate items templates ↔
      (∀ item ∈ items, Schema.Fits templateSchema item.toValue) ∧
        (items.map Json.toValue).map readTemplate = templates := by
  rw [List.map_map]
  exact forall₂_iff_map_eq fun _ _ => isTemplate_iff

/-- A text that may be left out has the shape of one where it is there. -/
theorem fits_text_of_member_iff {name : String} :
    (∀ value, j.member? name = some value → Schema.Fits (.text false) value.toValue) ↔
      ∀ value, j.member? name = some value → ∃ s, value = .text s := by
  simp only [fits_text_toValue_iff, Bool.false_eq_true, false_implies, and_true]

/-- A document is a script if it has the shape of one, and its templates are what is read off it. -/
theorem isScript_iff {templates : List Template} :
    IsScript j templates ↔ Schema.Fits schema j.toValue ∧ readTemplates j.toValue = templates := by
  rw [schema_eq, Schema.fits_record_toValue_iff, readTemplates]
  simp only [List.forall_mem_cons, List.not_mem_nil, false_implies, implies_true, and_true,
    fits_text_of_member_iff]
  constructor
  · rintro ⟨hobject, hname, hdescription, items, hitems, hne, hall⟩
    rw [forall₂_isTemplate_iff] at hall
    refine ⟨⟨hobject, ?_, hname, hdescription, fits_of_member hitems ?_⟩, ?_⟩
    · rw [hitems]
      exact Option.some_ne_none _
    · exact fits_list_toValue_iff.mpr ⟨items, rfl, hne, hall.1⟩
    · rw [itemsIn_of_member hitems, hall.2]
  · rintro ⟨⟨hobject, hrequired, hname, hdescription, hscenarios⟩, rfl⟩
    -- The list of templates is there because it is required.
    rcases exists_member hrequired hscenarios with ⟨_, hitems, hfits⟩
    rcases fits_list_toValue_iff.mp hfits with ⟨items, rfl, hne, hall⟩
    rw [itemsIn_of_member hitems]
    exact ⟨hobject, hname, hdescription, items, hitems, hne, forall₂_isTemplate_iff.mpr ⟨hall, rfl⟩⟩

theorem exists_of_mem_itemsIn {name : String} {v : Value} (h : v ∈ itemsIn j.toValue name) :
    ∃ k : Json, v = k.toValue := by
  rw [itemsIn] at h
  split at h
  · rename_i items hfield
    rw [Json.field?_toValue] at hfield
    rcases Option.map_eq_some_iff.mp hfield with ⟨k, -, hk⟩
    rcases Json.toValue_eq_list_iff.mp hk with ⟨ks, -, rfl⟩
    rcases List.mem_map.mp h with ⟨k, -, rfl⟩
    exact ⟨k, rfl⟩
  · exact absurd h List.not_mem_nil

/-- The columns of a document's examples are texts, and these always have an order. -/
theorem not_hasMixedExample_toValue (j : Json) : ¬ HasMixedExample j.toValue := by
  rintro ⟨_, htemplate, row, hrow, entries, hmap, e, he, e', he', -, -, hnone⟩
  rcases exists_of_mem_itemsIn htemplate with ⟨template, rfl⟩
  rcases exists_of_mem_itemsIn hrow with ⟨row, rfl⟩
  rcases Json.toValue_eq_map_iff.mp hmap with ⟨members, -, rfl⟩
  rcases List.mem_map.mp he with ⟨m, -, rfl⟩
  rcases List.mem_map.mp he' with ⟨m', -, rfl⟩
  rw [Value.compareKeys?_text] at hnone
  cases hnone

end Script

/-! ## Wordings -/

namespace Template

variable {t : Template} {row : Example}

/-- The texts of a template, filled by an example. -/
structure FilledBy (row : Example) (t : Template) (w : Wording) : Prop where
  name : Filled row t.name.toList w.name.toList
  description : Filled row t.description.toList w.description.toList
  steps : List.Forall₂ (fun text filled => Filled row text.toList filled.toList) t.steps w.steps

/-- The texts that a template stands for: its own if it has no examples, and otherwise one wording for each
    of them, in order. -/
inductive HasWordings (t : Template) : List Wording → Prop
  | own (plain : t.examples = []) : HasWordings t [⟨t.name, t.description, t.steps⟩]
  | filled {ws : List Wording} (examples : t.examples ≠ [])
      (each : List.Forall₂ (fun row w => FilledBy row t w) t.examples ws) : HasWordings t ws

/-- Every example of a template has the columns that its texts mention. -/
def HasColumns (t : Template) : Prop :=
  ∀ row ∈ t.examples, ∀ text ∈ t.name :: t.description :: t.steps, ∀ column,
    Mentions text.toList column → ∃ value, row.lookup (String.ofList column) = some value

theorem fillAll_eq_ok_iff {w : Wording} : t.fillAll row = .ok w ↔ FilledBy row t w := by
  simp only [fillAll, bind_eq_ok_iff, fill_eq_ok_iff_filled, mapM_eq_ok_iff, pure_eq_ok, Except.ok.injEq]
  constructor
  · rintro ⟨name, hname, description, hdescription, steps, hsteps, rfl⟩
    exact ⟨hname, hdescription, hsteps⟩
  · rintro ⟨hname, hdescription, hsteps⟩
    exact ⟨_, hname, _, hdescription, _, hsteps, rfl⟩

theorem expand_eq_ok_iff {ws : List Wording} : t.expand = .ok ws ↔ t.HasWordings ws := by
  rw [expand]
  -- A template without examples stands for itself.
  by_cases h : t.examples = []
  · rw [if_pos (List.isEmpty_iff.mpr h), Except.ok.injEq]
    constructor
    · rintro rfl
      exact .own h
    · rintro (_ | ⟨hne, -⟩)
      · rfl
      · exact absurd h hne
  · rw [if_neg (by rwa [List.isEmpty_iff]), mapM_eq_ok_iff]
    simp only [fillAll_eq_ok_iff]
    constructor
    · exact .filled h
    · rintro (hplain | ⟨-, heach⟩)
      · exact absurd hplain h
      · exact heach

theorem exists_fillAll_iff : (∃ w, t.fillAll row = .ok w) ↔
    ∀ text ∈ t.name :: t.description :: t.steps, ∃ filled, fill row text = .ok filled := by
  simp only [List.forall_mem_cons, ← exists_mapM_ok_iff, fillAll, bind_eq_ok_iff, pure_eq_ok,
    Except.ok.injEq]
  constructor
  · rintro ⟨w, name, hname, description, hdescription, steps, hsteps, -⟩
    exact ⟨⟨name, hname⟩, ⟨description, hdescription⟩, steps, hsteps⟩
  · rintro ⟨⟨name, hname⟩, ⟨description, hdescription⟩, steps, hsteps⟩
    exact ⟨_, name, hname, description, hdescription, steps, hsteps, rfl⟩

/-- A template has its wordings where its examples have the columns. -/
theorem exists_hasWordings_iff : (∃ ws, t.HasWordings ws) ↔ t.HasColumns := by
  simp only [← expand_eq_ok_iff, expand, HasColumns, ← exists_fill_iff, ← exists_fillAll_iff]
  by_cases h : t.examples = []
  · simp only [h, List.isEmpty_nil, if_true, Except.ok.injEq, exists_eq', List.not_mem_nil, false_implies,
      implies_true]
  · rw [if_neg (by rwa [List.isEmpty_iff]), exists_mapM_ok_iff]

theorem HasWordings.unique {ws ws' : List Wording} (h : t.HasWordings ws) (h' : t.HasWordings ws') :
    ws = ws' := by
  rw [← expand_eq_ok_iff] at h h'
  rwa [h, Except.ok.injEq] at h'

end Template

/-! ## Scenarios -/

/-- The scenario with some texts: it has them, and each of its steps is the check that the text asks for. -/
structure Wording.Binds (w : Wording) (s : Scenario) : Prop where
  name : s.name = w.name
  description : s.description = w.description
  steps : List.Forall₂ (fun text step => step.text = text ∧ Check.ofText text = .ok step.check) w.steps s.steps

/-- The scenarios of a template, one for each of its wordings. -/
def Template.Yields (t : Template) (scenarios : List Scenario) : Prop :=
  ∃ ws, t.HasWordings ws ∧ List.Forall₂ Wording.Binds ws scenarios

/-- Some texts break the binding off with the first of them that is not bound. -/
def Wording.BreaksOff (w : Wording) (f : Fault) : Prop :=
  StopsAt (fun text => ∃ check, Check.ofText text = .ok check) (fun text => Check.BreaksReading text f)
    w.steps

/-- A template breaks the compiling off with the first of its wordings that yields no scenario. -/
def Template.BreaksOff (t : Template) (f : Fault) : Prop :=
  ∃ ws, t.HasWordings ws ∧ StopsAt (fun w => ∃ s, Wording.Binds w s) (fun w => w.BreaksOff f) ws

namespace Script

/-- Templates that break the compiling off: the first of them that yields no scenarios does. -/
def BreaksOff (templates : List Template) (f : Fault) : Prop :=
  StopsAt (fun t => ∃ scenarios, t.Yields scenarios) (fun t => t.BreaksOff f) templates

variable {source : String}

theorem bindStep_eq_ok_iff {text : String} {step : Step} :
    bindStep text = .ok step ↔ step.text = text ∧ Check.ofText text = .ok step.check := by
  rw [bindStep]
  rcases Check.ofText text with e | check
  · simp [Except.map]
  · cases step
    simp [Except.map, eq_comm]

theorem exists_bindStep_iff {text : String} :
    (∃ step, bindStep text = .ok step) ↔ ∃ check, Check.ofText text = .ok check := by
  simp only [bindStep_eq_ok_iff]
  constructor
  · rintro ⟨step, -, hcheck⟩
    exact ⟨step.check, hcheck⟩
  · rintro ⟨check, hcheck⟩
    exact ⟨⟨text, check⟩, rfl, hcheck⟩

theorem bindStep_eq_fault_iff {text : String} {f : Fault} :
    bindStep text = .error (.fault f) ↔ Check.BreaksReading text f := by
  rw [bindStep, ← Check.ofText_eq_fault_iff]
  cases Check.ofText text <;> simp [Except.map]

theorem bindScenario_eq_ok_iff {w : Wording} {s : Scenario} :
    bindScenario source w = .ok s ↔ w.Binds s := by
  simp only [bindScenario, bind_eq_ok_iff, reportingAs_eq_ok_iff, mapM_eq_ok_iff, bindStep_eq_ok_iff,
    pure_eq_ok, Except.ok.injEq]
  constructor
  · rintro ⟨steps, hsteps, rfl⟩
    exact ⟨rfl, rfl, hsteps⟩
  · rintro ⟨hname, hdescription, hsteps⟩
    exact ⟨s.steps, hsteps, by rw [← hname, ← hdescription]⟩

theorem bindScenario_eq_fault_iff {w : Wording} {f : Fault} :
    bindScenario source w = .error (.fault f) ↔ w.BreaksOff f := by
  simp only [bindScenario, bind_eq_error_iff, reportingAs_eq_fault_iff, mapM_eq_error_iff,
    exists_bindStep_iff, bindStep_eq_fault_iff, pure_eq_ok, reduceCtorEq, and_false, exists_false, or_false,
    Wording.BreaksOff]

theorem compileTemplate_eq_ok_iff {t : Template} {scenarios : List Scenario} :
    compileTemplate source t = .ok scenarios ↔ t.Yields scenarios := by
  simp only [compileTemplate, Template.Yields, ← Template.expand_eq_ok_iff]
  cases t.expand with
  | error p => simp only [reduceCtorEq, false_and, exists_false]
  | ok ws =>
      simp only [Except.ok.injEq, exists_eq_left', mapM_eq_ok_iff, bindScenario_eq_ok_iff]

theorem compileTemplate_eq_fault_iff {t : Template} {f : Fault} :
    compileTemplate source t = .error (.fault f) ↔ t.BreaksOff f := by
  simp only [compileTemplate, Template.BreaksOff, ← Template.expand_eq_ok_iff]
  cases t.expand with
  | error p => simp only [reduceCtorEq, Except.error.injEq, false_and, exists_false]
  | ok ws =>
      simp only [Except.ok.injEq, exists_eq_left', mapM_eq_error_iff, bindScenario_eq_ok_iff,
        bindScenario_eq_fault_iff]

theorem compile_eq_ok_iff {templates : List Template} {scenarios : List Scenario} :
    compile source templates = .ok scenarios ↔
      ∃ groups, List.Forall₂ Template.Yields templates groups ∧ groups.flatten = scenarios := by
  simp only [compile, bind_eq_ok_iff, mapM_eq_ok_iff, compileTemplate_eq_ok_iff, pure_eq_ok,
    Except.ok.injEq]

theorem compile_eq_fault_iff {templates : List Template} {f : Fault} :
    compile source templates = .error (.fault f) ↔ BreaksOff templates f := by
  simp only [compile, bind_eq_error_iff, mapM_eq_error_iff, compileTemplate_eq_ok_iff,
    compileTemplate_eq_fault_iff, pure_eq_ok, reduceCtorEq, and_false, exists_false, or_false, BreaksOff]

/-- Texts are those of a scenario where each of their steps asks for a check. -/
theorem exists_binds_iff {w : Wording} : (∃ s, w.Binds s) ↔
    ∀ text ∈ w.steps, ∃ check, Check.ofText text = .ok check := by
  constructor
  · rintro ⟨s, -, -, hsteps⟩ text htext
    rcases exists_of_mem_left hsteps htext with ⟨step, -, -, hcheck⟩
    exact ⟨step.check, hcheck⟩
  · intro h
    rcases exists_forall₂_iff.mpr fun text htext => exists_bindStep_iff.mpr (h text htext) with
      ⟨steps, hsteps⟩
    simp only [bindStep_eq_ok_iff] at hsteps
    exact ⟨⟨w.name, w.description, steps⟩, rfl, rfl, hsteps⟩

/-- A template yields scenarios where it has its wordings and all of their steps are bound. -/
theorem exists_yields_iff {t : Template} : (∃ scenarios, t.Yields scenarios) ↔
    t.HasColumns ∧ ∀ ws, t.HasWordings ws → ∀ w ∈ ws, ∀ text ∈ w.steps,
      ∃ check, Check.ofText text = .ok check := by
  simp only [← exists_binds_iff, ← Template.exists_hasWordings_iff]
  constructor
  · rintro ⟨scenarios, ws, hws, hbinds⟩
    refine ⟨⟨ws, hws⟩, fun ws' hws' => exists_forall₂_iff.mp ⟨scenarios, ?_⟩⟩
    rwa [hws'.unique hws]
  · rintro ⟨⟨ws, hws⟩, hbinds⟩
    rcases exists_forall₂_iff.mpr (hbinds ws hws) with ⟨scenarios, hscenarios⟩
    exact ⟨scenarios, ws, hws, hscenarios⟩

theorem exists_compile_iff {templates : List Template} :
    (∃ scenarios, compile source templates = .ok scenarios) ↔
      ∀ t ∈ templates, ∃ scenarios, t.Yields scenarios := by
  rw [← exists_forall₂_iff]
  simp only [compile_eq_ok_iff]
  constructor
  · rintro ⟨_, groups, hgroups, -⟩
    exact ⟨groups, hgroups⟩
  · rintro ⟨groups, hgroups⟩
    exact ⟨_, groups, hgroups, rfl⟩

/-- A scenario has as many steps as its template. -/
theorem length_steps_of_yields {t : Template} {scenarios : List Scenario} (h : t.Yields scenarios) :
    ∀ s ∈ scenarios, s.steps.length = t.steps.length := by
  intro s hs
  rcases h with ⟨ws, hws, hbinds⟩
  rcases exists_of_mem_right hbinds hs with ⟨w, hw, hs⟩
  -- Neither binding a wording nor filling it adds or drops a step.
  rw [← hs.steps.length_eq]
  cases hws with
  | own plain => rw [List.mem_singleton.mp hw]
  | filled examples each =>
      rcases exists_of_mem_right each hw with ⟨row, -, hfilled⟩
      exact hfilled.steps.length_eq.symm

/-! ## Documents that compile -/

/-- A value that has the shape of a script is compiled. Of any other it is reported what is wrong with it,
    unless that has no order. -/
theorem ofValue_cases (source : String) (v : Value) :
    (Schema.Fits schema v ∧ ¬ HasMixedExample v ∧ ofValue source v = compile source (readTemplates v)) ∨
      (¬ Schema.Fits schema v ∧ HasMixedExample v ∧
        ofValue source v = .error (.fault .incomparablePlaces)) ∨
      (¬ Schema.Fits schema v ∧ ¬ HasMixedExample v ∧ ∃ p, ofValue source v = .error (.report p)) := by
  have hmixed : HasMixedExample v ↔ schema.report v = .error .incomparablePlaces := by
    rw [report_eq_error_iff, and_iff_left rfl]
  rw [← Schema.report_eq_ok_nil_iff, hmixed]
  unfold ofValue
  rcases hreport : schema.report v with f | _ | ⟨message, rest⟩
  · obtain rfl := (report_eq_error_iff.mp hreport).2
    exact Or.inr (Or.inl ⟨nofun, rfl, rfl⟩)
  · exact Or.inl ⟨rfl, nofun, rfl⟩
  · exact Or.inr (Or.inr ⟨nofun, nofun, _, rfl⟩)

/-- A script whose example gives a step a pattern that asks for more than can be counted out. -/
def overlong : Json :=
  .object [("scenarios", .array [.object [("name", .text "a"), ("description", .text "b"),
    ("steps", .texts ["the title of the submission matches \"<p>\""]),
    ("examples", .array [.object [("p", .text "a\x7b4294967295\x7d")]])]])]

end Script

end Assay
