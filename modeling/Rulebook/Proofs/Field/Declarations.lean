import Mathlib.Data.Finset.Card
import Rulebook.Proofs.Field.Presence
import Rulebook.Proofs.Json.Members
import Rulebook.Proofs.Validation.Results

/-!
# Declaring fields one after another

A schema comes of declarations: of fields by their rule strings, or of fields that are there
already. However often a name is declared, the schema has one field of that name, where it was first
declared and as it was last declared; and its description tells the same.

* `Declaration`, `Schema.declareAll`: declarations, and what comes of them;
* `declareAll_concat_eq_ok_iff`: what one more declaration does;
* `names_of_declareAll`, `get?_of_declareAll`: names and fields after all of them;
* `get?_describe`, `find?_properties`, `requiredNames_sublist`: the description;
* `one_field_per_name`: sequences of declarations.
-/

namespace Rulebook

open Json (Members)

/-! ## Declarations -/

/-- A field is declared by its rule string, or as it is. -/
inductive Declaration where
  | rules (name text : String) (context : Context)
  | field (name : String) (field : Field)

namespace Declaration

def name : Declaration → String
  | rules name _ _ => name
  | field name _ => name

/-- The field that is declared, if its rule string compiles. -/
def field? : Declaration → Except Failure Field
  | rules _ text context => compile text context
  | field _ f => .ok f

def apply (s : Schema) : Declaration → Except Failure Schema
  | rules name text context => s.declare name text context
  | field name f => .ok (s.insert name f)

theorem apply_eq_map (s : Schema) (d : Declaration) :
    d.apply s = d.field?.map (s.insert d.name) := by
  cases d <;> rfl

end Declaration

namespace Schema

/-- A schema after declarations, one after another; the first that fails ends them. -/
def declareAll (s : Schema) (ds : List Declaration) : Except Failure Schema :=
  ds.foldlM Declaration.apply s

variable {title : String} {ds : List Declaration} {s : Schema}

/-- One more declaration inserts the field that it declares. -/
theorem declareAll_concat_eq_ok_iff {d : Declaration} :
    (empty title).declareAll (ds ++ [d]) = .ok s ↔
      ∃ before f, (empty title).declareAll ds = .ok before ∧ d.field? = .ok f ∧
        s = before.insert d.name f := by
  simp only [declareAll, List.foldlM_append, List.foldlM_cons, List.foldlM_nil, bind_pure,
    bind_eq_ok, Declaration.apply_eq_map]
  refine exists_congr fun before => ?_
  cases d.field? <;> simp [Except.map, eq_comm]

/-! ## Names and fields -/

theorem built_of_declareAll (h : (empty title).declareAll ds = .ok s) : s.Built := by
  induction ds using List.reverseRecOn generalizing s with
  | nil => exact Except.ok.inj h ▸ .empty title
  | append_singleton ds d ih =>
    obtain ⟨before, f, hbefore, _, rfl⟩ := declareAll_concat_eq_ok_iff.mp h
    exact (ih hbefore).insert d.name f

theorem eraseDups_concat (names : List String) (name : String) :
    (names ++ [name]).eraseDups =
      if name ∈ names then names.eraseDups else names.eraseDups ++ [name] := by
  rw [List.eraseDups_append]
  split
  · next h => simp [List.removeAll, h]
  · next h => simp [List.removeAll, h, List.eraseDups_cons]

/-- Names stand in the order in which they were first declared. -/
theorem names_of_declareAll (h : (empty title).declareAll ds = .ok s) :
    s.names = (ds.map Declaration.name).eraseDups := by
  induction ds using List.reverseRecOn generalizing s with
  | nil => exact Except.ok.inj h ▸ rfl
  | append_singleton ds d ih =>
    obtain ⟨before, f, hbefore, _, rfl⟩ := declareAll_concat_eq_ok_iff.mp h
    rw [names_insert, ih hbefore, List.map_append, List.map_singleton, eraseDups_concat]
    simp only [List.mem_eraseDups]

theorem mem_names_of_declareAll (h : (empty title).declareAll ds = .ok s) {name : String} :
    name ∈ s.names ↔ name ∈ ds.map Declaration.name := by
  rw [names_of_declareAll h, List.mem_eraseDups]

theorem length_of_declareAll (h : (empty title).declareAll ds = .ok s) :
    s.fields.length = (ds.map Declaration.name).toFinset.card := by
  have hnames : (ds.map Declaration.name).toFinset = s.names.toFinset := by
    ext name
    rw [List.mem_toFinset, List.mem_toFinset, mem_names_of_declareAll h]
  rw [hnames, List.toFinset_card_of_nodup (built_of_declareAll h).nodup_names]
  exact (List.length_map _).symm

theorem get?_insert (s : Schema) (name other : String) (field : Field) :
    (s.insert name field).get? other = if name = other then some field else s.get? other := by
  split
  · next h => exact h ▸ get?_insert_self s name field
  · next h => exact get?_insert_of_ne s (Ne.symm h) field

theorem field?_of_declareAll (h : (empty title).declareAll ds = .ok s) :
    ∀ d ∈ ds, ∃ f, d.field? = .ok f := by
  induction ds using List.reverseRecOn generalizing s with
  | nil => exact List.forall_mem_nil _
  | append_singleton ds d ih =>
    obtain ⟨before, f, hbefore, hf, _⟩ := declareAll_concat_eq_ok_iff.mp h
    intro e he
    rcases List.mem_append.mp he with he | he
    · exact ih hbefore e he
    · exact ⟨f, List.mem_singleton.mp he ▸ hf⟩

/-- What a name finds is the field of the last declaration of that name. -/
theorem get?_of_declareAll (h : (empty title).declareAll ds = .ok s) (name : String) :
    s.get? name =
      ds.reverse.findSome? fun d => if d.name = name then d.field?.toOption else none := by
  induction ds using List.reverseRecOn generalizing s with
  | nil => exact Except.ok.inj h ▸ rfl
  | append_singleton ds d ih =>
    obtain ⟨before, f, hbefore, hf, rfl⟩ := declareAll_concat_eq_ok_iff.mp h
    rw [get?_insert, ih hbefore, List.reverse_append, List.reverse_singleton,
      List.singleton_append, List.findSome?_cons, hf]
    split <;> rfl

theorem get?_eq_some_iff_of_declareAll (h : (empty title).declareAll ds = .ok s) {name : String}
    {f : Field} :
    s.get? name = some f ↔
      ∃ before d after, ds = before ++ d :: after ∧ d.name = name ∧ d.field? = .ok f ∧
        name ∉ after.map Declaration.name := by
  have hfields := field?_of_declareAll h
  rw [get?_of_declareAll h, findSome?_reverse_eq_some_iff]
  refine exists_congr fun before => exists_congr fun d => exists_congr fun after =>
    and_congr_right ?_
  rintro rfl
  have hd : (if d.name = name then d.field?.toOption else none) = some f ↔
      d.name = name ∧ d.field? = .ok f := by
    cases d.field? <;> simp [Except.toOption]
  have hafter : (∀ x ∈ after, (if x.name = name then x.field?.toOption else none) = none) ↔
      name ∉ after.map Declaration.name := by
    simp only [List.mem_map, not_exists, not_and]
    refine forall₂_congr fun x hx => ?_
    -- a declaration of the name gives a field, so none of them may be behind the one that counts
    obtain ⟨g, hg⟩ := hfields x (by simp [hx])
    simp [hg, Except.toOption]
  rw [hd, hafter, and_assoc]

/-! ## Description -/

theorem get?_describe (s : Schema) :
    s.describe.get? "properties" =
        some (.object (Members.ofList (s.fields.map fun p => (p.1, p.2.metadata.toJson)))) ∧
      s.describe.get? "required" =
        if s.requiredNames = [] then none else some (.array (s.requiredNames.map .string)) := by
  rw [requiredNames_eq]
  cases h : s.fields.filter fun p => p.2.metadata.isRequired <;>
    simp [describe, h, Json.get?, Members.ofList, Members.find?_insert_self,
      Members.find?_insert_of_ne, Members.find?]

/-- The properties are those of the fields, each with its metadata. -/
theorem find?_properties (hn : s.names.Nodup) (name : String) :
    (Members.ofList (s.fields.map fun p => (p.1, p.2.metadata.toJson))).find? name =
      (s.get? name).map fun f => f.metadata.toJson := by
  have hkeys : ((s.fields.map fun p => (p.1, p.2.metadata.toJson)).map Prod.fst).Nodup := by
    rw [List.map_map]
    exact hn
  rw [Members.find?_ofList hkeys, get?]
  clear hkeys hn
  induction s.fields with
  | nil => rfl
  | cons p rest ih => by_cases h : p.1 = name <;> simp [Members.find?, getField?, h, ih]

theorem requiredNames_sublist (s : Schema) : s.requiredNames.Sublist s.names := by
  rw [requiredNames_eq]
  exact List.filter_sublist.map Prod.fst

/-! ## Sequences of declarations -/

/-- **One field per name.** Declarations that all succeed make a schema in which the names are
distinct and in the order in which they were first declared; so there are as many fields as names
were declared. The field of a name is the one that was last declared under it, and other names have
none. The properties that the schema is described with have exactly these names, each with the
metadata of its field, and the names described as required stand in the same order. -/
theorem one_field_per_name {title : String} {ds : List Declaration} {s : Schema}
    (h : (empty title).declareAll ds = .ok s) :
    s.names.Nodup ∧ s.names = (ds.map Declaration.name).eraseDups ∧
    s.fields.length = (ds.map Declaration.name).toFinset.card ∧
    (∀ name f, s.get? name = some f ↔
      ∃ before d after, ds = before ++ d :: after ∧ d.name = name ∧ d.field? = .ok f ∧
        name ∉ after.map Declaration.name) ∧
    (∀ name, s.get? name = none ↔ name ∉ ds.map Declaration.name) ∧
    (∃ properties : Members, s.describe.get? "properties" = some (.object properties) ∧
      (properties.map Prod.fst).Nodup ∧
      (∀ name, name ∈ properties.map Prod.fst ↔ name ∈ s.names) ∧
      ∀ name f, s.get? name = some f → properties.find? name = some f.metadata.toJson) ∧
    s.requiredNames.Sublist s.names ∧
    s.describe.get? "required" =
      if s.requiredNames = [] then none else some (.array (s.requiredNames.map .string)) := by
  have hn := (built_of_declareAll h).nodup_names
  obtain ⟨hproperties, hrequired⟩ := get?_describe s
  refine ⟨hn, names_of_declareAll h, length_of_declareAll h,
    fun name f => get?_eq_some_iff_of_declareAll h, fun name => ?_,
    ⟨_, hproperties, (Members.isSorted_ofList _).nodup, fun name => ?_, fun name f hf => ?_⟩,
    requiredNames_sublist s, hrequired⟩
  · rw [get?_eq_none_iff, mem_names_of_declareAll h]
  · rw [Members.mem_keys_iff, find?_properties hn, ← not_iff_not, ← get?_eq_none_iff]
    simp [← Option.isSome_iff_exists]
  · rw [find?_properties hn, hf, Option.map_some]

/-- A text that is declared again stays in front of the day, and is no longer required. -/
theorem one_field_per_name_note :
    ∃ f g s, compile "optional|string" Context.empty = .ok f ∧
      compile "date" Context.empty = .ok g ∧
      (empty "Note").declareAll [.rules "text" "required" Context.empty, .field "day" g,
        .rules "text" "optional|string" Context.empty] = .ok s ∧
      s.names = ["text", "day"] ∧ s.fields.length = 2 ∧ s.get? "text" = some f ∧
      s.get? "note" = none ∧ s.describe.get? "required" = some (.array [.string "day"]) := by
  obtain ⟨f, hf⟩ : ∃ f, compile "optional|string" Context.empty = .ok f := ⟨_, rfl⟩
  obtain ⟨g, hg⟩ : ∃ g, compile "date" Context.empty = .ok g := ⟨_, rfl⟩
  obtain ⟨s, hs⟩ : ∃ s, (empty "Note").declareAll [.rules "text" "required" Context.empty,
      .field "day" g, .rules "text" "optional|string" Context.empty] = .ok s := by
    obtain rfl := Except.ok.inj hg
    exact ⟨_, rfl⟩
  obtain ⟨_, hnames, hlength, hget, hnone, _, _, hrequired⟩ := one_field_per_name hs
  refine ⟨f, g, s, hf, hg, hs, hnames, hlength, ?_, ?_, ?_⟩
  · exact (hget "text" f).mpr ⟨[.rules "text" "required" Context.empty, .field "day" g],
      .rules "text" "optional|string" Context.empty, [], rfl, rfl, hf, by simp⟩
  · exact (hnone "note").mpr (by simp [Declaration.name])
  · obtain rfl := Except.ok.inj hg
    obtain rfl := Except.ok.inj hs
    rw [hrequired]
    rfl

end Schema

end Rulebook
