import Mathlib.Data.List.Nodup
import Rulebook.Proofs.Rule.Metadata

/-!
# Which fields may be missing

Validation lets a field be absent or null if any of its rules is `optional`. Documentation says that
a field is required unless the last one of its rules `required` and `optional` is `optional`. The two
agree on all fields but those with a `required` rule behind the last `optional` one.

* `required_of_compile`: the last of the two rules decides what is documented;
* `isRequired_eq_iff`: on which fields documentation and validation agree;
* `requiredNames_eq_iff`: on which schemas.
-/

namespace Rulebook

open Json (Members)

/-! ## Fields -/

/-- What a rule says about the presence of its field. -/
def Kind.presence : Kind → Option Bool
  | .required => some true
  | .optional => some false
  | _ => none

/-- What the last rule says that says anything about the presence of the field. -/
def Field.lastPresence (f : Field) : Option Bool :=
  f.checks.reverse.findSome? fun c => c.kind.presence

/-- One of the rules is `optional`, but the last word is that of a rule `required`. -/
def Field.IsUnsettled (f : Field) : Prop := f.isOptional = true ∧ f.lastPresence = some true

instance (f : Field) : Decidable f.IsUnsettled := inferInstanceAs (Decidable (_ ∧ _))

theorem Metadata.isKey_required : IsKey Metadata.required := ⟨rfl, fun _ _ => rfl⟩

/-- A check marks its field as required or not as its rule says, and lets values be absent if the
rule does. -/
theorem presence_of_mem_checks {r : Rule} {position : Nat} {context : Context} {c : Check}
    (h : c ∈ r.checks position context) :
    c.metadata.required = c.kind.presence ∧
      c.predicate.isOptional = (c.kind.presence == some false) := by
  rw [(Rule.mem_checks h).1]
  cases r with
  | array element =>
    obtain rfl | rfl := List.mem_pair.mp h
    · exact ⟨rfl, rfl⟩
    · cases element <;> exact ⟨rfl, rfl⟩
  | date => obtain rfl | rfl := List.mem_pair.mp h <;> cases context.each <;> exact ⟨rfl, rfl⟩
  | _ =>
    obtain rfl := List.mem_singleton.mp h
    cases context.each <;> exact ⟨rfl, rfl⟩

theorem presence_of_compile {rules : String} {context : Context} {f : Field}
    (h : compile rules context = .ok f) {c : Check} (hc : c ∈ f.checks) :
    c.metadata.required = c.kind.presence ∧
      c.predicate.isOptional = (c.kind.presence == some false) := by
  obtain ⟨_, _, _, r, _, _, _, _, _, hr, _⟩ := exists_token_of_mem (compile_ok h) hc
  exact presence_of_mem_checks hr

theorem required_of_compile {rules : String} {context : Context} {f : Field}
    (h : compile rules context = .ok f) : f.metadata.required = f.lastPresence := by
  have hmap : f.checks.reverse.map (fun c => c.metadata.required) =
      f.checks.reverse.map fun c => c.kind.presence :=
    List.map_congr_left fun c hc => (presence_of_compile h (List.mem_reverse.mp hc)).1
  rw [key_of_compile h Metadata.isKey_required, Field.lastPresence]
  simpa only [List.findSome?_map, Function.comp_def, id_eq] using
    congrArg (List.findSome? id) hmap

/-- If no rule says anything about presence, or the last one that does is `optional`, documentation
and validation agree; if it is `required`, they do unless there is an `optional` one before. -/
theorem isRequired_eq_iff {rules : String} {context : Context} {f : Field}
    (h : compile rules context = .ok f) :
    f.metadata.isRequired = !f.isOptional ↔ ¬f.IsUnsettled := by
  have hreq : f.metadata.isRequired = (f.lastPresence != some false) := by
    rw [Metadata.isRequired, required_of_compile h]
  have hopt : f.isOptional = true ↔ ∃ c ∈ f.checks, c.kind.presence = some false := by
    simp only [Field.isOptional, List.any_eq_true]
    refine exists_congr fun c => and_congr_right fun hc => ?_
    rw [(presence_of_compile h hc).2, beq_iff_eq]
  rw [Field.IsUnsettled, hreq]
  cases hl : f.lastPresence with
  | none =>
    have hnone : ¬f.isOptional = true := by
      rw [hopt]
      rintro ⟨c, hc, hp⟩
      have := List.findSome?_eq_none_iff.mp hl c (List.mem_reverse.mpr hc)
      rw [hp] at this
      cases this
    simp [Bool.eq_false_iff.mpr hnone]
  | some b =>
    cases b with
    | true => cases f.isOptional <;> simp
    | false =>
      obtain ⟨c, hc, hp⟩ := List.exists_of_findSome?_eq_some hl
      have hsome : f.isOptional = true := hopt.mpr ⟨c, List.mem_reverse.mp hc, hp⟩
      simp [hsome]

/-! ## Schemas -/

/-- The names that the description of a schema gives as required. -/
def Schema.requiredNames (s : Schema) : List String :=
  match s.describe.get? "required" with
  | some (.array items) => items.filterMap fun
    | .string name => some name
    | _ => none
  | _ => []

theorem requiredNames_eq (s : Schema) :
    s.requiredNames = (s.fields.filter fun p => p.2.metadata.isRequired).map Prod.fst := by
  cases h : s.fields.filter fun p => p.2.metadata.isRequired <;>
    simp [Schema.requiredNames, Schema.describe, h, Json.get?, Members.ofList,
      Members.find?_insert_self, Members.find?_insert_of_ne, Members.find?]

/-- Selections from fields with different names are told apart by the names. -/
theorem map_fst_filter_eq_iff {fields : List (String × Field)}
    (hn : (fields.map Prod.fst).Nodup) {p q : String × Field → Bool} :
    (fields.filter p).map Prod.fst = (fields.filter q).map Prod.fst ↔
      ∀ x ∈ fields, p x = q x := by
  constructor
  · intro h x hx
    have hmem (r : String × Field → Bool) : x.1 ∈ (fields.filter r).map Prod.fst ↔ r x = true := by
      constructor
      · intro hm
        obtain ⟨y, hy, hxy⟩ := List.mem_map.mp hm
        obtain ⟨hyf, hry⟩ := List.mem_filter.mp hy
        exact List.inj_on_of_nodup_map hn hyf hx hxy ▸ hry
      · exact fun hr => List.mem_map.mpr ⟨x, List.mem_filter.mpr ⟨hx, hr⟩, rfl⟩
    exact Bool.eq_iff_iff.mpr ((hmem p).symm.trans (h ▸ hmem q))
  · exact fun h => congrArg _ (List.filter_congr h)

/-- Whether all fields are described by rule strings. -/
def Schema.IsCompiled (s : Schema) : Prop :=
  ∀ p ∈ s.fields, ∃ rules context, compile rules context = .ok p.2

theorem Schema.IsCompiled.empty (name : String) : (Schema.empty name).IsCompiled := by
  simp [IsCompiled, Schema.empty]

theorem eq_or_mem_of_mem_insertField {name : String} {field : Field} {fields : List (String × Field)}
    {p : String × Field} (h : p ∈ Schema.insertField name field fields) :
    p.2 = field ∨ p ∈ fields := by
  induction fields with
  | nil => exact .inl (congrArg Prod.snd (List.mem_singleton.mp h))
  | cons q rest ih =>
    simp only [Schema.insertField] at h
    split at h
    · rcases List.mem_cons.mp h with rfl | h
      · exact .inl rfl
      · exact .inr (List.mem_cons_of_mem _ h)
    · rcases List.mem_cons.mp h with rfl | h
      · exact .inr (List.mem_cons_self ..)
      · exact (ih h).imp_right (List.mem_cons_of_mem _)

theorem Schema.IsCompiled.declare {s t : Schema} (hs : s.IsCompiled) {name rules : String}
    {context : Context} (ht : s.declare name rules context = .ok t) : t.IsCompiled := by
  obtain ⟨f, hf, rfl⟩ := declare_ok ht
  intro p hp
  rcases eq_or_mem_of_mem_insertField hp with h | h
  · exact ⟨rules, context, h ▸ hf⟩
  · exact hs p h

/-- **Required fields.** The names that documentation lists as required, in the order of their
declaration, are exactly those of the fields that validation does not let be absent, if and only if
no field has a `required` rule behind its last `optional` one. -/
theorem requiredNames_eq_iff {s : Schema} (hs : s.Built) (hc : s.IsCompiled) :
    s.requiredNames = (s.fields.filter fun p => !p.2.isOptional).map Prod.fst ↔
      ∀ p ∈ s.fields, ¬p.2.IsUnsettled := by
  rw [requiredNames_eq, map_fst_filter_eq_iff hs.nodup_names]
  refine forall₂_congr fun p hp => ?_
  obtain ⟨rules, context, hf⟩ := hc p hp
  exact isRequired_eq_iff hf

/-- Both rules in either order, an `optional` one last; and a field with neither. -/
theorem requiredNames_note :
    ∃ s : Schema, s.Built ∧ s.IsCompiled ∧ s.names = ["title", "text", "tag"] ∧
      s.requiredNames = ["title"] := by
  have hs := @Schema.Built.declare _ _ "tag" "optional|required|optional" Context.empty
    (@Schema.Built.declare _ _ "text" "required|optional" Context.empty
      (@Schema.Built.declare _ _ "title" "string" Context.empty (.empty "Note") rfl) rfl) rfl
  have hc := @Schema.IsCompiled.declare _ _
    (@Schema.IsCompiled.declare _ _
      (@Schema.IsCompiled.declare _ _ (.empty "Note") "title" "string" Context.empty rfl)
      "text" "required|optional" Context.empty rfl)
    "tag" "optional|required|optional" Context.empty rfl
  have hn := (requiredNames_eq_iff hs hc).mpr (by decide)
  exact ⟨_, hs, hc, rfl, hn⟩

/-- A field that may be missing, and is documented as required. -/
theorem requiredNames_contradicts :
    ∃ s, (Schema.empty "Note").declare "text" "optional|required" Context.empty = .ok s ∧
      s.requiredNames = ["text"] ∧
      (s.fields.filter fun p => !p.2.isOptional).map Prod.fst = [] :=
  ⟨_, rfl, rfl, rfl⟩

end Rulebook
