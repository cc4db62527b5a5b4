import Rulebook.Proofs.Validation.Coercions

/-!
# Which parts of a document are changed

The places at which a schema coerces dates are the ones that its `date` rules are about, and those
of the schemas nested in it. So all that validation does to a document is to replace what names a
moment at such a place by the timestamp of that moment. What is not declared, what stands beside
such a place, and what is rejected otherwise stays as it is.

* `Schema.DatesAt`, `Schema.HasDate`: what the `date` rules of a schema are about, if there are any;
* `coercesAt_of_datesAt`, `datesAt_of_coercesAt`: those are the places where dates are coerced;
* `validation_changes_dates_only`: documents.
-/

namespace Rulebook

open Inquiry

/-! ## Date rules -/

/-- Whether a rule `date` of the schema, or of one nested in it, is about a place of a document: the
value of the field, or its elements where the rule applies to these. -/
inductive Schema.DatesAt : Schema → Json.Place → Prop where
  | value {s : Schema} {name : String} {f : Field} {c : Check} (hf : (name, f) ∈ s.fields)
      (hc : c ∈ f.checks) (hk : c.kind = .date) (he : c.predicate.isEach = false) :
      DatesAt s [.key name]
  | element {s : Schema} {name : String} {f : Field} {c : Check} (hf : (name, f) ∈ s.fields)
      (hc : c ∈ f.checks) (hk : c.kind = .date) (he : c.predicate.isEach = true) (index : Nat) :
      DatesAt s [.key name, .item index]
  | nested {s t : Schema} {name : String} {f : Field} {c : Check} {place : Json.Place}
      (hf : (name, f) ∈ s.fields) (hc : c ∈ f.checks) (hp : c.predicate = .nested t)
      (h : DatesAt t place) : DatesAt s (.key name :: place)
  | elements {s t : Schema} {name : String} {f : Field} {c : Check} {place : Json.Place}
      (hf : (name, f) ∈ s.fields) (hc : c ∈ f.checks) (hp : c.predicate = .each (.nested t))
      (index : Nat) (h : DatesAt t place) : DatesAt s (.key name :: .item index :: place)

/-- Whether there is a rule `date` in the schema, or in one nested in it at any depth. -/
inductive Schema.HasDate : Schema → Prop where
  | rule {s : Schema} {p : String × Field} {c : Check} (hp : p ∈ s.fields) (hc : c ∈ p.2.checks)
      (hk : c.kind = .date) : HasDate s
  | nested {s t : Schema} {p : String × Field} {c : Check} (hp : p ∈ s.fields)
      (hc : c ∈ p.2.checks) (ht : c.predicate.schema? = some t) (h : HasDate t) : HasDate s

theorem Schema.DatesAt.hasDate {s : Schema} {place : Json.Place} (h : s.DatesAt place) :
    s.HasDate := by
  induction h with
  | value hf hc hk _ => exact .rule hf hc hk
  | element hf hc hk _ _ => exact .rule hf hc hk
  | nested hf hc hp _ ih => exact .nested hf hc (by rw [hp]; rfl) ih
  | elements hf hc hp _ _ ih => exact .nested hf hc (by rw [hp]; rfl) ih

theorem Schema.coercesAt_key_iff {s : Schema} {name : String} {place : Json.Place} :
    s.coercesAt (.key name :: place) = true ↔
      ∃ f, (name, f) ∈ s.fields ∧ ∃ c ∈ f.checks, c.predicate.coercesAt place = true := by
  obtain ⟨_, fields⟩ := s
  rw [Schema.coercesAt, Predicate.coercesAt]
  exact fieldsCoerceAt_iff

theorem Schema.Written.coercesAt_of_datesAt {s : Schema} {place : Json.Place} (h : s.DatesAt place)
    (hs : s.Written) : s.coercesAt place = true := by
  induction h with
  | @value s name f c hf hc hk he =>
    obtain ⟨hcompile, _⟩ := hs _ hf
    obtain ⟨d, hd, hp⟩ := exists_coercion_of_compile hcompile hc hk
    refine coercesAt_key_iff.mpr ⟨f, hf, d, hd, ?_⟩
    rw [hp, he]
    rfl
  | @element s name f c hf hc hk he index =>
    obtain ⟨hcompile, _⟩ := hs _ hf
    obtain ⟨d, hd, hp⟩ := exists_coercion_of_compile hcompile hc hk
    refine coercesAt_key_iff.mpr ⟨f, hf, d, hd, ?_⟩
    rw [hp, he]
    rfl
  | @nested s t name f c place hf hc hp _ ih =>
    have ht : t.Written := (hs _ hf).schema hc (by rw [hp]; rfl)
    refine coercesAt_key_iff.mpr ⟨f, hf, c, hc, ?_⟩
    rw [hp]
    exact ih ht
  | @elements s t name f c place hf hc hp index _ ih =>
    have ht : t.Written := (hs _ hf).schema hc (by rw [hp]; rfl)
    refine coercesAt_key_iff.mpr ⟨f, hf, c, hc, ?_⟩
    rw [hp]
    exact ih ht

/-- By induction on the place, of which every nested schema takes at least one step. -/
theorem Schema.Written.datesAt_of_coercesAt : ∀ {place : Json.Place} {s : Schema}, s.Written →
    s.coercesAt place = true → s.DatesAt place
  | [], ⟨_, _⟩, _, h => by cases h
  | .item _ :: _, ⟨_, _⟩, _, h => by cases h
  | .key name :: place, s, hs, h => by
    obtain ⟨f, hf, c, hc, hplace⟩ := coercesAt_key_iff.mp h
    have hwritten := hs _ hf
    obtain ⟨hcompile, _⟩ := hs _ hf
    obtain ⟨_, _, r, q, _, hk, hq, huses⟩ := exists_uses_of_compile hcompile hc
    rcases hq with hq | hq
    · rw [hq] at hplace
      cases q with
      | coerceDate =>
        cases place with
        | nil => exact .value hf hc (hk.trans (huses.coercion rfl)) (by rw [hq]; rfl)
        | cons step place => cases hplace
      | nested t =>
        have ht : t.Written := hwritten.schema hc (by rw [hq]; rfl)
        exact .nested hf hc hq (datesAt_of_coercesAt ht hplace)
      | each inner => cases huses.flat
      | _ => simp [Predicate.coercesAt] at hplace
    · rw [hq] at hplace
      rcases place with _ | ⟨_ | index, place⟩
      · cases hplace
      · cases hplace
      · rw [Predicate.coercesAt] at hplace
        cases q with
        | coerceDate =>
          cases place with
          | nil => exact .element hf hc (hk.trans (huses.coercion rfl)) (by rw [hq]; rfl) index
          | cons step place => cases hplace
        | nested t =>
          have ht : t.Written := hwritten.schema hc (by rw [hq]; rfl)
          exact .elements hf hc hq index (datesAt_of_coercesAt ht hplace)
        | each inner => cases huses.flat
        | _ => simp [Predicate.coercesAt] at hplace

/-- **Dates only.** However a document is judged, its shape stays as it is: the keys of objects, and
the lengths of arrays. A part of it that a rule `date` is about, and that names a moment, is
replaced by the timestamp of the moment. Any part without such a place stays as it is, and so does
the whole document if there is no rule `date` at any depth. -/
theorem validation_changes_dates_only {s : Schema} (hs : s.Written) {document : Json} {σ : Type}
    {evaluator : Evaluator (StateM σ)} {a a' : σ} {r : Report}
    (h : (s.validate document).resultFrom evaluator a = (.ok r, a')) :
    r.value.shape = document.shape ∧
    (∀ place v w, document.at? place = some v → s.DatesAt place → coerceDate v = some w →
      r.value.at? place = some w) ∧
    (∀ place v, document.at? place = some v →
      (∀ rest w, v.at? rest = some w → s.DatesAt (place ++ rest) → coerceDate w = none) →
        r.value.at? place = some v) ∧
    (¬s.HasDate → r.value = document) := by
  have hvalue : r.value = document.coerced s.coercesAt :=
    (always_coerced_validate hs document).of_resultFrom h
  rw [hvalue]
  refine ⟨Json.shape_coerced document _, ?_, ?_, ?_⟩
  · intro place v w hv hd hw
    have hleaf : v.IsLeaf := by
      by_contra hn
      rw [Json.coerceDate_of_not_isLeaf hn] at hw
      cases hw
    have hplace : s.coercesAt (place ++ []) = true := by
      rw [List.append_nil]
      exact hs.coercesAt_of_datesAt hd
    rw [Json.at?_coerced, hv, Option.map_some, Json.coerced_of_isLeaf hleaf, if_pos hplace, hw,
      Option.getD_some]
  · intro place v hv hrest
    rw [Json.at?_coerced, hv, Option.map_some]
    refine congrArg some (Json.coerced_eq_self v _ fun rest w hw hd => ?_)
    exact hrest rest w hw (hs.datesAt_of_coercesAt hd)
  · intro hno
    refine Json.coerced_eq_self document _ fun place w _ hd => ?_
    exact absurd (hs.datesAt_of_coercesAt hd).hasDate hno

/-- Events of a diary, in an array of objects. -/
def Context.events (event : Schema) : Context := { empty with element := some (.nested event) }

/-- A day is coerced, in an element of an array; a note that could be read as a day is not. -/
theorem validation_changes_dates_only_diary :
    ∃ event s r, (Schema.empty "Event").declare "day" "date" Context.empty = .ok event ∧
      (Schema.empty "Diary").declare "events" "array" (Context.events event) = .ok s ∧
      (s.validate (.object [("events", .array [.object
        [("day", .ofNat 0), ("note", .string "2024-02-29")]])])).resultFrom
          (fun _ _ => pure (.ok true) : Evaluator (StateM Unit)) () = (.ok r, ()) ∧
      r.value.at? [.key "events", .item 0, .key "day"] =
        some (.string "1970-01-01T00:00:00.000Z") ∧
      r.value.at? [.key "events", .item 0, .key "note"] = some (.string "2024-02-29") := by
  have hevent := @Schema.Written.declare _ _ (.empty "Event") "day" "date" Context.empty
    (by rintro _ (h | h) <;> cases h) rfl
  have hdiary := @Schema.Written.declare _ _ (.empty "Diary") "events" "array" (Context.events _)
    (by rintro _ (h | h) <;> cases h; exact hevent) rfl
  obtain ⟨_, hdates, hother, _⟩ := @validation_changes_dates_only _ hdiary
    (.object [("events", .array [.object
      [("day", .ofNat 0), ("note", .string "2024-02-29")]])]) Unit
    (fun _ _ => pure (.ok true)) () () _ rfl
  refine ⟨_, _, _, rfl, rfl, rfl, hdates _ (.ofNat 0) _ rfl ?_ rfl, hother _ _ rfl ?_⟩
  · exact .elements (List.mem_cons_self ..) (List.mem_cons_of_mem _ (List.mem_cons_self ..)) rfl 0
      (.value (List.mem_cons_self ..) (List.mem_cons_self ..) rfl rfl)
  · intro rest w _ hd
    exact nomatch hdiary.coercesAt_of_datesAt hd

end Rulebook
