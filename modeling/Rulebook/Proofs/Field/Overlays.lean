import Rulebook.Proofs.Json.Members
import Rulebook.Proofs.Rule.Metadata

/-!
# Metadata overlaid as JSON

Metadata is overlaid key by key, and so is its JSON form: what stands under a key is what the last
of several fragments has there that has the key. Nothing below the keys is looked at, and a key that
holds null is there.

* `Metadata.keys`: the documented keys;
* `get?_toJson`, `isKey_toJson`: what stands under a key, and where it comes from;
* `overlay_is_shallow`: fragments.
-/

namespace Rulebook

open Json (Members)

namespace Metadata

/-! ## Keys -/

/-- The documented keys, each with what metadata has for it. -/
def keys : List (String × (Metadata → Option Json)) :=
  [("required", fun m => m.required.map .bool), ("type", fun m => m.type.map .string),
    ("format", fun m => m.format.map .string), ("example", fun m => m.example?),
    ("minLength", fun m => m.minLength.map .ofNat), ("maxLength", fun m => m.maxLength.map .ofNat),
    ("pattern", fun m => m.pattern.map .string), ("enum", fun m => m.values.map .array),
    ("enumName", fun m => m.enumName.map .string), ("isArray", fun m => m.isArray.map .bool),
    ("items", fun m => m.items.map .string), ("nestedType", fun m => m.nestedType.map .string),
    ("uniqueItems", fun m => m.uniqueItems.map .bool)]

theorem nodup_keys : (keys.map Prod.fst).Nodup := by decide

theorem members_eq (m : Metadata) :
    m.members = keys.filterMap fun k => (k.2 m).map fun v => (k.1, v) := rfl

theorem isKey_of_mem_keys : ∀ k ∈ keys, IsKey k.2 := by
  simp only [keys, List.forall_mem_cons]
  -- all but the example are put into another form
  and_intros
  all_goals
    first
    | exact ⟨rfl, fun _ _ => Option.map_or⟩
    | exact ⟨rfl, fun _ _ => rfl⟩
    | exact nofun

/-! ## JSON -/

theorem mem_members {m : Metadata} {key : String} {v : Json} :
    (key, v) ∈ m.members ↔ ∃ k ∈ keys, k.1 = key ∧ k.2 m = some v := by
  simp [members_eq]

theorem nodup_keys_members (m : Metadata) : (m.members.map Prod.fst).Nodup := by
  rw [members_eq]
  refine List.pairwise_map.mpr (List.Pairwise.filterMap _ ?_ (List.pairwise_map.mp nodup_keys))
  intro k l hne b hb b' hb'
  obtain ⟨_, _, rfl⟩ := Option.map_eq_some_iff.mp hb
  obtain ⟨_, _, rfl⟩ := Option.map_eq_some_iff.mp hb'
  exact hne

/-- Under a documented key stands what metadata has for it. -/
theorem get?_toJson_of_mem {k : String × (Metadata → Option Json)} (hk : k ∈ keys) (m : Metadata) :
    m.toJson.get? k.1 = k.2 m := by
  refine (Members.find?_ofList (nodup_keys_members m) k.1).trans (Option.ext fun v => ?_)
  rw [Members.find?_eq_some_iff (nodup_keys_members m), mem_members]
  constructor
  · rintro ⟨l, hl, hname, hv⟩
    rwa [List.inj_on_of_nodup_map nodup_keys hl hk hname] at hv
  · exact fun hv => ⟨k, hk, rfl, hv⟩

theorem get?_toJson_of_not_mem {key : String} (h : key ∉ keys.map Prod.fst) (m : Metadata) :
    m.toJson.get? key = none := by
  have hn := nodup_keys_members m
  refine (Members.find?_ofList hn key).trans (Option.eq_none_iff_forall_ne_some.mpr ?_)
  intro v hv
  obtain ⟨k, hk, rfl, _⟩ := mem_members.mp ((Members.find?_eq_some_iff hn).mp hv)
  exact h (List.mem_map.mpr ⟨k, hk, rfl⟩)

/-- Overlaying goes key by key in JSON as well. -/
theorem isKey_toJson (key : String) : IsKey fun m => m.toJson.get? key := by
  by_cases h : key ∈ keys.map Prod.fst
  · obtain ⟨k, hk, rfl⟩ := List.mem_map.mp h
    have hkey := isKey_of_mem_keys k hk
    exact ⟨by rw [get?_toJson_of_mem hk, hkey.empty], fun a b => by
      simp only [get?_toJson_of_mem hk, hkey.overlay]⟩
  · have hnone := get?_toJson_of_not_mem h
    exact ⟨hnone _, fun a b => by simp only [hnone, Option.or_none]⟩

/-- What fragments overlaid have under a key is what the last one has that has the key. -/
theorem get?_toJson_overlayAll (fragments : List Metadata) (key : String) :
    (empty.overlayAll fragments).toJson.get? key =
      fragments.reverse.findSome? fun m => m.toJson.get? key := by
  have hkey := isKey_toJson key
  rw [key_overlayAll hkey, hkey.empty, Option.or_none]

/-- **Shallow overlay.** Any fragments, overlaid in order onto empty metadata, have the JSON form of
an object that has a key if and only if the JSON form of a fragment has it, with the value of the
last one that does; each key stands in it once. An example that is null is there. Overlaying is
associative, empty metadata is neutral, and overlaying a fragment once more changes nothing. -/
theorem overlay_is_shallow :
    (∀ fragments : List Metadata, ∃ members : Members,
      (empty.overlayAll fragments).toJson = .object members ∧ (members.map Prod.fst).Nodup ∧
      (∀ key, key ∈ members.map Prod.fst ↔
        ∃ m ∈ fragments, ∃ v, m.toJson.get? key = some v) ∧
      ∀ key v, members.find? key = some v ↔
        ∃ before m after, fragments = before ++ m :: after ∧ m.toJson.get? key = some v ∧
          ∀ n ∈ after, n.toJson.get? key = none) ∧
    (∀ m : Metadata, m.toJson.get? "example" = m.example?) ∧
    (∀ a b c : Metadata, (a.overlay b).overlay c = a.overlay (b.overlay c)) ∧
    (∀ a : Metadata, a.overlay empty = a ∧ empty.overlay a = a) ∧
    ∀ a b : Metadata, (a.overlay b).overlay b = a.overlay b := by
  have hfind (fragments : List Metadata) (key : String) :
      (Members.ofList (empty.overlayAll fragments).members).find? key =
        fragments.reverse.findSome? fun m => m.toJson.get? key :=
    get?_toJson_overlayAll fragments key
  refine ⟨fun fragments => ⟨_, rfl, (Members.isSorted_ofList _).nodup, fun key => ?_,
    fun key v => ?_⟩, fun m => ?_, overlay_assoc, fun a => ⟨overlay_empty a, empty_overlay a⟩, ?_⟩
  · simp only [Members.mem_keys_iff, hfind, ← Option.isSome_iff_exists,
      List.findSome?_isSome_iff, List.mem_reverse]
  · rw [hfind]
    exact findSome?_reverse_eq_some_iff
  · have hmem : ("example", fun m : Metadata => m.example?) ∈ keys := by simp [keys]
    exact get?_toJson_of_mem hmem m
  · intro a b
    rw [overlay_assoc, overlay_self]

end Metadata

end Rulebook
