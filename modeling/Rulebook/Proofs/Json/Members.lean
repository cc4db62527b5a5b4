import Mathlib.Data.List.Nodup
import Rulebook.Json.Basic

/-!
# Members in the order of keys

Members that are written one by one stand in the order of their keys, each key once. So an object
that is made of a list of members has the keys of the list, with the last value that the list has
for a key; if no key occurs twice, with the only one.

* `IsSorted`, `isSorted_ofList`: keys in strict order;
* `find?_eq_some_iff`: looking up what no other member hides;
* `mem_keys_ofList`, `find?_ofList`: objects made of lists.
-/

namespace Rulebook.Json.Members

variable {key other : String} {value : Json} {ms : Members}

/-! ## Keys -/

theorem mem_keys_iff : key ∈ ms.map Prod.fst ↔ ∃ v, ms.find? key = some v := by
  induction ms with
  | nil => simp [find?]
  | cons m rest ih =>
    rw [List.map_cons, List.mem_cons, ih, find?]
    by_cases h : m.1 = key
    · simp [h]
    · simp [h, Ne.symm h]

theorem mem_keys_insert : other ∈ (ms.insert key value).map Prod.fst ↔
    other = key ∨ other ∈ ms.map Prod.fst := by
  by_cases h : other = key
  · subst h
    simp [mem_keys_iff, find?_insert_self]
  · simp only [mem_keys_iff, find?_insert_of_ne h, h, false_or]

/-- The keys are in strict order, so each of them occurs once. -/
def IsSorted (ms : Members) : Prop := (ms.map Prod.fst).Pairwise (· < ·)

theorem IsSorted.nodup (h : ms.IsSorted) : (ms.map Prod.fst).Nodup :=
  h.imp fun hlt => by
    rintro rfl
    exact String.lt_irrefl _ hlt

theorem IsSorted.insert (h : ms.IsSorted) (key : String) (value : Json) :
    (ms.insert key value).IsSorted := by
  induction ms with
  | nil => exact List.pairwise_singleton _ _
  | cons m rest ih =>
    obtain ⟨hm, hrest⟩ := List.pairwise_cons.mp h
    rw [Members.insert]
    split
    · next heq => exact heq ▸ h
    · next hne =>
      split
      · next hlt =>
        refine List.pairwise_cons.mpr ⟨fun k hk => ?_, h⟩
        rcases List.mem_cons.mp hk with rfl | hk
        · exact hlt
        · exact String.lt_trans hlt (hm k hk)
      · next hnlt =>
        refine List.pairwise_cons.mpr ⟨fun k hk => ?_, ih hrest⟩
        rcases mem_keys_insert.mp hk with rfl | hk
        · exact Std.lt_of_le_of_ne (String.not_lt.mp hnlt) hne
        · exact hm k hk

/-! ## Objects made of lists -/

theorem find?_append (xs ys : Members) :
    (xs ++ ys).find? key = (xs.find? key).or (ys.find? key) := by
  induction xs with
  | nil => simp [find?]
  | cons m rest ih => by_cases h : m.1 = key <;> simp [find?, h, ih]

theorem isSorted_ofList (members : List (String × Json)) : (ofList members).IsSorted := by
  suffices h : ∀ ms : Members, ms.IsSorted →
      (members.foldl (fun ms m => ms.insert m.1 m.2) ms).IsSorted from h [] List.Pairwise.nil
  induction members with
  | nil => exact fun ms h => h
  | cons m rest ih => exact fun ms h => ih _ (h.insert m.1 m.2)

/-- The last value of a key is the one that is found. -/
theorem find?_ofList_reverse (key : String) (members : List (String × Json)) :
    (ofList members).find? key = find? key members.reverse := by
  suffices h : ∀ ms : Members, (members.foldl (fun ms m => ms.insert m.1 m.2) ms).find? key =
      (find? key members.reverse).or (ms.find? key) by
    rw [ofList, h [], find?, Option.or_none]
  induction members with
  | nil => exact fun ms => by simp [find?]
  | cons m rest ih =>
    intro ms
    rw [List.foldl_cons, ih, List.reverse_cons, find?_append, Option.or_assoc]
    refine congrArg _ ?_
    by_cases h : key = m.1
    · subst h
      simp [find?, find?_insert_self]
    · simp [find?, find?_insert_of_ne h, Ne.symm h]

/-- If no key occurs twice, every member is found. -/
theorem find?_eq_some_iff (hn : (ms.map Prod.fst).Nodup) :
    ms.find? key = some value ↔ (key, value) ∈ ms := by
  induction ms with
  | nil => simp [find?]
  | cons m rest ih =>
    obtain ⟨hm, hrest⟩ := List.nodup_cons.mp hn
    rw [find?, List.mem_cons]
    split
    · next h =>
      subst h
      have hnot : (m.1, value) ∉ rest := fun hmem => hm (List.mem_map.mpr ⟨_, hmem, rfl⟩)
      simp [hnot, Prod.ext_iff, eq_comm]
    · next h =>
      have hne : (key, value) ≠ m := fun e => h (congrArg Prod.fst e).symm
      simp [ih hrest, hne]

theorem find?_ofList {members : List (String × Json)} (hn : (members.map Prod.fst).Nodup)
    (key : String) : (ofList members).find? key = find? key members := by
  have hr : (members.reverse.map Prod.fst).Nodup := by
    rw [List.map_reverse]
    exact List.nodup_reverse.mpr hn
  rw [find?_ofList_reverse]
  refine Option.ext fun value => ?_
  rw [find?_eq_some_iff hr, find?_eq_some_iff hn, List.mem_reverse]

end Rulebook.Json.Members
