import Mathlib.Logic.Function.Basic
import Rulebook.Proofs.Field.Coercion

/-!
# Coercion at places of a value

A place says how to get from a value to a part of it, by the keys of objects and the indices of
arrays. Dates may be coerced at some places of a value and not at others. That leaves the shape of
the value as it is, and parts without such a place altogether; and a value that was coerced at some
places is not changed by coercing it there again, nor anywhere else by coercing it elsewhere.

* `Json.at?`, `Json.shape`: the part at a place, and a value without its leaves;
* `Json.coerced`: a value whose dates are coerced at some places;
* `at?_coerced`, `shape_coerced`, `coerced_eq_self`: what is coerced and what is left;
* `coerced_coerced`, `coerced_self`: coercions one after another.
-/

namespace Rulebook

namespace Json

/-! ## Places -/

/-- One step into a value. -/
inductive Step where
  | key (name : String)
  | item (index : Nat)
  deriving DecidableEq

/-- The way to a part of a value. -/
abbrev Place := List Step

/-- What a step leads to. -/
def child? (v : Json) : Step → Option Json
  | .key name => match v with
    | object members => Members.find? name members
    | _ => none
  | .item index => match v with
    | array items => items[index]?
    | _ => none

/-- The part of a value at a place. -/
def at? (v : Json) : Place → Option Json
  | [] => some v
  | step :: rest => (v.child? step).bind fun w => w.at? rest

mutual

/-- A value without its leaves. -/
def shape : Json → Json
  | array items => array (shapeItems items)
  | object members => object (shapeMembers members)
  | _ => null

def shapeItems : List Json → List Json
  | [] => []
  | x :: xs => shape x :: shapeItems xs

def shapeMembers : List (String × Json) → List (String × Json)
  | [] => []
  | (key, x) :: rest => (key, shape x) :: shapeMembers rest

end

/-- Some of all places. -/
abbrev Places := Place → Bool

namespace Places

def none : Places := fun _ => false

/-- What these places are from behind a step on. -/
def under (d : Places) (step : Step) : Places := fun rest => d (step :: rest)

def union (d e : Places) : Places := fun place => d place || e place

theorem union_none (d : Places) : d.union none = d := by
  funext place
  exact Bool.or_false _

theorem union_self (d : Places) : d.union d = d := by
  funext place
  exact Bool.or_self _

end Places

/-! ## Coercion at places -/

mutual

/-- A value whose dates at these places are coerced. -/
def coerced : Json → Places → Json
  | array items, d => array (coercedItems items d 0)
  | object members, d => object (coercedMembers members fun key => d.under (.key key))
  | v, d => if d [] then (coerceDate v).getD v else v

/-- Items of which the first has that index. -/
def coercedItems : List Json → Places → Nat → List Json
  | [], _, _ => []
  | x :: xs, d, i => x.coerced (d.under (.item i)) :: coercedItems xs d (i + 1)

/-- Members whose values are coerced at the places given for their keys. As only the first member of
a key can be reached, the others are left alone. -/
def coercedMembers : List (String × Json) → (String → Places) → List (String × Json)
  | [], _ => []
  | (key, x) :: rest, d =>
    (key, x.coerced (d key)) :: coercedMembers rest (Function.update d key .none)

end

/-- A leaf is neither an array nor an object. -/
def IsLeaf : Json → Prop
  | array _ => False
  | object _ => False
  | _ => True

theorem coerced_of_isLeaf {v : Json} (h : v.IsLeaf) (d : Places) :
    v.coerced d = if d [] then (coerceDate v).getD v else v := by
  cases v with
  | array items => exact h.elim
  | object members => exact h.elim
  | _ => rfl

theorem coerceDate_of_not_isLeaf {v : Json} (h : ¬v.IsLeaf) : coerceDate v = Option.none := by
  cases v with
  | array items => rfl
  | object members => rfl
  | _ => exact absurd trivial h

theorem coerced_null (d : Places) : null.coerced d = null := by
  rw [coerced_of_isLeaf (by exact trivial)]
  split <;> rfl

theorem isLeaf_getD_coerceDate {v : Json} (h : v.IsLeaf) : ((coerceDate v).getD v).IsLeaf := by
  cases hc : coerceDate v with
  | none => exact h
  | some w =>
    obtain ⟨m, _, rfl⟩ := Option.map_eq_some_iff.mp hc
    trivial

theorem isLeaf_coerced {v : Json} (h : v.IsLeaf) (d : Places) : (v.coerced d).IsLeaf := by
  rw [coerced_of_isLeaf h]
  split
  · exact isLeaf_getD_coerceDate h
  · exact h

/-! ## What is left -/

-- a value, its items and its members together, as each of them is coerced by the others
mutual

/-- A value is left as it is if at none of the places there is anything to be coerced. -/
theorem coerced_eq_self : ∀ (v : Json) (d : Places),
    (∀ place w, v.at? place = some w → d place = true → coerceDate w = Option.none) →
      v.coerced d = v
  | null, d, h | bool _, d, h | number _, d, h | string _, d, h => by
    rw [coerced_of_isLeaf (by exact trivial)]
    split
    · next hd => rw [h [] _ rfl hd, Option.getD_none]
    · rfl
  | array items, d, h => by
    refine congrArg array (coercedItems_eq_self items d 0 fun index x place w hx hw hd => ?_)
    rw [Nat.zero_add] at hd
    exact h (.item index :: place) w (Option.bind_eq_some_iff.mpr ⟨x, hx, hw⟩) hd
  | object members, d, h =>
    congrArg object (coercedMembers_eq_self members _ fun key x place w hx hw hd =>
      h (.key key :: place) w (Option.bind_eq_some_iff.mpr ⟨x, hx, hw⟩) hd)

theorem coercedItems_eq_self : ∀ (items : List Json) (d : Places) (i : Nat),
    (∀ index x place w, items[index]? = some x → x.at? place = some w →
      d (.item (i + index) :: place) = true → coerceDate w = Option.none) →
      coercedItems items d i = items
  | [], _, _, _ => rfl
  | x :: xs, d, i, h => by
    have hx : x.coerced (d.under (.item i)) = x :=
      coerced_eq_self x _ fun place w hw hd => h 0 x place w rfl hw hd
    have hxs : coercedItems xs d (i + 1) = xs := by
      refine coercedItems_eq_self xs d (i + 1) fun index y place w hy hw hd => ?_
      rw [Nat.add_assoc, Nat.add_comm 1 index] at hd
      exact h (index + 1) y place w hy hw hd
    rw [coercedItems, hx, hxs]

theorem coercedMembers_eq_self : ∀ (members : List (String × Json)) (d : String → Places),
    (∀ key x place w, Members.find? key members = some x → x.at? place = some w →
      d key place = true → coerceDate w = Option.none) →
      coercedMembers members d = members
  | [], _, _ => rfl
  | (key, x) :: rest, d, h => by
    have hx : x.coerced (d key) = x :=
      coerced_eq_self x _ fun place w hw hd => h key x place w (if_pos rfl) hw hd
    have hrest : coercedMembers rest (Function.update d key .none) = rest := by
      refine coercedMembers_eq_self rest _ fun other y place w hy hw hd => ?_
      -- another member of this key is behind the first one, and has no places
      by_cases hk : other = key
      · subst hk
        rw [Function.update_self] at hd
        cases hd
      · rw [Function.update_of_ne hk] at hd
        exact h other y place w ((if_neg (Ne.symm hk)).trans hy) hw hd
    rw [coercedMembers, hx, hrest]

end

theorem coerced_none (v : Json) : v.coerced .none = v :=
  coerced_eq_self v .none fun _ _ _ h => nomatch h

theorem coercedMembers_none (members : Members) :
    coercedMembers members (fun _ => .none) = members :=
  coercedMembers_eq_self members _ fun _ _ _ _ _ _ h => nomatch h

theorem shape_of_isLeaf {v : Json} (h : v.IsLeaf) : v.shape = null := by
  cases v with
  | array items => exact h.elim
  | object members => exact h.elim
  | _ => rfl

theorem shape_coerced_of_isLeaf {v : Json} (h : v.IsLeaf) (d : Places) :
    (v.coerced d).shape = v.shape := by
  rw [shape_of_isLeaf (isLeaf_coerced h d), shape_of_isLeaf h]

mutual

theorem shape_coerced : ∀ (v : Json) (d : Places), (v.coerced d).shape = v.shape
  | null, d | bool _, d | number _, d | string _, d =>
    shape_coerced_of_isLeaf (by exact trivial) d
  | array items, d => congrArg array (shapeItems_coercedItems items d 0)
  | object members, d => congrArg object (shapeMembers_coercedMembers members _)

theorem shapeItems_coercedItems : ∀ (items : List Json) (d : Places) (i : Nat),
    shapeItems (coercedItems items d i) = shapeItems items
  | [], _, _ => rfl
  | x :: xs, d, i => congrArg₂ List.cons (shape_coerced x _) (shapeItems_coercedItems xs d (i + 1))

theorem shapeMembers_coercedMembers : ∀ (members : List (String × Json)) (d : String → Places),
    shapeMembers (coercedMembers members d) = shapeMembers members
  | [], _ => rfl
  | (key, x) :: rest, d => by
    simp only [coercedMembers, shapeMembers, shape_coerced x, shapeMembers_coercedMembers rest]

end

/-! ## Parts of a coerced value -/

theorem getElem?_coercedItems (items : List Json) (d : Places) (i index : Nat) :
    (coercedItems items d i)[index]? =
      items[index]?.map fun x => x.coerced (d.under (.item (i + index))) := by
  induction items generalizing i index with
  | nil => rfl
  | cons x xs ih =>
    cases index with
    | zero => rfl
    | succ index =>
      have hi : i + 1 + index = i + (index + 1) := by omega
      exact (ih (i + 1) index).trans (by rw [hi, List.getElem?_cons_succ])

theorem find?_coercedMembers (members : Members) (d : String → Places) (key : String) :
    Members.find? key (coercedMembers members d) =
      (Members.find? key members).map fun x => x.coerced (d key) := by
  induction members generalizing d with
  | nil => rfl
  | cons m rest ih =>
    obtain ⟨k, x⟩ := m
    by_cases hk : k = key
    · subst hk
      simp [coercedMembers, Members.find?]
    · have hrest := ih (Function.update d k .none)
      rw [Function.update_of_ne (Ne.symm hk)] at hrest
      simpa [coercedMembers, Members.find?, hk] using hrest

theorem child?_coerced (v : Json) (d : Places) (step : Step) :
    (v.coerced d).child? step = (v.child? step).map fun w => w.coerced (d.under step) := by
  by_cases hv : v.IsLeaf
  · have hleaf {w : Json} (hw : w.IsLeaf) : w.child? step = Option.none := by
      cases step <;> cases w <;> first | rfl | exact hw.elim
    rw [hleaf hv, hleaf (isLeaf_coerced hv d)]
    rfl
  · cases v with
    | array items =>
      cases step with
      | key name => rfl
      | item index =>
        have hitems := getElem?_coercedItems items d 0 index
        rw [Nat.zero_add] at hitems
        exact hitems
    | object members =>
      cases step with
      | key name => exact find?_coercedMembers members _ name
      | item index => rfl
    | _ => exact absurd trivial hv

/-- The part of a coerced value is the part of the value, coerced at what of the places is left from
there on. -/
theorem at?_coerced (v : Json) (d : Places) (place : Place) :
    (v.coerced d).at? place =
      (v.at? place).map fun w => w.coerced fun rest => d (place ++ rest) := by
  induction place generalizing v d with
  | nil => rfl
  | cons step place ih =>
    simp only [at?, child?_coerced]
    cases v.child? step with
    | none => rfl
    | some w => exact ih w (d.under step)

/-! ## Coercions one after another -/

theorem coerced_coerced_of_isLeaf {v : Json} (h : v.IsLeaf) (d e : Places) :
    (v.coerced d).coerced e = v.coerced (d.union e) := by
  rw [coerced_of_isLeaf (isLeaf_coerced h d), coerced_of_isLeaf h, coerced_of_isLeaf h]
  by_cases hd : d [] = true
  · simp only [Places.union, hd, Bool.true_or, ↓reduceIte]
    cases hc : coerceDate v with
    | none => simp [hc]
    | some w => simp [getD_coerceDate_of_eq_some hc]
  · simp [Places.union, hd]

theorem update_none_union (d e : String → Places) (key : String) :
    (fun k => (Function.update d key .none k).union (Function.update e key .none k)) =
      Function.update (fun k => (d k).union (e k)) key .none := by
  funext k
  by_cases hk : k = key
  · subst hk
    simp [Places.union_none]
  · simp [Function.update_of_ne hk]

mutual

theorem coerced_coerced : ∀ (v : Json) (d e : Places),
    (v.coerced d).coerced e = v.coerced (d.union e)
  | null, d, e | bool _, d, e | number _, d, e | string _, d, e =>
    coerced_coerced_of_isLeaf (by exact trivial) d e
  | array items, d, e => congrArg array (coercedItems_coercedItems items d e 0)
  | object members, d, e => congrArg object (coercedMembers_coercedMembers members _ _)

theorem coercedItems_coercedItems : ∀ (items : List Json) (d e : Places) (i : Nat),
    coercedItems (coercedItems items d i) e i = coercedItems items (d.union e) i
  | [], _, _, _ => rfl
  | x :: xs, d, e, i =>
    congrArg₂ List.cons (coerced_coerced x _ _) (coercedItems_coercedItems xs d e (i + 1))

theorem coercedMembers_coercedMembers : ∀ (members : List (String × Json))
    (d e : String → Places), coercedMembers (coercedMembers members d) e =
      coercedMembers members fun key => (d key).union (e key)
  | [], _, _ => rfl
  | (key, x) :: rest, d, e => by
    simp only [coercedMembers, coerced_coerced x, coercedMembers_coercedMembers rest,
      update_none_union]

end

/-- Coercing one member is replacing it, if it is there. -/
theorem coercedMembers_update (members : Members) (key : String) (d : Places) :
    coercedMembers members (Function.update (fun _ => .none) key d) =
      match Members.find? key members with
      | some v => Members.replace key (v.coerced d) members
      | Option.none => members := by
  induction members with
  | nil => rfl
  | cons m rest ih =>
    obtain ⟨k, x⟩ := m
    by_cases hk : k = key
    · subst hk
      have hrest : Function.update (Function.update (fun _ => Places.none) k d) k .none =
          fun _ => .none := by
        rw [Function.update_idem]
        exact Function.update_eq_self k _
      simp only [coercedMembers, hrest, Members.find?, Members.replace, ↓reduceIte]
      rw [Function.update_self, coercedMembers_none]
    · have hrest : Function.update (Function.update (fun _ => Places.none) key d) k .none =
          Function.update (fun _ => .none) key d := by
        rw [Function.update_comm (Ne.symm hk)]
        exact congrArg (fun g : String → Places => Function.update g key d)
          (Function.update_eq_self k _)
      simp only [coercedMembers, hrest, ih, Members.find?, Members.replace, hk, ↓reduceIte]
      rw [Function.update_of_ne hk]
      change (k, x.coerced .none) :: _ = _
      rw [coerced_none]
      split
      · rfl
      · rfl

/-- Coercing again at the same places changes nothing. -/
theorem coerced_self (v : Json) (d : Places) : (v.coerced d).coerced d = v.coerced d := by
  rw [coerced_coerced, Places.union_self]

end Json

end Rulebook
