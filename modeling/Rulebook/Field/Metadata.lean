import Rulebook.Json.Basic

/-!
# Field metadata

What documentation says about a field. Each check contributes a fragment; fragments are overlaid
in order, a key that is set in a later one replacing that of an earlier one.

* `overlay_assoc`, `overlay_empty`, `empty_overlay`, `overlay_self`: overlaying is associative,
  with neutral element, and idempotent.
-/

namespace Rulebook

structure Metadata where
  required : Option Bool
  type : Option String
  format : Option String
  example? : Option Json
  minLength : Option Nat
  maxLength : Option Nat
  pattern : Option String
  values : Option (List Json)
  enumName : Option String
  isArray : Option Bool
  items : Option String
  nestedType : Option String
  uniqueItems : Option Bool

namespace Metadata

/-- No key is set. -/
def empty : Metadata :=
  ⟨none, none, none, none, none, none, none, none, none, none, none, none, none⟩

/-! ## Overlaying -/

/-- The keys of the fragment, and those of `base` that the fragment leaves unset. -/
def overlay (base fragment : Metadata) : Metadata where
  required := fragment.required.or base.required
  type := fragment.type.or base.type
  format := fragment.format.or base.format
  example? := fragment.example?.or base.example?
  minLength := fragment.minLength.or base.minLength
  maxLength := fragment.maxLength.or base.maxLength
  pattern := fragment.pattern.or base.pattern
  values := fragment.values.or base.values
  enumName := fragment.enumName.or base.enumName
  isArray := fragment.isArray.or base.isArray
  items := fragment.items.or base.items
  nestedType := fragment.nestedType.or base.nestedType
  uniqueItems := fragment.uniqueItems.or base.uniqueItems

def overlayAll (base : Metadata) (fragments : List Metadata) : Metadata :=
  fragments.foldl overlay base

theorem overlay_assoc (a b c : Metadata) :
    (a.overlay b).overlay c = a.overlay (b.overlay c) := by
  simp [overlay, Option.or_assoc]

theorem overlay_empty (a : Metadata) : a.overlay empty = a := by
  simp [overlay, empty]

theorem empty_overlay (a : Metadata) : empty.overlay a = a := by
  simp [overlay, empty]

theorem overlay_self (a : Metadata) : a.overlay a = a := by
  simp [overlay]

theorem overlayAll_append (base : Metadata) (xs ys : List Metadata) :
    base.overlayAll (xs ++ ys) = (base.overlayAll xs).overlayAll ys :=
  List.foldl_append

theorem overlayAll_eq (base : Metadata) (fragments : List Metadata) :
    base.overlayAll fragments = base.overlay (empty.overlayAll fragments) := by
  induction fragments generalizing base with
  | nil => exact (overlay_empty base).symm
  | cons f fs ih =>
    change (base.overlay f).overlayAll fs = base.overlay ((empty.overlay f).overlayAll fs)
    rw [ih, ih (empty.overlay f), empty_overlay, overlay_assoc]

/-- A field counts as required unless it is said to be optional. -/
def isRequired (m : Metadata) : Bool := m.required != some false

/-! ## JSON -/

/-- The keys that are set, in the order in which they are documented. -/
def members (m : Metadata) : List (String × Json) :=
  [("required", m.required.map .bool), ("type", m.type.map .string),
    ("format", m.format.map .string), ("example", m.example?),
    ("minLength", m.minLength.map .ofNat), ("maxLength", m.maxLength.map .ofNat),
    ("pattern", m.pattern.map .string), ("enum", m.values.map .array),
    ("enumName", m.enumName.map .string), ("isArray", m.isArray.map .bool),
    ("items", m.items.map .string), ("nestedType", m.nestedType.map .string),
    ("uniqueItems", m.uniqueItems.map .bool)].filterMap fun (key, value) =>
      value.map fun v => (key, v)

def toJson (m : Metadata) : Json := .object (Json.Members.ofList m.members)

end Metadata

end Rulebook
