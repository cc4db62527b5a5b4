/-!
# Entries

Values under names, in the order in which the names came first. Each name is meant to occur once.

* `find?_set_self`, `find?_set_of_ne`: setting a name changes what is found under that name only.
-/

namespace Rulebook

abbrev Entries (α : Type) := List (String × α)

namespace Entries

variable {α β : Type}

def find? (key : String) : Entries α → Option α
  | [] => none
  | (k, v) :: rest => if k = key then some v else find? key rest

def has (key : String) (es : Entries α) : Bool := (find? key es).isSome

/-- A new name comes last, a known one stays where it is. -/
def set (key : String) (value : α) : Entries α → Entries α
  | [] => [(key, value)]
  | (k, v) :: rest => if k = key then (k, value) :: rest else (k, v) :: set key value rest

theorem find?_set_self (key : String) (value : α) (es : Entries α) :
    find? key (set key value es) = some value := by
  induction es with
  | nil => simp [set, find?]
  | cons e es ih => by_cases h : e.1 = key <;> simp [set, find?, h, ih]

theorem find?_set_of_ne {key other : String} (h : other ≠ key) (value : α) (es : Entries α) :
    find? other (set key value es) = find? other es := by
  induction es with
  | nil => simp [set, find?, h.symm]
  | cons e es ih =>
    by_cases he : e.1 = key
    · simp [set, find?, he, h.symm]
    · simp [set, find?, he, ih]

end Entries

end Rulebook
