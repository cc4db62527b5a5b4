import Rulebook.Number.Binary64
import Rulebook.Number.Bits

/-!
# JSON values

Whole numbers and binary64 numbers are different values, as are an absent member and one that is
null. Members of an object are looked up by their first occurrence.

* `beq_refl`: every value equals itself;
* `find?_insert_self`, `find?_insert_of_ne`: writing a member changes that member only;
* `find?_replace_self`, `find?_replace_of_ne`, `keys_replace`: replacing a member adds no key.
-/

namespace Rulebook

/-- Whole numbers fit 64 bits, with a sign or without one; all other numbers are binary64. -/
inductive Number where
  | whole (i : Int) (fits : (Bits.fitsSigned 64 i || Bits.fitsUnsigned 64 i) = true)
  | float (x : Binary64)

namespace Number

def beq : Number → Number → Bool
  | whole i _, whole j _ => i == j
  | float x, float y => x == y
  | _, _ => false

instance : BEq Number := ⟨beq⟩

theorem beq_refl (n : Number) : (n == n) = true := by
  cases n with
  | whole i fits => exact beq_self_eq_true i
  | float x => exact (Binary64.beq_iff x x).2 rfl

/-- A whole number, or the nearest binary64 number if it is out of range. -/
def ofInt (i : Int) : Number :=
  if h : (Bits.fitsSigned 64 i || Bits.fitsUnsigned 64 i) = true then whole i h
  else float (Binary64.ofInt i)

instance : Inhabited Number := ⟨ofInt 0⟩

/-- The nearest binary64 number. -/
def toBinary64 : Number → Binary64
  | whole i _ => Binary64.ofInt i
  | float x => x

/-- Whether nothing stands after the point. -/
def isWhole : Number → Bool
  | whole _ _ => true
  | float x => x.isWhole

end Number

inductive Json where
  | null
  | bool (b : Bool)
  | number (n : Number)
  | string (s : String)
  | array (items : List Json)
  | object (members : List (String × Json))

namespace Json

instance : Inhabited Json := ⟨null⟩

def ofInt (i : Int) : Json := number (.ofInt i)

def ofNat (n : Nat) : Json := ofInt n

/-! ## Equality -/

mutual

/-- Equality of values; numbers are equal if they are of one kind and of one value. -/
def beq : Json → Json → Bool
  | null, null => true
  | bool a, bool b => a == b
  | number m, number n => m == n
  | string s, string t => s == t
  | array xs, array ys => beqItems xs ys
  | object ms, object ns => beqMembers ms ns
  | _, _ => false

def beqItems : List Json → List Json → Bool
  | [], [] => true
  | x :: xs, y :: ys => beq x y && beqItems xs ys
  | _, _ => false

def beqMembers : List (String × Json) → List (String × Json) → Bool
  | [], [] => true
  | (k, x) :: ms, (l, y) :: ns => k == l && beq x y && beqMembers ms ns
  | _, _ => false

end

instance : BEq Json := ⟨beq⟩

mutual

theorem beq_refl : ∀ v : Json, beq v v = true
  | null => rfl
  | bool b => by simp [beq]
  | number n => by simp [beq, Number.beq_refl n]
  | string s => by simp [beq]
  | array xs => by simp [beq, beqItems_refl xs]
  | object ms => by simp [beq, beqMembers_refl ms]

theorem beqItems_refl : ∀ xs : List Json, beqItems xs xs = true
  | [] => rfl
  | x :: xs => by simp [beqItems, beq_refl x, beqItems_refl xs]

theorem beqMembers_refl : ∀ ms : List (String × Json), beqMembers ms ms = true
  | [] => rfl
  | (k, x) :: ms => by simp [beqMembers, beq_refl x, beqMembers_refl ms]

end

/-! ## Members of an object -/

abbrev Members := List (String × Json)

namespace Members

def find? (key : String) : Members → Option Json
  | [] => none
  | (k, v) :: rest => if k = key then some v else find? key rest

/-- Writes a member in the order of keys; a member of that key is overwritten. -/
def insert (key : String) (value : Json) : Members → Members
  | [] => [(key, value)]
  | (k, v) :: rest =>
    if k = key then (key, value) :: rest
    else if key < k then (key, value) :: (k, v) :: rest
    else (k, v) :: insert key value rest

/-- Overwrites the member of that key, if there is one. -/
def replace (key : String) (value : Json) : Members → Members
  | [] => []
  | (k, v) :: rest => if k = key then (k, value) :: rest else (k, v) :: replace key value rest

/-- Of several values of one key the last is kept. -/
def ofList (members : List (String × Json)) : Members :=
  members.foldl (fun ms m => ms.insert m.1 m.2) []

theorem find?_insert_self (key : String) (value : Json) (ms : Members) :
    find? key (insert key value ms) = some value := by
  induction ms with
  | nil => simp [insert, find?]
  | cons m ms ih =>
    by_cases h : m.1 = key
    · simp [insert, find?, h]
    · by_cases hlt : key < m.1 <;> simp [insert, find?, h, hlt, ih]

theorem find?_insert_of_ne {key other : String} (h : other ≠ key) (value : Json) (ms : Members) :
    find? other (insert key value ms) = find? other ms := by
  induction ms with
  | nil => simp [insert, find?, h.symm]
  | cons m ms ih =>
    by_cases hm : m.1 = key
    · have hk : m.1 ≠ other := fun e => h (e.symm.trans hm)
      simp [insert, find?, hm, h.symm]
    · by_cases hlt : key < m.1 <;> simp [insert, find?, hm, hlt, ih, h.symm]

theorem keys_replace (key : String) (value : Json) (ms : Members) :
    (replace key value ms).map Prod.fst = ms.map Prod.fst := by
  induction ms with
  | nil => rfl
  | cons m ms ih => by_cases h : m.1 = key <;> simp [replace, h, ih]

theorem find?_replace_self (key : String) (value : Json) (ms : Members) :
    find? key (replace key value ms) = (find? key ms).map fun _ => value := by
  induction ms with
  | nil => rfl
  | cons m ms ih => by_cases h : m.1 = key <;> simp [replace, find?, h, ih]

theorem find?_replace_of_ne {key other : String} (h : other ≠ key) (value : Json) (ms : Members) :
    find? other (replace key value ms) = find? other ms := by
  induction ms with
  | nil => rfl
  | cons m ms ih =>
    by_cases hm : m.1 = key
    · simp [replace, find?, hm, h.symm]
    · simp [replace, find?, hm, ih]

end Members

/-- The member of an object; other values have none. -/
def get? (key : String) : Json → Option Json
  | object ms => Members.find? key ms
  | _ => none

end Json

end Rulebook
