import Rulebook.Json.Printer

/-!
# Cells of tables

A cell is null, a whole number of 64 bits, a real number, a text or bytes.

* `equals_null`: null is equal to nothing;
* `eq_of_equals_integers`: no cell is equal to two different whole numbers.
-/

namespace Rulebook

inductive Cell where
  | null
  | integer (i : Int)
  | real (x : Binary64)
  | infinite (negative : Bool)
  | text (s : String)
  | blob (bytes : List Nat)

namespace Cell

/-! ## Equality -/

/-- Numbers are compared by exact value; values of different classes are never equal. -/
def equals : Cell → Cell → Bool
  | integer i, integer j => i == j
  | integer i, real x => x.equalsInt i
  | real x, integer i => x.equalsInt i
  | real x, real y => x == y
  | infinite a, infinite b => a == b
  | text s, text t => s == t
  | blob a, blob b => a == b
  | _, _ => false

theorem equals_null (c : Cell) : c.equals null = false := by cases c <;> rfl

theorem eq_of_equals_integers {c : Cell} {i j : Int} (hi : c.equals (integer i) = true)
    (hj : c.equals (integer j) = true) : i = j := by
  cases c with
  | integer k => simp only [equals, beq_iff_eq] at hi hj; exact hi.symm.trans hj
  | real x => exact Binary64.eq_of_equalsInt hi hj
  | _ => simp [equals] at hi

/-! ## JSON -/

/-- The cell a JSON value is looked up as. -/
def ofJson : Json → Cell
  | .null => null
  | .bool b => integer (if b then 1 else 0)
  | .number n =>
    match n with
    | .whole i _ => if Bits.fitsSigned 64 i then integer i else real (Binary64.ofInt i)
    | .float x => real x
  | .string s => text s
  | v => text v.compact

/-- The JSON value of a cell; infinite numbers have none. -/
def toJson : Cell → Json
  | null => .null
  | integer i => .ofInt i
  | real x => .number (.float x)
  | infinite _ => .null
  | text s => .string s
  | blob bytes => .array (bytes.map .ofNat)

end Cell

end Rulebook
