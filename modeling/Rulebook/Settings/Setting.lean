import Rulebook.Entries
import Rulebook.Json.Basic
import Rulebook.Number.Extended
import Rulebook.Text.Length

/-!
# Settings

A setting is a value from a file or from the environment. Keys are set layer by layer: a later
layer replaces the value of an earlier one, tables being merged key by key. Conversion to the type
that is asked for happens at the end. Nothing is ever asked of the items of an array.

* `overlay_of_not_table`: a value other than a table replaces whatever is there;
* `overlay_table`: a table has its keys set in what is there.
-/

namespace Rulebook

inductive Setting where
  | null
  | bool (b : Bool)
  | whole (i : Int)
  | float (x : Extended)
  | string (s : String)
  | array
  | table (entries : List (String × Setting))

namespace Setting

instance : Inhabited Setting := ⟨null⟩

/-! ## Layers -/

/-- The entries of a table; any other value has none. -/
def entries : Setting → Entries Setting
  | table es => es
  | _ => []

def entriesOf (value : Option Setting) : Entries Setting := (value.map entries).getD []

mutual

/-- The value of a key after a layer gives it another value. -/
def overlay : Option Setting → Setting → Setting
  | old, table es => table (overlayAll (entriesOf old) es)
  | _, value => value

/-- Sets keys one after another. -/
def overlayAll : Entries Setting → Entries Setting → Entries Setting
  | base, [] => base
  | base, (k, v) :: rest => overlayAll (base.set k (overlay (base.find? k) v)) rest

end

theorem overlay_table (old : Option Setting) (es : Entries Setting) :
    overlay old (table es) = table (overlayAll (entriesOf old) es) := by
  rw [overlay]

/-- The text of a scalar; there is none for other values. -/
def toText? : Setting → Option String
  | bool b => some (if b then "true" else "false")
  | whole i => some (toString i)
  | float x => some x.text
  | string s => some s
  | _ => none

/-- The natural number of 64 bits that a scalar stands for. -/
def toNat? : Setting → Option Nat
  | bool b => some b.toNat
  | whole i => if Bits.fitsUnsigned 64 i then some i.toNat else none
  | float x => some (x.toNat (Bits.count 64 - 1))
  | string s =>
    let word := String.ofList (s.toList.map Char.toLower)
    if word = "true" ∨ word = "on" ∨ word = "yes" then some 1
    else if word = "false" ∨ word = "off" ∨ word = "no" then some 0
    else Length.ofText s.toList
  | _ => none

/-- A number of 16 bits. -/
def toPort? (v : Setting) : Option Nat := v.toNat?.filter fun n => n < Bits.count 16

/-- The name that a choice among names is stated by: a text, or the only key of a table. -/
def toChoice? : Setting → Option String
  | string s => some s
  | table [(key, _)] => some key
  | _ => none

/-! ## JSON -/

mutual

def ofJson : Json → Setting
  | .null => null
  | .bool b => bool b
  | .number (.whole i _) => whole i
  | .number (.float x) => float (.finite x)
  | .string s => string s
  | .array _ => array
  | .object members => table (ofMembers members)

def ofMembers : List (String × Json) → Entries Setting
  | [] => []
  | (k, v) :: rest => (k, ofJson v) :: ofMembers rest

end

end Setting

end Rulebook
