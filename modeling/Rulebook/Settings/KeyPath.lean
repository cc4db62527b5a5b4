import Rulebook.Settings.Setting
import Rulebook.Text.Digits

/-!
# Paths of keys

The key of a layer may lead into what is there: `a.b` names the key `b` in the table under `a`, and
`a[0]` an item of an array under `a`. A key that is no such path stands for itself.

* `place_nil`: a path that ends puts the value itself;
* `find?_set_of_ne`: a path changes what is found under its first name only.
-/

namespace Rulebook

inductive KeyStep where
  | key (name : String)
  | item
  deriving DecidableEq

/-- A first name, and the steps behind it. -/
structure KeyPath where
  name : String
  steps : List KeyStep
  deriving DecidableEq

namespace KeyPath

/-! ## Reading -/

def isNameChar (c : Char) : Bool := c.isAlphanum || c == '_' || c == '-'

def isBlank (c : Char) : Bool := c == ' ' || c == '\t'

/-- A name at the front of a text. -/
def readName (text : List Char) : Option (String × List Char) :=
  let name := text.takeWhile isNameChar
  if name.isEmpty then none else some (String.ofList name, text.dropWhile isNameChar)

def splitMinus : List Char → Bool × List Char
  | '-' :: rest => (true, rest)
  | rest => (false, rest)

/-- The number of an item, which may be negative, with the bracket that closes it. -/
def readItem (text : List Char) : Option (List Char) :=
  let (negative, text) := splitMinus (text.dropWhile isBlank)
  let digits := text.takeWhile Char.isDigit
  match (text.dropWhile Char.isDigit).dropWhile isBlank with
  | ']' :: rest =>
    if digits.isEmpty || !Bits.fitsSigned 64 (Digits.signed negative (Digits.value digits)) then
      none
    else some rest
  | _ => none

theorem length_dropWhile_le (test : Char → Bool) (text : List Char) :
    (text.dropWhile test).length ≤ text.length :=
  (List.dropWhile_sublist test).length_le

theorem length_readName {text rest : List Char} {name : String}
    (h : readName text = some (name, rest)) : rest.length ≤ text.length := by
  simp only [readName] at h
  split at h
  · simp at h
  · simp only [Option.some.injEq, Prod.mk.injEq] at h
    exact h.2 ▸ length_dropWhile_le _ _

theorem length_splitMinus (text : List Char) : (splitMinus text).2.length ≤ text.length := by
  unfold splitMinus
  split <;> simp

theorem length_readItem {text rest : List Char} (h : readItem text = some rest) :
    rest.length ≤ text.length := by
  simp only [readItem] at h
  split at h
  · next r e =>
    have h1 : r.length + 1 ≤ text.length := by
      rw [← List.length_cons (a := ']'), ← e]
      exact Nat.le_trans (length_dropWhile_le _ _) (Nat.le_trans (length_dropWhile_le _ _)
        (Nat.le_trans (length_splitMinus _) (length_dropWhile_le _ _)))
    split at h
    · exact absurd h (by simp)
    · rw [Option.some.injEq] at h
      rw [← h]
      omega
  · simp at h

/-- The steps that a text is, to its end. -/
def readSteps : List Char → Option (List KeyStep)
  | [] => some []
  | '.' :: text =>
    match h : readName text with
    | some (name, rest) =>
      have := length_readName h
      (readSteps rest).map (.key name :: ·)
    | none => none
  | '[' :: text =>
    match h : readItem text with
    | some rest =>
      have := length_readItem h
      (readSteps rest).map (.item :: ·)
    | none => none
  | _ => none
termination_by text => text.length
decreasing_by all_goals simp_wf <;> omega

/-- The path that a key is written for. -/
def ofKey (key : String) : KeyPath :=
  match (readName key.toList).bind fun (name, rest) => (readSteps rest).map (KeyPath.mk name) with
  | some path => path
  | none => ⟨key, []⟩

/-! ## Setting values -/

/-- What is there after a value is put behind some steps. A step to a key makes a table of what is
no table, a step to an item makes an array. -/
def place : List KeyStep → Option Setting → Setting → Setting
  | [], old, value => Setting.overlay old value
  | .key name :: steps, old, value =>
    let es := Setting.entriesOf old
    .table (es.set name (place steps (es.find? name) value))
  | .item :: _, _, _ => .array

def set (path : KeyPath) (value : Setting) (es : Entries Setting) : Entries Setting :=
  es.set path.name (place path.steps (es.find? path.name) value)

theorem find?_set_of_ne {path : KeyPath} {other : String} (h : other ≠ path.name)
    (value : Setting) (es : Entries Setting) :
    (path.set value es).find? other = es.find? other :=
  Entries.find?_set_of_ne h _ _

end KeyPath

end Rulebook
