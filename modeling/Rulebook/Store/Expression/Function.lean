import Rulebook.Store.Collation
import Rulebook.Store.Expression.Arithmetic

/-!
# Functions

Functions on cells, with the counts of arguments that they take. Letters change their case in ASCII
only, and characters are counted from one.

* `coalesce_first`: the first argument that is not null is taken;
* `takes_iff`: a count of arguments is taken if it is in the range of the function.
-/

namespace Rulebook

inductive Function where
  | abs
  | coalesce
  | hex
  | iif
  | instr
  | length
  | lower
  | ltrim
  | max
  | min
  | nullif
  | replace
  | rtrim
  | substr
  | trim
  | typeof
  | unicode
  | upper
  /-- A function whose value is not worked out here. -/
  | other
  deriving DecidableEq

namespace Function

/-! ## Names -/

/-- A function under a name, with the least and the greatest count of its arguments. -/
structure Entry where
  name : String
  function : Function
  least : Nat
  greatest : Option Nat

def entries : List Entry :=
  [⟨"abs", abs, 1, some 1⟩, ⟨"coalesce", coalesce, 2, none⟩, ⟨"hex", hex, 1, some 1⟩,
    ⟨"ifnull", coalesce, 2, some 2⟩, ⟨"iif", iif, 3, some 3⟩, ⟨"instr", instr, 2, some 2⟩,
    ⟨"length", length, 1, some 1⟩, ⟨"lower", lower, 1, some 1⟩, ⟨"ltrim", ltrim, 1, some 2⟩,
    ⟨"max", max, 1, none⟩, ⟨"min", min, 1, none⟩, ⟨"nullif", nullif, 2, some 2⟩,
    ⟨"replace", replace, 3, some 3⟩, ⟨"rtrim", rtrim, 1, some 2⟩, ⟨"substr", substr, 2, some 3⟩,
    ⟨"substring", substr, 2, some 3⟩, ⟨"trim", trim, 1, some 2⟩, ⟨"typeof", typeof, 1, some 1⟩,
    ⟨"unicode", unicode, 1, some 1⟩, ⟨"upper", upper, 1, some 1⟩]

def otherNames : List String :=
  ["acos", "acosh", "asin", "asinh", "atan", "atan2", "atanh", "avg", "ceil", "ceiling",
    "changes", "char", "concat", "concat_ws", "cos", "cosh", "count", "current_date",
    "current_time", "current_timestamp", "date", "datetime", "degrees", "exp", "floor", "format",
    "glob", "group_concat", "json", "json_array", "json_array_length", "json_extract",
    "json_object", "json_quote", "json_type", "json_valid", "julianday", "last_insert_rowid",
    "like", "likelihood", "likely", "ln", "log", "log10", "log2", "mod", "octet_length", "pi",
    "pow", "power", "printf", "quote", "radians", "random", "randomblob", "round", "sign", "sin",
    "sinh", "soundex", "sqlite_source_id", "sqlite_version", "sqrt", "strftime", "string_agg",
    "sum", "tan", "tanh", "time", "timediff", "total", "total_changes", "trunc", "unhex",
    "unistr", "unixepoch", "unlikely", "zeroblob"]

/-- The function of a name, in either case. -/
def ofName? (name : String) : Option Entry :=
  let name := String.ofList (Collation.lowerAscii name)
  (entries.find? fun e => e.name == name).or
    (if otherNames.contains name then some ⟨name, other, 0, none⟩ else none)

/-- Whether a function takes that many arguments. -/
def Entry.takes (e : Entry) (count : Nat) : Bool :=
  decide (e.least ≤ count) && e.greatest.all fun greatest => count ≤ greatest

theorem Entry.takes_iff (e : Entry) (count : Nat) :
    e.takes count = true ↔ e.least ≤ count ∧ ∀ greatest ∈ e.greatest, count ≤ greatest := by
  cases h : e.greatest <;> simp [takes, h]

/-! ## Values -/

/-- What makes a text of the text of a cell; null stays null. -/
def onText (f : List Char → Cell) (c : Cell) : Cell :=
  if c.isNull then .null else f c.display.toList

def ofChars (text : List Char) : Cell := .text (String.ofList text)

def mapChars (f : Char → Char) : Cell → Cell := onText fun text => ofChars (text.map f)

def hexDigits : List Char := "0123456789ABCDEF".toList

def hexOf (byte : Nat) : List Char :=
  [hexDigits.getD (byte / 16 % 16) '0', hexDigits.getD (byte % 16) '0']

def bytesOf : Cell → List Nat
  | .blob bytes => bytes
  | c => Cell.toBytes c.display

def lengthOf : Cell → Cell
  | .blob bytes => .integer bytes.length
  | c => onText (fun text => .integer (text.takeWhile (· != '\x00')).length) c

def kindOf : Cell → String
  | .null => "null"
  | .integer _ => "integer"
  | .real _ | .infinite _ => "real"
  | .text _ => "text"
  | .blob _ => "blob"

/-- The magnitude of a number; that of what is no whole number is a real one. -/
def absolute (c : Cell) : Cell :=
  match c with
  | .null => .null
  | .integer i => .integer i.natAbs
  | c =>
    match Affinity.toReal c.number with
    | .real x => .real { x with negative := false }
    | .infinite _ => .infinite false
    | c => c

/-- Characters from a place on, which counts from the end if it is negative; a negative size takes
characters before that place. -/
def slice (text : List Char) (start : Int) (size : Option Int) : List Char :=
  let n : Int := text.length
  let first := if start < 0 then n + start else start - 1
  let (low, high) := match size with
    | none => (first, n)
    | some size => if 0 ≤ size then (first, first + size) else (first + size, first)
  (text.take high.toNat).drop low.toNat

/-- Drops characters at the front that are in a list. -/
def trimFront (set text : List Char) : List Char := text.dropWhile set.contains

def trimBack (set text : List Char) : List Char := (trimFront set text.reverse).reverse

def trimmed (f : List Char → List Char → List Char) : List Cell → Cell
  | [c] => onText (fun text => ofChars (f [' '] text)) c
  | [c, set] => onText (fun set => onText (fun text => ofChars (f set text)) c) set
  | _ => .null

/-- Where a text first occurs in another one, counted from one; zero if it does not. -/
def indexIn (wanted : List Char) : List Char → Nat → Nat
  | [], i => if wanted.isEmpty then i else 0
  | c :: rest, i => if wanted.isPrefixOf (c :: rest) then i else indexIn wanted rest (i + 1)

/-- Replaces every occurrence of a text that is not empty; `left` characters are still part of the
last one. -/
def substitute (wanted new : List Char) : Nat → List Char → List Char
  | _, [] => []
  | left + 1, _ :: rest => substitute wanted new left rest
  | 0, c :: rest =>
    if wanted.isPrefixOf (c :: rest) then new ++ substitute wanted new (wanted.length - 1) rest
    else c :: substitute wanted new 0 rest

/-- The first argument that comes before, or after, all others. -/
def extreme (wanted : Ordering) : List Cell → Cell
  | [] => .null
  | c :: rest =>
    if (c :: rest).any Cell.isNull then .null
    else rest.foldl (fun a b => if Collation.binary.order b a = wanted then b else a) c

def firstValue : List Cell → Cell
  | [] => .null
  | c :: rest => if c.isNull then firstValue rest else c

theorem coalesce_first {c : Cell} (h : c.isNull = false) (rest : List Cell) :
    firstValue (.null :: c :: rest) = c := by
  simp [firstValue, h, show Cell.null.isNull = true from rfl]

def apply : Function → List Cell → Cell
  | abs, [c] => absolute c
  | coalesce, cs => firstValue cs
  | hex, [c] => ofChars ((bytesOf c).flatMap hexOf)
  | iif, [c, a, b] => if c.truth = some true then a else b
  | instr, [a, b] =>
    onText (fun wanted => onText (fun text => .integer (indexIn wanted text 1)) a) b
  | length, [c] => lengthOf c
  | lower, [c] => mapChars Char.toLower c
  | upper, [c] => mapChars Char.toUpper c
  | ltrim, cs => trimmed trimFront cs
  | rtrim, cs => trimmed trimBack cs
  | trim, cs => trimmed (fun set text => trimBack set (trimFront set text)) cs
  | max, cs => extreme .gt cs
  | min, cs => extreme .lt cs
  | nullif, [a, b] => if a.equals b then .null else a
  | replace, [c, wanted, new] =>
    onText (fun new => onText (fun wanted => onText (fun text =>
      ofChars (if wanted.isEmpty then text else substitute wanted new 0 text)) c) wanted) new
  | substr, [c, start] =>
    if start.isNull then .null else onText (fun text => ofChars (slice text start.whole none)) c
  | substr, [c, start, size] =>
    if start.isNull || size.isNull then .null
    else onText (fun text => ofChars (slice text start.whole (some size.whole))) c
  | typeof, [c] => .text (kindOf c)
  | unicode, [c] =>
    onText (fun text => (text.head?.map fun c => Cell.integer c.toNat).getD .null) c
  | _, _ => .null

end Function

end Rulebook
