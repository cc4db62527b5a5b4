import Rulebook.Pattern.Escape

/-!
# Sets in brackets

A set in brackets holds characters, ranges and other sets, and may be the complement of what is
written. Sets in brackets can stand in each other and be joined with `&&`, `--` and `~~`.
-/

namespace Rulebook.Pattern

/-- How deep a pattern may be nested. -/
def depthLimit : Nat := 250

/-- What has been read, with the depth to which it is nested. -/
structure Nested (α : Type) where
  depth : Nat
  value : α

namespace Nested

/-- One level more around a value, unless it is too deep. -/
def wrap {α : Type} (depth : Nat) (value : α) : Option (Nested α) :=
  if depth < depthLimit then some ⟨depth + 1, value⟩ else none

def deepest {α : Type} (items : List (Nested α)) : Nat := (items.map depth).foldl max 0

/-- The depth of items side by side; two or more are one level deeper. -/
def depthOf {α : Type} (items : List (Nested α)) : Nat :=
  if items.length < 2 then deepest items else deepest items + 1

end Nested

namespace Bracket

/-! ## Named ASCII sets -/

def named? (name : List Char) : Option CharSet :=
  (Unicode.find? [
    (["alnum"], .ofText "30-39 41-5A 61-7A"), (["alpha"], .ofText "41-5A 61-7A"),
    (["ascii"], .ofText "0-7F"), (["blank"], .ofText "9 20"), (["cntrl"], .ofText "0-1F 7F"),
    (["digit"], .ofText "30-39"), (["graph"], .ofText "21-7E"), (["lower"], .ofText "61-7A"),
    (["print"], .ofText "20-7E"), (["punct"], .ofText "21-2F 3A-40 5B-60 7B-7E"),
    (["space"], .ofText "9-D 20"), (["upper"], .ofText "41-5A"), (["word"], asciiWord),
    (["xdigit"], .ofText "30-39 41-46 61-66")] (String.ofList name) : Option CharSet)

/-- Reads `:name:]` or `:^name:]` behind an opening bracket. -/
def readNamed : List Char → Option (Bool × CharSet × List Char)
  | ':' :: rest =>
    let (negated, rest) := match rest with
      | '^' :: rest => (true, rest)
      | rest => (false, rest)
    match rest.dropWhile (· != ':') with
    | ':' :: ']' :: rest' =>
      (named? (rest.takeWhile (· != ':'))).map fun s => (negated, s, rest')
    | _ => none
  | _ => none

/-! ## Characters and ranges -/

/-- One character or escape. -/
def readChar (flags : Flags) : List Char → Option (Escape × List Char)
  | [] => none
  | '\\' :: rest => Escape.read flags rest
  | c :: rest => some (.char c, rest)

/-- The characters from the first to the last, if these are in order and known. -/
def range (flags : Flags) (first last : Char) : Option CharSet :=
  if last.toNat < first.toNat ∨ (flags.ascii ∧ 128 ≤ last.toNat) then none
  else some (.range first last)

/-- One item: a character, a range or a set. A hyphen in front of a closing bracket or of another
hyphen makes no range. -/
def readItem (flags : Flags) (text : List Char) : Option (CharSet × List Char) := do
  let (first, rest) ← readChar flags text
  let rest := flags.skip rest
  match rest with
  | [] => none
  | c :: after =>
    if c != '-' || flags.peek after == some ']' || flags.peek after == some '-' then
      match first with
      | .char c => (range flags c c).map fun s => (s, rest)
      | .set s => some (s, rest)
      | .edge _ => none
    else
      let (last, rest) ← readChar flags (flags.skip after)
      match first, last with
      | .char c, .char d => (range flags c d).map fun s => (s, rest)
      | _, _ => none

/-! ## Operations -/

inductive SetOp where
  | inter
  | diff
  | symmDiff

def SetOp.apply : SetOp → CharSet → CharSet → CharSet
  | inter, s, t => s.inter t
  | diff, s, t => s.diff t
  | symmDiff, s, t => s.symmDiff t

/-- A set that is still open: its negation, the operation that waits for the items to come, and
the items since then. -/
structure Open where
  negated : Bool
  left : Option (Nested CharSet × SetOp)
  items : List (Nested CharSet)

namespace Open

def add (o : Open) (s : Nested CharSet) : Open := { o with items := s :: o.items }

/-- All that has been read; operations bind to the left. -/
def operand (flags : Flags) (o : Open) : Option (Nested CharSet) :=
  let right : Nested CharSet :=
    ⟨Nested.depthOf o.items, .unions (o.items.map Nested.value)⟩
  match o.left with
  | none => some right
  | some (left, op) =>
    Nested.wrap (max left.depth right.depth)
      (op.apply (flags.fold left.value) (flags.fold right.value))

def operate (flags : Flags) (o : Open) (op : SetOp) : Option Open :=
  (o.operand flags).map fun s => ⟨o.negated, some (s, op), []⟩

def close (flags : Flags) (o : Open) : Option (Nested CharSet) := do
  let s ← o.operand flags
  let set ← flags.finish o.negated s.value
  Nested.wrap s.depth set

end Open

/-! ## The whole set -/

/-- The start behind an opening bracket: the negation, and hyphens or a closing bracket that
stand for themselves there. -/
def readStart (flags : Flags) (text : List Char) : Open × List Char :=
  let (negated, text) := match flags.skip text with
    | '^' :: rest => (true, rest)
    | rest => (false, rest)
  let (hyphens, rest) := flags.take (· == '-') false text
  let hyphens := hyphens.map fun _ => (⟨0, .single '-'⟩ : Nested CharSet)
  match hyphens, rest with
  | [], ']' :: rest => (⟨negated, none, [⟨0, .single ']'⟩]⟩, rest)
  | _, _ => (⟨negated, none, hyphens⟩, rest)

/-- Reads a set up to its closing bracket; the sets around it wait in `outer`. Every round takes
a character at least, so the length of the text bounds their number. -/
def readFrom (flags : Flags) :
    Nat → List Open → Open → List Char → Option (Nested CharSet × List Char)
  | 0, _, _, _ => none
  | fuel + 1, outer, o, text =>
    match flags.skip text with
    | [] => none
    | '[' :: rest =>
      match readNamed rest with
      | some (negated, s, rest) => do
        let s ← flags.finish negated s
        readFrom flags fuel outer (o.add ⟨0, s⟩) rest
      | none =>
        let (inner, rest) := readStart flags rest
        readFrom flags fuel (o :: outer) inner rest
    | ']' :: rest => do
      let s ← o.close flags
      match outer with
      | [] => some (s, rest)
      | o :: outer => readFrom flags fuel outer (o.add s) rest
    | '&' :: '&' :: rest => do readFrom flags fuel outer (← o.operate flags .inter) rest
    | '-' :: '-' :: rest => do readFrom flags fuel outer (← o.operate flags .diff) rest
    | '~' :: '~' :: rest => do readFrom flags fuel outer (← o.operate flags .symmDiff) rest
    | text => do
      let (s, rest) ← readItem flags text
      readFrom flags fuel outer (o.add ⟨0, s⟩) rest

/-- Reads a set behind its opening bracket. -/
def read (flags : Flags) (text : List Char) : Option (Nested CharSet × List Char) :=
  let (o, rest) := readStart flags text
  readFrom flags (rest.length + 1) [] o rest

end Bracket

end Rulebook.Pattern
