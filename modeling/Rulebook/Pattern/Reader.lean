import Rulebook.Number.Bits
import Rulebook.Pattern.Bracket

/-!
# Reading patterns

The notation of patterns: `.`, sets in brackets, `^` and `$`, groups, `|`, the repetitions `*`,
`+`, `?` and those in braces, escapes, and flags. There are no back references and no look-around.
-/

namespace Rulebook.Pattern

/-! ## Repetitions -/

/-- A number of 32 bits, with blanks around it. -/
def readCount (flags : Flags) (text : List Char) : Option (Nat × List Char) :=
  let (digits, rest) := flags.take Char.isDigit false (text.dropWhile Unicode.isBlank)
  if digits.isEmpty ∨ Bits.count 32 ≤ Digits.value digits then none
  else some (Digits.value digits, flags.skip (rest.dropWhile Unicode.isBlank))

/-- The bounds of a repetition, behind the opening brace. -/
def readBounds (flags : Flags) (text : List Char) : Option (Nat × Option Nat × List Char) := do
  let (least, rest) ← readCount flags (flags.skip text)
  match rest with
  | '}' :: rest => some (least, some least, rest)
  | ',' :: rest =>
    match flags.skip rest with
    | '}' :: rest => some (least, none, rest)
    | rest => do
      let (most, rest) ← readCount flags rest
      match rest with
      | '}' :: rest => if least ≤ most then some (least, some most, rest) else none
      | _ => none
  | _ => none

/-- Whether a question mark follows, which turns the preference for long matches around. -/
def readLazy : List Char → Bool × List Char
  | '?' :: rest => (true, rest)
  | rest => (false, rest)

/-! ## Groups and sequences -/

def isNameStart (c : Char) : Bool := c == '_' || Unicode.isAlphabetic c

def isNameChar (c : Char) : Bool :=
  ['_', '.', '[', ']'].contains c || Unicode.isAlphabetic c || Unicode.isNumeric c

/-- Reads a group's name up to `>`. -/
def readGroupName (text : List Char) : Option (List Char × List Char) :=
  let name := text.takeWhile (· != '>')
  match name, text.dropWhile (· != '>') with
  | c :: cs, _ :: rest => if isNameStart c && cs.all isNameChar then some (name, rest) else none
  | _, _ => none

/-- An item of a sequence; one that only sets flags is `none`. -/
abbrev Item := Nested (Option Expr)

/-- A group that is still open: the flags around it, its number if it has one, the branches read
before it, and the items of the branch it stands in. -/
structure Open where
  flags : Flags
  number : Option Nat
  branches : List (Nested Expr)
  items : List Item

def closeBranch (items : List Item) : Nested Expr :=
  ⟨Nested.depthOf items, Expr.ofSeq (items.reverse.filterMap Nested.value)⟩

/-- All branches, the last of which is read up to its end. -/
def closeBranches (branches : List (Nested Expr)) (items : List Item) : Option (Nested Expr) :=
  let last := closeBranch items
  match branches with
  | [] => some last
  | _ =>
    Nested.wrap (Nested.deepest (last :: branches))
      (Expr.ofAlt ((last :: branches).reverse.map Nested.value))

/-- What the reader has seen so far: the open groups, the names and the number of groups, and the
flags, branches and items of the innermost group. -/
structure State where
  outer : List Open
  names : List (List Char)
  groups : Nat
  flags : Flags
  branches : List (Nested Expr)
  items : List Item

namespace State

def start : State := ⟨[], [], 0, .none, [], []⟩

def push (s : State) (p : Expr) : State := { s with items := ⟨0, some p⟩ :: s.items }

def pushChars (s : State) (set : CharSet) : State := s.push (.ofChars set)

def openGroup (s : State) (flags : Flags) (number : Option Nat) : State :=
  { s with
    outer := ⟨s.flags, number, s.branches, s.items⟩ :: s.outer
    flags, branches := [], items := [] }

def openNumbered (s : State) : State :=
  { s with groups := s.groups + 1 }.openGroup s.flags (some (s.groups + 1))

def closeGroup (s : State) : Option State :=
  match s.outer with
  | [] => none
  | o :: outer => do
    let body ← closeBranches s.branches s.items
    let p := match o.number with
      | some number => Expr.group number body.value
      | none => body.value
    let item ← Nested.wrap body.depth (some p)
    some ⟨outer, s.names, s.groups, o.flags, o.branches, item :: o.items⟩

/-- Puts a repetition around the last item; there must be one that is not a setting of flags. -/
def repeated (s : State) (least : Nat) (most : Option Nat) (marked : Bool) : Option State :=
  match s.items with
  | ⟨depth, some p⟩ :: items => do
    let p := Expr.ofMany p least most (marked != s.flags.preferShort)
    some { s with items := (← Nested.wrap depth (some p)) :: items }
  | _ => none

/-- Reads what follows an opening parenthesis. -/
def readGroup (s : State) (text : List Char) : Option (State × List Char) :=
  match s.flags.skip text with
  | '?' :: 'P' :: '<' :: rest | '?' :: '<' :: rest =>
    match readGroupName rest with
    | some (name, rest) =>
      if s.names.contains name then none
      else some (({ s with names := name :: s.names }).openNumbered, rest)
    | none => none
  | '?' :: rest =>
    match Flags.read [] true s.flags rest with
    | some (flags, ':' :: rest') => some (s.openGroup flags none, rest')
    | some (flags, _ :: rest') =>
      if rest.head? == some ')' then none
      else some ({ s with flags, items := ⟨0, none⟩ :: s.items }, rest')
    | _ => none
  | rest => some (s.openNumbered, rest)

/-- Reads one construct in front of the text. -/
def step (s : State) : List Char → Option (State × List Char)
  | [] => none
  | '(' :: rest => s.readGroup rest
  | ')' :: rest => s.closeGroup.map (·, rest)
  | '|' :: rest =>
    some ({ s with branches := closeBranch s.items :: s.branches, items := [] }, rest)
  | '*' :: rest =>
    let (marked, rest) := readLazy rest
    (s.repeated 0 none marked).map (·, rest)
  | '+' :: rest =>
    let (marked, rest) := readLazy rest
    (s.repeated 1 none marked).map (·, rest)
  | '?' :: rest =>
    let (marked, rest) := readLazy rest
    (s.repeated 0 (some 1) marked).map (·, rest)
  | '{' :: rest => do
    let (least, most, rest) ← readBounds s.flags rest
    let (marked, rest) := readLazy (s.flags.skip rest)
    let s ← s.repeated least most marked
    some (s, rest)
  | '[' :: rest => do
    let (set, rest) ← Bracket.read s.flags rest
    some ({ s with items := ⟨set.depth, some (.ofChars set.value)⟩ :: s.items }, rest)
  | '.' :: rest => s.flags.dot.map fun set => (s.pushChars set, rest)
  | '^' :: rest =>
    some (s.push (.edge (if s.flags.multiLine then .lineStart s.flags.returns else .start)), rest)
  | '$' :: rest =>
    some (s.push (.edge (if s.flags.multiLine then .lineStop s.flags.returns else .stop)), rest)
  | '\\' :: rest => do
    let (escape, rest) ← Escape.read s.flags rest
    match escape with
    | .char c => some (s.pushChars (s.flags.fold (.single c)), rest)
    | .set set => some (s.pushChars set, rest)
    | .edge e => some (s.push (.edge e), rest)
  | c :: rest => some (s.pushChars (s.flags.fold (.single c)), rest)

/-- Every step takes a character at least, so the length of the text bounds their number. -/
def run : Nat → State → List Char → Option State
  | 0, s, _ => some s
  | fuel + 1, s, text =>
    match s.flags.skip text with
    | [] => some s
    | text => do
      let (s, rest) ← s.step text
      run fuel s rest

end State

def Expr.read? (text : List Char) : Option Expr := do
  let s ← State.run (text.length + 1) .start text
  if s.outer.isEmpty then
    let p ← closeBranches s.branches s.items
    if p.depth ≤ depthLimit then some p.value else none
  else none

end Rulebook.Pattern
