import Rulebook.Unicode.Word

/-!
# Patterns

A pattern describes a set of texts. It is built from sets of characters, from tests of a position
(an end of the text or of a line, the edge of a word), and from sequence, choice and repetition.
The functions `ofChars`, `ofSeq`, `ofAlt` and `ofMany` build patterns in a simplified form, on
which the size of a pattern depends.

* `Edge.holds_start_iff`, `Edge.holds_stop_iff`: the tests for the ends of the text.
-/

namespace Rulebook.Pattern

/-! ## Tests of positions -/

/-- Where a position may stand to a word. -/
inductive WordEdge where
  | edge
  | noEdge
  | start
  | stop
  | startHalf
  | stopHalf
  deriving DecidableEq

/-- A test of a position, given the characters before and after it. Lines end with a line feed
or, if carriage returns count, with either of the two or both together. -/
inductive Edge where
  | start
  | stop
  | lineStart (returns : Bool)
  | lineStop (returns : Bool)
  /-- Words of all characters or of ASCII characters only. -/
  | word (kind : WordEdge) (ascii : Bool)
  deriving DecidableEq

def asciiWord : CharSet := .ofText "30-39 41-5A 5F 61-7A"

def isWordAt (ascii : Bool) : Option Char → Bool
  | some c => if ascii then asciiWord.contains c else Unicode.isWord c
  | none => false

def WordEdge.holds : WordEdge → Bool → Bool → Bool
  | edge, before, after => before != after
  | noEdge, before, after => before == after
  | start, before, after => !before && after
  | stop, before, after => before && !after
  | startHalf, before, _ => !before
  | stopHalf, _, after => !after

def Edge.holds : Edge → Option Char → Option Char → Bool
  | start, before, _ => before.isNone
  | stop, _, after => after.isNone
  | lineStart returns, before, after =>
    before.isNone || before == some '\n' ||
      (returns && before == some '\r' && after != some '\n')
  | lineStop false, _, after => after.isNone || after == some '\n'
  | lineStop true, before, after =>
    after.isNone || after == some '\r' || (after == some '\n' && before != some '\r')
  | word kind ascii, before, after => kind.holds (isWordAt ascii before) (isWordAt ascii after)

theorem Edge.holds_start_iff (before after : Option Char) :
    Edge.start.holds before after = true ↔ before = none := by
  simp [holds]

theorem Edge.holds_stop_iff (before after : Option Char) :
    Edge.stop.holds before after = true ↔ after = none := by
  simp [holds]

/-! ## Expressions -/

inductive Expr where
  | empty
  | text (chars : List Char)
  | chars (set : CharSet)
  | edge (e : Edge)
  /-- A numbered group. -/
  | group (number : Nat) (p : Expr)
  | seq (ps : List Expr)
  | alt (ps : List Expr)
  /-- At least `least` times and at most `most` times, if there is such a bound. -/
  | many (p : Expr) (least : Nat) (most : Option Nat) (isLazy : Bool)

namespace Expr

mutual

/-- Whether two patterns are built alike. -/
def same : Expr → Expr → Bool
  | empty, empty => true
  | text cs, text ds => cs == ds
  | chars s, chars t => s == t
  | edge e, edge f => e == f
  | group m p, group n q => m == n && same p q
  | seq ps, seq qs => sameList ps qs
  | alt ps, alt qs => sameList ps qs
  | many p l m z, many q l' m' z' => l == l' && m == m' && z == z' && same p q
  | _, _ => false

def sameList : List Expr → List Expr → Bool
  | [], [] => true
  | p :: ps, q :: qs => same p q && sameList ps qs
  | _, _ => false

end

/-! ## Length of matches -/

/-- How many bytes the character of a rank takes in UTF-8. -/
def rankSize (n : Nat) : Nat := (Char.ofNat (codePointOf n)).utf8Size

def textSize (cs : List Char) : Nat := (String.ofList cs).utf8ByteSize

/-- The least of some bounds, if all are known. -/
def leastOf : List (Option Nat) → Option Nat
  | [] => none
  | [n] => n
  | n :: rest => n.bind fun n => (leastOf rest).map (min n)

def greatestOf : List (Option Nat) → Option Nat
  | [] => none
  | [n] => n
  | n :: rest => n.bind fun n => (greatestOf rest).map (max n)

/-- The sum of some bounds, if all are known. -/
def totalOf : List (Option Nat) → Option Nat
  | [] => some 0
  | n :: rest => n.bind fun n => (totalOf rest).map (n + ·)

mutual

/-- The length in bytes of the shortest match, if there can be one. -/
def leastSize : Expr → Option Nat
  | empty => some 0
  | text cs => some (textSize cs)
  | chars s => s.ranges.head?.map fun r => rankSize r.1
  | edge _ => some 0
  | group _ p => leastSize p
  | seq ps => totalOf (leastSizes ps)
  | alt ps => leastOf (leastSizes ps)
  | many p least _ _ => (leastSize p).map (least * ·)

def leastSizes : List Expr → List (Option Nat)
  | [] => []
  | p :: ps => leastSize p :: leastSizes ps

end

mutual

/-- The length in bytes of the longest match, if there is a bound. -/
def greatestSize : Expr → Option Nat
  | empty => some 0
  | text cs => some (textSize cs)
  | chars s => s.ranges.getLast?.map fun r => rankSize r.2
  | edge _ => some 0
  | group _ p => greatestSize p
  | seq ps => totalOf (greatestSizes ps)
  | alt ps => greatestOf (greatestSizes ps)
  | many p _ most _ => most.bind fun most => (greatestSize p).map (most * ·)

def greatestSizes : List Expr → List (Option Nat)
  | [] => []
  | p :: ps => greatestSize p :: greatestSizes ps

end

/-! ## Simplified forms -/

def ofChars (s : CharSet) : Expr :=
  match s.single? with
  | some c => text [c]
  | none => chars s

/-- Puts a part in front of a sequence; two texts become one. -/
def joinText : Expr → List Expr → List Expr
  | text cs, text ds :: rest => text (cs ++ ds) :: rest
  | p, rest => p :: rest

def ofSeq (ps : List Expr) : Expr :=
  let parts := ps.flatMap fun
    | empty => []
    | seq qs => qs
    | p => [p]
  match parts.foldr joinText [] with
  | [] => empty
  | [p] => p
  | parts => seq parts

/-- A choice of parts that have no first part in common. -/
def ofAltApart (ps : List Expr) : Expr :=
  let parts := ps.flatMap fun
    | alt qs => qs
    | p => [p]
  let single : Expr → Option Char
    | text [c] => some c
    | _ => none
  let set : Expr → Option CharSet
    | chars s => some s
    | _ => none
  match parts with
  | [] => chars .none
  | [p] => p
  | parts =>
    match parts.mapM single, parts.mapM set with
    | some cs, _ => ofChars (.unions (cs.map .single))
    | _, some sets => ofChars (.unions sets)
    | none, none => alt parts

def seq? : Expr → Option (List Expr)
  | seq ps => some ps
  | _ => none

/-- The longest beginning that two sequences share. -/
def sharedParts : List Expr → List Expr → List Expr
  | p :: ps, q :: qs => if same p q then p :: sharedParts ps qs else []
  | _, _ => []

/-- A choice. What all its sequences begin with comes in front of the choice. -/
def ofAlt (ps : List Expr) : Expr :=
  let whole := ofAltApart ps
  match whole with
  | alt parts =>
    match parts.mapM seq? with
    | some (first :: rest) =>
      match rest.foldl sharedParts first with
      | [] => whole
      | shared =>
        ofSeq (shared ++
          [ofAltApart ((first :: rest).map fun part => ofSeq (part.drop shared.length))])
    | _ => whole
  | _ => whole

/-- A repetition. What matches only the empty text is repeated once at most. -/
def ofMany (p : Expr) (least : Nat) (most : Option Nat) (isLazy : Bool) : Expr :=
  let (least, most) :=
    if greatestSize p = some 0 then (min least 1, some (min (most.getD 1) 1)) else (least, most)
  if most = some 0 then empty
  else if least = 1 ∧ most = some 1 then p
  else many p least most isLazy

end Expr

end Rulebook.Pattern
