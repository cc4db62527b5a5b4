import Rulebook.Pattern.Basic

/-!
# Matching

Whether a pattern matches somewhere in a text is decided on sets of positions. A set of positions
is a number whose bit `i` says that position `i` is in the set; from the positions where a match
can begin, a walk computes those where it can end.

* `walkAll_eq_map`: the parts of a pattern walk on their own.
-/

namespace Rulebook.Pattern

abbrev Positions := Nat

/-- The positions below the given power of two that pass a test, counted from `first`. -/
def positions (test : Nat → Bool) (first : Nat) : Nat → Positions
  | 0 => (test first).toNat
  | power + 1 =>
    positions test first power +
      positions test (first + 1 <<< power) power <<< (1 <<< power)

/-! ## Walks -/

/-- From positions where a match can begin to those where it can end. -/
structure Walk where
  run : Positions → Positions

namespace Walk

/-- Walks at most `rounds` times over and over again, from the positions reached last. -/
def spread (step : Walk) : Nat → Positions → Positions → Positions
  | 0, _, reached => reached
  | rounds + 1, latest, reached =>
    if latest = 0 then reached
    else
      let next := step.run latest
      let latest := next ^^^ (next &&& reached)
      spread step rounds latest (reached ||| latest)

/-- Walks exactly so many times, or fewer if that changes nothing any more. -/
def times (step : Walk) : Nat → Positions → Positions
  | 0, s => s
  | n + 1, s =>
    let next := step.run s
    if next = s then s else times step n next

/-- Walks any number of times over characters of a set that stands at the positions `mask`: the
carries of the sum run through the set from each position on. -/
def runThrough (mask s : Positions) : Positions := (((s &&& mask) + mask) ^^^ mask) ||| s

end Walk

/-- How many times a position of the text can be doubled until all positions are below it. -/
def textPower (text : Array Char) : Nat := (text.size + 1).log2 + 1

/-- The positions in front of characters of a set. -/
def before (set : CharSet) (text : Array Char) : Positions :=
  positions (fun i => (text[i]?).any set.contains) 0 (textPower text)

/-- The positions that pass a test. -/
def passing (e : Edge) (text : Array Char) : Positions :=
  positions (fun i => decide (i ≤ text.size) &&
    e.holds (if i = 0 then none else text[i - 1]?) text[i]?) 0 (textPower text)

def everywhere (text : Array Char) : Positions := 1 <<< (text.size + 1) - 1

mutual

/-- Where a match that begins in a set can end. A text of `n` characters has `n + 1` positions, so
repeating more than `n + 1` times reaches no new one. -/
def walk (text : Array Char) : Expr → Walk
  | .empty => ⟨fun s => s⟩
  | .text cs =>
    let masks := cs.map fun c => before (.single c) text
    ⟨fun s => masks.foldl (fun s mask => (s &&& mask) <<< 1) s⟩
  | .chars set =>
    let mask := before set text
    ⟨fun s => (s &&& mask) <<< 1⟩
  | .edge e =>
    let mask := passing e text
    ⟨fun s => s &&& mask⟩
  | .group _ p => walk text p
  | .seq ps =>
    let steps := walkAll text ps
    ⟨fun s => steps.foldl (fun s step => step.run s) s⟩
  | .alt ps =>
    let steps := walkAll text ps
    ⟨fun s => steps.foldl (fun reached step => reached ||| step.run s) 0⟩
  | .many (.chars set) least none _ =>
    let mask := before set text
    ⟨fun s => Walk.runThrough mask (Walk.times ⟨fun s => (s &&& mask) <<< 1⟩ least s)⟩
  | .many p least most _ =>
    let step := walk text p
    let rounds := match most with
      | none => text.size + 1
      | some most => min (most - least) (text.size + 1)
    ⟨fun s =>
      let s := step.times least s
      step.spread rounds s s⟩

def walkAll (text : Array Char) : List Expr → List Walk
  | [] => []
  | p :: ps => walk text p :: walkAll text ps

end

theorem walkAll_eq_map (text : Array Char) (ps : List Expr) :
    walkAll text ps = ps.map (walk text) := by
  induction ps with
  | nil => rfl
  | cons p ps ih => rw [walkAll, ih, List.map_cons]

def Expr.isMatch (p : Expr) (text : Array Char) : Bool :=
  (walk text p).run (everywhere text) != 0

end Rulebook.Pattern
