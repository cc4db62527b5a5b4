import Rulebook.Pattern.Basic
import Rulebook.Unicode.Utf8
import Std.Data.HashMap

/-!
# The size of a pattern

A pattern may be refused because it is too large. Its size is that of two automata that read the
bytes of a text, one forwards, which also marks the groups, and one backwards. Each state takes 32
bytes, and further bytes for the transitions of a state that has a list of them.

* `Load.addState_bytes`, `Load.addLinks_bytes`: what states and transitions add to the size;
* `Load.within_eq_some_iff`: a load is refused exactly when its bytes exceed the limit.
-/

namespace Rulebook.Pattern

/-! ## States -/

/-- The automaton so far: how many states it has, and the bytes that they take beyond their own
size. -/
structure Load where
  states : Nat
  extra : Nat
  deriving DecidableEq

namespace Load

def bytes (l : Load) : Nat := 32 * l.states + l.extra

/-- A state with that many bytes beyond its own size. -/
def addState (l : Load) (extra : Nat) : Load := ⟨l.states + 1, l.extra + extra⟩

/-- Links from a state that may lead to several others: four bytes for each. -/
def addLinks (l : Load) (count : Nat) : Load := { l with extra := l.extra + 4 * count }

/-- A state that chooses by ranges of bytes: eight for each. -/
def addRanges (l : Load) (count : Nat) : Load := l.addState (8 * count)

theorem addState_bytes (l : Load) (extra : Nat) :
    (l.addState extra).bytes = l.bytes + 32 + extra := by
  simp only [addState, bytes]; omega

theorem addLinks_bytes (l : Load) (count : Nat) :
    (l.addLinks count).bytes = l.bytes + 4 * count := by
  simp only [addLinks, bytes]; omega

end Load

/-- The limit for the size of each automaton, 10 MiB. -/
def sizeLimit : Nat := 10485760

/-! ## Sets beyond ASCII -/

/-- A range of bytes and the state that it leads to. -/
abbrev Link := Unicode.ByteRange × Nat

/-- The slot of a table of so many slots in which numbers are kept. Two lists of numbers can have
the same slot; the later one then takes the place of the other. -/
def slotOf (slots : Nat) (numbers : List Nat) : Nat :=
  (numbers.foldl (fun h n => (h ^^^ n.toUInt64) * 1099511628211)
    (14695981039346656037 : UInt64)).toNat % slots

/-- A part of an automaton, and a table of the states that it has already. -/
structure Shared (α : Type) where
  load : Load
  table : Std.HashMap Nat (α × Nat)

/-- The state for what is kept in a slot: the one in the table, or else a new one. -/
def Shared.state {α : Type} [DecidableEq α] (s : Shared α) (slot : Nat) (key : α)
    (ranges : Nat) : Nat × Shared α :=
  let fresh := (s.load.states, ⟨s.load.addState (8 * ranges),
    s.table.insert slot (key, s.load.states)⟩)
  match s.table[slot]? with
  | some (key', state) => if key' = key then (state, s) else fresh
  | none => fresh

namespace Forward

/-- A state that is not complete: its links, the last first, and the range whose link is open. -/
structure Pending where
  links : List Link
  last : Option Unicode.ByteRange

def Pending.closeTo (p : Pending) (state : Nat) : List Link :=
  match p.last with
  | some r => (r, state) :: p.links
  | none => p.links

def numbers (links : List Link) : List Nat :=
  links.flatMap fun l => [l.1.1, l.1.2, l.2]

/-- Completes a chain of states that lead to each other and at last to `target`. -/
def close (target : Nat) : List Pending → Shared (List Link) → Nat × Shared (List Link)
  | [], s => (target, s)
  | p :: rest, s =>
    let (next, s) := close target rest s
    let links := (p.closeTo next).reverse
    s.state (slotOf 10000 (numbers links)) links links.length

/-- Adds a sequence behind the states that it shares with the sequence before it. -/
def insert (target : Nat) :
    List Pending → List Unicode.ByteRange → Shared (List Link) → List Pending × Shared (List Link)
  | p :: rest, r :: rs, s =>
    if p.last = some r then
      let (rest, s) := insert target rest rs s
      (p :: rest, s)
    else
      let (next, s) := close target rest s
      (⟨p.closeTo next, some r⟩ :: rs.map fun r => ⟨[], some r⟩, s)
  | pending, _, s => (pending, s)

/-- A set: sequences share the states of their common beginnings and ends. -/
def addSet (set : CharSet) (l : Load) : Load :=
  let start : Shared (List Link) := ⟨l.addState 0, ∅⟩
  let (pending, s) := (Unicode.utf8Sequences set).foldl
    (fun (pending, s) sequence => insert l.states pending sequence s) ([⟨[], none⟩], start)
  (close l.states pending s).2.load

end Forward

namespace Backward

/-- A set: sequences share the states of their common beginnings, which are read last. -/
def addSet (set : CharSet) (l : Load) : Load :=
  let last := l.states + 1
  let start : Shared (Nat × Unicode.ByteRange) := ⟨(l.addState 0).addState 0, ∅⟩
  ((Unicode.utf8Sequences set).foldl (fun s sequence =>
    let (_, s) := sequence.foldl (fun (state, s) r =>
      s.state (slotOf 1000 [state, r.1, r.2]) (state, r) 0) (last, s)
    { s with load := s.load.addLinks 1 }) start).load

end Backward

/-! ## Choices of texts -/

/-- Texts by their first bytes. A text that ends closes the list of bytes of its node, and a new
list begins. -/
inductive Trie where
  | node (closed : List (List (UInt8 × Trie))) (current : List (UInt8 × Trie))

namespace Trie

def empty : Trie := node [] []

/-- The trie of one text. -/
def ofBytes : List UInt8 → Trie
  | [] => node [[]] []
  | b :: bs => node [] [(b, ofBytes bs)]

/-- The text ends at a node. Without bytes since the last end that changes nothing. -/
def finish : Trie → Trie
  | node closed current =>
    if current.isEmpty && !closed.isEmpty && closed.all List.isEmpty then node closed current
    else node (closed ++ [current]) []

def insert : List UInt8 → Trie → Trie
  | [], t => t.finish
  | b :: bs, node closed current =>
    match current.lookup b with
    | some t =>
      node closed (current.map fun entry => if entry.1 = b then (b, insert bs t) else entry)
    | none => node closed (current ++ [(b, ofBytes bs)])

def isLeaf : Trie → Bool
  | node closed current => current.isEmpty && closed.all List.isEmpty

mutual

/-- The states of a node: one for each list of bytes, and one that chooses among the lists. -/
def addTo : Trie → Load → Load
  | node closed current, l =>
    let l := addLists closed l
    let l := addList current l
    let lists := ((closed ++ [current]).filter fun bytes => !bytes.isEmpty).length
    (l.addState 0).addLinks (lists + closed.length)

def addLists : List (List (UInt8 × Trie)) → Load → Load
  | [], l => l
  | bytes :: rest, l => addLists rest (addList bytes l)

def addList : List (UInt8 × Trie) → Load → Load
  | [], l => l
  | [(_, t)], l => (addChild t l).addState 0
  | bytes, l => (addChildren bytes l).addRanges bytes.length

def addChildren : List (UInt8 × Trie) → Load → Load
  | [], l => l
  | (_, t) :: rest, l => addChildren rest (addChild t l)

/-- A node where a text ends and none goes on is the common end. -/
def addChild (t : Trie) (l : Load) : Load := if t.isLeaf then l else addTo t l

end

end Trie

/-! ## Expressions -/

namespace Load

/-- One more link from the state that a part ends with, if that one has a list of them. -/
def connect (l : Load) (branches : Bool) : Load := if branches then l.addLinks 1 else l

/-- A load that is not too large. -/
def within (l : Load) : Option Load := if l.bytes ≤ sizeLimit then some l else none

theorem within_eq_some_iff (l l' : Load) : l.within = some l' ↔ l.bytes ≤ sizeLimit ∧ l = l' := by
  simp [within]

/-- Adds a part so many times more behind a load. What a part adds goes together with whether it
ends with a state that has a list of links. -/
def more (step : Load → Option (Load × Bool)) : Nat → Load × Bool → Option (Load × Bool)
  | 0, s => some s
  | n + 1, (l, branches) => do
    let (l, branches') ← step l
    more step n (l.connect branches, branches')

/-- Adds a part so many times. -/
def copies (step : Load → Option (Load × Bool)) : Nat → Load → Option (Load × Bool)
  | 0, l => some (l.addState 0, false)
  | n + 1, l => do more step n (← step l)

end Load

namespace Expr

def text? : Expr → Option (List UInt8)
  | text cs => some (cs.flatMap String.utf8EncodeChar)
  | _ => none

/-- Adds the states for a choice of texts. -/
def addTexts (forward : Bool) (texts : List (List UInt8)) (l : Load) : Load :=
  let texts := if forward then texts else texts.map List.reverse
  (texts.foldl (fun t bytes => t.insert bytes) Trie.empty).addTo (l.addState 0)

mutual

/-- Adds the states for a pattern. -/
def addTo (forward : Bool) : Expr → Load → Option (Load × Bool)
  | empty, l => some (l.addState 0, false)
  | text cs, l => some ({ l with states := l.states + textSize cs }, false)
  | chars s, l => do
    let l :=
      if s.isAscii then (l.addState 0).addRanges s.ranges.length
      else if forward then Forward.addSet s l
      else Backward.addSet s l
    some (← l.within, false)
  | edge _, l => some (l.addState 0, false)
  | group _ p, l =>
    if forward then do
      let (l, branches) ← addTo forward p (l.addState 0)
      some ((l.addState 0).connect branches, false)
    else addTo forward p l
  | seq ps, l => do
    let s ← if forward then addSeq ps l else addSeqBack ps l
    match s with
    | some (l, branches) => some (← l.within, branches)
    | none => some (l.addState 0, false)
  | alt ps, l => do
    let l ← match ps.mapM text? with
      | some texts => some (addTexts forward texts l)
      | none => (addAlt forward ps l).map fun l => (l.addState 0).addState 0
    some (← l.within, false)
  | many p least most _, l => do
    let step : Load → Option (Load × Bool) := fun l => do
      let (l, branches) ← addTo forward p l
      some (← l.within, branches)
    match most with
    | none =>
      if 0 < least then
        let (l, branches) ← Load.copies step least l
        some (((l.addState 0).connect branches).addLinks 1, true)
      else if (leastSize p).any (0 < ·) then
        let (l, branches) ← step (l.addState 0)
        some ((l.addLinks 1).connect branches, true)
      else
        let (l, branches) ← step l
        some (((((l.addState 0).addState 0).addState 0).connect branches).addLinks 4, false)
    | some most =>
      let option : Load → Option (Load × Bool) := fun l => do
        let (l, branches) ← step (l.addState 0)
        some (l.addLinks 2, branches)
      if least = 0 ∧ most = 1 then
        let (l, branches) ← option l
        some ((l.addState 0).connect branches, false)
      else
        let (l, branches) ← Load.copies step least l
        if least = most then some (l, branches)
        else
          let (l, branches) ← Load.more option (most - least) (l.addState 0, branches)
          some (l.connect branches, false)

/-- Adds the parts of a sequence in their order. -/
def addSeq : List Expr → Load → Option (Option (Load × Bool))
  | [], _ => some none
  | p :: ps, l => do
    let (l, branches) ← addTo true p l
    match ← addSeq ps l with
    | some (l, branches') => some (some (l.connect branches, branches'))
    | none => some (some (l, branches))

/-- Adds the parts of a sequence in the opposite order. -/
def addSeqBack : List Expr → Load → Option (Option (Load × Bool))
  | [], _ => some none
  | p :: ps, l => do
    match ← addSeqBack ps l with
    | some (l, branches) => do
      let (l, branches') ← addTo false p l
      some (some (l.connect branches, branches'))
    | none => some (some (← addTo false p l))

/-- Adds the branches of a choice, each linked with its start and its end. -/
def addAlt (forward : Bool) : List Expr → Load → Option Load
  | [], l => some l
  | p :: ps, l => do
    let (l, branches) ← addTo forward p l
    addAlt forward ps (← ((l.addLinks 1).connect branches).within)

end

/-! ## Ends of the text -/

mutual

/-- Whether every match begins with a test. -/
def begins (e : Edge) : Expr → Bool
  | edge f => f = e
  | group _ p => begins e p
  | seq ps => beginsSeq e ps
  | alt ps => beginsAll e ps
  | many p least _ _ => 0 < least && begins e p
  | _ => false

def beginsSeq (e : Edge) : List Expr → Bool
  | [] => false
  | p :: ps => begins e p || (greatestSize p = some 0 && beginsSeq e ps)

def beginsAll (e : Edge) : List Expr → Bool
  | [] => true
  | p :: ps => begins e p && beginsAll e ps

end

mutual

/-- Whether every match ends with a test. -/
def finishes (e : Edge) : Expr → Bool
  | edge f => f = e
  | group _ p => finishes e p
  | seq ps => finishesSeq e ps
  | alt ps => finishesAll e ps
  | many p least _ _ => 0 < least && finishes e p
  | _ => false

def finishesSeq (e : Edge) : List Expr → Bool
  | [] => false
  | p :: ps =>
    finishesSeq e ps || (ps.all (fun q => decide (greatestSize q = some 0)) && finishes e p)

def finishesAll (e : Edge) : List Expr → Bool
  | [] => true
  | p :: ps => finishes e p && finishesAll e ps

end

/-! ## The whole pattern -/

/-- What an automaton begins with: any bytes may come in front of a match, unless the match must
stand at the end of the text where reading begins. -/
def lead (forward : Bool) (p : Expr) : Load :=
  if (if forward then begins .start p else finishes .stop p) then ⟨1, 0⟩ else ⟨3, 16⟩

/-- The automaton of a pattern, if it is not too large. Forwards, the match is a group itself. -/
def automaton? (forward : Bool) (p : Expr) : Option Load := do
  let (l, branches) ← addTo forward (if forward then group 0 p else p) (lead forward p)
  ((l.addState 0).connect branches).within

def fits (p : Expr) : Bool := (automaton? true p).isSome && (automaton? false p).isSome

end Expr

end Rulebook.Pattern
