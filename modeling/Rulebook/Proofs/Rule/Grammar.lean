import Rulebook.Failure
import Rulebook.Rule.Token

/-!
# The grammar of rule strings

The syntax of rule strings is laid down by a grammar of parsing expressions: tokens with bars
between them, each a name and perhaps an argument behind a colon. Such expressions are greedy and
never go back: the first alternative that matches is the only one, and a repetition takes all that
it can.

* `Peg.Yields`: what a parsing expression makes of a text;
* `Peg.Yields.unique`: it makes one thing of it;
* `Token.grammar`, `Token.Parses`: the grammar, and what a rule string is parsed into.
-/

namespace Rulebook

/-! ## Parsing expressions -/

/-- The named parts of a rule string. -/
inductive Part where
  | rules
  | token
  | name
  | arg
  | stop
  deriving DecidableEq

/-- A part that was found: its text, and the parts in it. -/
structure Node where
  part : Part
  text : List Char
  inner : List Node

inductive Peg where
  | any
  | char (c : Char)
  | stop
  | seq (first second : Peg)
  | either (first second : Peg)
  | many (inner : Peg)
  | maybe (inner : Peg)
  | not (inner : Peg)
  | part (p : Part) (inner : Peg)

/-- What was matched at the start of a text, the parts found in it, and the text behind it. -/
structure Match where
  text : List Char
  nodes : List Node
  rest : List Char

namespace Match

def empty (input : List Char) : Match := ⟨[], [], input⟩

/-- A match and the one that follows it. -/
def append (m n : Match) : Match := ⟨m.text ++ n.text, m.nodes ++ n.nodes, n.rest⟩

theorem append_empty (m : Match) : m.append (.empty m.rest) = m := by
  simp only [append, empty, List.append_nil]

end Match

namespace Peg

/-- What an expression makes of a text: a match at its start, or none. -/
inductive Yields : Peg → List Char → Option Match → Prop where
  | any (c : Char) (rest : List Char) : Yields any (c :: rest) (some ⟨[c], [], rest⟩)
  | any_end : Yields any [] none
  | char (c : Char) (rest : List Char) : Yields (char c) (c :: rest) (some ⟨[c], [], rest⟩)
  | char_else {c : Char} {input : List Char} (h : input.head? ≠ some c) : Yields (char c) input none
  | stop : Yields stop [] (some (.empty []))
  | stop_else (c : Char) (rest : List Char) : Yields stop (c :: rest) none
  | seq {e f : Peg} {input : List Char} {m n : Match} (he : Yields e input (some m))
      (hf : Yields f m.rest (some n)) : Yields (seq e f) input (some (m.append n))
  | seq_first {e f : Peg} {input : List Char} (he : Yields e input none) :
      Yields (seq e f) input none
  | seq_second {e f : Peg} {input : List Char} {m : Match} (he : Yields e input (some m))
      (hf : Yields f m.rest none) : Yields (seq e f) input none
  | either_first {e f : Peg} {input : List Char} {m : Match} (he : Yields e input (some m)) :
      Yields (either e f) input (some m)
  | either_second {e f : Peg} {input : List Char} {r : Option Match} (he : Yields e input none)
      (hf : Yields f input r) : Yields (either e f) input r
  | many {e : Peg} {input : List Char} {m n : Match} (he : Yields e input (some m))
      (hmore : Yields (many e) m.rest (some n)) : Yields (many e) input (some (m.append n))
  | many_end {e : Peg} {input : List Char} (he : Yields e input none) :
      Yields (many e) input (some (.empty input))
  | maybe {e : Peg} {input : List Char} {m : Match} (he : Yields e input (some m)) :
      Yields (maybe e) input (some m)
  | maybe_not {e : Peg} {input : List Char} (he : Yields e input none) :
      Yields (maybe e) input (some (.empty input))
  | not {e : Peg} {input : List Char} (he : Yields e input none) :
      Yields (not e) input (some (.empty input))
  | not_else {e : Peg} {input : List Char} {m : Match} (he : Yields e input (some m)) :
      Yields (not e) input none
  | part {p : Part} {e : Peg} {input : List Char} {m : Match} (he : Yields e input (some m)) :
      Yields (part p e) input (some ⟨m.text, [⟨p, m.text, m.nodes⟩], m.rest⟩)
  | part_else {p : Part} {e : Peg} {input : List Char} (he : Yields e input none) :
      Yields (part p e) input none

theorem Yields.unique {e : Peg} {input : List Char} {r r' : Option Match}
    (h : e.Yields input r) (h' : e.Yields input r') : r = r' := by
  induction h generalizing r' with
  | any c rest => cases h'; rfl
  | any_end => cases h'; rfl
  | char c rest =>
    cases h' with
    | char => rfl
    | char_else hc => exact absurd rfl hc
  | char_else hc =>
    cases h' with
    | char => exact absurd rfl hc
    | char_else => rfl
  | stop => cases h'; rfl
  | stop_else c rest => cases h'; rfl
  | seq _ _ ihe ihf =>
    cases h' with
    | seq he hf =>
      obtain rfl := Option.some.inj (ihe he)
      obtain rfl := Option.some.inj (ihf hf)
      rfl
    | seq_first he => cases ihe he
    | seq_second he hf =>
      obtain rfl := Option.some.inj (ihe he)
      cases ihf hf
  | seq_first _ ihe =>
    cases h' with
    | seq he _ => cases ihe he
    | seq_first => rfl
    | seq_second => rfl
  | seq_second _ _ ihe ihf =>
    cases h' with
    | seq he hf =>
      obtain rfl := Option.some.inj (ihe he)
      cases ihf hf
    | seq_first => rfl
    | seq_second => rfl
  | either_first _ ihe =>
    cases h' with
    | either_first he => exact ihe he
    | either_second he _ => cases ihe he
  | either_second _ _ ihe ihf =>
    cases h' with
    | either_first he => cases ihe he
    | either_second _ hf => exact ihf hf
  | many _ _ ihe ihmore =>
    cases h' with
    | many he hmore =>
      obtain rfl := Option.some.inj (ihe he)
      obtain rfl := Option.some.inj (ihmore hmore)
      rfl
    | many_end he => cases ihe he
  | many_end _ ihe =>
    cases h' with
    | many he _ => cases ihe he
    | many_end => rfl
  | maybe _ ihe =>
    cases h' with
    | maybe he => exact ihe he
    | maybe_not he => cases ihe he
  | maybe_not _ ihe =>
    cases h' with
    | maybe he => cases ihe he
    | maybe_not => rfl
  | not _ ihe =>
    cases h' with
    | not => rfl
    | not_else he => cases ihe he
  | not_else _ ihe =>
    cases h' with
    | not he => cases ihe he
    | not_else => rfl
  | part _ ihe =>
    cases h' with
    | part he =>
      obtain rfl := Option.some.inj (ihe he)
      rfl
    | part_else he => cases ihe he
  | part_else _ ihe =>
    cases h' with
    | part he => cases ihe he
    | part_else => rfl

/-- Characters one by one, as long as an expression does not match at them. -/
def upTo (e : Peg) : Peg := many (seq (not e) any)

end Peg

/-! ## The grammar -/

namespace Token

def nameExpr : Peg := .part .name (.upTo (.either (.char '|') (.char ':')))

def argExpr : Peg := .part .arg (.upTo (.char '|'))

def tokenExpr : Peg := .part .token (.seq nameExpr (.maybe (.seq (.char ':') argExpr)))

/-- A rule string, from its start to its end. -/
def grammar : Peg :=
  .part .rules (.seq tokenExpr (.seq (.many (.seq (.char '|') tokenExpr)) (.part .stop .stop)))

/-! ## Tokens -/

/-- A token to which the text of one of its parts is added. -/
def withPart (t : Token) (n : Node) : Token :=
  match n.part with
  | .name => { t with name := String.ofList n.text }
  | .arg => { t with arg := some (String.ofList n.text) }
  | _ => t

def ofNode (n : Node) : Token := n.inner.foldl withPart ⟨"", none⟩

/-- The tokens among the parts of what the grammar has found. -/
def ofNodes (nodes : List Node) : List Token :=
  ((nodes.flatMap Node.inner).filter fun n => n.part = .token).map ofNode

/-- What a rule string is parsed into. The empty one is not put to the grammar; any other one that
the grammar does not match is refused, in words of the grammar. -/
inductive Parses : String → Except Failure (List Token) → Prop where
  | empty : Parses "" (.ok [])
  | tokens {rules : String} (h : rules ≠ "") {m : Match}
      (hm : grammar.Yields rules.toList (some m)) : Parses rules (.ok (ofNodes m.nodes))
  | refused {rules : String} (h : rules ≠ "") (hm : grammar.Yields rules.toList none)
      (text : String) : Parses rules (.error (.parse text))

end Token

end Rulebook
