import Rulebook.Store.Expression.Function
import Rulebook.Store.Expression.Wildcard

/-!
# Expressions

Expressions are worked out on a row, which gives the values of its fields. A value of a field has an
affinity and a collation, which decide how it is compared.

* `eval_value`: a value stands for itself;
* `compared_bare`: values that are compared without affinity are not converted;
* `conjunction_eq_true_iff`, `disjunction_eq_true_iff`: when both or one of two truths hold, either
  of which may be unknown;
* `problem?_value`: a value has no problem.
-/

namespace Rulebook

/-- A name with that of a table in front of it, perhaps. What follows it in the text that it is from
has the size `left`, itself included. One that may be a text is a text if there is no such field. -/
structure FieldName where
  table : Option String
  name : String
  left : Nat
  mayBeText : Bool

def FieldName.display (f : FieldName) : String :=
  match f.table with
  | some table => table ++ "." ++ f.name
  | none => f.name

inductive Operator where
  | or | and
  | equal | unequal | less | atMost | greater | atLeast
  /-- Equal, or both null. -/
  | same
  | different
  | like (escape : Option Char)
  | glob
  | bitAnd | bitOr | shiftLeft | shiftRight
  | add | subtract | multiply | divide | remainder
  /-- Texts one behind the other. -/
  | join

inductive Expression where
  | value (c : Cell)
  | field (f : FieldName)
  | not (e : Expression)
  | negate (e : Expression)
  | invert (e : Expression)
  /-- The value without affinity. -/
  | plain (e : Expression)
  | binary (op : Operator) (a b : Expression)
  | choose (condition yes no : Expression)
  | collate (collation : Collation) (e : Expression)
  | cast (affinity : Affinity) (e : Expression)
  | call (f : FieldName) (arguments : List Expression)
  /-- Something that is not worked out here. -/
  | unknown

namespace Expression

/-! ## Values of expressions -/

/-- A value, with the affinity and the collation that it is compared with. -/
structure Operand where
  value : Cell
  affinity : Option Affinity
  collation : Option Collation

def Operand.bare (c : Cell) : Operand := ⟨c, none, none⟩

/-- The affinity of a comparison: that of numbers if either side is a field of numbers. -/
def commonAffinity : Option Affinity → Option Affinity → Affinity
  | some a, some b =>
    if (a ≠ .text ∧ a ≠ .none) ∨ (b ≠ .text ∧ b ≠ .none) then .numeric else .none
  | some a, none => a
  | none, some b => b
  | none, none => .none

/-- Both sides as they are compared. Numbers become text only beside a text. -/
def compared (a b : Operand) : Cell × Cell :=
  match commonAffinity a.affinity b.affinity, a.value, b.value with
  | .none, x, y => (x, y)
  | .text, .text s, y => (.text s, Affinity.toText y)
  | .text, x, .text t => (Affinity.toText x, .text t)
  | .text, x, y => (x, y)
  | _, x, y => (Affinity.toNumber x, Affinity.toNumber y)

theorem compared_bare (c d : Cell) : compared (.bare c) (.bare d) = (c, d) := rfl

def collationOf (a b : Operand) : Collation := (a.collation.or b.collation).getD .binary

def orderOf (a b : Operand) : Ordering :=
  let (x, y) := compared a b
  (collationOf a b).order x y

def isEqual (a b : Operand) : Bool :=
  let (x, y) := compared a b
  (collationOf a b).equals x y

/-- A comparison, which null makes null. -/
def comparison (test : Bool) (a b : Operand) : Cell :=
  if a.value.isNull || b.value.isNull then .null else .ofBool test

def conjunction : Option Bool → Option Bool → Option Bool
  | some false, _ | _, some false => some false
  | some true, some true => some true
  | _, _ => none

def disjunction (a b : Option Bool) : Option Bool :=
  (conjunction (a.map Bool.not) (b.map Bool.not)).map Bool.not

theorem conjunction_eq_true_iff {a b : Option Bool} :
    conjunction a b = some true ↔ a = some true ∧ b = some true := by
  rcases a with _ | _ | _ <;> rcases b with _ | _ | _ <;> simp [conjunction]

theorem disjunction_eq_true_iff {a b : Option Bool} :
    disjunction a b = some true ↔ a = some true ∨ b = some true := by
  rcases a with _ | _ | _ <;> rcases b with _ | _ | _ <;> simp [disjunction, conjunction]

/-- Whether a text matches a pattern. -/
def wildcard (ignoresCase : Bool) (read : List Char → List Wildcard.Piece) (a b : Cell) : Cell :=
  if a.isNull || b.isNull then .null
  else .ofBool (Wildcard.run ignoresCase (read b.display.toList) a.display.toList)

def joined (a b : Cell) : Cell :=
  if a.isNull || b.isNull then .null else .text (a.display ++ b.display)

/-- The value of an operation. -/
def operate (op : Operator) (a b : Operand) : Cell :=
  let (x, y) := (a.value, b.value)
  match op with
  | .or => .ofTruth (disjunction x.truth y.truth)
  | .and => .ofTruth (conjunction x.truth y.truth)
  | .equal => comparison (isEqual a b) a b
  | .unequal => comparison (!isEqual a b) a b
  | .less => comparison (orderOf a b == .lt) a b
  | .atMost => comparison (orderOf a b != .gt) a b
  | .greater => comparison (orderOf a b == .gt) a b
  | .atLeast => comparison (orderOf a b != .lt) a b
  | .same => .ofBool ((x.isNull && y.isNull) || isEqual a b)
  | .different => .ofBool !((x.isNull && y.isNull) || isEqual a b)
  | .like escape => wildcard true (Wildcard.ofLike escape) x y
  | .glob => wildcard false (fun text => Wildcard.ofGlob text.length text) x y
  | .bitAnd => Cell.onBits (· &&& ·) x y
  | .bitOr => Cell.onBits (· ||| ·) x y
  | .shiftLeft => x.shiftLeft y
  | .shiftRight => x.shiftRight y
  | .add => x.add y
  | .subtract => x.subtract y
  | .multiply => x.multiply y
  | .divide => x.divide y
  | .remainder => x.remainder y
  | .join => joined x y

/-- A conversion that is asked for takes what stands at the front of a text. -/
def castTo (affinity : Affinity) (c : Cell) : Cell :=
  if c.isNull then .null
  else
    match affinity with
    | .integer => .integer c.whole
    | .real => Affinity.toReal c.number
    | .numeric =>
      match c with
      | .real x => .real x
      | c => Affinity.toInteger c.number
    | .text => .text c.display
    | .none => .blob (Function.bytesOf c)

mutual

/-- The value of an expression on a row. -/
def eval (row : FieldName → Option Operand) : Expression → Operand
  | value c => .bare c
  | field f => (row f).getD (.bare (if f.mayBeText then .text f.name else .null))
  | not e => .bare (.ofTruth ((eval row e).value.truth.map Bool.not))
  | negate e => .bare (eval row e).value.negate
  | invert e => .bare (eval row e).value.invert
  | plain e => { eval row e with affinity := none }
  | binary op a b => .bare (operate op (eval row a) (eval row b))
  | choose condition yes no =>
    if (eval row condition).value.truth = some true then .bare (eval row yes).value
    else .bare (eval row no).value
  | collate collation e => { eval row e with collation := some collation }
  | cast affinity e => ⟨castTo affinity (eval row e).value, some affinity, none⟩
  | call f arguments =>
    match Function.ofName? f.name with
    | some entry => .bare (entry.function.apply (evalAll row arguments))
    | none => .bare .null
  | unknown => .bare .null

def evalAll (row : FieldName → Option Operand) : List Expression → List Cell
  | [] => []
  | e :: rest => (eval row e).value :: evalAll row rest

end

theorem eval_value (row : FieldName → Option Operand) (c : Cell) :
    eval row (.value c) = .bare c := by
  simp [eval]

/-- The value of an expression that mentions no fields. -/
def constant (e : Expression) : Cell := (eval (fun _ => none) e).value

/-! ## Fields of expressions -/

mutual

/-- All that an expression mentions. -/
def fields : Expression → List FieldName
  | field f => [f]
  | not e | negate e | invert e | plain e | collate _ e | cast _ e => fields e
  | binary _ a b => fields a ++ fields b
  | choose condition yes no => fields condition ++ fields yes ++ fields no
  | call _ arguments => fieldsOfAll arguments
  | value _ | unknown => []

def fieldsOfAll : List Expression → List FieldName
  | [] => []
  | e :: rest => fields e ++ fieldsOfAll rest

end

/-- Why something that is written means nothing, at a place perhaps, which is told by the size of
the text from there on. -/
structure Problem where
  left : Option Nat
  message : String

def Problem.ofField (f : FieldName) : Problem :=
  ⟨some f.left, "no such column: " ++ f.display⟩

/-- What is wrong with a function, if it is. -/
def problemOfCall? (f : FieldName) (count : Nat) : Option Problem :=
  match Function.ofName? f.name with
  | none => some ⟨some f.left, "no such function: " ++ f.name⟩
  | some entry =>
    if entry.takes count then none
    else some ⟨some f.left, "wrong number of arguments to function " ++ f.name ++ "()"⟩

def problemOfField? (isKnown : FieldName → Bool) (f : FieldName) : Option Problem :=
  if isKnown f || f.mayBeText then none else some (.ofField f)

/-- The problem of the first of some expressions, if that is a field. -/
def problemOfFirst? (isKnown : FieldName → Bool) : List Expression → Option Problem
  | field f :: _ => problemOfField? isKnown f
  | _ => none

mutual

/-- The first problem of an expression, if it has one, where some fields are known. A problem of a
function comes behind that of a field which is its first argument. -/
def problem? (isKnown : FieldName → Bool) : Expression → Option Problem
  | field f => problemOfField? isKnown f
  | not e | negate e | invert e | plain e | collate _ e | cast _ e => problem? isKnown e
  | binary _ a b => (problem? isKnown a).or (problem? isKnown b)
  | choose condition yes no =>
    ((problem? isKnown condition).or (problem? isKnown yes)).or (problem? isKnown no)
  | call f arguments =>
    match problemOfCall? f arguments.length with
    | some p => (problemOfFirst? isKnown arguments).or (some p)
    | none => problemOfAll? isKnown arguments
  | value _ | unknown => none

def problemOfAll? (isKnown : FieldName → Bool) : List Expression → Option Problem
  | [] => none
  | e :: rest => (problem? isKnown e).or (problemOfAll? isKnown rest)

end

theorem problem?_value (isKnown : FieldName → Bool) (c : Cell) :
    (value c).problem? isKnown = none := by
  simp [problem?]

end Expression

end Rulebook
