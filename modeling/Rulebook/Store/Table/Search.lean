import Rulebook.Store.Table.Basic

/-!
# Searching tables

A record is looked up by the value of one of its fields; the first one in the order of row numbers
is found, or in the order of columns that are searched by.

* `wants_literal`: a name that is no column finds every row or none;
* `passes_of_findRow`: a row that is found is one that was asked for.
-/

namespace Rulebook

namespace Table

/-! ## Look-up -/

/-- What a row must have to be found: a value in a column, or a number. A name that is neither is
itself compared, which all rows pass or none. -/
inductive Wanted where
  | cell (index : Nat) (collation : Collation) (value : Cell)
  | number (i : Int)
  | constant (passed : Bool)

def isRowNumberName (name : String) : Bool :=
  sameName name "rowid" || sameName name "_rowid_" || sameName name "oid"

/-- Row numbers are compared with values as they would be stored, so that only whole numbers are
equal to them. -/
def wantedNumber (value : Cell) : Wanted :=
  match Affinity.integer.store value with
  | .integer i => .number i
  | _ => .constant false

/-- What a name and a value mean among columns of which the first has the index `i`. -/
def wantedIn? (field : String) (value : Cell) : List Column → Nat → Option Wanted
  | [], _ => none
  | c :: rest, i =>
    if sameName c.name field then
      some (if c.holdsRowNumber then wantedNumber value
        else .cell i c.collation (c.affinity.compare value))
    else wantedIn? field value rest (i + 1)

/-- Whether a name stands for the row numbers, unless a column has it. -/
def numbersUnder (t : Table) (name : String) : Bool :=
  t.view.isNone && t.rules.isNumbered && isRowNumberName name

/-- What a name that is no column and a value mean. -/
def wantedBeside (t : Table) (field : String) (value : Cell) : Wanted :=
  if t.numbersUnder field then wantedNumber value
  else .constant ((Cell.text field).equals value)

def wanted (t : Table) (field : String) (value : Cell) : Wanted :=
  (wantedIn? field value t.columns 0).getD (t.wantedBeside field value)

def TableRow.passes (row : TableRow) : Wanted → Bool
  | .cell i collation value => collation.equals ((row.cells[i]?).getD .null) value
  | .number i => row.number == i
  | .constant passed => passed

/-- A key of several columns of which a field is the first, the youngest if there are more. -/
def keyUnder? (t : Table) (field : String) : Option (List String) :=
  t.allKeys.reverse.find? fun key =>
    1 < key.length && (key.head?.map fun name => sameName name field).getD false

/-- Whether a row comes before another one by some columns. -/
def comesBefore (t : Table) (names : List String) (a b : TableRow) : Bool :=
  let order := names.flatMap fun name =>
    (t.columns.zip (a.cells.zip b.cells)).filterMap fun (c, v, w) =>
      if sameName c.name name then some (c.collation.order v w) else none
  order.find? (· != .eq) == some .lt

/-- The first of some rows in the order of some columns; of rows that are alike there, the first
one. -/
def firstBy (t : Table) (names : List String) : List TableRow → Option TableRow
  | [] => none
  | row :: rest =>
    match firstBy t names rest with
    | some r => some (if t.comesBefore names r row then r else row)
    | none => some row

theorem mem_of_firstBy {t : Table} {names : List String} {rows : List TableRow} {row : TableRow}
    (h : t.firstBy names rows = some row) : row ∈ rows := by
  induction rows generalizing row with
  | nil => simp [firstBy] at h
  | cons r rest ih =>
    simp only [firstBy] at h
    split at h
    · next s e =>
      obtain rfl := Option.some.inj h
      split
      · exact List.mem_cons_of_mem _ (ih e)
      · exact List.mem_cons_self
    · exact Option.some.inj h ▸ List.mem_cons_self

/-- The first row that has a value in a field: in the order of row numbers, or in that of a key that
starts with the field. -/
def findRow (t : Table) (field : String) (value : Cell) : Option TableRow :=
  let w := t.wanted field value
  match t.keyUnder? field with
  | none => t.rows.find? fun row => TableRow.passes row w
  | some key => t.firstBy key (t.rows.filter fun row => TableRow.passes row w)

theorem passes_of_findRow {t : Table} {field : String} {value : Cell} {row : TableRow}
    (h : t.findRow field value = some row) :
    row ∈ t.rows ∧ TableRow.passes row (t.wanted field value) = true := by
  simp only [findRow] at h
  split at h
  · have passes := List.find?_some (p := fun r => TableRow.passes r (t.wanted field value)) h
    exact ⟨List.mem_of_find?_eq_some h, passes⟩
  · exact List.mem_filter.1 (mem_of_firstBy h)

theorem wants_literal {t : Table} {field : String} {value : Cell}
    (hc : wantedIn? field value t.columns 0 = none) (hr : t.numbersUnder field = false)
    (row : TableRow) :
    TableRow.passes row (t.wanted field value) = (Cell.text field).equals value := by
  simp [wanted, hc, wantedBeside, hr, TableRow.passes]

/-- A row as a JSON object. -/
def record (t : Table) (row : TableRow) : Json.Members :=
  Json.Members.ofList ((t.columns.zip row.cells).map fun (c, v) => (c.name, v.toJson))

/-! ## Fields -/

/-- What a field of a row stands for; a table in front of its name has to be this one. -/
def operand (t : Table) (row : TableRow) (f : FieldName) : Option Expression.Operand :=
  if f.table.all fun name => sameName name t.name then
    match (t.columns.zip row.cells).find? fun (c, _) => sameName c.name f.name with
    | some (c, v) => some ⟨v, some c.affinity, some c.collation⟩
    | none =>
      if t.numbersUnder f.name then some ⟨.integer row.number, some .integer, none⟩ else none
  else none

/-- Whether a name stands for something in rows of a table. -/
def knows (t : Table) (f : FieldName) : Bool :=
  (f.table.all fun name => sameName name t.name) &&
    ((t.columns.any fun c => sameName c.name f.name) || t.numbersUnder f.name)

def valueOn (t : Table) (row : TableRow) (e : Expression) : Cell := (e.eval (t.operand row)).value

end Table

end Rulebook
