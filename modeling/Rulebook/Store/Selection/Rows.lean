import Rulebook.Store.Table.Search

/-!
# Rows of selections

What a selection makes of the table that it takes rows from. A selection may name fields that its
table does not have, which is a problem of the selection.

* `length_rows_le`: there are no more rows than in the table;
* `problem?_all`: to take all columns of a table is no problem.
-/

namespace Rulebook.Selection

/-- A table under the name that a selection gives it. -/
def named (s : Selection) (t : Table) : Table :=
  match s.source with
  | .table _ (some other) => { t with name := other }
  | _ => t

/-! ## Rows -/

def admits (s : Selection) (value : Expression → Cell) : Bool :=
  s.condition.all fun e => (value e).truth == some true

/-- The cells of a row for the results of a selection. -/
def cells (s : Selection) (all : List Cell) (value : Expression → Cell) : List Cell :=
  s.results.flatMap fun
    | .all => all
    | .one _ e => [value e]

/-- The rows of a selection from a table. -/
def rows (s : Selection) (t : Table) : List (List Cell) :=
  let t := s.named t
  (t.rows.filter fun row => s.admits (t.valueOn row)).map fun row =>
    s.cells row.cells (t.valueOn row)

theorem length_rows_le (s : Selection) (t : Table) : (s.rows t).length ≤ t.rows.length := by
  have h : (s.named t).rows = t.rows := by unfold named; split <;> rfl
  simp only [rows, List.length_map]
  exact h ▸ List.length_filter_le ..

/-- The one row of a selection without a table, if its condition holds. -/
def loneRow (s : Selection) : List (List Cell) :=
  if s.admits Expression.constant then [s.cells [] Expression.constant] else []

/-! ## Columns -/

/-- The columns of what is selected. -/
def columns (s : Selection) (t : Option Table) : List Column :=
  let all := (t.map Table.columns).getD []
  let taken (c : Column) : Column :=
    { Column.plain c.name with affinity := c.affinity, collation := c.collation }
  s.results.flatMap fun
    | .all => all.map taken
    | .one name (.field f) =>
      match all.find? fun c => sameName c.name f.name with
      | some c => [{ taken c with name := name }]
      | none => [.plain name]
    | .one name _ => [.plain name]

/-! ## Problems -/

def resultNames (s : Selection) : List String :=
  s.results.flatMap fun
    | .all => []
    | .one name _ => [name]

def problemOf? (isKnown : FieldName → Bool) : Result → Option Expression.Problem
  | .all => none
  | .one _ e => e.problem? isKnown

/-- The first problem of a selection from a table. Names of results are known outside of them. -/
def problem? (s : Selection) (t : Option Table) : Option Expression.Problem :=
  let isKnown (f : FieldName) : Bool := t.any fun t => (s.named t).knows f
  let isNamed (f : FieldName) : Bool :=
    isKnown f || (f.table.isNone && s.resultNames.any fun name => sameName name f.name)
  (s.results.findSome? (problemOf? isKnown)).or
    ((s.condition.toList ++ s.others).findSome? (Expression.problem? isNamed))

theorem problem?_all (source : Source) (t : Option Table) :
    problem? ⟨[.all], source, none, []⟩ t = none := rfl

end Rulebook.Selection
