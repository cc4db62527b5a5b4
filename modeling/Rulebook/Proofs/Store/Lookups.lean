import Mathlib.Tactic.ByContra
import Rulebook.Store.Disk

/-!
# What a store answers

A question names a table and a field. Names that are no identifiers are refused, and so are tables
that are not there. A field that is not there is not refused: its name is taken for a text, and the
value is compared with that text on every row. So a misspelt field is found on all rows or on none,
whatever they hold.

* `Table.isSome_findRow_of_not_hasField`: what a misspelt field is found to be;
* `Disk.found_ok`, `Disk.found_error`: which questions are answered;
* `Disk.evaluate_real_iff`: answers through a connection.
-/

namespace Rulebook

/-! ## Tables -/

namespace Table

/-- Whether a name stands for a column of a table, or for its row numbers. -/
def HasField (t : Table) (field : String) : Prop :=
  (∃ c ∈ t.columns, sameName c.name field = true) ∨ t.numbersUnder field = true

instance (t : Table) (field : String) : Decidable (t.HasField field) :=
  inferInstanceAs (Decidable (_ ∨ _))

theorem wantedIn?_eq_none_iff {field : String} {value : Cell} {columns : List Column} {i : Nat} :
    wantedIn? field value columns i = none ↔ ¬∃ c ∈ columns, sameName c.name field = true := by
  induction columns generalizing i with
  | nil => simp [wantedIn?]
  | cons c rest ih =>
    by_cases h : sameName c.name field = true
    · simp [wantedIn?, h]
    · simp [wantedIn?, h, ih]

theorem isSome_firstBy (t : Table) (names : List String) (rows : List TableRow) :
    (t.firstBy names rows).isSome = !rows.isEmpty := by
  cases rows with
  | nil => rfl
  | cons row rest =>
    simp only [firstBy]
    split <;> rfl

/-- A field that is not there is found if there is any row and the value is the name itself. -/
theorem isSome_findRow_of_not_hasField {t : Table} {field : String} (h : ¬t.HasField field)
    (value : Cell) :
    (t.findRow field value).isSome = (!t.rows.isEmpty && (Cell.text field).equals value) := by
  obtain ⟨hc, hn⟩ := not_or.mp h
  have hpass : ∀ row, TableRow.passes row (t.wanted field value) =
      (Cell.text field).equals value :=
    wants_literal (wantedIn?_eq_none_iff.mpr hc) (Bool.eq_false_iff.mpr hn)
  simp only [findRow, hpass]
  split
  · cases t.rows <;> cases (Cell.text field).equals value <;> simp
  · rw [isSome_firstBy]
    cases t.rows <;> cases (Cell.text field).equals value <;> simp

end Table

/-! ## Databases -/

theorem Database.badName?_eq_none_iff {recordKind field : String} :
    badName? recordKind field = none ↔ isIdentifier recordKind = true ∧ isIdentifier field = true := by
  simp [badName?]

namespace Disk

/-- The table of that name in the database of a handle. -/
def tableOf? (d : Disk) (h : Handle) (recordKind : String) : Option Table :=
  match d.databaseOf h with
  | .ok db => db.relation? recordKind
  | .error _ => none

theorem found_ok {d : Disk} {h : Handle} {recordKind field : String} {t : Table}
    (hn : Database.badName? recordKind field = none) (ht : d.tableOf? h recordKind = some t)
    (value : Json) :
    backend.found d h recordKind field value =
      .ok (t.findRow field (.ofJson value)).isSome := by
  unfold tableOf? at ht
  split at ht
  · next db hdb => simp [backend, findOne, hdb, Database.findOne, hn, ht, Except.map]
  · cases ht

theorem found_of_badName {d : Disk} {h : Handle} {recordKind field name : String}
    (hn : Database.badName? recordKind field = some name) (value : Json) :
    backend.found d h recordKind field value = .error (Database.notIdentifier name) := by
  cases hdb : d.databaseOf h with
  | ok db => simp [backend, findOne, hdb, Database.findOne, hn, Except.map]
  | error message => simp [backend, findOne, hdb, hn, Except.map]

theorem found_error {d : Disk} {h : Handle} {recordKind field : String}
    (hq : ¬(Database.badName? recordKind field = none ∧ ∃ t, d.tableOf? h recordKind = some t))
    (value : Json) :
    ∃ text, backend.found d h recordKind field value = .error (.storeQuery text) := by
  cases hn : Database.badName? recordKind field with
  | some name => exact ⟨_, found_of_badName hn value⟩
  | none =>
    cases hdb : d.databaseOf h with
    | error message => exact ⟨message, by simp [backend, findOne, hdb, hn, Except.map]⟩
    | ok db =>
      have ht : db.relation? recordKind = none := by
        by_contra ht
        obtain ⟨t, ht⟩ := Option.ne_none_iff_exists'.mp ht
        exact hq ⟨hn, t, by simp [tableOf?, hdb, ht]⟩
      exact ⟨"no such table: " ++ recordKind, by
        simp [backend, findOne, hdb, Database.findOne, hn, ht, Except.map]⟩

/-! ## Answers -/

/-- A question about a field that is there. -/
def IsReal (d : Disk) (h : Handle) (q : Query) : Prop :=
  ∃ t, d.tableOf? h q.recordKind = some t ∧ t.HasField q.field

/-- A question about a table that is there and a field that is not, though its name is one that a
field could have. -/
def IsMisspelt (d : Disk) (h : Handle) (q : Query) : Prop :=
  Database.isIdentifier q.recordKind = true ∧ Database.isIdentifier q.field = true ∧
    ∃ t, d.tableOf? h q.recordKind = some t ∧ ¬t.HasField q.field

/-- Once a call has got the store, the store answers. -/
theorem evaluate_of_connect {s s' : Session Disk Handle} {h : Handle}
    (hs : s.connect backend = (.ok h, s')) (q : Query) :
    (s.evaluate backend q).1 =
      (backend.found s'.world h q.recordKind q.field q.value).map q.mode.verdict := by
  rw [Session.evaluate_of_connect_ok hs]
  rfl

/-- A misspelt question is answered, from the name of the field alone: unless the value is that name
and the table has a row, nothing is found. -/
theorem evaluate_of_isMisspelt {s s' : Session Disk Handle} {h : Handle}
    (hs : s.connect backend = (.ok h, s')) {q : Query} (hq : s'.world.IsMisspelt h q) :
    ∃ t, s'.world.tableOf? h q.recordKind = some t ∧
      (s.evaluate backend q).1 = .ok (q.mode.verdict
        (!t.rows.isEmpty && (Cell.text q.field).equals (.ofJson q.value))) := by
  obtain ⟨hk, hf, t, ht, hfield⟩ := hq
  refine ⟨t, ht, ?_⟩
  rw [evaluate_of_connect hs, found_ok (Database.badName?_eq_none_iff.mpr ⟨hk, hf⟩) ht,
    Table.isSome_findRow_of_not_hasField hfield]
  rfl

/-- A question that is neither real nor misspelt lacks its table, or has a name that is no
identifier. -/
theorem evaluate_of_not_isReal {s s' : Session Disk Handle} {h : Handle}
    (hs : s.connect backend = (.ok h, s')) {q : Query} (hmis : ¬s'.world.IsMisspelt h q)
    (hreal : ¬s'.world.IsReal h q) :
    ∃ text, (s.evaluate backend q).1 = .error (.storeQuery text) := by
  have hq : ¬(Database.badName? q.recordKind q.field = none ∧
      ∃ t, s'.world.tableOf? h q.recordKind = some t) := by
    rintro ⟨hn, t, ht⟩
    obtain ⟨hk, hf⟩ := Database.badName?_eq_none_iff.mp hn
    exact hmis ⟨hk, hf, t, ht, fun hfield => hreal ⟨t, ht, hfield⟩⟩
  obtain ⟨text, htext⟩ := found_error hq q.value
  exact ⟨text, by rw [evaluate_of_connect hs, htext]; rfl⟩

theorem IsMisspelt.not_isReal {d : Disk} {h : Handle} {q : Query} (hq : d.IsMisspelt h q) :
    ¬d.IsReal h q := by
  rintro ⟨t, ht, hfield⟩
  obtain ⟨_, _, t', ht', hnot⟩ := hq
  obtain rfl := Option.some.inj (ht.symm.trans ht')
  exact hnot hfield

/-- **Real questions.** Whatever the connection was like before: if a call gets the store of a
database, its question is answered only if it is about a field of a table that is there, and refused
by the store if it is not, unless the question is misspelt. A misspelt question is answered as if
the field held its own name on every row. -/
theorem evaluate_real_iff {s s' : Session Disk Handle} {h : Handle}
    (hs : s.connect backend = (.ok h, s')) (q : Query) :
    (((∃ b, (s.evaluate backend q).1 = .ok b) → s'.world.IsReal h q) ∧
      (¬s'.world.IsReal h q → ∃ text, (s.evaluate backend q).1 = .error (.storeQuery text)) ↔
        ¬s'.world.IsMisspelt h q) ∧
    (s'.world.IsMisspelt h q → ∃ t, s'.world.tableOf? h q.recordKind = some t ∧
      (s.evaluate backend q).1 = .ok (q.mode.verdict
        (!t.rows.isEmpty && (Cell.text q.field).equals (.ofJson q.value)))) := by
  refine ⟨⟨?_, fun hmis => ⟨?_, evaluate_of_not_isReal hs hmis⟩⟩, evaluate_of_isMisspelt hs⟩
  · rintro ⟨hreal, _⟩ hmis
    obtain ⟨_, _, hans⟩ := evaluate_of_isMisspelt hs hmis
    exact hmis.not_isReal (hreal ⟨_, hans⟩)
  · rintro ⟨b, hb⟩
    by_contra hreal
    obtain ⟨text, htext⟩ := evaluate_of_not_isReal hs hmis hreal
    rw [hb] at htext
    cases htext

/-! ## A table of users -/

def users : Table :=
  { Table.empty "User" [.plain "id", { Column.plain "email" with affinity := .text }] .none "" with
    rows := [⟨1, [.integer 1, .text "a@b.com"]⟩] }

/-- A directory with a database that has one table. -/
def usersDisk : Disk := ⟨[("app.db", .database [users])], [], .sqlite "app.db"⟩

/-- There is no table of this name, so the store refuses the question. -/
theorem evaluate_real_missingTable :
    (∃ s', (Session.initial usersDisk).connect backend = (.ok (.file "app.db"), s')) ∧
      ∃ text, ((Session.initial usersDisk).evaluate backend
        ⟨"Users", "email", .string "a@b.com", .unique⟩).1 = .error (.storeQuery text) := by
  have hs : (Session.initial usersDisk).connect backend =
      (.ok (.file "app.db"), ⟨⟨.ready (.file "app.db"), 1⟩, usersDisk⟩) := rfl
  have ht : usersDisk.tableOf? (.file "app.db") "Users" = none := rfl
  obtain ⟨hreal, _⟩ := evaluate_real_iff hs ⟨"Users", "email", .string "a@b.com", .unique⟩
  refine ⟨⟨_, hs⟩, (hreal.mpr ?_).2 ?_⟩
  · rintro ⟨_, _, t, h, _⟩
    cases ht.symm.trans h
  · rintro ⟨t, h, _⟩
    cases ht.symm.trans h

/-- No column has this name, and still no user is found to have the value of another one. -/
theorem evaluate_misspelt_unique :
    ∃ s' h, (Session.initial usersDisk).connect backend = (.ok h, s') ∧
      ¬s'.world.IsReal h ⟨"User", "emial", .string "a@b.com", .unique⟩ ∧
      ((Session.initial usersDisk).evaluate backend
        ⟨"User", "emial", .string "a@b.com", .unique⟩).1 = .ok true := by
  refine ⟨⟨⟨.ready (.file "app.db"), 1⟩, usersDisk⟩, .file "app.db", rfl, ?_, rfl⟩
  rintro ⟨t, ht, hfield⟩
  have hu : usersDisk.tableOf? (.file "app.db") "User" = some users := rfl
  obtain rfl := Option.some.inj (hu.symm.trans ht)
  exact absurd hfield (by decide)

end Disk

end Rulebook
