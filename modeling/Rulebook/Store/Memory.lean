import Rulebook.Store.Session

/-!
# A store in memory

Records are triples of a kind, a field and a value. Kinds may be broken, so that asking about them
fails, and attempts to connect may be made to fail. A session with the store is a list of steps.

* `found_insert`: an inserted row is found;
* `found_broken`: a broken kind answers with its failure only;
* `step_connect_snd`, `step_abandon_snd`, `step_check_snd`: steps do what the calls that they make do.
-/

namespace Rulebook

namespace Memory

structure Row where
  recordKind : String
  field : String
  value : Json

instance : BEq Row :=
  ⟨fun a b => a.recordKind == b.recordKind && a.field == b.field && a.value == b.value⟩

end Memory

/-- `failures` attempts to connect will fail; `starts` have been started so far. -/
structure Memory where
  rows : List Memory.Row
  broken : List String
  failures : Nat
  starts : Nat

namespace Memory

def found (m : Memory) (recordKind field : String) (value : Json) : Except Failure Bool :=
  if m.broken.contains recordKind then
    .error (.storeQuery ("relation '" ++ recordKind ++ "' does not exist"))
  else .ok (m.rows.any fun r => r == ⟨recordKind, field, value⟩)

/-- The outcome of the attempt under way. -/
def finish (m : Memory) : Except Failure Unit × Memory :=
  match m.failures with
  | 0 => (.ok (), m)
  | n + 1 =>
    (.error (.storeInitialization ("connection " ++ toString m.starts ++ " refused")),
      { m with failures := n })

def backend : Backend Memory Unit where
  start m := { m with starts := m.starts + 1 }
  finish := finish
  found m _ := m.found

theorem found_broken {m : Memory} {recordKind : String} (h : recordKind ∈ m.broken)
    (field : String) (value : Json) :
    m.found recordKind field value =
      .error (.storeQuery ("relation '" ++ recordKind ++ "' does not exist")) := by
  simp [found, h]

theorem found_insert {m : Memory} {row : Row} (h : row.recordKind ∉ m.broken) :
    Memory.found { m with rows := m.rows ++ [row] } row.recordKind row.field row.value =
      .ok true := by
  have hr : (row == row) = true := by
    change (row.recordKind == row.recordKind && row.field == row.field &&
      Json.beq row.value row.value) = true
    simp [Json.beq_refl]
  simp [found, h, hr]

/-! ## Steps -/

inductive Step where
  | insert (row : Row)
  | delete (row : Row)
  | clear
  | damage (recordKind : String)
  | mend
  | fail (times : Nat)
  | connect
  | evaluate (q : Query)
  | abandon (q : Query)
  | concurrent (qs : List Query) (retries : Nat)
  | check (path : String) (field : Field) (value : Option Json)

inductive Outcome where
  | none
  | connected
  | pending
  | answer (result : Except Failure Bool)
  | answers (results : List (Except Failure Bool))
  | report (r : FieldReport)
  | failure (f : Failure)

abbrev Session := Rulebook.Session Memory Unit

/-- A step that changes the store and leaves the connection as it is. -/
def change (f : Memory → Memory) (s : Session) : Outcome × Session :=
  (.none, { s with world := f s.world })

def step (s : Session) : Step → Outcome × Session
  | .insert row => change (fun m => { m with rows := m.rows ++ [row] }) s
  | .delete row => change (fun m => { m with rows := m.rows.filter fun r => !(r == row) }) s
  | .clear => change (fun m => { m with rows := [] }) s
  | .damage recordKind => change (fun m => { m with broken := recordKind :: m.broken }) s
  | .mend => change (fun m => { m with broken := [] }) s
  | .fail times => change (fun m => { m with failures := times }) s
  | .connect =>
    match s.connect backend with
    | (.ok _, s) => (.connected, s)
    | (.error f, s) => (.failure f, s)
  | .evaluate q =>
    let (result, s) := s.evaluate backend q
    (.answer result, s)
  | .abandon q =>
    match s.abandon backend q with
    | (.pending, s) => (.pending, s)
    | (.finished result, s) => (.answer result, s)
  | .concurrent qs retries =>
    let (results, s) := Session.concurrent backend retries qs s
    (.answers results, s)
  | .check path field value =>
    match Session.run backend (field.validate path value) s with
    | (.ok r, s) => (.report r, s)
    | (.error f, s) => (.failure f, s)

theorem step_connect_snd (s : Session) : (step s .connect).2 = (s.connect backend).2 := by
  simp only [step]
  rcases s.connect backend with ⟨f | store, t⟩
  · rfl
  · rfl

theorem step_abandon_snd (s : Session) (q : Query) :
    (step s (.abandon q)).2 = (s.abandon backend q).2 := by
  simp only [step]
  rcases s.abandon backend q with ⟨_ | result, t⟩
  · rfl
  · rfl

theorem step_check_snd (s : Session) (path : String) (field : Field) (value : Option Json) :
    (step s (.check path field value)).2 = (s.run backend (field.validate path value)).2 := by
  simp only [step]
  rcases s.run backend (field.validate path value) with ⟨f | r, t⟩
  · rfl
  · rfl

/-- The outcomes of steps, each with the session after it. -/
def run : List Step → Session → List (Outcome × Session)
  | [], _ => []
  | x :: xs, s =>
    let (outcome, s) := step s x
    (outcome, s) :: run xs s

end Memory

end Rulebook
