import Mathlib.Logic.Function.Basic
import Rulebook.Store.Connection
import Rulebook.Store.Query

/-!
# Interleaved calls

Any number of calls share one connection, each of them either a mere request for the store or an
evaluation, which puts a question to the store it is given. Their steps come in any order, and so
do the outcomes of the attempts to connect. Whatever a call does to the connection is one step, as
it holds the lock meanwhile; between its steps anything else may happen.

* `step`, `run`: the system as a partial step function, and its runs;
* `step_enter_iff` … `step_drop_iff`: when a step is possible, and what it does;
* `run_append`, `run_invariant`: runs are composed, and keep what every step keeps.
-/

namespace Rulebook

/-! ## What a change of phase tells -/

/-- The attempt that begins when one phase follows another. -/
def Phase.begun {σ : Type} : Phase σ → Phase σ → List Nat
  | .connecting k, .connecting l => if l = k then [] else [l]
  | _, .connecting l => [l]
  | _, _ => []

/-- The attempt that is settled as failed when one phase follows another. -/
def Phase.givenUp {σ : Type} : Phase σ → Phase σ → List Nat
  | .connecting k, .idle => [k]
  | _, _ => []

@[simp] theorem Phase.begun_self {σ : Type} (p : Phase σ) : p.begun p = [] := by
  cases p <;> simp [begun]

@[simp] theorem Phase.givenUp_self {σ : Type} (p : Phase σ) : p.givenUp p = [] := by
  cases p <;> rfl

namespace Interleaving

variable {σ : Type}

/-! ## Calls -/

inductive Stage (σ : Type) where
  /-- Waits for the attempt that the call started or joined. -/
  | waiting
  /-- Knows the outcome of that attempt, and has yet to settle it. -/
  | resumed (outcome : Except Failure σ)
  /-- Has been given the store, or a failure. An evaluation goes on with a store. -/
  | given (outcome : Except Failure σ)
  /-- The store that an evaluation was given has answered. -/
  | answered (store : σ) (answer : Except Failure Bool)
  | dropped

/-- The outcome that a call has seen of its attempt. -/
def Stage.seen? : Stage σ → Option (Except Failure σ)
  | .resumed outcome => some outcome
  | .given outcome => some outcome
  | .answered store _ => some (.ok store)
  | .waiting | .dropped => none

/-- The outcome that a call has been given, after settling. -/
def Stage.given? : Stage σ → Option (Except Failure σ)
  | .given outcome => some outcome
  | .answered store _ => some (.ok store)
  | .waiting | .resumed _ | .dropped => none

theorem Stage.seen?_of_given? {stage : Stage σ} {outcome : Except Failure σ}
    (h : stage.given? = some outcome) : stage.seen? = some outcome := by
  cases stage <;> simp_all [given?, seen?]

/-- A call, with the question if it is an evaluation, and what it found when it entered. -/
structure Call (σ : Type) where
  question : Option Query
  entry : Entry σ
  stage : Stage σ

namespace Call

/-- A call that has just entered. -/
def entering (question : Option Query) (entry : Entry σ) : Call σ :=
  ⟨question, entry, match entry with
    | .store store => .given (.ok store)
    | .waiting _ => .waiting⟩

/-- Only a call that waits, for an attempt or for an answer, can be dropped. -/
def canDrop (call : Call σ) : Bool :=
  match call.question, call.stage with
  | _, .waiting => true
  | some _, .given (.ok _) => true
  | _, _ => false

end Call

/-- What a call returns. -/
inductive Reply (σ : Type) where
  | store (store : σ)
  | verdict (answer : Bool)

/-- What a call has returned, if it has come to its end. -/
def Call.result? (call : Call σ) : Option (Except Failure (Reply σ)) :=
  match call.question, call.stage with
  | none, .given outcome => some (outcome.map .store)
  | some _, .given (.error f) => some (.error f)
  | some _, .answered _ answer => some (answer.map .verdict)
  | _, _ => none

/-- A call that was given nothing but a failure returns it. -/
theorem Call.result?_of_failure {call : Call σ} {f : Failure} {result : Except Failure (Reply σ)}
    (h : ∀ outcome, call.stage.given? = some outcome → outcome = .error f)
    (hr : call.result? = some result) : result = .error f := by
  obtain ⟨question, entry, stage⟩ := call
  cases stage with
  | given outcome =>
    obtain rfl := h outcome rfl
    cases question <;> simpa [result?, Except.map, eq_comm] using hr
  | answered store answer => cases h _ rfl
  | waiting => cases question <;> simp [result?] at hr
  | resumed outcome => cases question <;> simp [result?] at hr
  | dropped => cases question <;> simp [result?] at hr

/-- A mere request returns what it was given. -/
theorem Call.result?_of_request {call : Call σ} {result : Except Failure (Reply σ)}
    (hq : call.question = none) (hr : call.result? = some result) :
    ∃ outcome, call.stage.given? = some outcome ∧ result = outcome.map .store := by
  obtain ⟨question, entry, stage⟩ := call
  obtain rfl : question = none := hq
  cases stage with
  | given outcome => exact ⟨outcome, rfl, by simpa [result?, eq_comm] using hr⟩
  | answered store answer => simp [result?] at hr
  | waiting => simp [result?] at hr
  | resumed outcome => simp [result?] at hr
  | dropped => simp [result?] at hr

/-! ## States and steps -/

structure State (σ : Type) where
  connection : Connection σ
  /-- The numbers of the attempts that were started, in order. -/
  started : List Nat
  /-- The outcomes of the attempts that are resolved. -/
  outcome : Nat → Option (Except Failure σ)
  /-- The numbers of the attempts that were settled as failed, in order. -/
  failed : List Nat
  calls : Nat → Option (Call σ)

def initial : State σ := ⟨.initial, [], fun _ => none, [], fun _ => none⟩

namespace State

/-- Whether an attempt to connect is still going on. -/
def unresolved (s : State σ) (attempt : Nat) : Bool := (s.outcome attempt).isNone

/-- The connection changes, and the attempts that begin or fail by this are written down. -/
def move (s : State σ) (c : Connection σ) : State σ :=
  { s with
    connection := c
    started := s.started ++ s.connection.phase.begun c.phase
    failed := s.failed ++ s.connection.phase.givenUp c.phase }

def put (s : State σ) (c : Nat) (call : Call σ) : State σ :=
  { s with calls := Function.update s.calls c (some call) }

def resolve (s : State σ) (attempt : Nat) (outcome : Except Failure σ) : State σ :=
  { s with outcome := Function.update s.outcome attempt (some outcome) }

@[simp] theorem calls_put_self (s : State σ) (c : Nat) (call : Call σ) :
    (s.put c call).calls c = some call :=
  Function.update_self ..

theorem put_of_calls {s : State σ} {c : Nat} {call : Call σ} (h : s.calls c = some call) :
    s.put c call = s := by
  simp [put, ← h]

@[simp] theorem move_self (s : State σ) : s.move s.connection = s := by
  simp [move]

end State

inductive Step (σ : Type) where
  /-- A new call, an evaluation if it has a question, takes the lock for the first time. -/
  | enter (call : Nat) (question : Option Query)
  /-- An attempt to connect comes to its end. -/
  | resolve (attempt : Nat) (outcome : Except Failure σ)
  /-- A call that waits is handed the outcome of its attempt. -/
  | resume (call : Nat)
  /-- The call takes the lock again, to settle its attempt. -/
  | settle (call : Nat)
  /-- The store looks for the record that an evaluation asks about. -/
  | answer (call : Nat) (found : Except Failure Bool)
  | drop (call : Nat)

/-- The call that takes the step. -/
def Step.caller? : Step σ → Option Nat
  | .enter c _ | .resume c | .settle c | .answer c _ | .drop c => some c
  | .resolve _ _ => none

/-- The state after a step, if the step is possible. -/
def step (s : State σ) : Step σ → Option (State σ)
  | .enter c question =>
    match s.calls c with
    | some _ => none
    | none =>
      some ((s.move s.connection.enter.2).put c (.entering question s.connection.enter.1))
  | .resolve attempt outcome =>
    if attempt ∈ s.started && s.unresolved attempt then some (s.resolve attempt outcome) else none
  | .resume c =>
    match s.calls c with
    | some ⟨question, .waiting attempt, .waiting⟩ =>
      (s.outcome attempt).map fun outcome => s.put c ⟨question, .waiting attempt, .resumed outcome⟩
    | _ => none
  | .settle c =>
    match s.calls c with
    | some ⟨question, .waiting attempt, .resumed outcome⟩ =>
      some ((s.move (s.connection.settle attempt outcome)).put c
        ⟨question, .waiting attempt, .given outcome⟩)
    | _ => none
  | .answer c found =>
    match s.calls c with
    | some ⟨some q, entry, .given (.ok store)⟩ =>
      some (s.put c ⟨some q, entry, .answered store (found.map q.mode.verdict)⟩)
    | _ => none
  | .drop c =>
    match s.calls c with
    | some call => if call.canDrop then some (s.put c { call with stage := .dropped }) else none
    | none => none

/-- The state after some steps, if all of them are possible. -/
def run (s : State σ) : List (Step σ) → Option (State σ)
  | [] => some s
  | x :: xs => (step s x).bind fun t => run t xs

/-! ## What the steps do -/

theorem step_enter_iff {s t : State σ} {c : Nat} {question : Option Query} :
    step s (.enter c question) = some t ↔
      s.calls c = none ∧
        t = (s.move s.connection.enter.2).put c (.entering question s.connection.enter.1) := by
  simp only [step]
  cases s.calls c <;> simp [eq_comm]

theorem step_resolve_iff {s t : State σ} {attempt : Nat} {outcome : Except Failure σ} :
    step s (.resolve attempt outcome) = some t ↔
      attempt ∈ s.started ∧ s.outcome attempt = none ∧ t = s.resolve attempt outcome := by
  simp only [step, State.unresolved, Option.ite_none_right_eq_some, Bool.and_eq_true,
    decide_eq_true_eq, Option.isNone_iff_eq_none, Option.some.injEq, and_assoc]
  exact and_congr_right fun _ => and_congr_right fun _ => eq_comm

theorem step_resume_iff {s t : State σ} {c : Nat} :
    step s (.resume c) = some t ↔
      ∃ question attempt outcome, s.calls c = some ⟨question, .waiting attempt, .waiting⟩ ∧
        s.outcome attempt = some outcome ∧
        t = s.put c ⟨question, .waiting attempt, .resumed outcome⟩ := by
  constructor
  · intro h
    simp only [step] at h
    split at h
    · next question attempt hc =>
      obtain ⟨outcome, ho, rfl⟩ := Option.map_eq_some_iff.mp h
      exact ⟨question, attempt, outcome, hc, ho, rfl⟩
    · cases h
  · rintro ⟨question, attempt, outcome, hc, ho, rfl⟩
    simp [step, hc, ho]

theorem step_settle_iff {s t : State σ} {c : Nat} :
    step s (.settle c) = some t ↔
      ∃ question attempt outcome,
        s.calls c = some ⟨question, .waiting attempt, .resumed outcome⟩ ∧
        t = (s.move (s.connection.settle attempt outcome)).put c
          ⟨question, .waiting attempt, .given outcome⟩ := by
  constructor
  · intro h
    simp only [step] at h
    split at h
    · next question attempt outcome hc =>
      exact ⟨question, attempt, outcome, hc, (Option.some.inj h).symm⟩
    · cases h
  · rintro ⟨question, attempt, outcome, hc, rfl⟩
    simp [step, hc]

theorem step_answer_iff {s t : State σ} {c : Nat} {found : Except Failure Bool} :
    step s (.answer c found) = some t ↔
      ∃ q entry store, s.calls c = some ⟨some q, entry, .given (.ok store)⟩ ∧
        t = s.put c ⟨some q, entry, .answered store (found.map q.mode.verdict)⟩ := by
  constructor
  · intro h
    simp only [step] at h
    split at h
    · next q entry store hc => exact ⟨q, entry, store, hc, (Option.some.inj h).symm⟩
    · cases h
  · rintro ⟨q, entry, store, hc, rfl⟩
    simp [step, hc]

theorem step_drop_iff {s t : State σ} {c : Nat} :
    step s (.drop c) = some t ↔
      ∃ call, s.calls c = some call ∧ call.canDrop = true ∧
        t = s.put c { call with stage := .dropped } := by
  constructor
  · intro h
    simp only [step] at h
    split at h
    · next call hc =>
      obtain ⟨hd, ht⟩ := Option.ite_none_right_eq_some.mp h
      exact ⟨call, hc, hd, (Option.some.inj ht).symm⟩
    · cases h
  · rintro ⟨call, hc, hd, rfl⟩
    simp [step, hc, hd]

/-- A step resolves an attempt, or it writes down how far a call has come. What the call found
when it entered stays. -/
theorem step_effect {s t : State σ} {x : Step σ} (hx : step s x = some t) :
    (∃ k outcome, s.outcome k = none ∧ t = s.resolve k outcome) ∨
      (t.outcome = s.outcome ∧
        ∃ c call, x.caller? = some c ∧ t.calls = Function.update s.calls c (some call) ∧
          ∀ old, s.calls c = some old → call.entry = old.entry) := by
  cases x with
  | enter c question =>
    obtain ⟨hn, rfl⟩ := step_enter_iff.mp hx
    refine Or.inr ⟨rfl, c, _, rfl, rfl, fun old ho => ?_⟩
    rw [hn] at ho
    cases ho
  | resolve k outcome =>
    obtain ⟨_, hn, rfl⟩ := step_resolve_iff.mp hx
    exact Or.inl ⟨k, outcome, hn, rfl⟩
  | resume c =>
    obtain ⟨_, _, _, hc, _, rfl⟩ := step_resume_iff.mp hx
    refine Or.inr ⟨rfl, c, _, rfl, rfl, fun old ho => ?_⟩
    obtain rfl := Option.some.inj (hc.symm.trans ho)
    rfl
  | settle c =>
    obtain ⟨_, _, _, hc, rfl⟩ := step_settle_iff.mp hx
    refine Or.inr ⟨rfl, c, _, rfl, rfl, fun old ho => ?_⟩
    obtain rfl := Option.some.inj (hc.symm.trans ho)
    rfl
  | answer c found =>
    obtain ⟨_, _, _, hc, rfl⟩ := step_answer_iff.mp hx
    refine Or.inr ⟨rfl, c, _, rfl, rfl, fun old ho => ?_⟩
    obtain rfl := Option.some.inj (hc.symm.trans ho)
    rfl
  | drop c =>
    obtain ⟨_, hc, _, rfl⟩ := step_drop_iff.mp hx
    refine Or.inr ⟨rfl, c, _, rfl, rfl, fun old ho => ?_⟩
    obtain rfl := Option.some.inj (hc.symm.trans ho)
    rfl

/-! ## Runs -/

theorem run_singleton (s : State σ) (x : Step σ) : run s [x] = step s x := by
  cases h : step s x <;> simp [run, h]

theorem run_append (s : State σ) (xs ys : List (Step σ)) :
    run s (xs ++ ys) = (run s xs).bind fun t => run t ys := by
  induction xs generalizing s with
  | nil => rfl
  | cons x xs ih =>
    simp only [List.cons_append, run]
    cases step s x with
    | none => rfl
    | some t => exact ih t

/-- What every step keeps, a run keeps. -/
theorem run_invariant {P : State σ → Prop}
    (hstep : ∀ s x t, P s → step s x = some t → P t) {steps : List (Step σ)} {s t : State σ}
    (hs : P s) (h : run s steps = some t) : P t := by
  induction steps generalizing s with
  | nil =>
    simp only [run, Option.some.injEq] at h
    exact h ▸ hs
  | cons x xs ih =>
    simp only [run] at h
    obtain ⟨u, hu, ht⟩ := Option.bind_eq_some_iff.mp h
    exact ih (hstep s x u hs hu) ht

end Interleaving

end Rulebook
