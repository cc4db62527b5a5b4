import Rulebook.Store.Connection
import Rulebook.Store.Query
import Rulebook.Validation.Run

/-!
# Sessions with a record store

A session is a shared connection together with the world its store lives in. The backend says how
an attempt to connect starts and ends there, and how a store is searched.

* `evaluate_of_connect_ok`, `evaluate_of_connect_error`: what a call does once it is connected;
* `evaluate_of_ready`: a ready connection answers from the world as it is, and changes nothing;
* `phase_enterAll_of_waiting`, `connection_resumeAll`: calls at the same time share an attempt;
* `phase_round_of_waiting`: and leave none under way;
* `round_singleton`: a single call is a round of its own.
-/

namespace Rulebook

/-- How stores are reached in a world `ω`; `σ` is what a connection holds. -/
structure Backend (ω σ : Type) where
  start : ω → ω
  finish : ω → Except Failure σ × ω
  /-- Whether a record of that kind has that value in that field. -/
  found : ω → σ → String → String → Json → Except Failure Bool

structure Session (ω σ : Type) where
  connection : Connection σ
  world : ω

/-- What is left of a call that is dropped when it first waits. -/
inductive Dropped where
  | pending
  | finished (result : Except Failure Bool)

namespace Session

variable {ω σ : Type}

def initial (world : ω) : Session ω σ := ⟨.initial, world⟩

/-- The answer of a store to a question. -/
def ask (b : Backend ω σ) (world : ω) (store : σ) (q : Query) : Except Failure Bool :=
  (b.found world store q.recordKind q.field q.value).map q.mode.verdict

/-! ## Single calls -/

/-- A call asks for the store; if that starts an attempt, the world is told. -/
def enter (b : Backend ω σ) (s : Session ω σ) : Entry σ × Session ω σ :=
  let (entry, c) := s.connection.enter
  (entry, ⟨c, if c.attempts = s.connection.attempts then s.world else b.start s.world⟩)

/-- A call gets the store, or the failure of the attempt it waited for. -/
def connect (b : Backend ω σ) (s : Session ω σ) : Except Failure σ × Session ω σ :=
  match s.enter b with
  | (.store store, s) => (.ok store, s)
  | (.waiting attempt, s) =>
    let (outcome, world) := b.finish s.world
    (outcome, ⟨s.connection.settle attempt outcome, world⟩)

def evaluate (b : Backend ω σ) (q : Query) (s : Session ω σ) :
    Except Failure Bool × Session ω σ :=
  match s.connect b with
  | (.ok store, s) => (ask b s.world store q, s)
  | (.error f, s) => (.error f, s)

/-- A call that is dropped when it first waits leaves the attempt under way. -/
def abandon (b : Backend ω σ) (q : Query) (s : Session ω σ) : Dropped × Session ω σ :=
  match s.enter b with
  | (.store store, s) => (.finished (ask b s.world store q), s)
  | (.waiting _, s) => (.pending, s)

/-- An evaluation does to the session what asking for the store does. -/
theorem evaluate_snd (b : Backend ω σ) (q : Query) (s : Session ω σ) :
    (s.evaluate b q).2 = (s.connect b).2 := by
  simp only [evaluate]
  split <;> simp_all

/-- A call that got the store has it answer, and does no more to the session. -/
theorem evaluate_of_connect_ok {b : Backend ω σ} {s t : Session ω σ} {store : σ}
    (h : s.connect b = (.ok store, t)) (q : Query) :
    s.evaluate b q = (ask b t.world store q, t) := by
  simp only [evaluate, h]

theorem evaluate_of_connect_error {b : Backend ω σ} {s t : Session ω σ} {f : Failure}
    (h : s.connect b = (.error f, t)) (q : Query) : s.evaluate b q = (.error f, t) := by
  simp only [evaluate, h]

theorem evaluate_of_ready (b : Backend ω σ) (q : Query) {s : Session ω σ} {store : σ}
    (h : s.connection.phase = .ready store) :
    s.evaluate b q = (ask b s.world store q, s) := by
  simp [evaluate, connect, enter, Connection.enter_of_ready h]

/-! ## Concurrent calls -/

/-- All calls ask for the store, in order. -/
def enterAll (b : Backend ω σ) : List Query → Session ω σ → List (Query × Entry σ) × Session ω σ
  | [], s => ([], s)
  | q :: qs, s =>
    let (entry, s) := s.enter b
    let (entries, s) := enterAll b qs s
    ((q, entry) :: entries, s)

def isWaiting : Entry σ → Bool
  | .waiting _ => true
  | .store _ => false

/-- The calls go on, in order, when the attempt they waited for has ended. -/
def resumeAll (b : Backend ω σ) (outcome : Except Failure σ) :
    List (Query × Entry σ) → Session ω σ → List (Except Failure Bool) × Session ω σ
  | [], s => ([], s)
  | (q, .store store) :: rest, s =>
    let (answers, s') := resumeAll b outcome rest s
    (ask b s.world store q :: answers, s')
  | (q, .waiting attempt) :: rest, s =>
    let s := { s with connection := s.connection.settle attempt outcome }
    let answer := match outcome with
      | .ok store => ask b s.world store q
      | .error f => .error f
    let (answers, s) := resumeAll b outcome rest s
    (answer :: answers, s)

/-- All calls start before the attempt they wait for ends, and share its outcome. If none of them
waits, no attempt ends. -/
def round (b : Backend ω σ) (qs : List Query) (s : Session ω σ) :
    List (Except Failure Bool) × Session ω σ :=
  let (entries, s) := enterAll b qs s
  let (outcome, world) := b.finish s.world
  if entries.any fun e => isWaiting e.2 then
    resumeAll b outcome entries { s with world := world }
  else resumeAll b outcome entries s

theorem length_enterAll (b : Backend ω σ) (qs : List Query) (s : Session ω σ) :
    (enterAll b qs s).1.length = qs.length := by
  induction qs generalizing s with
  | nil => rfl
  | cons q qs ih => exact congrArg (· + 1) (ih _)

/-- Calls that enter while an attempt is under way join it. -/
theorem enterAll_of_connecting (b : Backend ω σ) (qs : List Query) {s : Session ω σ}
    {attempt : Nat} (h : s.connection.phase = .connecting attempt) :
    (enterAll b qs s).2.connection = s.connection := by
  induction qs generalizing s with
  | nil => rfl
  | cons q qs ih =>
    have hs : (s.enter b).2.connection = s.connection :=
      congrArg Prod.snd (Connection.enter_of_connecting h)
    exact (ih (hs.symm ▸ h)).trans hs

/-- The calls of a round that wait all wait for the same attempt. -/
theorem phase_enterAll_of_waiting (b : Backend ω σ) {qs : List Query} {s : Session ω σ} {q : Query}
    {attempt : Nat} (h : (q, .waiting attempt) ∈ (enterAll b qs s).1) :
    (enterAll b qs s).2.connection.phase = .connecting attempt := by
  induction qs generalizing s with
  | nil => cases h
  | cons q' qs ih =>
    rcases List.mem_cons.mp h with h | h
    · have hs : (s.enter b).2.connection.phase = .connecting attempt :=
        Connection.phase_enter_of_waiting (congrArg Prod.snd h).symm
      exact (congrArg Connection.phase (enterAll_of_connecting b qs hs)).trans hs
    · exact ih h

/-- However many calls wait for an attempt, it is settled once. -/
theorem connection_resumeAll (b : Backend ω σ) (outcome : Except Failure σ) {attempt : Nat}
    {entries : List (Query × Entry σ)} (s : Session ω σ)
    (h : ∀ q k, (q, .waiting k) ∈ entries → k = attempt) :
    (resumeAll b outcome entries s).2.connection =
      if entries.any fun e => isWaiting e.2 then s.connection.settle attempt outcome
      else s.connection := by
  induction entries generalizing s with
  | nil => rfl
  | cons e rest ih =>
    have hrest : ∀ q k, (q, .waiting k) ∈ rest → k = attempt := fun q k hm =>
      h q k (List.mem_cons_of_mem _ hm)
    obtain ⟨q, store | k⟩ := e
    · exact ih s hrest
    · obtain rfl : k = attempt := h q k (List.mem_cons_self ..)
      have hany : (((q, Entry.waiting k) :: rest).any fun e => isWaiting e.2) = true := rfl
      refine (ih { s with connection := s.connection.settle k outcome } hrest).trans ?_
      rw [if_pos hany, Connection.settle_settle, ite_self]

theorem any_isWaiting_iff {entries : List (Query × Entry σ)} :
    (entries.any fun e => isWaiting e.2) = true ↔ ∃ q k, (q, Entry.waiting k) ∈ entries := by
  constructor
  · intro h
    obtain ⟨⟨q, store | k⟩, hm, hw⟩ := List.any_eq_true.mp h
    · cases hw
    · exact ⟨q, k, hm⟩
  · rintro ⟨q, k, hm⟩
    exact List.any_eq_true.mpr ⟨_, hm, rfl⟩

/-- A round is over when its calls have gone on; their attempt has only changed the world. -/
theorem exists_round_eq (b : Backend ω σ) (qs : List Query) (s : Session ω σ) :
    ∃ outcome world, round b qs s =
      resumeAll b outcome (enterAll b qs s).1 ⟨(enterAll b qs s).2.connection, world⟩ := by
  simp only [round]
  split
  · exact ⟨_, _, rfl⟩
  · exact ⟨_, _, rfl⟩

/-- If calls of a round waited for an attempt, none is under way after the round. -/
theorem phase_round_of_waiting (b : Backend ω σ) {qs : List Query} {s : Session ω σ}
    (h : ∃ q k, (q, Entry.waiting k) ∈ (enterAll b qs s).1) (k : Nat) :
    (round b qs s).2.connection.phase ≠ .connecting k := by
  obtain ⟨outcome, world, hround⟩ := exists_round_eq b qs s
  obtain ⟨q, l, hm⟩ := h
  have hl := phase_enterAll_of_waiting b hm
  have hsame : ∀ q' l', (q', .waiting l') ∈ (enterAll b qs s).1 → l' = l := fun q' l' hm' => by
    simpa using (phase_enterAll_of_waiting b hm').symm.trans hl
  rw [hround, connection_resumeAll b outcome _ hsame, if_pos (any_isWaiting_iff.mpr ⟨q, l, hm⟩)]
  exact Connection.phase_settle_of_connecting hl outcome k

theorem connection_round_of_not_waiting (b : Backend ω σ) {qs : List Query} {s : Session ω σ}
    (h : ¬∃ q k, (q, Entry.waiting k) ∈ (enterAll b qs s).1) :
    (round b qs s).2.connection = (enterAll b qs s).2.connection := by
  obtain ⟨outcome, world, hround⟩ := exists_round_eq b qs s
  have hnone : ∀ q l, (q, .waiting l) ∈ (enterAll b qs s).1 → l = 0 := fun q l hm =>
    absurd ⟨q, l, hm⟩ h
  rw [hround, connection_resumeAll b outcome _ hnone, if_neg (mt any_isWaiting_iff.mp h)]

/-- A single call is a round of its own. -/
theorem round_singleton (b : Backend ω σ) (q : Query) (s : Session ω σ) :
    round b [q] s = ([(s.evaluate b q).1], (s.evaluate b q).2) := by
  obtain ⟨entry, s', he⟩ : ∃ entry s', s.enter b = (entry, s') := ⟨_, _, rfl⟩
  cases entry with
  | store store => simp [round, enterAll, evaluate, connect, resumeAll, isWaiting, he]
  | waiting k =>
    cases ho : (b.finish s'.world).1 with
    | ok store => simp [round, enterAll, evaluate, connect, resumeAll, isWaiting, he, ho]
    | error f => simp [round, enterAll, evaluate, connect, resumeAll, isWaiting, he, ho]

def isFailure : Except Failure Bool → Bool
  | .error _ => true
  | .ok _ => false

/-- Puts the results of another try in place of failures. -/
def mergeAnswers : List (Except Failure Bool) → List (Except Failure Bool) →
    List (Except Failure Bool)
  | [], _ => []
  | .ok b :: rest, again => .ok b :: mergeAnswers rest again
  | .error f :: rest, [] => .error f :: mergeAnswers rest []
  | .error _ :: rest, a :: again => a :: mergeAnswers rest again

/-- Evaluates queries at the same time. Calls that fail try again, all in the same round, up to
`retries` times. -/
def concurrent (b : Backend ω σ) : Nat → List Query → Session ω σ →
    List (Except Failure Bool) × Session ω σ
  | 0, qs, s => round b qs s
  | retries + 1, qs, s =>
    let (answers, s) := round b qs s
    let failed := ((qs.zip answers).filter fun p => isFailure p.2).map Prod.fst
    if failed.isEmpty then (answers, s)
    else
      let (again, s) := concurrent b retries failed s
      (mergeAnswers answers again, s)

/-! ## Validation -/

/-- Questions of a validation are answered through the connection. -/
def evaluator (b : Backend ω σ) : Inquiry.Evaluator (StateM (Session ω σ)) :=
  fun q _ => fun s => s.evaluate b q

/-- Carries out an inquiry in a session. -/
def run (b : Backend ω σ) {α : Type} (i : Inquiry α) (s : Session ω σ) :
    Except Failure α × Session ω σ :=
  i.answer (evaluator b) s

/-- A question of an inquiry is put to the store, and the inquiry goes on with the answer. -/
theorem run_ask (b : Backend ω σ) {α : Type} (q : Query) (path : String) (next : Bool → Inquiry α)
    (s : Session ω σ) :
    run b (.ask q path next) s =
      match s.evaluate b q with
      | (.ok answer, s) => run b (next answer) s
      | (.error f, s) => (.error f, s) := by
  have he : evaluator b q path s = s.evaluate b q := rfl
  simp only [run, Inquiry.answer, bind, StateT.bind, he]
  obtain ⟨answer | f, s'⟩ := s.evaluate b q
  · rfl
  · rfl

end Session

end Rulebook
