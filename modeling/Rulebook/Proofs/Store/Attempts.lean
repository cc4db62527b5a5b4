import Rulebook.Proofs.Validation.Questions
import Rulebook.Store.Memory

/-!
# The attempts of a validation

The first question of a validation gets the store, or ends the validation with the failure of the
attempt that it waited for. In the first case the connection is ready from then on, and further
questions leave it alone, whatever the store answers. So a validation does to the connection what
one call for the store does, if it asks at all.

* `connect_of_ready`, `connect_ok`, `connect_error`, `connect_cases`: one call for the store;
* `searching`: stores whose answers may change from one question to the next;
* `connection_searching`, `connection_resultFrom_of_ready`: a question, and those after it;
* `connection_resultFrom`: all questions of an inquiry;
* `validation_connects_once`: documents and fields.
-/

namespace Rulebook.Session

open Inquiry (Evaluator)

variable {ω σ α : Type} {b : Backend ω σ} {s t : Session ω σ}

/-! ## One call for the store -/

/-- What the attempt comes to that a call waits for now: the one under way, or the next one. -/
def outcome (b : Backend ω σ) (s : Session ω σ) : Except Failure σ :=
  (b.finish (s.enter b).2.world).1

theorem connect_of_ready (b : Backend ω σ) {store : σ} (h : s.connection.phase = .ready store) :
    s.connect b = (.ok store, s) := by
  simp [connect, enter, Connection.enter_of_ready h]

/-- A call that does not find the store waits. -/
theorem exists_enter_eq_waiting (h : ∀ store, s.connection.phase ≠ .ready store) :
    ∃ k, s.connection.enter.1 = .waiting k := by
  cases hp : s.connection.phase with
  | idle => exact ⟨_, congrArg Prod.fst (Connection.enter_of_idle hp)⟩
  | connecting k => exact ⟨k, congrArg Prod.fst (Connection.enter_of_connecting hp)⟩
  | ready store => exact absurd hp (h store)

theorem connect_of_waiting {k : Nat} (h : s.connection.enter.1 = .waiting k) :
    s.connect b = (s.outcome b,
      ⟨s.connection.enter.2.settle k (s.outcome b), (b.finish (s.enter b).2.world).2⟩) := by
  have he : s.enter b = (.waiting k, (s.enter b).2) := Prod.ext h rfl
  rw [connect, he]
  rfl

theorem connect_ok (h : ∀ store, s.connection.phase ≠ .ready store) {store : σ}
    (ho : s.outcome b = .ok store) :
    ∃ world, s.connect b =
      (.ok store, ⟨⟨.ready store, s.connection.enter.2.attempts⟩, world⟩) := by
  obtain ⟨k, hk⟩ := exists_enter_eq_waiting h
  rw [connect_of_waiting hk, ho, Connection.settle_ok (Connection.phase_enter_of_waiting hk)]
  exact ⟨_, rfl⟩

theorem connect_error (h : ∀ store, s.connection.phase ≠ .ready store) {f : Failure}
    (ho : s.outcome b = .error f) :
    ∃ world, s.connect b = (.error f, ⟨⟨.idle, s.connection.enter.2.attempts⟩, world⟩) := by
  obtain ⟨k, hk⟩ := exists_enter_eq_waiting h
  rw [connect_of_waiting hk, ho, Connection.settle_error (Connection.phase_enter_of_waiting hk)]
  exact ⟨_, rfl⟩

/-- All that a call for the store can do to the connection. -/
theorem connect_cases (b : Backend ω σ) (s : Session ω σ) :
    (∃ store, s.connection.phase = .ready store ∧ s.connect b = (.ok store, s)) ∨
    (∃ store world, s.connect b =
      (.ok store, ⟨⟨.ready store, s.connection.enter.2.attempts⟩, world⟩)) ∨
    ∃ f world, s.connect b = (.error f, ⟨⟨.idle, s.connection.enter.2.attempts⟩, world⟩) := by
  by_cases hr : ∃ store, s.connection.phase = .ready store
  · obtain ⟨store, hr⟩ := hr
    exact .inl ⟨store, hr, connect_of_ready b hr⟩
  · have hn := not_exists.mp hr
    cases ho : s.outcome b with
    | ok store => exact .inr (.inl ⟨store, connect_ok hn ho⟩)
    | error f => exact .inr (.inr ⟨f, connect_error hn ho⟩)

/-- A call that gets the store leaves the connection ready. -/
theorem phase_of_connect_ok {store : σ} (h : s.connect b = (.ok store, t)) :
    t.connection.phase = .ready store := by
  obtain ⟨store', hr, hc⟩ | ⟨store', world, hc⟩ | ⟨f, world, hc⟩ := connect_cases b s
  · cases hc.symm.trans h
    exact hr
  · cases hc.symm.trans h
    rfl
  · cases hc.symm.trans h

/-- Waiting starts no further attempt. -/
theorem attempts_connect (b : Backend ω σ) (s : Session ω σ) :
    (s.connect b).2.connection.attempts = s.connection.enter.2.attempts := by
  obtain ⟨store, hr, hc⟩ | ⟨store, world, hc⟩ | ⟨f, world, hc⟩ := connect_cases b s
  · rw [hc, Connection.enter_of_ready hr]
  · rw [hc]
  · rw [hc]

/-! ## Stores of any behaviour -/

/-- How a store answers. It may change the world by that, and answer otherwise the next time. -/
abbrev Search (ω σ : Type) := σ → Query → ω → Except Failure Bool × ω

/-- Gets the store, and has it answer. -/
def searching (b : Backend ω σ) (search : Search ω σ) : Evaluator (StateM (Session ω σ)) :=
  fun q _ => fun s =>
    match s.connect b with
    | (.ok store, s) =>
      let (answer, world) := search store q s.world
      (answer, ⟨s.connection, world⟩)
    | (.error f, s) => (.error f, s)

/-- A store that answers from the world as it is. -/
def answering (b : Backend ω σ) : Search ω σ := fun store q world => (ask b world store q, world)

theorem evaluator_eq_searching (b : Backend ω σ) :
    evaluator b = searching b (answering b) := by
  funext q path s
  simp only [evaluator, evaluate, searching, answering]
  rcases s.connect b with ⟨f | store, t⟩
  · rfl
  · rfl

variable {search : Search ω σ}

theorem searching_of_error {f : Failure} (h : s.connect b = (.error f, t)) (q : Query)
    (path : String) : ((searching b search q path).run s).run = (.error f, t) := by
  simp only [searching, StateT.run, Id.run, h]

/-- A question does to the connection what a call for the store does. -/
theorem connection_searching (q : Query) (path : String) (s : Session ω σ) :
    ((searching b search q path).run s).run.2.connection = (s.connect b).2.connection := by
  simp only [searching, StateT.run, Id.run]
  rcases s.connect b with ⟨f | store, t⟩
  · rfl
  · rfl

/-! ## All questions of an inquiry -/

/-- Questions leave a ready connection alone, whatever is answered. -/
theorem connection_resultFrom_of_ready (i : Inquiry α) {store : σ}
    (h : s.connection.phase = .ready store) :
    (i.resultFrom (searching b search) s).2.connection = s.connection := by
  induction i generalizing s with
  | done a => rfl
  | ask q path next ih =>
    have hq : ((searching b search q path).run s).run.2.connection = s.connection := by
      rw [connection_searching, connect_of_ready b h]
    rw [Inquiry.resultFrom_ask]
    generalize ((searching b search q path).run s).run = r at hq ⊢
    rcases r with ⟨f | answer, t⟩
    · exact hq
    · exact (ih answer (hq.symm ▸ h)).trans hq

/-- If the store cannot be got, the first question ends the inquiry. -/
theorem resultFrom_of_connect_error {i : Inquiry α} (hi : i.first? ≠ none) {f : Failure}
    (h : s.connect b = (.error f, t)) :
    i.resultFrom (searching b search) s = (.error f, t) := by
  cases i with
  | done a => exact absurd rfl hi
  | ask q path next => rw [Inquiry.resultFrom_ask, searching_of_error h]

/-- An inquiry that asks does to the connection what one call for the store does. -/
theorem connection_resultFrom {i : Inquiry α} (hi : i.first? ≠ none) (s : Session ω σ) :
    (i.resultFrom (searching b search) s).2.connection = (s.connect b).2.connection := by
  obtain ⟨result, t, hc⟩ : ∃ result t, s.connect b = (result, t) := ⟨_, _, rfl⟩
  cases result with
  | error f => rw [resultFrom_of_connect_error hi hc, hc]
  | ok store =>
    cases i with
    | done a => exact absurd rfl hi
    | ask q path next =>
      have hq : ((searching b search q path).run s).run.2.connection = (s.connect b).2.connection :=
        connection_searching q path s
      rw [Inquiry.resultFrom_ask]
      generalize ((searching b search q path).run s).run = r at hq ⊢
      rcases r with ⟨f | answer, u⟩
      · exact hq
      · have hu : u.connection.phase = .ready store := by
          rw [show u.connection = _ from hq, hc]
          exact phase_of_connect_ok hc
        exact (connection_resultFrom_of_ready (next answer) hu).trans hq

/-- An inquiry connects once at most. The store is needed if and only if there is a first question;
then the result and the connection are those of the attempt that is started or joined. -/
structure ConnectsOnce (b : Backend ω σ) (evaluator : Evaluator (StateM (Session ω σ)))
    (s : Session ω σ) (i : Inquiry α) : Prop where
  attempts : s.connection.attempts ≤ (i.resultFrom evaluator s).2.connection.attempts ∧
    (i.resultFrom evaluator s).2.connection.attempts ≤ s.connection.attempts + 1
  /-- If no question is reached, nothing happens. -/
  unreached : i.first? = none → (i.resultFrom evaluator s).2 = s
  ready : ∀ store, s.connection.phase = .ready store →
    (i.resultFrom evaluator s).2.connection = s.connection
  started : i.first? ≠ none → s.connection.phase = .idle →
    (i.resultFrom evaluator s).2.connection.attempts = s.connection.attempts + 1
  joined : ∀ k, s.connection.phase = .connecting k →
    (i.resultFrom evaluator s).2.connection.attempts = s.connection.attempts
  connected : i.first? ≠ none → (∀ store, s.connection.phase ≠ .ready store) →
    ∀ store, s.outcome b = .ok store →
      (i.resultFrom evaluator s).2.connection.phase = .ready store
  failed : i.first? ≠ none → (∀ store, s.connection.phase ≠ .ready store) →
    ∀ f, s.outcome b = .error f → (i.resultFrom evaluator s).1 = .error f ∧
      (i.resultFrom evaluator s).2.connection.phase = .idle

theorem resultFrom_snd_of_first? {evaluator : Evaluator (StateM (Session ω σ))} {i : Inquiry α}
    (hi : i.first? = none) (s : Session ω σ) : (i.resultFrom evaluator s).2 = s := by
  obtain ⟨a, rfl⟩ := Inquiry.exists_of_first?_eq_none hi
  rfl

theorem attempts_resultFrom {i : Inquiry α} (hi : i.first? ≠ none) (s : Session ω σ) :
    (i.resultFrom (searching b search) s).2.connection.attempts =
      s.connection.enter.2.attempts := by
  rw [connection_resultFrom hi, attempts_connect]

theorem connectsOnce_searching (b : Backend ω σ) (search : Search ω σ) (s : Session ω σ)
    (i : Inquiry α) : ConnectsOnce b (searching b search) s i where
  attempts := by
    by_cases hi : i.first? = none
    · rw [resultFrom_snd_of_first? hi]
      exact ⟨Nat.le_refl _, Nat.le_succ _⟩
    · rw [attempts_resultFrom hi]
      exact Connection.attempts_le_enter s.connection
  unreached := fun hi => resultFrom_snd_of_first? hi s
  ready := fun store h => connection_resultFrom_of_ready i h
  started := fun hi h => by rw [attempts_resultFrom hi, Connection.enter_of_idle h]
  joined := by
    intro k hk
    by_cases hi : i.first? = none
    · rw [resultFrom_snd_of_first? hi]
    · rw [attempts_resultFrom hi, Connection.enter_of_connecting hk]
  connected := by
    intro hi hn store ho
    obtain ⟨world, hc⟩ := connect_ok hn ho
    rw [connection_resultFrom hi, hc]
  failed := by
    intro hi hn f ho
    obtain ⟨world, hc⟩ := connect_error hn ho
    rw [resultFrom_of_connect_error hi hc]
    exact ⟨rfl, rfl⟩

/-! ## Documents and fields -/

/-- **Attempts.** However a validation of a document or a field ends, it starts one attempt to
connect at most, and none if the connection is ready, if an attempt is under way or if no question
is reached. If the store is needed, and the attempt that was started or joined succeeds, the
connection is ready afterwards; if it fails, its failure is the result, and the connection is idle
again. The store may answer in any way; one that answers from the world as it is, as in a session,
is a case of that. -/
theorem validation_connects_once (b : Backend ω σ) (s : Session ω σ) :
    (∀ (search : Search ω σ) (schema : Schema) (document : Json),
      ConnectsOnce b (searching b search) s (schema.validate document)) ∧
    (∀ (search : Search ω σ) (f : Field) (path : String) (value : Option Json),
      ConnectsOnce b (searching b search) s (f.validate path value)) ∧
    evaluator b = searching b (answering b) :=
  ⟨fun search schema document => connectsOnce_searching b search s (schema.validate document),
    fun search f path value => connectsOnce_searching b search s (f.validate path value),
    evaluator_eq_searching b⟩

/-- A field of addresses, each of which is looked for. -/
def addresses : Field :=
  .ofChecks [⟨.exist, 0, .each (.lookup ⟨"User", "email", .exist⟩), .empty, none⟩]

/-- Two addresses, and an attempt under way that will be refused: the validation joins it, and does
not try again for the second address. -/
theorem validation_connects_once_refused :
    (∀ store, (⟨⟨.connecting 1, 1⟩, ⟨[], [], 1, 1⟩⟩ : Memory.Session).connection.phase ≠
      .ready store) ∧
    (run Memory.backend (addresses.validate "emails" (some (.array [.string "a", .string "b"])))
      ⟨⟨.connecting 1, 1⟩, ⟨[], [], 1, 1⟩⟩).1 =
        .error (.storeInitialization "connection 1 refused") ∧
    (run Memory.backend (addresses.validate "emails" (some (.array [.string "a", .string "b"])))
      ⟨⟨.connecting 1, 1⟩, ⟨[], [], 1, 1⟩⟩).2.connection.attempts = 1 := by
  obtain ⟨_, hfield, hrun⟩ := validation_connects_once Memory.backend
    ⟨⟨.connecting 1, 1⟩, ⟨[], [], 1, 1⟩⟩
  have h := hfield (answering Memory.backend) addresses "emails"
    (some (.array [.string "a", .string "b"]))
  rw [← hrun] at h
  have hreached : (addresses.validate "emails"
    (some (.array [.string "a", .string "b"]))).first? ≠ none := nofun
  exact ⟨nofun, (h.failed hreached nofun _ rfl).1, h.joined 1 rfl⟩

end Rulebook.Session
