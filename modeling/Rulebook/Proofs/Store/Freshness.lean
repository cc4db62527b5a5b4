import Mathlib.Data.List.Forall2
import Rulebook.Proofs.Store.Attempts

/-!
# Fresh answers

Nothing of an answer is kept. Whatever happened in a session before, an evaluation that obtains the
connection answers from what the store holds then, and obtaining the connection is all that it does
to the session. What a store in memory holds is known from the steps that wrote to it.

* `Keeps`, `Keeps.connect` … `Keeps.run`: what connecting leaves alone, all calls leave alone;
* `run_of_ready`, `result_run_of_connect_ok`: the questions of a validation;
* `forall₂_round`, `forall₂_concurrent`: calls at the same time;
* `Memory.Contents`, `contents_step`, `contents_after`: what a store holds, step by step;
* `session_answers_fresh`: sessions with a store in memory.
-/

namespace Rulebook

namespace Session

open Inquiry (Evaluator result_ask)

variable {ω σ γ α : Type} {b : Backend ω σ} {view : ω → γ}

/-! ## What connecting leaves alone -/

/-- Attempts to connect change nothing that can be seen of the world. -/
structure Keeps (b : Backend ω σ) (view : ω → γ) : Prop where
  start : ∀ world, view (b.start world) = view world
  finish : ∀ world, view (b.finish world).2 = view world

theorem Keeps.enter (h : Keeps b view) (s : Session ω σ) :
    view (s.enter b).2.world = view s.world := by
  simp only [Session.enter]
  split
  · rfl
  · exact h.start s.world

theorem Keeps.connect (h : Keeps b view) (s : Session ω σ) :
    view (s.connect b).2.world = view s.world := by
  have he := h.enter s
  simp only [Session.connect]
  split
  · next store t ht =>
    rw [ht] at he
    exact he
  · next k t ht =>
    rw [ht] at he
    exact (h.finish t.world).trans he

theorem Keeps.evaluate (h : Keeps b view) (q : Query) (s : Session ω σ) :
    view (s.evaluate b q).2.world = view s.world := by
  rw [evaluate_snd]
  exact h.connect s

theorem Keeps.abandon (h : Keeps b view) (q : Query) (s : Session ω σ) :
    view (s.abandon b q).2.world = view s.world := by
  have he := h.enter s
  simp only [Session.abandon]
  split
  · next store t ht =>
    rw [ht] at he
    exact he
  · next k t ht =>
    rw [ht] at he
    exact he

theorem Keeps.enterAll (h : Keeps b view) (qs : List Query) (s : Session ω σ) :
    view (enterAll b qs s).2.world = view s.world := by
  induction qs generalizing s with
  | nil => rfl
  | cons q qs ih => exact (ih (s.enter b).2).trans (h.enter s)

theorem world_resumeAll (b : Backend ω σ) (outcome : Except Failure σ)
    (entries : List (Query × Entry σ)) (s : Session ω σ) :
    (resumeAll b outcome entries s).2.world = s.world := by
  induction entries generalizing s with
  | nil => rfl
  | cons e rest ih =>
    obtain ⟨q, store | k⟩ := e
    · exact ih s
    · exact ih _

theorem Keeps.round (h : Keeps b view) (qs : List Query) (s : Session ω σ) :
    view (round b qs s).2.world = view s.world := by
  have he := h.enterAll qs s
  simp only [Session.round]
  split
  · rw [world_resumeAll]
    exact (h.finish _).trans he
  · rw [world_resumeAll]
    exact he

theorem Keeps.concurrent (h : Keeps b view) (retries : Nat) (qs : List Query) (s : Session ω σ) :
    view (concurrent b retries qs s).2.world = view s.world := by
  induction retries generalizing qs s with
  | zero => exact h.round qs s
  | succ retries ih =>
    simp only [Session.concurrent]
    split
    · exact h.round qs s
    · exact (ih _ _).trans (h.round qs s)

theorem Keeps.run (h : Keeps b view) (i : Inquiry α) (s : Session ω σ) :
    view (run b i s).2.world = view s.world := by
  induction i generalizing s with
  | done a => rfl
  | ask q path next ih =>
    have he := h.evaluate q s
    rw [run_ask]
    split
    · next answer t ht =>
      rw [ht] at he
      exact (ih answer t).trans he
    · next f t ht =>
      rw [ht] at he
      exact he

/-! ## The questions of a validation -/

/-- Over a ready connection, all questions are answered from the world as it is. -/
theorem run_of_ready (b : Backend ω σ) (i : Inquiry α) {s : Session ω σ} {store : σ}
    (h : s.connection.phase = .ready store) :
    run b i s = (i.result fun q _ => ask b s.world store q, s) := by
  induction i with
  | done a => rfl
  | ask q path next ih =>
    rw [run_ask, result_ask, evaluate_of_ready b q h]
    rcases ask b s.world store q with f | answer
    · rfl
    · exact ih answer

/-- If the first question gets the store, all are answered from the world as it is then. -/
theorem result_run_of_connect_ok (b : Backend ω σ) (i : Inquiry α) {s t : Session ω σ} {store : σ}
    (h : s.connect b = (.ok store, t)) :
    (run b i s).1 = i.result fun q _ => ask b t.world store q := by
  cases i with
  | done a => rfl
  | ask q path next =>
    rw [run_ask, result_ask, evaluate_of_connect_ok h]
    rcases ask b t.world store q with f | answer
    · rfl
    · -- the questions that follow find the connection ready
      exact congrArg Prod.fst (run_of_ready b (next answer) (phase_of_connect_ok h))

/-! ## Calls at the same time -/

/-- The answers of a round: each is that of a store to its own question, or the failure of the
attempt. -/
theorem forall₂_resumeAll {P : Query → Except Failure Bool → Prop} {outcome : Except Failure σ}
    {entries : List (Query × Entry σ)} {s : Session ω σ}
    (hask : ∀ store q, P q (ask b s.world store q))
    (hfail : ∀ f q, outcome = .error f → P q (.error f)) :
    List.Forall₂ (fun e a => P e.1 a) entries (resumeAll b outcome entries s).1 := by
  induction entries generalizing s with
  | nil => exact .nil
  | cons e rest ih =>
    obtain ⟨q, store | k⟩ := e
    · exact .cons (hask store q) (ih hask)
    · refine .cons ?_ (ih (s := ⟨s.connection.settle k outcome, s.world⟩) hask)
      cases outcome with
      | ok store => exact hask store q
      | error f => exact hfail f q rfl

theorem map_fst_enterAll (b : Backend ω σ) (qs : List Query) (s : Session ω σ) :
    (enterAll b qs s).1.map Prod.fst = qs := by
  induction qs generalizing s with
  | nil => rfl
  | cons q qs ih => exact congrArg (q :: ·) (ih (s.enter b).2)

/-- What holds of all answers from a world of this view, and of all failures to connect, holds of
the answers of a round. -/
theorem forall₂_round (h : Keeps b view) {P : Query → Except Failure Bool → Prop} {c : γ}
    (hask : ∀ world store q, view world = c → P q (ask b world store q))
    (hfail : ∀ world f q, (b.finish world).1 = .error f → P q (.error f))
    {qs : List Query} {s : Session ω σ} (hs : view s.world = c) :
    List.Forall₂ P qs (round b qs s).1 := by
  have he : view (enterAll b qs s).2.world = c := (h.enterAll qs s).trans hs
  have hf : view (b.finish (enterAll b qs s).2.world).2 = c := (h.finish _).trans he
  have hanswers : List.Forall₂ (fun e a => P e.1 a) (enterAll b qs s).1 (round b qs s).1 := by
    simp only [Session.round]
    split
    · exact forall₂_resumeAll (fun store q => hask _ store q hf) fun f q => hfail _ f q
    · exact forall₂_resumeAll (fun store q => hask _ store q he) fun f q => hfail _ f q
  have := List.forall₂_map_left_iff.mpr hanswers
  rwa [map_fst_enterAll] at this

/-- Answers of another try in place of failures. -/
theorem forall₂_mergeAnswers {P : Query → Except Failure Bool → Prop} {qs : List Query}
    {answers again : List (Except Failure Bool)} (h : List.Forall₂ P qs answers)
    (hagain : List.Forall₂ P
      (((qs.zip answers).filter fun p => isFailure p.2).map Prod.fst) again) :
    List.Forall₂ P qs (mergeAnswers answers again) := by
  induction h generalizing again with
  | nil => exact .nil
  | @cons q a qs answers hq hrest ih =>
    cases a with
    | ok answer => exact .cons hq (ih hagain)
    | error f =>
      -- the next of the new answers is to this question
      cases hagain with
      | cons hq' hagain => exact .cons hq' (ih hagain)

theorem forall₂_concurrent (h : Keeps b view) {P : Query → Except Failure Bool → Prop} {c : γ}
    (hask : ∀ world store q, view world = c → P q (ask b world store q))
    (hfail : ∀ world f q, (b.finish world).1 = .error f → P q (.error f))
    (retries : Nat) {qs : List Query} {s : Session ω σ} (hs : view s.world = c) :
    List.Forall₂ P qs (concurrent b retries qs s).1 := by
  induction retries generalizing qs s with
  | zero => exact forall₂_round h hask hfail hs
  | succ retries ih =>
    have hround : List.Forall₂ P qs (Session.round b qs s).1 := forall₂_round h hask hfail hs
    simp only [Session.concurrent]
    split
    · exact hround
    · exact forall₂_mergeAnswers hround (ih ((h.round qs s).trans hs))

end Session

/-! ## What a store in memory holds -/

namespace Memory

open Session (Keeps ask)

/-- Records that can be found, and the kinds about which no question can be answered. -/
structure Contents where
  rows : List Row
  broken : List String

def contents (m : Memory) : Contents := ⟨m.rows, m.broken⟩

namespace Contents

/-- Whether there is a record for a question. -/
def holds (c : Contents) (q : Query) : Bool :=
  c.rows.any fun r => r == ⟨q.recordKind, q.field, q.value⟩

/-- The answer to a question from what is held: `exist` wants a record, `unique` wants none. -/
def answer (c : Contents) (q : Query) : Except Failure Bool :=
  if q.recordKind ∈ c.broken then
    .error (.storeQuery ("relation '" ++ q.recordKind ++ "' does not exist"))
  else
    match q.mode with
    | .exist => .ok (c.holds q)
    | .unique => .ok (!c.holds q)

/-- What a step writes. Calls write nothing, and neither does a change of what becomes of attempts
to connect. -/
def after (c : Contents) : Step → Contents
  | .insert row => { c with rows := c.rows ++ [row] }
  | .delete row => { c with rows := c.rows.filter fun r => !(r == row) }
  | .clear => { c with rows := [] }
  | .damage recordKind => { c with broken := recordKind :: c.broken }
  | .mend => { c with broken := [] }
  | .fail _ => c
  | .connect => c
  | .evaluate _ => c
  | .abandon _ => c
  | .concurrent _ _ => c
  | .check _ _ _ => c

/-- For one question about a record, either both modes come to the failure of the question, or their
answers are opposite. -/
theorem answer_modes (c : Contents) (recordKind field : String) (value : Json) :
    (∃ text, c.answer ⟨recordKind, field, value, .unique⟩ = .error (.storeQuery text) ∧
      c.answer ⟨recordKind, field, value, .exist⟩ = .error (.storeQuery text)) ∨
    ∃ found, c.answer ⟨recordKind, field, value, .exist⟩ = .ok found ∧
      c.answer ⟨recordKind, field, value, .unique⟩ = .ok (!found) := by
  by_cases h : recordKind ∈ c.broken
  · left
    exact ⟨_, if_pos h, if_pos h⟩
  · right
    exact ⟨_, if_neg h, if_neg h⟩

end Contents

theorem keeps_contents : Keeps backend contents where
  start := fun _ => rfl
  finish := by
    rintro ⟨rows, broken, failures, starts⟩
    cases failures with
    | zero => rfl
    | succ n => rfl

/-- A store answers from what it holds. -/
theorem ask_eq_answer (m : Memory) (q : Query) : ask backend m () q = m.contents.answer q := by
  obtain ⟨recordKind, field, value, mode⟩ := q
  simp only [ask, backend, found, List.contains_iff_mem]
  by_cases h : recordKind ∈ m.broken
  · rw [if_pos h]
    exact (if_pos h).symm
  · rw [if_neg h]
    refine Eq.trans ?_ (if_neg h).symm
    cases mode with
    | unique => rfl
    | exist => rfl

theorem finish_error {m : Memory} {f : Failure} (h : (backend.finish m).1 = .error f) :
    ∃ text, f = .storeInitialization text := by
  obtain ⟨rows, broken, failures, starts⟩ := m
  cases failures with
  | zero => cases h
  | succ n => exact ⟨_, (Except.error.inj h).symm⟩

theorem finish_ok_iff {m : Memory} : (backend.finish m).1 = .ok () ↔ m.failures = 0 := by
  obtain ⟨rows, broken, failures, starts⟩ := m
  cases failures with
  | zero => exact ⟨fun _ => rfl, fun _ => rfl⟩
  | succ n => exact ⟨nofun, nofun⟩

/-- After a step the store holds what it held before, and what the step wrote. -/
theorem contents_step (s : Session) (x : Step) :
    (step s x).2.world.contents = s.world.contents.after x := by
  cases x with
  | insert row => rfl
  | delete row => rfl
  | clear => rfl
  | damage recordKind => rfl
  | mend => rfl
  | fail times => rfl
  | connect =>
    rw [step_connect_snd]
    exact keeps_contents.connect s
  | evaluate q => exact keeps_contents.evaluate q s
  | abandon q =>
    rw [step_abandon_snd]
    exact keeps_contents.abandon q s
  | concurrent qs retries => exact keeps_contents.concurrent retries qs s
  | check path field value =>
    rw [step_check_snd]
    exact keeps_contents.run (field.validate path value) s

/-! ## Sessions -/

/-- The session after some steps. -/
def after (steps : List Step) (s : Session) : Session :=
  steps.foldl (fun s x => (step s x).2) s

/-- In a run, every step is made in the session after the steps before it. -/
theorem getElem?_run (before : List Step) (x : Step) (rest : List Step) (s : Session) :
    (run (before ++ x :: rest) s)[before.length]? = some (step (after before s) x) := by
  induction before generalizing s with
  | nil => rfl
  | cons y before ih => exact ih (step s y).2

/-- After any steps the store holds what they wrote, one after another, whatever else they did. -/
theorem contents_after (steps : List Step) (s : Session) :
    (after steps s).world.contents = steps.foldl Contents.after s.world.contents := by
  induction steps generalizing s with
  | nil => rfl
  | cons x rest ih =>
    have hrest := ih (step s x).2
    rw [contents_step] at hrest
    exact hrest

/-- Calls in this session answer from these contents. -/
structure AnswersFrom (c : Contents) (s : Session) : Prop where
  /-- The connection is obtained if it is ready, or if the next attempt to end is let succeed. -/
  connects : (∃ t, s.connect backend = (.ok (), t)) ↔
    s.connection.isReady = true ∨ s.world.failures = 0
  /-- An evaluation that obtains the connection does no more to the session than that. A validation
  whose first question obtains it has all its questions answered from the contents. -/
  obtained : ∀ t, s.connect backend = (.ok (), t) →
    (∀ q, step s (.evaluate q) = (.answer (c.answer q), t)) ∧
    t.world.contents = c ∧ t.connection.isReady = true ∧ (s.connection.isReady = true → t = s) ∧
    ∀ (path : String) (field : Field) (value : Option Json),
      (s.run backend (field.validate path value)).1 =
        (field.validate path value).result fun q _ => c.answer q
  /-- An evaluation that fails to connect returns that failure. -/
  refused : ∀ f t, s.connect backend = (.error f, t) →
    (∀ q, step s (.evaluate q) = (.answer (.error f), t)) ∧ t.world.contents = c
  /-- An evaluation that is dropped when it first waits is answered if it need not wait. -/
  abandoned : ∀ q, (s.connection.isReady = true → step s (.abandon q) = (.answer (c.answer q), s)) ∧
    (s.connection.isReady = false → (step s (.abandon q)).1 = .pending)
  /-- Of calls at the same time each is answered by itself, unless it fails to connect. -/
  together : ∀ qs retries, List.Forall₂
    (fun q a => a = c.answer q ∨ ∃ text, a = .error (.storeInitialization text))
    qs (s.concurrent backend retries qs).1

theorem step_evaluate_of_connect_ok {s t : Session} (h : s.connect backend = (.ok (), t))
    (q : Query) : step s (.evaluate q) = (.answer (t.world.contents.answer q), t) := by
  simp only [step, Session.evaluate_of_connect_ok h, ask_eq_answer]

theorem step_evaluate_of_connect_error {s t : Session} {f : Failure}
    (h : s.connect backend = (.error f, t)) (q : Query) :
    step s (.evaluate q) = (.answer (.error f), t) := by
  simp only [step, Session.evaluate_of_connect_error h]

theorem isReady_iff {c : Connection Unit} : c.isReady = true ↔ c.phase = .ready () := by
  unfold Connection.isReady
  split <;> simp_all

theorem phase_ne_of_not_isReady {c : Connection Unit} (h : ¬c.isReady = true) (store : Unit) :
    c.phase ≠ .ready store := fun hp => h (isReady_iff.mpr hp)

theorem connect_ok_iff (s : Session) : (∃ t, s.connect backend = (.ok (), t)) ↔
    s.connection.isReady = true ∨ s.world.failures = 0 := by
  by_cases hr : s.connection.isReady = true
  · have hc := Session.connect_of_ready backend (isReady_iff.mp hr)
    exact ⟨fun _ => .inl hr, fun _ => ⟨s, hc⟩⟩
  · have hn := phase_ne_of_not_isReady hr
    have hf : (s.enter backend).2.world.failures = s.world.failures := by
      simp only [Session.enter]
      split
      · rfl
      · rfl
    have ho : s.outcome backend = .ok () ↔ s.world.failures = 0 := hf ▸ finish_ok_iff
    constructor
    · rintro ⟨t, ht⟩
      right
      cases h : s.outcome backend with
      | ok store => exact ho.mp h
      | error f =>
        obtain ⟨world, hc⟩ := Session.connect_error hn h
        cases hc.symm.trans ht
    · rintro (h | h)
      · exact absurd h hr
      · obtain ⟨world, hc⟩ := Session.connect_ok hn (ho.mpr h)
        exact ⟨_, hc⟩

theorem step_abandon (s : Session) (q : Query) :
    (s.connection.isReady = true →
      step s (.abandon q) = (.answer (s.world.contents.answer q), s)) ∧
    (s.connection.isReady = false → (step s (.abandon q)).1 = .pending) := by
  constructor
  · intro hr
    have he : s.enter backend = (.store (), s) := by
      simp [Session.enter, Connection.enter_of_ready (isReady_iff.mp hr)]
    simp only [step, Session.abandon, he, ask_eq_answer]
  · intro hr
    have hn := phase_ne_of_not_isReady (Bool.eq_false_iff.mp hr)
    obtain ⟨k, hk⟩ := Session.exists_enter_eq_waiting hn
    have he : s.enter backend = (.waiting k, (s.enter backend).2) := Prod.ext hk rfl
    simp only [step, Session.abandon]
    rw [he]

theorem answersFrom_contents (s : Session) : AnswersFrom s.world.contents s where
  connects := connect_ok_iff s
  obtained := by
    intro t h
    have hc : t.world.contents = s.world.contents := by
      have := keeps_contents.connect s
      rwa [h] at this
    have hr : t.connection.isReady = true := isReady_iff.mpr (Session.phase_of_connect_ok h)
    refine ⟨fun q => hc ▸ step_evaluate_of_connect_ok h q, hc, hr, fun hs => ?_,
      fun path field value => ?_⟩
    · rw [Session.connect_of_ready backend (isReady_iff.mp hs)] at h
      exact (Prod.mk.inj h).2.symm
    · simp only [Session.result_run_of_connect_ok backend _ h, ask_eq_answer, hc]
  refused := by
    intro f t h
    have hc := keeps_contents.connect s
    rw [h] at hc
    exact ⟨step_evaluate_of_connect_error h, hc⟩
  abandoned := step_abandon s
  together := by
    intro qs retries
    refine Session.forall₂_concurrent keeps_contents (fun world store q hw => .inl ?_)
      (fun world f q hf => .inr ?_) retries rfl
    · rw [← hw]
      exact ask_eq_answer world q
    · obtain ⟨text, rfl⟩ := finish_error hf
      exact ⟨text, rfl⟩

/-- **Fresh answers.** Every step of a session is made in a session that answers from what the steps
before it wrote, one after another: from those contents, an evaluation that obtains the connection
returns the failure of the question, or whether a record was found for `exist`, or that none was for
`unique`. It writes nothing, and does nothing to the connection after it obtained it, so that a
session that was ready before is the same afterwards. For the same contents and the same record the
two modes come to one failure, or to opposite answers. -/
theorem session_answers_fresh (m : Memory) (before : List Step) :
    (∀ x rest, (run (before ++ x :: rest) (Session.initial m))[before.length]? =
      some (step (after before (Session.initial m)) x)) ∧
    AnswersFrom (before.foldl Contents.after m.contents) (after before (Session.initial m)) ∧
    ∀ recordKind field value, let c := before.foldl Contents.after m.contents
      (∃ text, c.answer ⟨recordKind, field, value, .unique⟩ = .error (.storeQuery text) ∧
        c.answer ⟨recordKind, field, value, .exist⟩ = .error (.storeQuery text)) ∨
      ∃ found, c.answer ⟨recordKind, field, value, .exist⟩ = .ok found ∧
        c.answer ⟨recordKind, field, value, .unique⟩ = .ok (!found) := by
  have hc := contents_after before (Session.initial m)
  refine ⟨fun x rest => getElem?_run before x rest _, ?_, Contents.answer_modes _⟩
  rw [show before.foldl Contents.after m.contents = _ from hc.symm]
  exact answersFrom_contents _

/-- Whether an address is taken. -/
def addressTaken : Query := ⟨"User", "email", .string "a@b.com", .exist⟩

/-- An address is found, and removed. It is not found the next time, over the same connection, and
that it was looked for leaves the session as it is. -/
theorem session_answers_fresh_removed :
    let row : Row := ⟨"User", "email", .string "a@b.com"⟩
    let s := after [.insert row, .evaluate addressTaken, .delete row]
      (Session.initial ⟨[], [], 0, 0⟩)
    (run [.insert row, .evaluate addressTaken, .delete row, .evaluate addressTaken]
        (Session.initial ⟨[], [], 0, 0⟩))[1]?.map Prod.fst = some (.answer (.ok true)) ∧
      s.connection.isReady = true ∧
      (run [.insert row, .evaluate addressTaken, .delete row, .evaluate addressTaken]
        (Session.initial ⟨[], [], 0, 0⟩))[3]? = some (.answer (.ok false), s) := by
  intro row s
  obtain ⟨hrun, hanswers, _⟩ := session_answers_fresh ⟨[], [], 0, 0⟩
    [.insert row, .evaluate addressTaken, .delete row]
  have hready : s.connection.isReady = true := rfl
  have hconnect : s.connect backend = (.ok (), s) :=
    Session.connect_of_ready backend (isReady_iff.mp hready)
  obtain ⟨hevaluate, _⟩ := hanswers.obtained s hconnect
  refine ⟨rfl, hready, (hrun (.evaluate addressTaken) []).trans (congrArg some ?_)⟩
  exact hevaluate addressTaken

/-- The first evaluation of a session makes the connection that it obtains: the session was not
ready before, and no attempt had been started. -/
theorem evaluate_connects_first :
    ∃ s t : Session, s = Session.initial ⟨[], [], 0, 0⟩ ∧ s.connect backend = (.ok (), t) ∧
      step s (.evaluate ⟨"User", "email", .string "a@b.com", .unique⟩) = (.answer (.ok true), t) ∧
      s.connection.isReady = false ∧ t.connection.isReady = true ∧
      s.connection.attempts = 0 ∧ t.connection.attempts = 1 :=
  ⟨_, _, rfl, rfl, rfl, rfl, rfl, rfl, rfl⟩

end Memory

end Rulebook
