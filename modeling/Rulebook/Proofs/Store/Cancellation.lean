import Rulebook.Proofs.Store.Freshness
import Rulebook.Proofs.Store.Sessions

/-!
# Calls that are dropped

A call that is dropped while it waits leaves its attempt behind. The attempt is still the only one
under way: later calls wait for it, and the first of them that comes to its end settles it. So
dropped calls neither block a session nor make it connect more often than it has to.

* `Counts`, `Counts.connect` … `Counts.run`: in the world that a store lives in, as many attempts
  are started as the connection counts;
* `attempts_concurrent_le`, `attempts_concurrent_of_connecting`: attempts of calls at the same time;
* `phase_connect_ne`, `phase_concurrent_ne`: calls that come to their ends leave no attempt under
  way;
* `Event`, `Counts.after`, `leads_after`: what a session goes through, event by event;
* `dropped_calls_are_harmless`: sessions with dropped calls;
* `Memory.after_eq`: among them, sessions with a store in memory.
-/

namespace Rulebook

namespace Session

variable {ω σ α : Type} {b : Backend ω σ} {starts : ω → Nat} {s t u : Session ω σ}

/-! ## What a call finds -/

theorem enter_of_idle (b : Backend ω σ) (h : s.connection.phase = .idle) :
    s.enter b = (.waiting (s.connection.attempts + 1),
      ⟨⟨.connecting (s.connection.attempts + 1), s.connection.attempts + 1⟩, b.start s.world⟩) := by
  have hne : ¬s.connection.attempts + 1 = s.connection.attempts := by omega
  simp only [Session.enter, Connection.enter_of_idle h, if_neg hne]

theorem enter_of_connecting (b : Backend ω σ) {k : Nat} (h : s.connection.phase = .connecting k) :
    s.enter b = (.waiting k, s) := by
  simp [Session.enter, Connection.enter_of_connecting h]

theorem enter_of_ready (b : Backend ω σ) {store : σ} (h : s.connection.phase = .ready store) :
    s.enter b = (.store store, s) := by
  simp [Session.enter, Connection.enter_of_ready h]

/-! ## Attempts that are counted -/

/-- A world counts the attempts that are started in it. -/
structure Counts (b : Backend ω σ) (starts : ω → Nat) : Prop where
  start : ∀ world, starts (b.start world) = starts world + 1
  finish : ∀ world, starts (b.finish world).2 = starts world

/-- From one session to another, the world counts as many attempts as the connection. -/
def Tallies (starts : ω → Nat) (s t : Session ω σ) : Prop :=
  starts t.world + s.connection.attempts = starts s.world + t.connection.attempts

theorem Tallies.refl (starts : ω → Nat) (s : Session ω σ) : Tallies starts s s := rfl

theorem Tallies.trans (h : Tallies starts s t) (h' : Tallies starts t u) : Tallies starts s u := by
  unfold Tallies at *
  omega

theorem Counts.enter (h : Counts b starts) (s : Session ω σ) : Tallies starts s (s.enter b).2 := by
  cases hp : s.connection.phase with
  | idle =>
    have hstart := h.start s.world
    rw [enter_of_idle b hp]
    show starts (b.start s.world) + s.connection.attempts =
      starts s.world + (s.connection.attempts + 1)
    omega
  | connecting k =>
    rw [enter_of_connecting b hp]
    exact .refl starts s
  | ready store =>
    rw [enter_of_ready b hp]
    exact .refl starts s

theorem Counts.connect (h : Counts b starts) (s : Session ω σ) :
    Tallies starts s (s.connect b).2 := by
  have henter := h.enter s
  unfold Session.connect
  split
  · next store t ht =>
    rw [ht] at henter
    exact henter
  · next k t ht =>
    rw [ht] at henter
    have hfinish := h.finish t.world
    have hsettle := Connection.attempts_settle t.connection k (b.finish t.world).1
    have hlast : Tallies starts t ⟨t.connection.settle k (b.finish t.world).1,
        (b.finish t.world).2⟩ := by
      unfold Tallies
      rw [hsettle, hfinish]
    exact henter.trans hlast

theorem Counts.evaluate (h : Counts b starts) (q : Query) (s : Session ω σ) :
    Tallies starts s (s.evaluate b q).2 := by
  rw [evaluate_snd]
  exact h.connect s

theorem abandon_snd (b : Backend ω σ) (q : Query) (s : Session ω σ) :
    (s.abandon b q).2 = (s.enter b).2 := by
  unfold Session.abandon
  split
  · next store t ht => rw [ht]
  · next k t ht => rw [ht]

theorem Counts.enterAll (h : Counts b starts) (qs : List Query) (s : Session ω σ) :
    Tallies starts s (enterAll b qs s).2 := by
  induction qs generalizing s with
  | nil => exact .refl starts s
  | cons q qs ih => exact (h.enter s).trans (ih (s.enter b).2)

/-- Calls that go on start nothing. -/
theorem attempts_resumeAll (b : Backend ω σ) (outcome : Except Failure σ)
    (entries : List (Query × Entry σ)) (s : Session ω σ) :
    (resumeAll b outcome entries s).2.connection.attempts = s.connection.attempts := by
  induction entries generalizing s with
  | nil => rfl
  | cons e rest ih =>
    obtain ⟨q, store | k⟩ := e
    · exact ih s
    · exact (ih _).trans (Connection.attempts_settle s.connection k outcome)

/-- In a round, attempts are started by calls that enter. -/
theorem attempts_round (b : Backend ω σ) (qs : List Query) (s : Session ω σ) :
    (round b qs s).2.connection.attempts = (enterAll b qs s).2.connection.attempts := by
  obtain ⟨outcome, world, hround⟩ := exists_round_eq b qs s
  rw [hround, attempts_resumeAll]

theorem Counts.round (h : Counts b starts) (qs : List Query) (s : Session ω σ) :
    Tallies starts s (round b qs s).2 := by
  have hattempts := attempts_round b qs s
  have hworld : starts (Session.round b qs s).2.world =
      starts (Session.enterAll b qs s).2.world := by
    simp only [Session.round]
    split
    · rw [world_resumeAll]
      exact h.finish _
    · rw [world_resumeAll]
  refine (h.enterAll qs s).trans ?_
  unfold Tallies
  omega

theorem Counts.concurrent (h : Counts b starts) (retries : Nat) (qs : List Query)
    (s : Session ω σ) : Tallies starts s (concurrent b retries qs s).2 := by
  induction retries generalizing qs s with
  | zero => exact h.round qs s
  | succ retries ih =>
    simp only [Session.concurrent]
    split
    · exact h.round qs s
    · exact (h.round qs s).trans (ih _ _)

theorem Counts.run (h : Counts b starts) (i : Inquiry α) (s : Session ω σ) :
    Tallies starts s (run b i s).2 := by
  induction i generalizing s with
  | done a => exact .refl starts s
  | ask q path next ih =>
    have hq := h.evaluate q s
    rw [run_ask]
    split
    · next answer t ht =>
      rw [ht] at hq
      exact hq.trans (ih answer t)
    · next f t ht =>
      rw [ht] at hq
      exact hq

/-! ## Calls that join an attempt -/

theorem attempts_connect_of_idle (b : Backend ω σ) (h : s.connection.phase = .idle) :
    (s.connect b).2.connection.attempts = s.connection.attempts + 1 := by
  rw [attempts_connect, Connection.enter_of_idle h]

theorem attempts_connect_of_ne_idle (b : Backend ω σ) (h : s.connection.phase ≠ .idle) :
    (s.connect b).2.connection.attempts = s.connection.attempts := by
  rw [attempts_connect]
  cases hp : s.connection.phase with
  | idle => exact absurd hp h
  | connecting k => rw [Connection.enter_of_connecting hp]
  | ready store => rw [Connection.enter_of_ready hp]

/-- The first call of several may start an attempt, which the others join. -/
theorem attempts_enterAll_le (b : Backend ω σ) (qs : List Query) (s : Session ω σ) :
    s.connection.attempts ≤ (enterAll b qs s).2.connection.attempts ∧
      (enterAll b qs s).2.connection.attempts ≤ s.connection.attempts + 1 := by
  induction qs generalizing s with
  | nil => exact ⟨Nat.le_refl _, Nat.le_succ _⟩
  | cons q qs ih =>
    have hsecond : (enterAll b (q :: qs) s).2 = (enterAll b qs (s.enter b).2).2 := rfl
    rw [hsecond]
    cases hp : s.connection.phase with
    | idle =>
      rw [enter_of_idle b hp, enterAll_of_connecting b qs rfl]
      exact ⟨Nat.le_succ _, Nat.le_refl _⟩
    | connecting k =>
      rw [enter_of_connecting b hp]
      exact ih s
    | ready store =>
      rw [enter_of_ready b hp]
      exact ih s

theorem attempts_round_of_connecting (b : Backend ω σ) (qs : List Query) {k : Nat}
    (h : s.connection.phase = .connecting k) :
    (round b qs s).2.connection.attempts = s.connection.attempts := by
  rw [attempts_round, enterAll_of_connecting b qs h]

/-- Each round starts one attempt at most. -/
theorem attempts_concurrent_le (b : Backend ω σ) (retries : Nat) (qs : List Query)
    (s : Session ω σ) :
    s.connection.attempts ≤ (concurrent b retries qs s).2.connection.attempts ∧
      (concurrent b retries qs s).2.connection.attempts ≤ s.connection.attempts + retries + 1 := by
  induction retries generalizing qs s with
  | zero =>
    rw [Session.concurrent, attempts_round]
    exact attempts_enterAll_le b qs s
  | succ retries ih =>
    have hround := attempts_enterAll_le b qs s
    rw [← attempts_round] at hround
    simp only [Session.concurrent]
    split
    · simp only
      omega
    · have hrest := ih (((qs.zip (Session.round b qs s).1).filter fun p => isFailure p.2).map
        Prod.fst) (Session.round b qs s).2
      simp only
      omega

/-- If an attempt is under way, the first round starts none. -/
theorem attempts_concurrent_of_connecting (b : Backend ω σ) (retries : Nat) (qs : List Query)
    {k : Nat} (h : s.connection.phase = .connecting k) :
    (concurrent b retries qs s).2.connection.attempts ≤ s.connection.attempts + retries := by
  have hround := attempts_round_of_connecting b qs h
  cases retries with
  | zero => exact Nat.le_of_eq hround
  | succ retries =>
    simp only [Session.concurrent]
    split
    · simp only
      omega
    · have hrest := attempts_concurrent_le b retries
        (((qs.zip (Session.round b qs s).1).filter fun p => isFailure p.2).map Prod.fst)
        (Session.round b qs s).2
      simp only
      omega

/-! ## Calls that come to their ends -/

theorem phase_connect_ne (b : Backend ω σ) (s : Session ω σ) (k : Nat) :
    (s.connect b).2.connection.phase ≠ .connecting k := by
  obtain ⟨store, hr, hc⟩ | ⟨store, world, hc⟩ | ⟨f, world, hc⟩ := connect_cases b s
  · rw [hc, hr]
    exact nofun
  · rw [hc]
    exact nofun
  · rw [hc]
    exact nofun

theorem enterAll_eq_of_ready (b : Backend ω σ) (qs : List Query) {store : σ}
    (h : s.connection.phase = .ready store) :
    enterAll b qs s = (qs.map fun q => (q, .store store), s) := by
  induction qs with
  | nil => rfl
  | cons q qs ih => simp only [enterAll, enter_of_ready b h, ih, List.map_cons]

/-- If no call of a round waits, the first one has found the connection ready. -/
theorem phase_round_ne (b : Backend ω σ) {qs : List Query} (hqs : qs ≠ []) (s : Session ω σ)
    (k : Nat) : (round b qs s).2.connection.phase ≠ .connecting k := by
  by_cases hw : ∃ q l, (q, Entry.waiting l) ∈ (enterAll b qs s).1
  · exact phase_round_of_waiting b hw k
  · obtain ⟨q, rest, rfl⟩ := List.exists_cons_of_ne_nil hqs
    have hready : ∃ store, s.connection.phase = .ready store := by
      by_contra hn
      obtain ⟨l, hl⟩ := exists_enter_eq_waiting (not_exists.mp hn)
      refine hw ⟨q, l, ?_⟩
      rw [← hl]
      exact List.mem_cons_self ..
    obtain ⟨store, hr⟩ := hready
    rw [connection_round_of_not_waiting b hw, enterAll_eq_of_ready b _ hr, hr]
    exact nofun

theorem phase_concurrent_ne (b : Backend ω σ) (retries : Nat) {qs : List Query} (hqs : qs ≠ [])
    (s : Session ω σ) (k : Nat) :
    (concurrent b retries qs s).2.connection.phase ≠ .connecting k := by
  induction retries generalizing qs s with
  | zero => exact phase_round_ne b hqs s k
  | succ retries ih =>
    simp only [Session.concurrent]
    split
    · exact phase_round_ne b hqs s k
    · next hfailed => exact ih (by simpa using hfailed) _

/-- A validation with a question does to the connection what a call for the store does. -/
theorem connection_run (b : Backend ω σ) {i : Inquiry α} (hi : i.first? ≠ none)
    (s : Session ω σ) : (run b i s).2.connection = (s.connect b).2.connection := by
  have h := @connection_resultFrom _ _ _ b (answering b) i hi s
  rwa [← evaluator_eq_searching] at h

/-- A validation without a question does nothing to the session. -/
theorem run_of_first? (b : Backend ω σ) {i : Inquiry α} (hi : i.first? = none)
    (s : Session ω σ) : (run b i s).2 = s := by
  obtain ⟨a, rfl⟩ := Inquiry.exists_of_first?_eq_none hi
  rfl

/-! ## Events -/

/-- What may happen in a session: a change of the world, or calls of some kind. -/
inductive Event (ω : Type) where
  | change (f : ω → ω)
  | connect
  | evaluate (q : Query)
  | abandon (q : Query)
  | concurrent (qs : List Query) (retries : Nat)
  | check (path : String) (field : Field) (value : Option Json)

/-- The session after an event. -/
def occur (b : Backend ω σ) (s : Session ω σ) : Event ω → Session ω σ
  | .change f => { s with world := f s.world }
  | .connect => (s.connect b).2
  | .evaluate q => (s.evaluate b q).2
  | .abandon q => (s.abandon b q).2
  | .concurrent qs retries => (concurrent b retries qs s).2
  | .check path field value => (run b (field.validate path value) s).2

/-- The session after some events. -/
def after (b : Backend ω σ) (events : List (Event ω)) (s : Session ω σ) : Session ω σ :=
  events.foldl (occur b) s

namespace Event

/-- The world changes by itself, but no attempt is started by that. -/
def Keeps (starts : ω → Nat) : Event ω → Prop
  | .change f => ∀ world, starts (f world) = starts world
  | _ => True

/-- How often calls of an event may try again. -/
def retries : Event ω → Nat
  | .concurrent _ retries => retries
  | _ => 0

/-- Calls are made that ask for the store, and all of them come to their ends. -/
def Completes : Event ω → Prop
  | .change _ | .abandon _ => False
  | .connect | .evaluate _ => True
  | .concurrent qs _ => qs ≠ []
  | .check path field value => (field.validate path value).first? ≠ none

end Event

theorem Counts.occur (h : Counts b starts) (s : Session ω σ) {e : Event ω} (he : e.Keeps starts) :
    Tallies starts s (s.occur b e) := by
  cases e with
  | change f =>
    show starts (f s.world) + s.connection.attempts = starts s.world + s.connection.attempts
    rw [he s.world]
  | connect => exact h.connect s
  | evaluate q => exact h.evaluate q s
  | abandon q =>
    show Tallies starts s (s.abandon b q).2
    rw [abandon_snd]
    exact h.enter s
  | concurrent qs retries => exact h.concurrent retries qs s
  | check path field value => exact h.run (field.validate path value) s

theorem Counts.after (h : Counts b starts) {events : List (Event ω)}
    (he : ∀ e ∈ events, e.Keeps starts) (s : Session ω σ) :
    Tallies starts s (after b events s) := by
  induction events generalizing s with
  | nil => exact .refl starts s
  | cons e rest ih =>
    have hfirst := h.occur s (he e (List.mem_cons_self ..))
    have hrest := ih (fun e' hm => he e' (List.mem_cons_of_mem _ hm)) (s.occur b e)
    exact hfirst.trans hrest

open Interleaving (Leads leads_enter leads_evaluate leads_abandon leads_concurrent leads_run)

theorem leads_occur (b : Backend ω σ) (s : Session ω σ) (e : Event ω) :
    Leads s.connection (s.occur b e).connection := by
  cases e with
  | change f => exact .refl s.connection
  | connect =>
    have h := leads_evaluate b ⟨"", "", .null, .exist⟩ s
    rwa [evaluate_snd] at h
  | evaluate q => exact leads_evaluate b q s
  | abandon q => exact leads_abandon b q s
  | concurrent qs retries => exact leads_concurrent b retries qs s
  | check path field value => exact leads_run b (field.validate path value) s

theorem leads_after (b : Backend ω σ) (events : List (Event ω)) (s : Session ω σ) :
    Leads s.connection (after b events s).connection := by
  induction events generalizing s with
  | nil => exact .refl s.connection
  | cons e rest ih => exact (leads_occur b s e).trans (ih (s.occur b e))

/-- Joining an attempt starts none; only calls that try again may. -/
theorem attempts_occur_of_connecting (b : Backend ω σ) {k : Nat}
    (h : s.connection.phase = .connecting k) (e : Event ω) :
    (s.occur b e).connection.attempts ≤ s.connection.attempts + e.retries := by
  have hne : s.connection.phase ≠ .idle := by
    rw [h]
    exact nofun
  have hconnect := attempts_connect_of_ne_idle b hne
  cases e with
  | change f => exact Nat.le_refl _
  | connect => exact Nat.le_of_eq hconnect
  | evaluate q =>
    show (s.evaluate b q).2.connection.attempts ≤ s.connection.attempts
    rw [evaluate_snd]
    exact Nat.le_of_eq hconnect
  | abandon q =>
    show (s.abandon b q).2.connection.attempts ≤ s.connection.attempts
    exact Nat.le_of_eq (by rw [abandon_snd, enter_of_connecting b h])
  | concurrent qs retries => exact attempts_concurrent_of_connecting b retries qs h
  | check path field value =>
    show (run b (field.validate path value) s).2.connection.attempts ≤ s.connection.attempts
    by_cases hi : (field.validate path value).first? = none
    · exact Nat.le_of_eq (by rw [run_of_first? b hi])
    · rw [connection_run b hi]
      exact Nat.le_of_eq hconnect

/-- Calls that come to their ends leave no attempt under way. -/
theorem phase_occur_ne (b : Backend ω σ) (s : Session ω σ) {e : Event ω} (he : e.Completes)
    (k : Nat) : (s.occur b e).connection.phase ≠ .connecting k := by
  cases e with
  | change f => exact he.elim
  | connect => exact phase_connect_ne b s k
  | evaluate q =>
    show (s.evaluate b q).2.connection.phase ≠ .connecting k
    rw [evaluate_snd]
    exact phase_connect_ne b s k
  | abandon q => exact he.elim
  | concurrent qs retries => exact phase_concurrent_ne b retries he s k
  | check path field value =>
    show (run b (field.validate path value) s).2.connection.phase ≠ .connecting k
    rw [connection_run b he]
    exact phase_connect_ne b s k

/-! ## Dropped calls -/

/-- A session in which dropped calls have done no harm. -/
structure Unblocked (b : Backend ω σ) (starts : ω → Nat) (s : Session ω σ) : Prop where
  /-- Every attempt of the connection was started in the world, and nothing else was. -/
  started : starts s.world = s.connection.attempts
  /-- The connection is one that interleaved calls lead to, so that of all attempts that were
  started one at most has no outcome. -/
  single : ∃ calls t, Interleaving.run Interleaving.initial calls = some t ∧
    t.connection = s.connection ∧ t.started = List.range' 1 (starts s.world) ∧
    (t.started.filter t.unresolved).length ≤ 1
  /-- The attempt that is under way is the last one. -/
  newest : ∀ k, s.connection.phase = .connecting k → k = s.connection.attempts
  /-- A call that is dropped when it first waits leaves the attempt that it started, … -/
  drops : s.connection.phase = .idle → ∀ q, s.abandon b q =
    (.pending, ⟨⟨.connecting (s.connection.attempts + 1), s.connection.attempts + 1⟩,
      b.start s.world⟩)
  /-- … or the one that it joined. Later calls join it too, and start none, unless they fail and try
  again. -/
  joins : ∀ k, s.connection.phase = .connecting k → (∀ q, s.abandon b q = (.pending, s)) ∧
    ∀ e, (s.occur b e).connection.attempts ≤ s.connection.attempts + e.retries
  /-- A ready connection makes no call wait. -/
  answers : ∀ store, s.connection.phase = .ready store → s.connect b = (.ok store, s) ∧
    ∀ q, s.abandon b q = (.finished (ask b s.world store q), s)
  /-- Calls that come to their ends leave the connection ready or idle. -/
  completes : ∀ e : Event ω, e.Completes → (s.occur b e).connection.phase = .idle ∨
    ∃ store, (s.occur b e).connection.phase = .ready store
  /-- A call for the store starts an attempt exactly if the connection is idle, … -/
  connects : (s.connect b).2.connection.attempts = s.connection.attempts + 1 ↔
    s.connection.phase = .idle
  /-- … and otherwise leaves their number as it is. -/
  keeps : s.connection.phase ≠ .idle →
    (s.connect b).2.connection.attempts = s.connection.attempts
  /-- If it has to wait, it returns what the attempt comes to, and so is the connection left. -/
  returns : (∀ store, s.connection.phase ≠ .ready store) → (s.connect b).1 = s.outcome b ∧
    (s.connect b).2.connection.phase = match s.outcome b with
      | .ok store => .ready store
      | .error _ => .idle

theorem returns_connect (b : Backend ω σ) (h : ∀ store, s.connection.phase ≠ .ready store) :
    (s.connect b).1 = s.outcome b ∧ (s.connect b).2.connection.phase = match s.outcome b with
      | .ok store => .ready store
      | .error _ => .idle := by
  cases ho : s.outcome b with
  | ok store =>
    obtain ⟨world, hc⟩ := connect_ok h ho
    rw [hc]
    exact ⟨rfl, rfl⟩
  | error f =>
    obtain ⟨world, hc⟩ := connect_error h ho
    rw [hc]
    exact ⟨rfl, rfl⟩

theorem abandon_of_idle (b : Backend ω σ) (h : s.connection.phase = .idle) (q : Query) :
    s.abandon b q = (.pending, ⟨⟨.connecting (s.connection.attempts + 1),
      s.connection.attempts + 1⟩, b.start s.world⟩) := by
  simp only [Session.abandon, enter_of_idle b h]

theorem abandon_of_connecting (b : Backend ω σ) {k : Nat} (h : s.connection.phase = .connecting k)
    (q : Query) : s.abandon b q = (.pending, s) := by
  simp only [Session.abandon, enter_of_connecting b h]

theorem abandon_of_ready (b : Backend ω σ) {store : σ} (h : s.connection.phase = .ready store)
    (q : Query) : s.abandon b q = (.finished (ask b s.world store q), s) := by
  simp only [Session.abandon, enter_of_ready b h]

/-- **Dropped calls.** Whatever events led to a session, evaluations dropped when they first waited
among them, in the world as many attempts were started as the connection has counted. One of them at
most is under way, and later calls join it. Calls that come to their ends leave none under way, and
the next call for the store makes a new attempt exactly if the connection is idle. -/
theorem dropped_calls_are_harmless (h : Counts b starts) {world : ω} (hw : starts world = 0)
    {events : List (Event ω)} (he : ∀ e ∈ events, e.Keeps starts) :
    Unblocked b starts (after b events (Session.initial world)) := by
  have htally := h.after he (Session.initial world)
  have hleads := leads_after b events (Session.initial world)
  generalize after b events (Session.initial world) = s at htally hleads
  have hstarted : starts s.world = s.connection.attempts := by
    have hcounted : starts s.world + 0 = starts world + s.connection.attempts := htally
    omega
  obtain ⟨calls, t, n, hrun, ht⟩ := hleads _ 0 Interleaving.tracks_initial
  have hcoherent := ht.coherent
  have hconnection := ht.connection
  exact {
    started := hstarted
    single := by
      refine ⟨calls, t, hrun, hconnection, ?_, hcoherent.unresolved_le_one⟩
      rw [hstarted, ← hconnection]
      exact hcoherent.numbered
    newest := by
      intro k hk
      rw [← hconnection] at hk ⊢
      exact (hcoherent.attempts_of_connecting hk).1
    drops := abandon_of_idle b
    joins := fun k hk => ⟨abandon_of_connecting b hk, attempts_occur_of_connecting b hk⟩
    answers := fun store hs => ⟨connect_of_ready b hs, abandon_of_ready b hs⟩
    completes := by
      intro e hcompletes
      have hne := phase_occur_ne b s hcompletes
      cases hp : (s.occur b e).connection.phase with
      | idle => exact .inl rfl
      | connecting k => exact absurd hp (hne k)
      | ready store => exact .inr ⟨store, rfl⟩
    connects := by
      constructor
      · intro hmore
        by_contra hne
        have := attempts_connect_of_ne_idle b hne
        omega
      · exact attempts_connect_of_idle b
    keeps := attempts_connect_of_ne_idle b
    returns := returns_connect b }

end Session

/-! ## Sessions with a store in memory -/

namespace Memory

open Session (Counts Event Unblocked)

theorem counts_backend : Counts backend Memory.starts where
  start := fun _ => rfl
  finish := by
    rintro ⟨rows, broken, failures, starts⟩
    cases failures with
    | zero => rfl
    | succ n => rfl

/-- What a step is to the session. -/
def Step.event : Step → Event Memory
  | .insert row => .change fun m => { m with rows := m.rows ++ [row] }
  | .delete row => .change fun m => { m with rows := m.rows.filter fun r => !(r == row) }
  | .clear => .change fun m => { m with rows := [] }
  | .damage recordKind => .change fun m => { m with broken := recordKind :: m.broken }
  | .mend => .change fun m => { m with broken := [] }
  | .fail times => .change fun m => { m with failures := times }
  | .connect => .connect
  | .evaluate q => .evaluate q
  | .abandon q => .abandon q
  | .concurrent qs retries => .concurrent qs retries
  | .check path field value => .check path field value

theorem step_snd (s : Session) (x : Step) : (step s x).2 = s.occur backend x.event := by
  cases x with
  | connect => exact step_connect_snd s
  | abandon q => exact step_abandon_snd s q
  | check path field value => exact step_check_snd s path field value
  | _ => rfl

theorem after_eq (steps : List Step) (s : Session) :
    after steps s = s.after backend (steps.map Step.event) := by
  induction steps generalizing s with
  | nil => rfl
  | cons x rest ih =>
    show after rest (step s x).2 =
      (s.occur backend x.event).after backend (rest.map Step.event)
    rw [← step_snd]
    exact ih (step s x).2

/-- Attempts are started by calls only. -/
theorem keeps_starts (x : Step) : x.event.Keeps Memory.starts := by
  cases x with
  | insert row => exact fun _ => rfl
  | delete row => exact fun _ => rfl
  | clear => exact fun _ => rfl
  | damage recordKind => exact fun _ => rfl
  | mend => exact fun _ => rfl
  | fail times => exact fun _ => rfl
  | _ => trivial

/-- Two evaluations are dropped, the second of which joined the attempt of the first. A third one
is refused with it, and a fourth one, dropped too, leaves the attempt that makes the connection. -/
def impatient : List Step :=
  [.fail 1, .abandon addressTaken, .abandon addressTaken, .evaluate addressTaken,
    .abandon addressTaken]

theorem dropped_calls_are_harmless_impatient :
    let s := after impatient (Session.initial ⟨[], [], 0, 0⟩)
    Unblocked backend Memory.starts s ∧ s.world.starts = 2 ∧ s.connection.phase = .connecting 2 ∧
      (s.connect backend).1 = .ok () ∧ (s.connect backend).2.connection = ⟨.ready (), 2⟩ := by
  refine ⟨?_, rfl, rfl, rfl, rfl⟩
  rw [after_eq]
  refine Session.dropped_calls_are_harmless counts_backend rfl ?_
  intro e he
  obtain ⟨x, _, rfl⟩ := List.mem_map.mp he
  exact keeps_starts x

end Memory

end Rulebook
