import Rulebook.Proofs.Store.SingleFlight
import Rulebook.Store.Memory

/-!
# Sessions as interleaved calls

What a session does to its connection is the work of calls, one step after another. The calls of a
round all enter, the attempt they wait for is resolved, and they go on one by one; a call that is
made by itself is a round of its own. So the connection of a session is always one that interleaved
calls can lead to, and the calls return what the session answers.

* `round_returns`: the calls of a round, up to their ends;
* `Leads`: connections that calls can lead from one to the other;
* `exists_run_of_session`: sessions with a store in memory.
-/

namespace Rulebook.Interleaving

open Session (ask enterAll resumeAll round isWaiting)

variable {σ ω : Type}

/-- The state stands for a connection that calls with numbers below `n` have used, and whose
attempt, if one is under way, has not come to its end. -/
structure Tracks (s : State σ) (n : Nat) (c : Connection σ) : Prop where
  coherent : Coherent s
  connection : s.connection = c
  fresh : ∀ m, n ≤ m → s.calls m = none
  pending : ∀ k, c.phase = .connecting k → s.outcome k = none

theorem tracks_initial : Tracks (initial : State σ) 0 .initial where
  coherent := coherent_initial
  connection := rfl
  fresh := fun _ _ => rfl
  pending := fun _ _ => rfl

/-- An attempt that has a number is started already, so the next one has no outcome yet. -/
theorem Coherent.outcome_next {s : State σ} (h : Coherent s) :
    s.outcome (s.connection.attempts + 1) = none := by
  cases ho : s.outcome (s.connection.attempts + 1) with
  | none => rfl
  | some outcome =>
    have := (h.lt_of_mem_started (h.resolved _ _ ho)).2
    omega

/-! ## Entering -/

theorem Tracks.enter {s : State σ} {n : Nat} {c : Connection σ} (h : Tracks s n c)
    (question : Option Query) :
    ∃ t, step s (.enter n question) = some t ∧ Tracks t (n + 1) c.enter.2 ∧
      t.calls = Function.update s.calls n (some (.entering question c.enter.1)) := by
  obtain ⟨hs, rfl, hf, hp⟩ := h
  have hx : step s (.enter n question) = some ((s.move s.connection.enter.2).put n
      (.entering question s.connection.enter.1)) :=
    step_enter_iff.mpr ⟨hf n (Nat.le_refl n), rfl⟩
  refine ⟨_, hx, ⟨coherent_step hs hx, rfl, ?_, ?_⟩, rfl⟩
  · intro m hm
    exact (Function.update_of_ne (by omega) _ _).trans (hf m (by omega))
  · intro k hk
    cases hc : s.connection.phase with
    | idle =>
      rw [Connection.enter_of_idle hc] at hk
      cases hk
      exact hs.outcome_next
    | connecting l =>
      rw [Connection.enter_of_connecting hc] at hk
      exact hp k hk
    | ready store =>
      rw [Connection.enter_of_ready hc, hc] at hk
      cases hk

/-- The calls from `n` on have just entered. -/
def Entered (s : State σ) : Nat → List (Query × Entry σ) → Prop
  | _, [] => True
  | n, (q, entry) :: rest =>
    s.calls n = some (.entering (some q) entry) ∧ Entered s (n + 1) rest

/-- The calls from `n` on have returned these answers. -/
def Returned (s : State σ) : Nat → List (Except Failure Bool) → Prop
  | _, [] => True
  | n, answer :: rest =>
    (∃ call, s.calls n = some call ∧ call.result? = some (answer.map .verdict)) ∧
      Returned s (n + 1) rest

theorem Entered.congr {s t : State σ} {n : Nat} {entries : List (Query × Entry σ)}
    (h : Entered s n entries) (ht : ∀ m, n ≤ m → t.calls m = s.calls m) : Entered t n entries := by
  induction entries generalizing n with
  | nil => trivial
  | cons e rest ih =>
    exact ⟨(ht n (Nat.le_refl n)).trans h.1, ih h.2 fun m hm => ht m (by omega)⟩

/-- All calls of a round enter. -/
theorem Tracks.enterAll (b : Backend ω σ) (qs : List Query) {s : Session ω σ} {t : State σ}
    {n : Nat} (h : Tracks t n s.connection) :
    ∃ steps u, run t steps = some u ∧ Tracks u (n + qs.length) (enterAll b qs s).2.connection ∧
      Entered u n (enterAll b qs s).1 ∧ ∀ m, m < n → u.calls m = t.calls m := by
  induction qs generalizing s t n with
  | nil => exact ⟨[], t, rfl, h, trivial, fun _ _ => rfl⟩
  | cons q qs ih =>
    obtain ⟨u, hu, htu, hcalls⟩ := h.enter (some q)
    have hs : Tracks u (n + 1) (s.enter b).2.connection := htu
    obtain ⟨steps, v, hv, htv, he, hold⟩ := ih hs
    have hn : n + 1 + qs.length = n + (qs.length + 1) := by omega
    refine ⟨.enter n (some q) :: steps, v, by rw [run, hu]; exact hv, hn ▸ htv, ⟨?_, he⟩, ?_⟩
    · rw [hold n (by omega), hcalls, Function.update_self]
      rfl
    · intro m hm
      rw [hold m (by omega), hcalls, Function.update_of_ne (by omega)]

/-! ## Going on -/

/-- What a call is given that found this entry, if the attempt came to that outcome. -/
def given (outcome : Except Failure σ) : Entry σ → Except Failure σ
  | .store store => .ok store
  | .waiting _ => outcome

/-- The connection after a call with this entry has gone on. -/
def settled (outcome : Except Failure σ) (c : Connection σ) : Entry σ → Connection σ
  | .store _ => c
  | .waiting k => c.settle k outcome

theorem resumeAll_cons (b : Backend ω σ) (outcome : Except Failure σ) (q : Query) (entry : Entry σ)
    (rest : List (Query × Entry σ)) (s : Session ω σ) :
    resumeAll b outcome ((q, entry) :: rest) s =
      (((given outcome entry).bind fun store => ask b s.world store q) ::
          (resumeAll b outcome rest ⟨settled outcome s.connection entry, s.world⟩).1,
        (resumeAll b outcome rest ⟨settled outcome s.connection entry, s.world⟩).2) := by
  cases entry with
  | store store => rfl
  | waiting k => cases outcome <;> rfl

/-- An evaluation that was given a store has it answer the question, one that was given a failure
returns that. -/
theorem run_given {s : State σ} {n : Nat} {q : Query} {entry : Entry σ}
    {outcome : Except Failure σ} (hc : s.calls n = some ⟨some q, entry, .given outcome⟩)
    (found : σ → Except Failure Bool) :
    ∃ steps call, run s steps = some (s.put n call) ∧ call.result? =
      some ((outcome.bind fun store => (found store).map q.mode.verdict).map .verdict) := by
  cases outcome with
  | ok store =>
    have hx := (run_singleton s (.answer n (found store))).trans
      (step_answer_iff.mpr ⟨q, entry, store, hc, rfl⟩)
    exact ⟨_, _, hx, rfl⟩
  | error f => exact ⟨[], _, by rw [State.put_of_calls hc, run], rfl⟩

/-- The own steps of an evaluation that has just entered, up to its end. -/
theorem run_entering {s : State σ} {n : Nat} {q : Query} {entry : Entry σ}
    {outcome : Except Failure σ} (hc : s.calls n = some (.entering (some q) entry))
    (ho : ∀ k, entry = .waiting k → s.outcome k = some outcome) (found : σ → Except Failure Bool) :
    ∃ steps t call, run s steps = some t ∧
      t.connection = settled outcome s.connection entry ∧ t.outcome = s.outcome ∧
      t.calls = Function.update s.calls n (some call) ∧ call.result? = some
        (((given outcome entry).bind fun store => (found store).map q.mode.verdict).map
          .verdict) := by
  cases entry with
  | store store =>
    obtain ⟨steps, call, hr, hres⟩ := run_given hc found
    exact ⟨steps, _, call, hr, rfl, rfl, rfl, hres⟩
  | waiting k =>
    have hfirst := run_resume_settle hc (ho k rfl)
    obtain ⟨steps, call, hr, hres⟩ := run_given
      (State.calls_put_self (s.move (s.connection.settle k outcome)) n
        ⟨some q, .waiting k, .given outcome⟩) found
    have hrun := run_append s [.resume n, .settle n] steps
    rw [hfirst, Option.bind_some, hr] at hrun
    exact ⟨_, _, call, hrun, rfl, rfl, Function.update_idem .., hres⟩

/-- The calls of a round go on, one by one, when their attempt is resolved. -/
theorem Entered.resumeAll (b : Backend ω σ) {outcome : Except Failure σ}
    {entries : List (Query × Entry σ)} {s : Session ω σ} {t : State σ} {n : Nat}
    (h : Entered t n entries) (hc : t.connection = s.connection)
    (ho : ∀ q k, (q, .waiting k) ∈ entries → t.outcome k = some outcome) :
    ∃ steps u, run t steps = some u ∧
      u.connection = (resumeAll b outcome entries s).2.connection ∧ u.outcome = t.outcome ∧
      Returned u n (resumeAll b outcome entries s).1 ∧
      ∀ m, m < n ∨ n + entries.length ≤ m → u.calls m = t.calls m := by
  induction entries generalizing s t n with
  | nil => exact ⟨[], t, rfl, hc, rfl, trivial, fun _ _ => rfl⟩
  | cons e rest ih =>
    obtain ⟨q, entry⟩ := e
    obtain ⟨steps, u, call, hu, huc, huo, hcalls, hres⟩ := run_entering h.1
      (fun k hk => ho q k (hk ▸ List.mem_cons_self ..))
      fun store => b.found s.world store q.recordKind q.field q.value
    have hrest : Entered u (n + 1) rest := h.2.congr fun m hm => by
      rw [hcalls, Function.update_of_ne (by omega)]
    obtain ⟨more, v, hv, hvc, hvo, hret, hframe⟩ :=
      ih (s := ⟨settled outcome s.connection entry, s.world⟩) hrest (by rw [huc, hc])
        (fun q k hm => by rw [huo]; exact ho q k (List.mem_cons_of_mem _ hm))
    rw [resumeAll_cons]
    refine ⟨steps ++ more, v, by rw [run_append, hu]; exact hv, hvc, hvo.trans huo,
      ⟨⟨call, ?_, hres⟩, hret⟩, ?_⟩
    · rw [hframe n (by omega), hcalls, Function.update_self]
    · intro m hm
      rw [List.length_cons] at hm
      rw [hframe m (by omega), hcalls, Function.update_of_ne (by omega)]

/-! ## Rounds -/

/-- Before the calls of a round go on, the attempt that they wait for is resolved, if they do wait
for one. -/
theorem Tracks.resolve {s : State σ} {n : Nat} {c : Connection σ} (h : Tracks s n c)
    {entries : List (Query × Entry σ)}
    (he : ∀ q k, (q, .waiting k) ∈ entries → c.phase = .connecting k) (outcome : Except Failure σ) :
    ∃ steps t, run s steps = some t ∧ t.connection = c ∧ t.calls = s.calls ∧
      (∀ q k, (q, .waiting k) ∈ entries → t.outcome k = some outcome) ∧
      ((¬∃ q k, (q, Entry.waiting k) ∈ entries) → t.outcome = s.outcome) := by
  obtain ⟨hs, rfl, _, hp⟩ := h
  by_cases hw : ∃ q k, (q, Entry.waiting k) ∈ entries
  · obtain ⟨q, k, hm⟩ := hw
    have hk := he q k hm
    have hstarted : k ∈ s.started := by
      rw [hs.connecting k hk]
      exact List.mem_append_right _ (List.mem_singleton_self k)
    refine ⟨[.resolve k outcome], s.resolve k outcome, ?_, rfl, rfl, ?_,
      fun hn => absurd ⟨q, k, hm⟩ hn⟩
    · rw [run_singleton]
      exact step_resolve_iff.mpr ⟨hstarted, hp k hk, rfl⟩
    · intro q' l hl
      obtain rfl : k = l := by simpa using hk.symm.trans (he q' l hl)
      exact Function.update_self ..
  · exact ⟨[], s, rfl, rfl, rfl, fun q k hm => absurd ⟨q, k, hm⟩ hw, fun _ => rfl⟩

/-- **Rounds.** Where calls have led to the connection of a session, the calls of a round lead on
to the connection after it, and return its answers. -/
theorem round_returns (b : Backend ω σ) (qs : List Query) {s : Session ω σ} {t : State σ} {n : Nat}
    (h : Tracks t n s.connection) :
    ∃ steps u, run t steps = some u ∧ Tracks u (n + qs.length) (round b qs s).2.connection ∧
      Returned u n (round b qs s).1 := by
  obtain ⟨outcome, world, hround⟩ := Session.exists_round_eq b qs s
  obtain ⟨enters, u, hu, htu, he, _⟩ := h.enterAll b qs
  have hone : ∀ q k, (q, .waiting k) ∈ (enterAll b qs s).1 →
      (enterAll b qs s).2.connection.phase = .connecting k := fun q k hm =>
    Session.phase_enterAll_of_waiting b hm
  obtain ⟨resolves, v, hv, hvc, hvcalls, hvo, hvn⟩ := htu.resolve hone outcome
  have hentered : Entered v n (enterAll b qs s).1 := he.congr fun m _ => congrFun hvcalls m
  obtain ⟨ends, w, hw, hwc, hwo, hret, hframe⟩ :=
    hentered.resumeAll b (s := ⟨_, world⟩) hvc hvo
  have hrun : run t (enters ++ (resolves ++ ends)) = some w := by
    rw [run_append, hu, Option.bind_some, run_append, hv, Option.bind_some, hw]
  rw [← hround] at hwc hret
  refine ⟨_, w, hrun, ⟨h.coherent.of_run hrun, hwc, fun m hm => ?_, fun k hk => ?_⟩, hret⟩
  · rw [hframe m (Or.inr (by rwa [Session.length_enterAll])), hvcalls]
    exact htu.fresh m hm
  · by_cases hwait : ∃ q k, (q, Entry.waiting k) ∈ (enterAll b qs s).1
    · exact absurd hk (Session.phase_round_of_waiting b hwait k)
    · rw [Session.connection_round_of_not_waiting b hwait] at hk
      rw [hwo, hvn hwait]
      exact htu.pending k hk

/-! ## Sessions -/

/-- Wherever calls have led to the first connection, further calls can lead to the second one. -/
def Leads (c d : Connection σ) : Prop :=
  ∀ s n, Tracks s n c → ∃ steps t m, run s steps = some t ∧ Tracks t m d

theorem Leads.refl (c : Connection σ) : Leads c c := fun s n h => ⟨[], s, n, rfl, h⟩

theorem Leads.trans {c d e : Connection σ} (h : Leads c d) (h' : Leads d e) : Leads c e := by
  intro s n hs
  obtain ⟨steps, t, m, ht, hm⟩ := h s n hs
  obtain ⟨more, u, l, hu, hl⟩ := h' t m hm
  exact ⟨steps ++ more, u, l, by rw [run_append, ht]; exact hu, hl⟩

theorem leads_enter (c : Connection σ) : Leads c c.enter.2 := by
  intro s n h
  obtain ⟨t, ht, htt, _⟩ := h.enter none
  exact ⟨[.enter n none], t, n + 1, by rw [run_singleton, ht], htt⟩

theorem leads_round (b : Backend ω σ) (qs : List Query) (s : Session ω σ) :
    Leads s.connection (round b qs s).2.connection := by
  intro t n h
  obtain ⟨steps, u, hu, htu, _⟩ := round_returns b qs h
  exact ⟨steps, u, _, hu, htu⟩

theorem leads_evaluate (b : Backend ω σ) (q : Query) (s : Session ω σ) :
    Leads s.connection (s.evaluate b q).2.connection := by
  have h := leads_round b [q] s
  rwa [Session.round_singleton] at h

theorem leads_concurrent (b : Backend ω σ) (retries : Nat) (qs : List Query) (s : Session ω σ) :
    Leads s.connection (Session.concurrent b retries qs s).2.connection := by
  induction retries generalizing qs s with
  | zero => exact leads_round b qs s
  | succ retries ih =>
    have h := leads_round b qs s
    simp only [Session.concurrent]
    split
    · exact h
    · exact h.trans (ih _ _)

theorem leads_abandon (b : Backend ω σ) (q : Query) (s : Session ω σ) :
    Leads s.connection (s.abandon b q).2.connection := by
  have h : Leads s.connection (s.enter b).2.connection := leads_enter s.connection
  simp only [Session.abandon]
  split <;> simp_all

/-- A validation evaluates one question after another. -/
theorem leads_run (b : Backend ω σ) {α : Type} (i : Inquiry α) (s : Session ω σ) :
    Leads s.connection (Session.run b i s).2.connection := by
  induction i generalizing s with
  | done a => exact Leads.refl s.connection
  | ask q path next ih =>
    have h := leads_evaluate b q s
    rw [Session.run_ask]
    split
    · next answer s' he =>
      rw [he] at h
      exact h.trans (ih answer s')
    · next f s' he =>
      rw [he] at h
      exact h

theorem leads_step (s : Memory.Session) (x : Memory.Step) :
    Leads s.connection (Memory.step s x).2.connection := by
  cases x with
  | insert row => exact Leads.refl s.connection
  | delete row => exact Leads.refl s.connection
  | clear => exact Leads.refl s.connection
  | damage recordKind => exact Leads.refl s.connection
  | mend => exact Leads.refl s.connection
  | fail times => exact Leads.refl s.connection
  | connect =>
    have h := leads_evaluate Memory.backend ⟨"", "", .null, .exist⟩ s
    rw [Session.evaluate_snd] at h
    rw [Memory.step_connect_snd]
    exact h
  | evaluate q => exact leads_evaluate Memory.backend q s
  | abandon q =>
    rw [Memory.step_abandon_snd]
    exact leads_abandon Memory.backend q s
  | concurrent qs retries => exact leads_concurrent Memory.backend retries qs s
  | check path field value =>
    rw [Memory.step_check_snd]
    exact leads_run Memory.backend (field.validate path value) s

theorem leads_steps {steps : List Memory.Step} {s : Memory.Session}
    {p : Memory.Outcome × Memory.Session} (hp : p ∈ Memory.run steps s) :
    Leads s.connection p.2.connection := by
  induction steps generalizing s with
  | nil => cases hp
  | cons x xs ih =>
    have hx := leads_step s x
    rcases List.mem_cons.mp hp with rfl | hp
    · exact hx
    · exact hx.trans (ih hp)

/-- **Sessions.** After every step of a session with a store in memory, its connection is one that
interleaved calls lead to. -/
theorem exists_run_of_session (m : Memory) {steps : List Memory.Step}
    {p : Memory.Outcome × Memory.Session} (hp : p ∈ Memory.run steps (Session.initial m)) :
    ∃ calls t, run initial calls = some t ∧ t.connection = p.2.connection := by
  obtain ⟨calls, t, _, ht, htp⟩ := leads_steps hp initial 0 tracks_initial
  exact ⟨calls, t, ht, htp.connection⟩

end Rulebook.Interleaving
