import Rulebook.Proofs.Store.Cancellation

/-!
# Calls that try again together

Calls that are made at the same time, and made again as often when they fail, do to a session what
one call for the store does that tries again as often. So every round costs one attempt at most,
however many calls there are, and which of their questions fail makes no difference.

* `round_eq_connect`: a round connects once, and then each question is asked;
* `persist`, `concurrent_eq_persist`: calls that try again, and one call that does;
* `Memory.persist_of_le`, `Memory.persist_of_lt`: a store that refuses some attempts;
* `Memory.retries_cost_one_attempt_each`: sessions with a store in memory.
-/

namespace Rulebook

namespace Session

variable {ω σ : Type} {b : Backend ω σ} {s : Session ω σ}

/-! ## One round -/

/-- What a call returns that has come to this outcome of its attempt. -/
def reply (b : Backend ω σ) (world : ω) (outcome : Except Failure σ) (q : Query) :
    Except Failure Bool :=
  outcome.bind fun store => ask b world store q

theorem enterAll_eq_of_connecting (b : Backend ω σ) (qs : List Query) {k : Nat}
    (h : s.connection.phase = .connecting k) :
    enterAll b qs s = (qs.map fun q => (q, .waiting k), s) := by
  induction qs with
  | nil => rfl
  | cons q qs ih => simp only [enterAll, enter_of_connecting b h, ih, List.map_cons]

/-- If the first call has to wait, all calls wait for the same attempt. -/
theorem enterAll_eq_of_waiting (b : Backend ω σ) {qs : List Query} (hqs : qs ≠ []) {k : Nat}
    (h : s.connection.enter.1 = .waiting k) :
    enterAll b qs s = (qs.map fun q => (q, .waiting k), (s.enter b).2) := by
  obtain ⟨q, rest, rfl⟩ := List.exists_cons_of_ne_nil hqs
  have he : s.enter b = (.waiting k, (s.enter b).2) := Prod.ext h rfl
  have hphase : (s.enter b).2.connection.phase = .connecting k :=
    Connection.phase_enter_of_waiting h
  simp only [enterAll]
  rw [he]
  simp only [enterAll_eq_of_connecting b rest hphase, List.map_cons]

theorem resumeAll_stores (b : Backend ω σ) (outcome : Except Failure σ) (qs : List Query)
    (store : σ) (s : Session ω σ) :
    resumeAll b outcome (qs.map fun q => (q, .store store)) s =
      (qs.map (ask b s.world store), s) := by
  induction qs with
  | nil => rfl
  | cons q qs ih => simp only [List.map_cons, resumeAll, ih]

/-- Calls that go on when their attempt is settled already. -/
theorem resumeAll_of_settled (b : Backend ω σ) {outcome : Except Failure σ} {k : Nat}
    (h : s.connection.settle k outcome = s.connection) (qs : List Query) :
    resumeAll b outcome (qs.map fun q => (q, .waiting k)) s =
      (qs.map (reply b s.world outcome), s) := by
  have hs : ({ s with connection := s.connection.settle k outcome } : Session ω σ) = s := by
    rw [h]
  induction qs with
  | nil => rfl
  | cons q qs ih =>
    simp only [List.map_cons, resumeAll, hs, ih]
    cases outcome with
    | ok store => rfl
    | error f => rfl

/-- The first call to go on settles the attempt for all. -/
theorem resumeAll_of_waiting (b : Backend ω σ) (outcome : Except Failure σ) (k : Nat)
    {qs : List Query} (hqs : qs ≠ []) (s : Session ω σ) :
    resumeAll b outcome (qs.map fun q => (q, .waiting k)) s =
      (qs.map (reply b s.world outcome), ⟨s.connection.settle k outcome, s.world⟩) := by
  obtain ⟨q, rest, rfl⟩ := List.exists_cons_of_ne_nil hqs
  have hrest := resumeAll_of_settled b (s := ⟨s.connection.settle k outcome, s.world⟩)
    (Connection.settle_settle s.connection k outcome outcome) rest
  simp only [List.map_cons, resumeAll]
  rw [hrest]
  cases outcome with
  | ok store => rfl
  | error f => rfl

/-- **Rounds.** A round connects once, and then each question is asked. -/
theorem round_eq_connect (b : Backend ω σ) {qs : List Query} (hqs : qs ≠ []) (s : Session ω σ) :
    round b qs s =
      (qs.map (reply b (s.connect b).2.world (s.connect b).1), (s.connect b).2) := by
  by_cases hr : ∃ store, s.connection.phase = .ready store
  · obtain ⟨store, hr⟩ := hr
    have hnone : ((qs.map fun q => (q, Entry.store store)).any fun e => isWaiting e.2) = false := by
      simp [isWaiting]
    simp only [round, enterAll_eq_of_ready b qs hr, hnone, connect_of_ready b hr]
    exact resumeAll_stores b _ qs store s
  · obtain ⟨k, hk⟩ := exists_enter_eq_waiting (not_exists.mp hr)
    have hany : ((qs.map fun q => (q, (Entry.waiting k : Entry σ))).any
        fun e => isWaiting e.2) = true := by
      obtain ⟨q, rest, rfl⟩ := List.exists_cons_of_ne_nil hqs
      rfl
    simp only [round, enterAll_eq_of_waiting b hqs hk, hany, connect_of_waiting hk]
    exact resumeAll_of_waiting b _ k hqs _

/-! ## Trying again -/

/-- A call for the store that tries again if it fails, up to `retries` times. -/
def persist (b : Backend ω σ) : Nat → Session ω σ → Except Failure σ × Session ω σ
  | 0, s => s.connect b
  | retries + 1, s =>
    match s.connect b with
    | (.ok store, s) => (.ok store, s)
    | (.error _, s) => persist b retries s

/-- The questions that were not answered. -/
def unanswered (qs : List Query) (answers : List (Except Failure Bool)) : List Query :=
  ((qs.zip answers).filter fun p => isFailure p.2).map Prod.fst

theorem unanswered_ok (q : Query) (answer : Bool) (qs : List Query)
    (answers : List (Except Failure Bool)) :
    unanswered (q :: qs) (.ok answer :: answers) = unanswered qs answers := rfl

theorem unanswered_error (q : Query) (f : Failure) (qs : List Query)
    (answers : List (Except Failure Bool)) :
    unanswered (q :: qs) (.error f :: answers) = q :: unanswered qs answers := rfl

/-- Asking the same again changes no answer. -/
theorem mergeAnswers_unanswered (g : Query → Except Failure Bool) (qs : List Query) :
    mergeAnswers (qs.map g) ((unanswered qs (qs.map g)).map g) = qs.map g := by
  induction qs with
  | nil => rfl
  | cons q qs ih =>
    cases hq : g q with
    | ok answer => simp only [List.map_cons, hq, unanswered_ok, mergeAnswers, ih]
    | error f => simp only [List.map_cons, hq, unanswered_error, mergeAnswers, ih]

theorem unanswered_of_error (f : Failure) (qs : List Query) :
    unanswered qs (qs.map fun _ => .error f) = qs := by
  induction qs with
  | nil => rfl
  | cons q qs ih => rw [List.map_cons, unanswered_error, ih]

/-- If all calls failed, what they return is what they return the next time. -/
theorem mergeAnswers_of_error (f : Failure) {qs : List Query} {again : List (Except Failure Bool)}
    (h : again.length = qs.length) : mergeAnswers (qs.map fun _ => .error f) again = again := by
  induction qs generalizing again with
  | nil => simp_all [mergeAnswers]
  | cons q qs ih =>
    cases again with
    | nil => simp at h
    | cons a again => simp_all [mergeAnswers]

theorem concurrent_succ (b : Backend ω σ) (retries : Nat) (qs : List Query) (s : Session ω σ) :
    concurrent b (retries + 1) qs s =
      if (unanswered qs (round b qs s).1).isEmpty then round b qs s
      else
        (mergeAnswers (round b qs s).1
            (concurrent b retries (unanswered qs (round b qs s).1) (round b qs s).2).1,
          (concurrent b retries (unanswered qs (round b qs s).1) (round b qs s).2).2) := by
  rfl

theorem concurrent_nil (b : Backend ω σ) (retries : Nat) (s : Session ω σ) :
    concurrent b retries [] s = ([], s) := by
  cases retries with
  | zero => rfl
  | succ retries => rfl

/-- Over a ready connection, calls that fail fail again. -/
theorem concurrent_of_ready (b : Backend ω σ) (retries : Nat) (qs : List Query) {store : σ}
    (h : s.connection.phase = .ready store) :
    concurrent b retries qs s = (qs.map (ask b s.world store), s) := by
  induction retries generalizing qs with
  | zero =>
    by_cases hqs : qs = []
    · subst hqs
      rfl
    · have hround := round_eq_connect b hqs s
      rw [connect_of_ready b h] at hround
      exact hround
  | succ retries ih =>
    by_cases hqs : qs = []
    · subst hqs
      rfl
    · have hround : round b qs s = (qs.map (ask b s.world store), s) := by
        have hround := round_eq_connect b hqs s
        rwa [connect_of_ready b h] at hround
      rw [concurrent_succ, hround]
      split
      · rfl
      · rw [ih, mergeAnswers_unanswered]

/-- **Trying again.** However many calls try again together, they do to the session what one call
for the store does, and return what their questions come to then. -/
theorem concurrent_eq_persist (b : Backend ω σ) (retries : Nat) {qs : List Query} (hqs : qs ≠ [])
    (s : Session ω σ) :
    concurrent b retries qs s =
      (qs.map (reply b (persist b retries s).2.world (persist b retries s).1),
        (persist b retries s).2) := by
  induction retries generalizing s with
  | zero => exact round_eq_connect b hqs s
  | succ retries ih =>
    have hround := round_eq_connect b hqs s
    rw [concurrent_succ, hround]
    cases hc : s.connect b with
    | mk outcome t =>
      cases outcome with
      | ok store =>
        have hp : persist b (retries + 1) s = (.ok store, t) := by simp only [persist, hc]
        have hrest := concurrent_of_ready b retries
          (unanswered qs (qs.map (reply b t.world (.ok store)))) (phase_of_connect_ok hc)
        rw [hp]
        split
        · rfl
        · rw [hrest]
          exact Prod.ext (mergeAnswers_unanswered (ask b t.world store) qs) rfl
      | error f =>
        have hp : persist b (retries + 1) s = persist b retries t := by simp only [persist, hc]
        have hall : qs.map (reply b t.world (.error f)) = qs.map fun _ => .error f := rfl
        have hlength : (concurrent b retries qs t).1.length = qs.length := by
          rw [ih]
          exact List.length_map ..
        have hne : ¬qs.isEmpty = true := by simpa using hqs
        rw [hp]
        simp only [hall, unanswered_of_error, if_neg hne]
        rw [mergeAnswers_of_error f hlength, ih]

end Session

/-! ## A store that refuses some attempts -/

namespace Memory

open Session (ask persist reply concurrent_eq_persist)

/-- The failure of an attempt to connect that was refused. -/
def refusal (attempt : Nat) : Failure :=
  .storeInitialization ("connection " ++ toString attempt ++ " refused")

/-- How many attempts a call has to start if it finds a connection in this phase. -/
def cost : Phase Unit → Nat
  | .idle => 1
  | .connecting _ => 0
  | .ready _ => 0

/-- The store after some more attempts, of which so many will fail. -/
def attempted (m : Memory) (failures more : Nat) : Memory :=
  { m with failures := failures, starts := m.starts + more }

variable {s : Session}

theorem exists_enter_eq (hs : s.connection.phase ≠ .ready ()) :
    ∃ k, s.enter backend = (.waiting k,
      ⟨⟨.connecting k, s.connection.attempts + cost s.connection.phase⟩,
        s.world.attempted s.world.failures (cost s.connection.phase)⟩) := by
  obtain ⟨⟨phase, attempts⟩, world⟩ := s
  cases phase with
  | idle => exact ⟨attempts + 1, Session.enter_of_idle backend rfl⟩
  | connecting k => exact ⟨k, Session.enter_of_connecting backend rfl⟩
  | ready store => exact absurd rfl hs

theorem connect_of_accepted (hs : s.connection.phase ≠ .ready ()) (hf : s.world.failures = 0) :
    s.connect backend = (.ok (),
      ⟨⟨.ready (), s.connection.attempts + cost s.connection.phase⟩,
        s.world.attempted 0 (cost s.connection.phase)⟩) := by
  obtain ⟨k, hk⟩ := exists_enter_eq hs
  rw [hf] at hk
  have hfinish : backend.finish (s.world.attempted 0 (cost s.connection.phase)) =
      (.ok (), s.world.attempted 0 (cost s.connection.phase)) := rfl
  simp only [Session.connect, hk, hfinish, Connection.settle, ↓reduceIte]

theorem connect_of_refused (hs : s.connection.phase ≠ .ready ()) {n : Nat}
    (hf : s.world.failures = n + 1) :
    s.connect backend = (.error (refusal (s.world.starts + cost s.connection.phase)),
      ⟨⟨.idle, s.connection.attempts + cost s.connection.phase⟩,
        s.world.attempted n (cost s.connection.phase)⟩) := by
  obtain ⟨k, hk⟩ := exists_enter_eq hs
  rw [hf] at hk
  have hfinish : backend.finish (s.world.attempted (n + 1) (cost s.connection.phase)) =
      (.error (refusal (s.world.starts + cost s.connection.phase)),
        s.world.attempted n (cost s.connection.phase)) := rfl
  simp only [Session.connect, hk, hfinish, Connection.settle, ↓reduceIte]

theorem attempted_attempted (m : Memory) (failures n more other : Nat) :
    (m.attempted failures more).attempted n other = m.attempted n (more + other) := by
  unfold attempted
  rw [← Nat.add_assoc]

/-- If it tries again often enough, a call gets the store with the first attempt that is not
refused. -/
theorem persist_of_le (retries : Nat) (hs : s.connection.phase ≠ .ready ())
    (hf : s.world.failures ≤ retries) :
    persist backend retries s = (.ok (),
      ⟨⟨.ready (), s.connection.attempts + (s.world.failures + cost s.connection.phase)⟩,
        s.world.attempted 0 (s.world.failures + cost s.connection.phase)⟩) := by
  induction retries generalizing s with
  | zero =>
    have hzero : s.world.failures = 0 := by omega
    rw [hzero, Nat.zero_add]
    exact connect_of_accepted hs hzero
  | succ retries ih =>
    unfold persist
    cases hn : s.world.failures with
    | zero =>
      rw [connect_of_accepted hs hn, Nat.zero_add]
    | succ n =>
      rw [connect_of_refused hs hn]
      -- the attempts that follow are started by this call, one after each refusal
      have hrest := ih (s := ⟨⟨.idle, s.connection.attempts + cost s.connection.phase⟩,
        s.world.attempted n (cost s.connection.phase)⟩) nofun (by show n ≤ retries; omega)
      have hsum : cost s.connection.phase + (n + 1) = n + 1 + cost s.connection.phase :=
        Nat.add_comm ..
      simp only [hrest]
      show (_, (⟨⟨.ready (), s.connection.attempts + cost s.connection.phase + (n + 1)⟩,
        (s.world.attempted n (cost s.connection.phase)).attempted 0 (n + 1)⟩ : Session)) = _
      rw [attempted_attempted, Nat.add_assoc, hsum]

/-- If it does not, the call fails as the last of its attempts did. -/
theorem persist_of_lt (retries : Nat) (hs : s.connection.phase ≠ .ready ())
    (hf : retries < s.world.failures) :
    persist backend retries s =
      (.error (refusal (s.world.starts + (retries + cost s.connection.phase))),
        ⟨⟨.idle, s.connection.attempts + (retries + cost s.connection.phase)⟩,
          s.world.attempted (s.world.failures - (retries + 1))
            (retries + cost s.connection.phase)⟩) := by
  obtain ⟨n, hn⟩ : ∃ n, s.world.failures = n + 1 := ⟨s.world.failures - 1, by omega⟩
  induction retries generalizing s n with
  | zero =>
    rw [hn, Nat.zero_add]
    exact connect_of_refused hs hn
  | succ retries ih =>
    unfold persist
    rw [connect_of_refused hs hn]
    have hrest := ih (s := ⟨⟨.idle, s.connection.attempts + cost s.connection.phase⟩,
      s.world.attempted n (cost s.connection.phase)⟩) nofun (by show retries < n; omega) (n - 1)
      (by show n = n - 1 + 1; omega)
    have hsum : cost s.connection.phase + (retries + 1) =
        retries + 1 + cost s.connection.phase := Nat.add_comm ..
    have hleft : n + 1 - (retries + 1 + 1) = n - (retries + 1) := by omega
    simp only [hrest]
    show (Except.error (refusal (s.world.starts + cost s.connection.phase + (retries + 1))),
      (⟨⟨.idle, s.connection.attempts + cost s.connection.phase + (retries + 1)⟩,
        (s.world.attempted n (cost s.connection.phase)).attempted (n - (retries + 1))
          (retries + 1)⟩ : Session)) = _
    rw [attempted_attempted, Nat.add_assoc, Nat.add_assoc, hsum, hn, hleft]

/-! ## Sessions -/

/-- What becomes of a session when calls try again together, and what they return. -/
structure RetriesTogether (s : Session) (retries : Nat) (qs : List Query)
    (answers : List (Except Failure Bool)) (t : Session) : Prop where
  /-- No call does nothing. -/
  none : qs = [] → answers = [] ∧ t = s
  /-- Over a ready connection all questions are asked, whatever attempts would come to. -/
  ready : s.connection.phase = .ready () →
    t = s ∧ answers = qs.map s.world.contents.answer
  /-- From an idle connection, the first round starts an attempt, … -/
  idle : qs ≠ [] → s.connection.phase = .idle →
    t.connection.attempts = s.connection.attempts + (min s.world.failures retries + 1) ∧
      t.world.starts = s.world.starts + (min s.world.failures retries + 1)
  /-- … which it otherwise joins. Every further round starts one. -/
  connecting : qs ≠ [] → ∀ k, s.connection.phase = .connecting k →
    t.connection.attempts = s.connection.attempts + min s.world.failures retries ∧
      t.world.starts = s.world.starts + min s.world.failures retries
  /-- With enough rounds the connection is made, and each call has its own answer. -/
  enough : qs ≠ [] → s.connection.phase ≠ .ready () → s.world.failures ≤ retries →
    t.connection.phase = .ready () ∧ answers = qs.map s.world.contents.answer
  /-- With too few, all calls fail as the last attempt did. -/
  few : qs ≠ [] → s.connection.phase ≠ .ready () → retries < s.world.failures →
    t.connection.phase = .idle ∧ answers = qs.map fun _ => .error (refusal t.world.starts)
  /-- Refusals are used up, and nothing is written. -/
  rest : qs ≠ [] → s.connection.phase ≠ .ready () →
    t.world.failures = s.world.failures - (retries + 1) ∧ t.world.contents = s.world.contents

theorem retriesTogether_nil (s : Session) (retries : Nat) :
    RetriesTogether s retries [] [] s where
  none := fun _ => ⟨rfl, rfl⟩
  ready := fun _ => ⟨rfl, rfl⟩
  idle := fun h => absurd rfl h
  connecting := fun h => absurd rfl h
  enough := fun h => absurd rfl h
  few := fun h => absurd rfl h
  rest := fun h => absurd rfl h

theorem map_ask (m : Memory) (qs : List Query) :
    qs.map (ask backend m ()) = qs.map m.contents.answer :=
  congrArg (qs.map ·) (funext (ask_eq_answer m))

theorem retriesTogether_of_ready (retries : Nat) {qs : List Query} (hqs : qs ≠ [])
    (hr : s.connection.phase = .ready ()) :
    RetriesTogether s retries qs (qs.map (ask backend s.world ())) s where
  none := fun h => absurd h hqs
  ready := fun _ => ⟨rfl, map_ask s.world qs⟩
  idle := by
    intro _ h
    rw [hr] at h
    cases h
  connecting := by
    intro _ k h
    rw [hr] at h
    cases h
  enough := fun _ h => absurd hr h
  few := fun _ h => absurd hr h
  rest := fun _ h => absurd hr h

/-- All attempts that are refused are made, and one more. -/
theorem retriesTogether_of_le {retries : Nat} {qs : List Query} (hqs : qs ≠ [])
    (hr : s.connection.phase ≠ .ready ()) (hf : s.world.failures ≤ retries) :
    RetriesTogether s retries qs
      (qs.map (reply backend (persist backend retries s).2.world (persist backend retries s).1))
      (persist backend retries s).2 := by
  have hmin : min s.world.failures retries = s.world.failures := Nat.min_eq_left hf
  have hleft : s.world.failures - (retries + 1) = 0 := by omega
  rw [persist_of_le retries hr hf]
  exact {
    none := fun h => absurd h hqs
    ready := fun h => absurd h hr
    idle := by
      intro _ hp
      rw [hmin, hp]
      exact ⟨rfl, rfl⟩
    connecting := by
      intro _ k hp
      rw [hmin, hp]
      exact ⟨rfl, rfl⟩
    enough := fun _ _ _ => ⟨rfl, map_ask _ qs⟩
    few := fun _ _ h => absurd hf (Nat.not_le.mpr h)
    rest := fun _ _ => ⟨hleft.symm, rfl⟩ }

/-- All attempts that are made are refused. -/
theorem retriesTogether_of_lt {retries : Nat} {qs : List Query} (hqs : qs ≠ [])
    (hr : s.connection.phase ≠ .ready ()) (hf : retries < s.world.failures) :
    RetriesTogether s retries qs
      (qs.map (reply backend (persist backend retries s).2.world (persist backend retries s).1))
      (persist backend retries s).2 := by
  have hmin : min s.world.failures retries = retries := Nat.min_eq_right (Nat.le_of_lt hf)
  rw [persist_of_lt retries hr hf]
  exact {
    none := fun h => absurd h hqs
    ready := fun h => absurd h hr
    idle := by
      intro _ hp
      rw [hmin, hp]
      exact ⟨rfl, rfl⟩
    connecting := by
      intro _ k hp
      rw [hmin, hp]
      exact ⟨rfl, rfl⟩
    enough := fun _ _ h => absurd hf (Nat.not_lt.mpr h)
    few := fun _ _ _ => ⟨rfl, rfl⟩
    rest := fun _ _ => ⟨rfl, rfl⟩ }

/-- **Calls that try again together.** They start an attempt in every round until one succeeds, or
no round is left, and the first round joins the attempt that is under way. How many calls there are,
and which of their questions fail, makes no difference to that. -/
theorem retries_cost_one_attempt_each (s : Session) (retries : Nat) (qs : List Query) :
    ∃ answers t, step s (.concurrent qs retries) = (.answers answers, t) ∧
      RetriesTogether s retries qs answers t := by
  refine ⟨(Session.concurrent backend retries qs s).1, (Session.concurrent backend retries qs s).2,
    rfl, ?_⟩
  by_cases hqs : qs = []
  · subst hqs
    rw [Session.concurrent_nil]
    exact retriesTogether_nil s retries
  by_cases hr : s.connection.phase = .ready ()
  · rw [Session.concurrent_of_ready backend retries qs hr]
    exact retriesTogether_of_ready retries hqs hr
  rw [concurrent_eq_persist backend retries hqs]
  rcases Nat.lt_or_ge retries s.world.failures with hf | hf
  · exact retriesTogether_of_lt hqs hr hf
  · exact retriesTogether_of_le hqs hr hf

/-- Two calls are refused once. When they try again, one of them asks about a broken kind, which it
does once more in vain: two attempts in all. -/
example :
    (step (Session.initial ⟨[], ["Post"], 1, 0⟩)
      (.concurrent [addressTaken, ⟨"Post", "id", .null, .exist⟩] 2)).2.connection =
        ⟨.ready (), 2⟩ := rfl

end Memory

end Rulebook
