import Rulebook.Proofs.Store.Interleaving

/-!
# One attempt at a time, and its outcome for all who wait for it

The numbers of the attempts tie the state together. All attempts but the last one were settled as
failed; the last one is under way, has made the connection ready, or was settled as failed too.
A call remembers the number of its attempt, so when it goes on late it finds another number there,
or none, and leaves the connection alone.

* `coherent_step`: every step keeps this accounting;
* `single_flight`: what it says of the attempts, in every state that calls can reach;
* `shared_outcome`: what it says of the calls.
-/

namespace Rulebook.Interleaving

variable {σ : Type}

/-! ## The accounting of attempts and calls -/

/-- What a call knows of its attempt is true, and the attempt is settled once it is past that. -/
structure Call.Agrees (call : Call σ) (s : State σ) : Prop where
  started : ∀ k, call.entry = .waiting k → k ∈ s.started
  seen : ∀ k outcome, call.entry = .waiting k → call.stage.seen? = some outcome →
    s.outcome k = some outcome
  settled : ∀ k outcome, call.entry = .waiting k → call.stage.given? = some outcome →
    s.connection.phase ≠ .connecting k

/-- A call that knows no more, and has been given no more, still agrees. -/
theorem Call.Agrees.of_stage {s : State σ} {call : Call σ} {stage : Stage σ} (h : call.Agrees s)
    (hseen : ∀ o, stage.seen? = some o → call.stage.seen? = some o)
    (hgiven : ∀ o, stage.given? = some o → call.stage.given? = some o) :
    Call.Agrees { call with stage := stage } s where
  started := h.started
  seen := fun k o hk ho => h.seen k o hk (hseen o ho)
  settled := fun k o hk ho => h.settled k o hk (hgiven o ho)

/-- Attempts are numbered in order. All of them were settled as failed, but for the one under way
or the one that made the connection ready. -/
structure Coherent (s : State σ) : Prop where
  numbered : s.started = List.range' 1 s.connection.attempts
  resolved : ∀ k outcome, s.outcome k = some outcome → k ∈ s.started
  failures : ∀ k ∈ s.failed, ∃ f, s.outcome k = some (.error f)
  idle : s.connection.phase = .idle → s.started = s.failed
  connecting : ∀ k, s.connection.phase = .connecting k → s.started = s.failed ++ [k]
  ready : ∀ store, s.connection.phase = .ready store →
    ∃ k, s.started = s.failed ++ [k] ∧ s.outcome k = some (.ok store)
  calls : ∀ c call, s.calls c = some call → call.Agrees s

theorem coherent_initial : Coherent (initial : State σ) where
  numbered := rfl
  resolved := by intro k outcome ho; simp [initial] at ho
  failures := by intro k hk; simp [initial] at hk
  idle := fun _ => rfl
  connecting := by intro k hk; simp [initial, Connection.initial] at hk
  ready := by intro store hs; simp [initial, Connection.initial] at hs
  calls := by intro c call hc; simp [initial] at hc

namespace Coherent

/-! ## Steps that leave the connection alone -/

theorem put {s : State σ} (h : Coherent s) {c : Nat} {call : Call σ} (hc : call.Agrees s) :
    Coherent (s.put c call) where
  numbered := h.numbered
  resolved := h.resolved
  failures := h.failures
  idle := h.idle
  connecting := h.connecting
  ready := h.ready
  calls := by
    intro d other hd
    by_cases e : d = c
    · subst e
      simp only [State.put, Function.update_self, Option.some.injEq] at hd
      subst hd
      exact ⟨hc.started, hc.seen, hc.settled⟩
    · simp only [State.put, Function.update_of_ne e] at hd
      have ho := h.calls d other hd
      exact ⟨ho.started, ho.seen, ho.settled⟩

/-- An outcome that is known stays the same when another attempt is resolved. -/
theorem outcome_resolve {s : State σ} {k l : Nat} {o outcome : Except Failure σ}
    (hk : s.outcome k = none) (hl : s.outcome l = some o) :
    (s.resolve k outcome).outcome l = some o := by
  have hne : l ≠ k := by
    rintro rfl
    rw [hk] at hl
    cases hl
  simpa [State.resolve, Function.update_of_ne hne] using hl

theorem resolve {s : State σ} (h : Coherent s) {k : Nat} (hm : k ∈ s.started)
    (hk : s.outcome k = none) (outcome : Except Failure σ) : Coherent (s.resolve k outcome) where
  numbered := h.numbered
  resolved := by
    intro l o ho
    by_cases e : l = k
    · exact e ▸ hm
    · exact h.resolved l o (by simpa [State.resolve, Function.update_of_ne e] using ho)
  failures := by
    intro l hl
    obtain ⟨f, hf⟩ := h.failures l hl
    exact ⟨f, outcome_resolve hk hf⟩
  idle := h.idle
  connecting := h.connecting
  ready := by
    intro store hs
    obtain ⟨l, hl, ho⟩ := h.ready store hs
    exact ⟨l, hl, outcome_resolve hk ho⟩
  calls := by
    intro c call hc
    have ha := h.calls c call hc
    exact ⟨ha.started, fun l o hl ho => outcome_resolve hk (ha.seen l o hl ho), ha.settled⟩

/-! ## Entering -/

theorem lt_of_mem_started {s : State σ} (h : Coherent s) {k : Nat} (hk : k ∈ s.started) :
    1 ≤ k ∧ k ≤ s.connection.attempts := by
  rw [h.numbered, List.mem_range'_1] at hk
  omega

/-- An idle connection starts the attempt with the next number; a call that is past an attempt is
past one with a lower number. -/
theorem enter {s : State σ} (h : Coherent s) : Coherent (s.move s.connection.enter.2) := by
  cases hp : s.connection.phase with
  | idle =>
    rw [Connection.enter_of_idle hp]
    have hs : (s.move ⟨.connecting (s.connection.attempts + 1), s.connection.attempts + 1⟩).started
        = s.started ++ [s.connection.attempts + 1] := by
      simp [State.move, hp, Phase.begun]
    have hf : (s.move ⟨.connecting (s.connection.attempts + 1), s.connection.attempts + 1⟩).failed
        = s.failed := by
      simp [State.move, hp, Phase.givenUp]
    constructor
    · rw [hs, h.numbered]
      simp [State.move, List.range'_concat, Nat.add_comm]
    · intro k o ho
      rw [hs]
      exact List.mem_append_left _ (h.resolved k o ho)
    · rw [hf]
      exact h.failures
    · intro hi
      simp [State.move] at hi
    · intro k hk
      have e : k = s.connection.attempts + 1 := by simpa [State.move, eq_comm] using hk
      rw [hs, hf, h.idle hp, e]
    · intro store hr
      simp [State.move] at hr
    · intro c call hc
      have ha := h.calls c call hc
      refine ⟨fun k hk => ?_, ha.seen, fun k o hk _ hn => ?_⟩
      · rw [hs]
        exact List.mem_append_left _ (ha.started k hk)
      · have e : s.connection.attempts + 1 = k := by simpa [State.move] using hn
        have := h.lt_of_mem_started (ha.started k hk)
        omega
  | connecting k =>
    rw [Connection.enter_of_connecting hp, State.move_self]
    exact h
  | ready store =>
    rw [Connection.enter_of_ready hp, State.move_self]
    exact h

/-- The call that enters waits for the attempt under way, or finds the store. -/
theorem agrees_entering {s : State σ} (h : Coherent s) (question : Option Query) :
    (Call.entering question s.connection.enter.1).Agrees (s.move s.connection.enter.2) := by
  cases hp : s.connection.phase with
  | idle =>
    rw [Connection.enter_of_idle hp]
    constructor
    · intro k hk
      have e : s.connection.attempts + 1 = k := by simpa [Call.entering] using hk
      simp [State.move, hp, Phase.begun, e]
    · intro k o _ ho
      simp [Call.entering, Stage.seen?] at ho
    · intro k o _ ho
      simp [Call.entering, Stage.given?] at ho
  | connecting l =>
    rw [Connection.enter_of_connecting hp, State.move_self]
    constructor
    · intro k hk
      have e : l = k := by simpa [Call.entering] using hk
      rw [h.connecting l hp, e]
      exact List.mem_append_right _ (List.mem_singleton_self k)
    · intro k o _ ho
      simp [Call.entering, Stage.seen?] at ho
    · intro k o _ ho
      simp [Call.entering, Stage.given?] at ho
  | ready store =>
    rw [Connection.enter_of_ready hp]
    constructor
    all_goals intro k
    all_goals simp [Call.entering]

/-! ## Settling -/

/-- Only the attempt under way is settled; it was the last one to begin. -/
theorem settle {s : State σ} (h : Coherent s) {k : Nat} {outcome : Except Failure σ}
    (hk : s.outcome k = some outcome) : Coherent (s.move (s.connection.settle k outcome)) := by
  by_cases hp : s.connection.phase = .connecting k
  · have hs := h.connecting k hp
    cases outcome with
    | ok store =>
      rw [Connection.settle_ok hp]
      constructor
      · simpa [State.move, hp, Phase.begun] using h.numbered
      · exact fun l o ho => List.mem_append_left _ (h.resolved l o ho)
      · simpa [State.move, hp, Phase.givenUp] using h.failures
      · intro hi
        simp [State.move] at hi
      · intro l hl
        simp [State.move] at hl
      · intro store' hr
        have e : store = store' := by simpa [State.move] using hr
        exact ⟨k, by simpa [State.move, hp, Phase.begun, Phase.givenUp] using hs, e ▸ hk⟩
      · intro c call hc
        have ha := h.calls c call hc
        refine ⟨fun l hl => ?_, ha.seen, fun l o _ _ hn => ?_⟩
        · exact List.mem_append_left _ (ha.started l hl)
        · simp [State.move] at hn
    | error f =>
      rw [Connection.settle_error hp]
      constructor
      · simpa [State.move, hp, Phase.begun] using h.numbered
      · exact fun l o ho => List.mem_append_left _ (h.resolved l o ho)
      · intro l hl
        have hl' : l ∈ s.failed ∨ l = k := by
          simpa [State.move, hp, Phase.givenUp] using hl
        rcases hl' with hm | rfl
        · exact h.failures l hm
        · exact ⟨f, hk⟩
      · intro _
        simpa [State.move, hp, Phase.begun, Phase.givenUp] using hs
      · intro l hl
        simp [State.move] at hl
      · intro store hr
        simp [State.move] at hr
      · intro c call hc
        have ha := h.calls c call hc
        refine ⟨fun l hl => ?_, ha.seen, fun l o _ _ hn => ?_⟩
        · exact List.mem_append_left _ (ha.started l hl)
        · simp [State.move] at hn
  · rw [Connection.settle_of_ne hp, State.move_self]
    exact h

theorem agrees_settle {s : State σ} (h : Coherent s) {c k : Nat} {question : Option Query}
    {outcome : Except Failure σ}
    (hc : s.calls c = some ⟨question, .waiting k, .resumed outcome⟩) :
    (Call.mk question (.waiting k) (.given outcome)).Agrees
      (s.move (s.connection.settle k outcome)) := by
  have ha := h.calls c _ hc
  constructor
  · intro l hl
    exact List.mem_append_left _ (ha.started l hl)
  · exact ha.seen
  · intro l o hl _
    obtain rfl : k = l := by simpa using hl
    exact Connection.phase_settle_ne s.connection k outcome

/-! ## Every step -/

end Coherent

theorem coherent_step {s t : State σ} {x : Step σ} (h : Coherent s) (hx : step s x = some t) :
    Coherent t := by
  cases x with
  | enter c question =>
    obtain ⟨_, rfl⟩ := step_enter_iff.mp hx
    exact h.enter.put (h.agrees_entering question)
  | resolve attempt outcome =>
    obtain ⟨hm, hn, rfl⟩ := step_resolve_iff.mp hx
    exact h.resolve hm hn outcome
  | resume c =>
    obtain ⟨question, k, outcome, hc, ho, rfl⟩ := step_resume_iff.mp hx
    have ha := h.calls c _ hc
    refine h.put ⟨ha.started, fun l o hl hs => ?_, fun l o _ hg => ?_⟩
    · obtain rfl : k = l := by simpa using hl
      exact ho.trans hs
    · simp [Stage.given?] at hg
  | settle c =>
    obtain ⟨question, k, outcome, hc, rfl⟩ := step_settle_iff.mp hx
    have ho : s.outcome k = some outcome := (h.calls c _ hc).seen k outcome rfl rfl
    exact (h.settle ho).put (h.agrees_settle hc)
  | answer c found =>
    obtain ⟨q, entry, store, hc, rfl⟩ := step_answer_iff.mp hx
    exact h.put ((h.calls c _ hc).of_stage (fun o ho => ho) fun o ho => ho)
  | drop c =>
    obtain ⟨call, hc, _, rfl⟩ := step_drop_iff.mp hx
    refine h.put ((h.calls c _ hc).of_stage (fun o ho => ?_) fun o ho => ?_)
    · simp [Stage.seen?] at ho
    · simp [Stage.given?] at ho

theorem Coherent.of_run {s t : State σ} (h : Coherent s) {steps : List (Step σ)}
    (ht : run s steps = some t) : Coherent t :=
  run_invariant (fun _ _ _ hu hx => coherent_step hu hx) h ht

theorem coherent_of_run {steps : List (Step σ)} {s : State σ} (h : run initial steps = some s) :
    Coherent s :=
  coherent_initial.of_run h

/-! ## Counting attempts -/

namespace Coherent

/-- There is at most one attempt that was not settled as failed, and none if the connection is
idle. -/
theorem exists_last {s : State σ} (h : Coherent s) :
    ∃ last, s.started = s.failed ++ last ∧
      last.length = match s.connection.phase with
        | .idle => 0
        | _ => 1 := by
  cases hp : s.connection.phase with
  | idle => exact ⟨[], by simpa using h.idle hp, rfl⟩
  | connecting k => exact ⟨[k], h.connecting k hp, rfl⟩
  | ready store =>
    obtain ⟨k, hk, _⟩ := h.ready store hp
    exact ⟨[k], hk, rfl⟩

/-- The attempts settled as failed are the first ones, without a gap. -/
theorem failed_eq {s : State σ} (h : Coherent s) : s.failed = List.range' 1 s.failed.length := by
  obtain ⟨last, hl, _⟩ := h.exists_last
  have hn : s.connection.attempts = s.failed.length + last.length := by
    have := congrArg List.length (h.numbered.symm.trans hl)
    simpa using this
  have hr : s.failed ++ last =
      List.range' 1 s.failed.length ++ List.range' (1 + s.failed.length) last.length := by
    rw [← hl, h.numbered, hn]
    exact List.range'_append_1.symm
  exact List.append_inj_left hr (by simp)

theorem attempts_eq {s : State σ} (h : Coherent s) :
    s.connection.attempts = s.failed.length + match s.connection.phase with
      | .idle => 0
      | _ => 1 := by
  obtain ⟨last, hl, hn⟩ := h.exists_last
  rw [← hn, ← List.length_append, ← hl, h.numbered, List.length_range']

/-- The attempt under way has the last number. -/
theorem attempts_of_connecting {s : State σ} (h : Coherent s) {k : Nat}
    (hk : s.connection.phase = .connecting k) :
    k = s.connection.attempts ∧ k = s.failed.length + 1 := by
  have ha : s.connection.attempts = s.failed.length + 1 := by rw [h.attempts_eq, hk]
  have hl : s.failed ++ [k] = s.failed ++ [s.failed.length + 1] := by
    rw [← h.connecting k hk, h.numbered, ha, List.range'_1_concat, ← h.failed_eq, Nat.add_comm]
  have he : k = s.failed.length + 1 := by simpa using hl
  exact ⟨he.trans ha.symm, he⟩

/-- The attempts that are settled as failed are resolved. -/
theorem unresolved_le_one {s : State σ} (h : Coherent s) :
    (s.started.filter s.unresolved).length ≤ 1 := by
  obtain ⟨last, hl, hn⟩ := h.exists_last
  have hf : s.failed.filter s.unresolved = [] := by
    rw [List.filter_eq_nil_iff]
    intro k hk
    obtain ⟨f, ho⟩ := h.failures k hk
    simp [State.unresolved, ho]
  rw [hl, List.filter_append, hf, List.nil_append]
  calc (last.filter s.unresolved).length
      ≤ last.length := List.length_filter_le _ _
    _ ≤ 1 := by rw [hn]; split <;> omega

end Coherent

/-! ## What never changes -/

/-- Only two steps change the connection: a call enters while it is idle, or a call settles the
attempt that it waited for while that attempt is under way. -/
theorem step_connection {s t : State σ} {x : Step σ} (hx : step s x = some t) :
    t.connection = s.connection ∨
      (∃ c question, x = .enter c question ∧ s.connection.phase = .idle) ∨
      ∃ c question k outcome, x = .settle c ∧
        s.calls c = some ⟨question, .waiting k, .resumed outcome⟩ ∧
        s.connection.phase = .connecting k := by
  cases x with
  | enter c question =>
    obtain ⟨_, rfl⟩ := step_enter_iff.mp hx
    cases hp : s.connection.phase with
    | idle => exact Or.inr (Or.inl ⟨c, question, rfl, rfl⟩)
    | connecting k =>
      exact Or.inl (congrArg Prod.snd (Connection.enter_of_connecting hp))
    | ready store => exact Or.inl (congrArg Prod.snd (Connection.enter_of_ready hp))
  | resolve attempt outcome =>
    obtain ⟨_, _, rfl⟩ := step_resolve_iff.mp hx
    exact Or.inl rfl
  | resume c =>
    obtain ⟨_, _, _, _, _, rfl⟩ := step_resume_iff.mp hx
    exact Or.inl rfl
  | settle c =>
    obtain ⟨question, k, outcome, hc, rfl⟩ := step_settle_iff.mp hx
    by_cases hp : s.connection.phase = .connecting k
    · exact Or.inr (Or.inr ⟨c, question, k, outcome, rfl, hc, hp⟩)
    · exact Or.inl (Connection.settle_of_ne hp outcome)
  | answer c found =>
    obtain ⟨_, _, _, _, rfl⟩ := step_answer_iff.mp hx
    exact Or.inl rfl
  | drop c =>
    obtain ⟨_, _, _, rfl⟩ := step_drop_iff.mp hx
    exact Or.inl rfl

theorem run_connection_of_ready {s t : State σ} {steps : List (Step σ)} {store : σ}
    (hs : s.connection.phase = .ready store) (ht : run s steps = some t) :
    t.connection = s.connection := by
  refine run_invariant (P := fun u => u.connection = s.connection) (fun u x v hu hx => ?_) rfl ht
  have hr : u.connection.phase = .ready store := by rw [hu, hs]
  obtain he | ⟨_, _, _, hi⟩ | ⟨_, _, _, _, _, _, hp⟩ := step_connection hx
  · exact he.trans hu
  · rw [hr] at hi
    cases hi
  · rw [hr] at hp
    cases hp

/-- An attempt is resolved once and for all. -/
theorem run_outcome {s t : State σ} {steps : List (Step σ)} {k : Nat} {outcome : Except Failure σ}
    (hs : s.outcome k = some outcome) (ht : run s steps = some t) : t.outcome k = some outcome := by
  refine run_invariant (P := fun u => u.outcome k = some outcome) (fun u x v hu hx => ?_) hs ht
  obtain ⟨l, o, hn, rfl⟩ | ⟨ho, _⟩ := step_effect hx
  · exact Coherent.outcome_resolve hn hu
  · rw [ho]
    exact hu

/-- A call never forgets what it found when it entered. -/
theorem run_entry {s t : State σ} {steps : List (Step σ)} {c : Nat} {entry : Entry σ}
    (hs : ∃ call, s.calls c = some call ∧ call.entry = entry) (ht : run s steps = some t) :
    ∃ call, t.calls c = some call ∧ call.entry = entry := by
  refine run_invariant (P := fun u => ∃ call, u.calls c = some call ∧ call.entry = entry)
    (fun u x v hu hx => ?_) hs ht
  obtain ⟨call, hc, he⟩ := hu
  obtain ⟨l, o, _, rfl⟩ | ⟨_, d, next, _, hv, hold⟩ := step_effect hx
  · exact ⟨call, hc, he⟩
  · by_cases e : c = d
    · subst e
      exact ⟨next, by rw [hv, Function.update_self], (hold call hc).trans he⟩
    · exact ⟨call, by rw [hv, Function.update_of_ne e]; exact hc, he⟩

/-! ## Main results -/

/-- **Single flight.** In every state that can be reached, at most one attempt is unresolved. The
attempt under way has the last number, and all before it were settled as failed. A ready connection
stays as it is for good. The attempts are those settled as failed, each counted once, and one more
unless the connection is idle. -/
theorem single_flight {steps : List (Step σ)} {s : State σ} (h : run initial steps = some s) :
    (s.started.filter s.unresolved).length ≤ 1 ∧
    (∀ k, s.connection.phase = .connecting k →
      k = s.connection.attempts ∧
        ∀ l, 1 ≤ l → l < k → l ∈ s.failed ∧ ∃ f, s.outcome l = some (.error f)) ∧
    (∀ store later t, s.connection.phase = .ready store → run s later = some t →
      t.connection.phase = .ready store ∧ t.connection.attempts = s.connection.attempts) ∧
    s.failed.Nodup ∧
    s.connection.attempts = s.failed.length + match s.connection.phase with
      | .idle => 0
      | _ => 1 := by
  have hs := coherent_of_run h
  refine ⟨hs.unresolved_le_one, fun k hk => ?_, fun store later t hr ht => ?_, ?_, hs.attempts_eq⟩
  · have ha := hs.attempts_of_connecting hk
    refine ⟨ha.1, fun l h1 hl => ?_⟩
    have hm : l ∈ s.failed := by
      rw [hs.failed_eq, List.mem_range'_1]
      omega
    exact ⟨hm, hs.failures l hm⟩
  · have he := run_connection_of_ready hr ht
    exact ⟨he ▸ hr, by rw [he]⟩
  · rw [hs.failed_eq]
    exact List.nodup_range'

/-- A failure that two calls share; before the second one goes on, a third call has started the
next attempt, and a fourth one goes on only after that has made the connection ready. -/
def slowWaiters : List (Step Nat) :=
  [.enter 0 none, .enter 1 (some ⟨"User", "email", .null, .exist⟩),
    .resolve 1 (.error (.storeInitialization "refused")), .enter 2 none, .resume 0, .settle 0,
    .enter 3 none, .enter 4 none, .drop 4, .resume 1, .settle 1, .resolve 2 (.ok 7), .resume 3,
    .settle 3, .resume 2, .settle 2]

theorem single_flight_slowWaiters :
    ∃ s, run initial slowWaiters = some s ∧ s.connection.phase = .ready 7 ∧
      (s.started.filter s.unresolved).length ≤ 1 ∧ s.failed.Nodup ∧
      s.connection.attempts = s.failed.length + 1 := by
  have hw := @single_flight Nat slowWaiters _ rfl
  exact ⟨_, rfl, rfl, hw.1, hw.2.2.2⟩

/-- A call that knows what came of its attempt is given that outcome when it settles. -/
theorem run_settle {s : State σ} {c k : Nat} {question : Option Query} {outcome : Except Failure σ}
    (hc : s.calls c = some ⟨question, .waiting k, .resumed outcome⟩) :
    run s [.settle c] = some ((s.move (s.connection.settle k outcome)).put c
      ⟨question, .waiting k, .given outcome⟩) := by
  rw [run_singleton]
  exact step_settle_iff.mpr ⟨question, k, outcome, hc, rfl⟩

/-- A call that waits for an attempt with a known outcome goes on and settles it. -/
theorem run_resume_settle {s : State σ} {c k : Nat} {question : Option Query}
    {outcome : Except Failure σ} (hc : s.calls c = some ⟨question, .waiting k, .waiting⟩)
    (ho : s.outcome k = some outcome) :
    run s [.resume c, .settle c] = some ((s.move (s.connection.settle k outcome)).put c
      ⟨question, .waiting k, .given outcome⟩) := by
  rw [run, step_resume_iff.mpr ⟨question, k, outcome, hc, ho, rfl⟩, Option.bind_some,
    run_settle (s.calls_put_self c _)]
  simp [State.put, State.move]

/-- A call whose attempt is resolved is given its outcome by its own next steps, whatever the
connection has become meanwhile. -/
theorem given_of_own_steps {s : State σ} (h : Coherent s) {c k : Nat} {call : Call σ}
    {outcome : Except Failure σ} (hc : s.calls c = some call) (hk : call.entry = .waiting k)
    (ho : s.outcome k = some outcome) (hd : call.stage ≠ .dropped) :
    ∃ own t last, (∀ x ∈ own, x.caller? = some c) ∧ run s own = some t ∧
      t.calls c = some last ∧ last.entry = .waiting k ∧ last.stage.given? = some outcome := by
  obtain ⟨question, entry, stage⟩ := call
  obtain rfl : entry = .waiting k := hk
  have hseen := (h.calls c _ hc).seen k
  cases stage with
  | waiting =>
    exact ⟨[.resume c, .settle c], _, _, by simp [Step.caller?], run_resume_settle hc ho,
      State.calls_put_self .., rfl, rfl⟩
  | resumed o =>
    obtain rfl : o = outcome := by simpa [ho] using (hseen o rfl rfl).symm
    exact ⟨[.settle c], _, _, by simp [Step.caller?], run_settle hc, State.calls_put_self .., rfl,
      rfl⟩
  | given o =>
    obtain rfl : o = outcome := by simpa [ho] using (hseen o rfl rfl).symm
    exact ⟨[], s, _, by simp, rfl, hc, rfl, rfl⟩
  | answered store answer =>
    obtain rfl : .ok store = outcome := by simpa [ho] using (hseen _ rfl rfl).symm
    exact ⟨[], s, _, by simp, rfl, hc, rfl, rfl⟩
  | dropped => exact absurd rfl hd

/-- A store that a call was given for its attempt is the one that is ready now. -/
theorem Coherent.ready_of_given {s : State σ} (h : Coherent s) {c k : Nat} {call : Call σ}
    {store : σ} (hc : s.calls c = some call) (hk : call.entry = .waiting k)
    (hg : call.stage.given? = some (.ok store)) : s.connection.phase = .ready store := by
  have ha := h.calls c call hc
  have ho := ha.seen k _ hk (Stage.seen?_of_given? hg)
  have hm := ha.started k hk
  have hf : k ∉ s.failed := by
    intro hf
    obtain ⟨f, he⟩ := h.failures k hf
    rw [ho] at he
    cases he
  cases hp : s.connection.phase with
  | idle => exact absurd (h.idle hp ▸ hm) hf
  | connecting l =>
    rw [h.connecting l hp, List.mem_append, List.mem_singleton] at hm
    rcases hm with hm | rfl
    · exact absurd hm hf
    · exact absurd hp (ha.settled k _ hk hg)
  | ready other =>
    obtain ⟨l, hl, hlo⟩ := h.ready other hp
    rw [hl, List.mem_append, List.mem_singleton] at hm
    rcases hm with hm | rfl
    · exact absurd hm hf
    · obtain rfl : store = other := by simpa [ho] using hlo
      rfl

/-- **Shared outcome.** A call that started or joined an attempt is given the outcome of that
attempt and no other, as is every other call of it; a store that it is given is the one that is
ready. The outcome stays the same, and so does the attempt of the call; unless it is dropped, the
call gets there by its own steps once the attempt is resolved, whatever has happened before. By
none of them does it change the connection, unless its own attempt is still under way. -/
theorem shared_outcome {steps : List (Step σ)} {s : State σ} (h : run initial steps = some s)
    {c k : Nat} {call : Call σ} (hc : s.calls c = some call) (hk : call.entry = .waiting k) :
    (∀ outcome, call.stage.given? = some outcome → s.outcome k = some outcome) ∧
    (∀ store, call.stage.given? = some (.ok store) → s.connection.phase = .ready store) ∧
    (∀ f result, s.outcome k = some (.error f) → call.result? = some result →
      result = .error f) ∧
    (∀ store result, s.outcome k = some (.ok store) → call.question = none →
      call.result? = some result → result = .ok (.store store)) ∧
    (∀ d other o o', s.calls d = some other → other.entry = .waiting k →
      call.stage.given? = some o → other.stage.given? = some o' → o = o') ∧
    (∀ later t, run s later = some t →
      (∃ next, t.calls c = some next ∧ next.entry = .waiting k) ∧
        ∀ outcome, s.outcome k = some outcome → t.outcome k = some outcome) ∧
    (∀ outcome, s.outcome k = some outcome → call.stage ≠ .dropped →
      ∃ own t last, (∀ x ∈ own, x.caller? = some c) ∧ run s own = some t ∧
        t.calls c = some last ∧ last.entry = .waiting k ∧ last.stage.given? = some outcome) ∧
    ∀ x t, x.caller? = some c → step s x = some t → t.connection ≠ s.connection →
      s.connection.phase = .connecting k := by
  have hs := coherent_of_run h
  have hown : ∀ d other o, s.calls d = some other → other.entry = .waiting k →
      other.stage.given? = some o → s.outcome k = some o :=
    fun d other o hd he hg => (hs.calls d other hd).seen k o he (Stage.seen?_of_given? hg)
  refine ⟨fun o hg => hown c call o hc hk hg, fun store hg => hs.ready_of_given hc hk hg, ?_, ?_,
    ?_, ?_, fun o ho hd => given_of_own_steps hs hc hk ho hd, ?_⟩
  · intro f result hf hr
    -- a failed attempt leaves no store that could have answered
    have hg : ∀ o, call.stage.given? = some o → o = .error f := fun o hg =>
      Option.some.inj ((hown c call o hc hk hg).symm.trans hf)
    exact Call.result?_of_failure hg hr
  · intro store result hf hq hr
    obtain ⟨o, hg, rfl⟩ := Call.result?_of_request hq hr
    obtain rfl := Option.some.inj ((hown c call o hc hk hg).symm.trans hf)
    rfl
  · intro d other o o' hd he hg hg'
    exact Option.some.inj ((hown c call o hc hk hg).symm.trans (hown d other o' hd he hg'))
  · intro later t ht
    exact ⟨run_entry ⟨call, hc, hk⟩ ht, fun o ho => run_outcome ho ht⟩
  · intro x t hx ht hne
    obtain he | ⟨d, q, rfl, _⟩ | ⟨d, q, l, o, rfl, hd, hp⟩ := step_connection ht
    · exact absurd he hne
    · obtain rfl := Option.some.inj hx
      rw [(step_enter_iff.mp ht).1] at hc
      cases hc
    · obtain rfl := Option.some.inj hx
      obtain rfl := Option.some.inj (hd.symm.trans hc)
      obtain rfl : l = k := by simpa using hk
      exact hp

theorem shared_outcome_slowWaiters :
    ∃ s call, run initial slowWaiters = some s ∧ s.calls 2 = some call ∧ call.entry = .waiting 1 ∧
      s.connection.phase = .ready 7 ∧
      call.stage.given? = some (.error (.storeInitialization "refused")) ∧
      s.outcome 1 = some (.error (.storeInitialization "refused")) := by
  have hw := (@shared_outcome Nat slowWaiters _ rfl 2 1 _ rfl rfl).1
  exact ⟨_, _, rfl, rfl, rfl, rfl, rfl, hw _ rfl⟩

end Rulebook.Interleaving
