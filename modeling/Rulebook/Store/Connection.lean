import Rulebook.Failure

/-!
# A connection that is made when it is first needed

All callers share one connection to a store. The first call starts an attempt to connect; calls
that come while it is under way wait for the same attempt. A call that waited settles the
connection when it goes on: a successful attempt makes it ready for good, a failed one is forgotten
so that the next call starts another. Attempts are numbered, so that a call which goes on late
cannot disturb a newer attempt.

* `enter_of_idle`, `enter_of_connecting`: a call starts an attempt, or joins the one under way;
* `enter_of_ready`, `settle_of_ready`: a ready connection stays as it is;
* `settle_ok`, `settle_error`: what becomes of the attempt under way;
* `settle_of_ne`, `phase_settle_ne`: a call settles its own attempt, and no other;
* `settle_settle`: and it is settled once;
* `attempts_le_enter`: entering starts one attempt at most.
-/

namespace Rulebook

inductive Phase (σ : Type) where
  | idle
  | connecting (attempt : Nat)
  | ready (store : σ)

/-- The state of the connection and the number of attempts started so far. -/
structure Connection (σ : Type) where
  phase : Phase σ
  attempts : Nat

/-- What a call finds: the store, or an attempt to wait for. -/
inductive Entry (σ : Type) where
  | store (store : σ)
  | waiting (attempt : Nat)

namespace Connection

variable {σ : Type}

def initial : Connection σ := ⟨.idle, 0⟩

def isReady (c : Connection σ) : Bool :=
  match c.phase with
  | .ready _ => true
  | _ => false

/-- A call asks for the store; an idle connection starts the next attempt. -/
def enter (c : Connection σ) : Entry σ × Connection σ :=
  match c.phase with
  | .ready store => (.store store, c)
  | .connecting attempt => (.waiting attempt, c)
  | .idle => (.waiting (c.attempts + 1), ⟨.connecting (c.attempts + 1), c.attempts + 1⟩)

/-- A call goes on after the attempt it waited for. Only the first call to come back finds the
attempt unsettled. -/
def settle (attempt : Nat) (outcome : Except Failure σ) (c : Connection σ) : Connection σ :=
  match c.phase with
  | .connecting current =>
    if current = attempt then
      match outcome with
      | .ok store => { c with phase := .ready store }
      | .error _ => { c with phase := .idle }
    else c
  | _ => c

theorem enter_of_idle {c : Connection σ} (h : c.phase = .idle) :
    c.enter = (.waiting (c.attempts + 1), ⟨.connecting (c.attempts + 1), c.attempts + 1⟩) := by
  simp [enter, h]

theorem enter_of_connecting {c : Connection σ} {attempt : Nat} (h : c.phase = .connecting attempt) :
    c.enter = (.waiting attempt, c) := by
  simp [enter, h]

theorem enter_of_ready {c : Connection σ} {store : σ} (h : c.phase = .ready store) :
    c.enter = (.store store, c) := by
  simp [enter, h]

theorem settle_ok {c : Connection σ} {attempt : Nat} (h : c.phase = .connecting attempt)
    (store : σ) : c.settle attempt (.ok store) = { c with phase := .ready store } := by
  simp [settle, h]

theorem settle_error {c : Connection σ} {attempt : Nat} (h : c.phase = .connecting attempt)
    (f : Failure) : c.settle attempt (.error f) = { c with phase := .idle } := by
  simp [settle, h]

theorem settle_of_ready {c : Connection σ} {store : σ} (h : c.phase = .ready store)
    (attempt : Nat) (outcome : Except Failure σ) : c.settle attempt outcome = c := by
  simp [settle, h]

theorem settle_of_ne {c : Connection σ} {attempt : Nat} (h : c.phase ≠ .connecting attempt)
    (outcome : Except Failure σ) : c.settle attempt outcome = c := by
  unfold settle
  split
  · next current hp =>
    by_cases e : current = attempt
    · exact absurd (e ▸ hp) h
    · simp [e]
  · rfl

/-- However it ends, an attempt that a call has settled is not under way. -/
theorem phase_settle_ne (c : Connection σ) (attempt : Nat) (outcome : Except Failure σ) :
    (c.settle attempt outcome).phase ≠ .connecting attempt := by
  by_cases h : c.phase = .connecting attempt
  · cases outcome with
    | ok store => simp [settle_ok h]
    | error f => simp [settle_error h]
  · rw [settle_of_ne h]
    exact h

/-- Nothing is left for the second call of an attempt to settle. -/
theorem settle_settle (c : Connection σ) (attempt : Nat) (outcome other : Except Failure σ) :
    (c.settle attempt outcome).settle attempt other = c.settle attempt outcome :=
  settle_of_ne (phase_settle_ne c attempt outcome) other

/-- Once the attempt under way is settled, none is. -/
theorem phase_settle_of_connecting {c : Connection σ} {attempt : Nat}
    (h : c.phase = .connecting attempt) (outcome : Except Failure σ) (k : Nat) :
    (c.settle attempt outcome).phase ≠ .connecting k := by
  cases outcome with
  | ok store => simp [settle_ok h]
  | error f => simp [settle_error h]

/-- A call that waits finds its attempt under way. -/
theorem phase_enter_of_waiting {c : Connection σ} {attempt : Nat}
    (h : c.enter.1 = .waiting attempt) : c.enter.2.phase = .connecting attempt := by
  cases hp : c.phase with
  | idle =>
    rw [enter_of_idle hp] at h ⊢
    cases h
    rfl
  | connecting k =>
    rw [enter_of_connecting hp] at h ⊢
    cases h
    exact hp
  | ready store =>
    rw [enter_of_ready hp] at h
    cases h

theorem attempts_settle (c : Connection σ) (attempt : Nat) (outcome : Except Failure σ) :
    (c.settle attempt outcome).attempts = c.attempts := by
  unfold settle
  split
  · split
    · cases outcome <;> rfl
    · rfl
  · rfl

theorem attempts_le_enter (c : Connection σ) :
    c.attempts ≤ c.enter.2.attempts ∧ c.enter.2.attempts ≤ c.attempts + 1 := by
  unfold enter
  split <;> simp

end Connection

end Rulebook
