import Rulebook.Failure
import Rulebook.Store.Query

/-!
# Inquiries

Validation asks questions of a record store on the way. An inquiry is the plan of a computation
with such questions: it is done, or it asks, and goes on as the answer says. A question that is
answered with a failure ends the inquiry, so no question follows it.

* `bind_assoc`, `bind_done`: inquiries are composed one after another;
* `answer_bind`: so are their answers.
-/

namespace Rulebook

inductive Inquiry (α : Type) where
  | done (a : α)
  /-- Asks on behalf of the value at a path. -/
  | ask (query : Query) (path : String) (next : Bool → Inquiry α)

namespace Inquiry

variable {α β γ : Type}

def bind : Inquiry α → (α → Inquiry β) → Inquiry β
  | done a, f => f a
  | ask query path next, f => ask query path fun b => (next b).bind f

instance : Monad Inquiry where
  pure := done
  bind := bind

theorem bind_done (i : Inquiry α) : i.bind done = i := by
  induction i with
  | done a => rfl
  | ask query path next ih => simp [bind, ih]

theorem bind_assoc (i : Inquiry α) (f : α → Inquiry β) (g : β → Inquiry γ) :
    (i.bind f).bind g = i.bind fun a => (f a).bind g := by
  induction i with
  | done a => rfl
  | ask query path next ih => simp [bind, ih]

instance : LawfulMonad Inquiry :=
  LawfulMonad.mk' Inquiry bind_done (fun _ _ => rfl) bind_assoc

/-! ## Answers -/

/-- Answers questions; a question and the path of the value it is about are given. -/
abbrev Evaluator (m : Type → Type) := Query → String → m (Except Failure Bool)

/-- The result of an inquiry, the first failure ending it. -/
def answer {m : Type → Type} [Monad m] (evaluator : Evaluator m) :
    Inquiry α → m (Except Failure α)
  | done a => pure (.ok a)
  | ask query path next => do
    match ← evaluator query path with
    | .ok b => (next b).answer evaluator
    | .error f => pure (.error f)

theorem answer_bind {m : Type → Type} [Monad m] [LawfulMonad m] (evaluator : Evaluator m)
    (i : Inquiry α) (f : α → Inquiry β) :
    (i.bind f).answer evaluator = (do
      match ← i.answer evaluator with
      | .ok a => (f a).answer evaluator
      | .error e => pure (.error e)) := by
  induction i with
  | done a => simp [bind, answer]
  | ask query path next ih =>
    simp only [bind, answer, LawfulMonad.bind_assoc]
    refine congrArg _ (funext fun r => ?_)
    cases r with
    | ok b => exact ih b
    | error e => simp

/-- Without a record store every question fails. -/
def noStore : Evaluator Id := fun query path =>
  .error (.storeUnavailable
    ("no record store configured for the " ++ query.mode.name ++ " check on '" ++ path ++ "'"))

end Inquiry

end Rulebook
