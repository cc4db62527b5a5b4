import Rulebook.Proofs.Validation.Results
import Rulebook.Rule.Compile

/-!
# The questions of a validation

What a validation asks can be written down, one question after another, with the answers. An answer
that is a failure is the last one written, and it is what the validation comes to; without one the
validation comes to its report. If no rule asks anything, at any depth, nothing is written at all,
and the report is the same whoever would answer.

* `recording`, `resultFrom_recording`: the questions as they are asked, and what they amount to;
* `result_noStore_eq_error_iff`: validation without a store fails where it would ask first;
* `Predicate.asks`, `first?_run`, `first?_runFields`: rules that ask nothing;
* `failure_ends_validation`: documents.
-/

namespace Rulebook

namespace Inquiry

variable {α β σ : Type}

/-! ## The first question -/

/-- The first question, if there is any, with the path of the value it is about. -/
def first? : Inquiry α → Option (Query × String)
  | done _ => none
  | ask query path _ => some (query, path)

theorem exists_of_first?_eq_none {i : Inquiry α} (h : i.first? = none) : ∃ a, i = .done a := by
  cases i with
  | done a => exact ⟨a, rfl⟩
  | ask query path next => cases h

theorem first?_bind {i : Inquiry α} {f : α → Inquiry β} (hi : i.first? = none)
    (hf : ∀ a, (f a).first? = none) : (i >>= f).first? = none := by
  obtain ⟨a, rfl⟩ := exists_of_first?_eq_none hi
  exact hf a

/-- Without a store, the first question fails. -/
theorem result_noStore_eq_error_iff {i : Inquiry α} {e : Failure} :
    i.result noStore = .error e ↔
      ∃ query path, i.first? = some (query, path) ∧ e = unavailable query path := by
  cases i with
  | done a => simp [result, answer, first?]
  | ask query path next =>
    rw [result_ask, run_noStore, bind_eq_error]
    simp [first?, and_assoc, eq_comm]

/-! ## Recorded questions -/

/-- A question that was put, and its answer. -/
structure Asked where
  query : Query
  path : String
  answer : Except Failure Bool

/-- The same answers, written down after the questions. -/
def recording (evaluator : Evaluator (StateM σ)) : Evaluator (StateM (List Asked × σ)) :=
  fun query path => fun (log, s) =>
    let (answer, t) := evaluator query path s
    (answer, log ++ [⟨query, path, answer⟩], t)

/-- What the answers amount to: a result if none of them is a failure, and the failure if the last
one is, which is the only one then. -/
def AmountTo (log : List Asked) : Except Failure α → Prop
  | .ok _ => ∀ asked ∈ log, ∃ b, asked.answer = .ok b
  | .error e => ∃ before last, log = before ++ [last] ∧ last.answer = .error e ∧
      ∀ asked ∈ before, ∃ b, asked.answer = .ok b

theorem AmountTo.cons {asked : Asked} {log : List Asked} {result : Except Failure α} {b : Bool}
    (h : AmountTo log result) (ha : asked.answer = .ok b) : AmountTo (asked :: log) result := by
  cases result with
  | ok a => exact List.forall_mem_cons.mpr ⟨⟨b, ha⟩, h⟩
  | error e =>
    obtain ⟨before, last, rfl, hlast, hbefore⟩ := h
    exact ⟨asked :: before, last, rfl, hlast, List.forall_mem_cons.mpr ⟨⟨b, ha⟩, hbefore⟩⟩

theorem AmountTo.eq_error_iff {log : List Asked} {result : Except Failure α}
    (h : AmountTo log result) {e : Failure} :
    result = .error e ↔ ∃ last, log.getLast? = some last ∧ last.answer = .error e := by
  cases result with
  | ok a =>
    refine ⟨nofun, ?_⟩
    rintro ⟨last, hlast, he⟩
    obtain ⟨b, hb⟩ := h last (List.mem_of_getLast? hlast)
    cases hb.symm.trans he
  | error e' =>
    obtain ⟨before, last, rfl, hlast, _⟩ := h
    simp [hlast]

theorem AmountTo.answered {log : List Asked} {result : Except Failure α} (h : AmountTo log result) :
    ∀ asked ∈ log.dropLast, ∃ b, asked.answer = .ok b := by
  cases result with
  | ok a => exact fun asked hm => h asked (List.dropLast_subset log hm)
  | error e =>
    obtain ⟨before, last, rfl, _, hbefore⟩ := h
    rwa [List.dropLast_concat]

/-- Recording changes nothing; what is recorded begins with the first question and amounts to the
result. -/
theorem resultFrom_recording (evaluator : Evaluator (StateM σ)) (i : Inquiry α) (before : List Asked)
    (s : σ) :
    ∃ log, i.resultFrom (recording evaluator) (before, s) =
        ((i.resultFrom evaluator s).1, before ++ log, (i.resultFrom evaluator s).2) ∧
      log.head?.map (fun asked => (asked.query, asked.path)) = i.first? ∧
      AmountTo log (i.resultFrom evaluator s).1 := by
  induction i generalizing before s with
  | done a => exact ⟨[], by rw [List.append_nil]; rfl, rfl, nofun⟩
  | ask query path next ih =>
    have hrecorded : ((recording evaluator query path).run (before, s)).run =
        ((((evaluator query path).run s).run).1,
          before ++ [⟨query, path, (((evaluator query path).run s).run).1⟩],
          (((evaluator query path).run s).run).2) := rfl
    rw [resultFrom_ask, resultFrom_ask, hrecorded]
    rcases ((evaluator query path).run s).run with ⟨e | b, t⟩
    · exact ⟨[⟨query, path, .error e⟩], rfl, rfl, [], _, rfl, rfl, nofun⟩
    · obtain ⟨log, hlog, _, hamount⟩ := ih b (before ++ [⟨query, path, .ok b⟩]) t
      refine ⟨⟨query, path, .ok b⟩ :: log, ?_, rfl, hamount.cons rfl⟩
      rw [List.append_assoc, List.singleton_append] at hlog
      exact hlog

end Inquiry

open Inquiry
open Json (Members)

/-! ## Rules that ask nothing -/

mutual

/-- Whether a predicate asks a store, at any depth. -/
def Predicate.asks : Predicate → Bool
  | .lookup _ => true
  | .nested ⟨_, fields⟩ => asksFields fields
  | .each inner => inner.asks
  | .optional => false
  | .coerceDate => false
  | .test _ => false

def asksChecks : List Check → Bool
  | [] => false
  | ⟨_, _, predicate, _, _⟩ :: rest => predicate.asks || asksChecks rest

def asksFields : List (String × Field) → Bool
  | [] => false
  | (_, ⟨checks, _⟩) :: rest => asksChecks checks || asksFields rest

end

/-- Whether a schema has a check of a store, in its fields or in those of nested schemas. -/
def Schema.asks (s : Schema) : Bool := asksFields s.fields

theorem first?_runItems {run : Site → Option Json → Inquiry Verdict}
    (h : ∀ site value, (run site value).first? = none) (site : Site) (i : Nat)
    (items : List Json) : (runItems run site i items).first? = none := by
  induction items generalizing i with
  | nil => rfl
  | cons x rest ih => exact first?_bind (h _ _) fun _ => first?_bind (ih (i + 1)) fun _ => rfl

-- a predicate, checks and fields together, as they run each other
mutual

theorem first?_run : ∀ (p : Predicate), p.asks = false → ∀ (site : Site) (value : Option Json),
    (p.run site value).first? = none
  | .optional, _, _, _ => rfl
  | .coerceDate, _, _, _ => rfl
  | .test _, _, _, _ => rfl
  | .nested ⟨_, fields⟩, h, site, value => by
    rcases value with _ | v
    · rfl
    · cases v with
      | object members => exact first?_bind (first?_runFields fields h _ members) fun _ => rfl
      | _ => rfl
  | .each inner, h, site, value => by
    rcases value with _ | v
    · rfl
    · cases v with
      | array items =>
        exact first?_bind (first?_runItems (fun s x => first?_run inner h s x) site 0 items)
          fun _ => rfl
      | _ => rfl

theorem first?_runChecks : ∀ (checks : List Check), asksChecks checks = false →
    ∀ (path : String) (failed : Option Nat) (value : Option Json),
      (runChecks checks path failed value).first? = none
  | [], _, _, _, _ => rfl
  | ⟨kind, position, predicate, _, message⟩ :: rest, h, path, failed, value => by
    simp only [asksChecks, Bool.or_eq_false_iff] at h
    simp only [runChecks]
    split
    · exact first?_runChecks rest h.2 path failed value
    · exact first?_bind (first?_run predicate h.1 _ value) fun verdict =>
        first?_bind (first?_runChecks rest h.2 path _ verdict.value) fun _ => rfl

theorem first?_runFields : ∀ (fields : List (String × Field)), asksFields fields = false →
    ∀ (base : String) (members : Members), (runFields fields base members).first? = none
  | [], _, _, _ => rfl
  | (name, ⟨checks, metadata⟩) :: rest, h, base, members => by
    simp only [asksFields, Bool.or_eq_false_iff] at h
    have hfield : (unlessSkipped checks (members.find? name)
        (runChecks checks (base ++ name) none (members.find? name))).first? = none := by
      unfold unlessSkipped
      split
      · rfl
      · exact first?_runChecks checks h.1 _ none _
    exact first?_bind hfield fun report =>
      first?_bind (first?_runFields rest h.2 base _) fun _ => rfl

end

theorem first?_validate {s : Schema} (h : s.asks = false) (document : Json) :
    (s.validate document).first? = none := by
  cases document with
  | object members => exact first?_bind (first?_runFields s.fields h "" members) fun _ => rfl
  | _ => rfl

/-! ## Documents -/

/-- **Failures.** Write down what a validation asks, and what is answered. It comes to a failure if
and only if that is the last answer, and each answer before the last one is a truth value; so no
question follows a failure. Without a store it fails where it would ask first, if it asks at all.
A schema without a check of a store at any depth asks nothing, and comes to one report whatever the
evaluator, and without a store. -/
theorem failure_ends_validation (schema : Schema) (document : Json) :
    (∀ (σ : Type) (evaluator : Evaluator (StateM σ)) (s : σ), ∃ result log t,
      (schema.validate document).resultFrom evaluator s = (result, t) ∧
      (schema.validate document).resultFrom (recording evaluator) ([], s) = (result, log, t) ∧
      (∀ e, result = .error e ↔ ∃ last, log.getLast? = some last ∧ last.answer = .error e) ∧
      (∀ asked ∈ log.dropLast, ∃ b, asked.answer = .ok b) ∧
      ∀ e, (schema.validate document).result noStore = .error e ↔
        ∃ first, log.head? = some first ∧ e = unavailable first.query first.path) ∧
    (schema.asks = false → ∃ report, (schema.validate document).result noStore = .ok report ∧
      ∀ (σ : Type) (evaluator : Evaluator (StateM σ)) (s : σ),
        (schema.validate document).resultFrom (recording evaluator) ([], s) =
          (.ok report, [], s)) := by
  refine ⟨fun σ evaluator s => ?_, fun h => ?_⟩
  · obtain ⟨log, hlog, hfirst, hamount⟩ :=
      resultFrom_recording evaluator (schema.validate document) [] s
    rw [List.nil_append] at hlog
    refine ⟨_, log, _, rfl, hlog, fun e => hamount.eq_error_iff, hamount.answered, fun e => ?_⟩
    rw [result_noStore_eq_error_iff, ← hfirst]
    cases log with
    | nil => simp
    | cons asked rest => simp [and_assoc]
  · obtain ⟨report, hreport⟩ := exists_of_first?_eq_none (first?_validate h document)
    rw [hreport]
    exact ⟨report, rfl, fun σ evaluator s => rfl⟩

/-- Users whose address is looked for twice. -/
def Schema.users : Schema :=
  ⟨"User", [("email", .ofChecks
    [⟨.exist, 0, .lookup ⟨"User", "email", .exist⟩, .empty, none⟩,
      ⟨.unique, 1, .lookup ⟨"User", "email", .unique⟩,
        { Metadata.empty with uniqueItems := some true }, none⟩])]⟩

/-- A store that breaks down between the first question and the second. -/
def closing : Evaluator (StateM Nat) := fun _ _ n =>
  (if n = 1 then .error (.storeQuery "closed") else .ok true, n + 1)

/-- The second question is the last one, and a document without a user is not asked about. -/
theorem failure_ends_validation_closed :
    (Schema.empty "User").declare "email" "exist:email|unique:email"
      { Context.empty with entity := some "User" } = .ok Schema.users ∧
    (∃ log last t,
      (Schema.users.validate (.object [("email", .string "a@b.com")])).resultFrom
        (recording closing) ([], 0) = (.error (.storeQuery "closed"), log, t) ∧
      log.getLast? = some last ∧ last.answer = .error (.storeQuery "closed") ∧
      ∀ asked ∈ log.dropLast, ∃ b, asked.answer = .ok b) ∧
    ∃ report, ((Schema.empty "User").validate (.object [("email", .null)])).result noStore =
      .ok report := by
  refine ⟨rfl, ?_, ?_⟩
  · obtain ⟨result, log, t, hrun, hrecorded, hlast, hbefore, _⟩ :=
      (failure_ends_validation Schema.users (.object [("email", .string "a@b.com")])).1 Nat closing 0
    obtain ⟨first, hfirst, second, hsecond⟩ : ∃ first,
        Schema.users.validate (.object [("email", .string "a@b.com")]) =
          .ask ⟨"User", "email", .string "a@b.com", .exist⟩ "email" first ∧ ∃ second,
        first true = .ask ⟨"User", "email", .string "a@b.com", .unique⟩ "email" second :=
      ⟨_, rfl, _, rfl⟩
    have hopen : (closing ⟨"User", "email", .string "a@b.com", .exist⟩ "email").run 0 =
      (.ok true, 1) := rfl
    have hgone : (closing ⟨"User", "email", .string "a@b.com", .unique⟩ "email").run 1 =
      (.error (.storeQuery "closed"), 2) := rfl
    have hclosed : ((Schema.users.validate (.object [("email", .string "a@b.com")])).resultFrom
        closing 0).1 = .error (.storeQuery "closed") := by
      rw [hfirst, resultFrom_ask, hopen]
      change ((first true).resultFrom closing 1).1 = _
      rw [hsecond, resultFrom_ask, hgone]
      rfl
    rw [hrun] at hclosed
    obtain ⟨last, hm, ha⟩ := (hlast _).mp hclosed
    rw [show result = .error (.storeQuery "closed") from hclosed] at hrecorded
    exact ⟨log, last, t, hrecorded, hm, ha, hbefore⟩
  · obtain ⟨report, hreport, _⟩ :=
      (failure_ends_validation (Schema.empty "User") (.object [("email", .null)])).2 rfl
    exact ⟨report, hreport⟩

end Rulebook
