import Mathlib.Data.List.Forall2
import Rulebook.Proofs.Validation.Results
import Rulebook.Rule.Compile

/-!
# Documents field by field

A document is validated by going through the fields of its schema; each reads its member from the
document as the fields before left it, and writes it back. As no two fields have the same name, no
field sees what another one wrote, and the whole amounts to validating every field by itself on the
document as it came.

* `result_runFields`: the fields of a schema on the members of an object;
* `find?_writeBack`, `keys_writeBack`: the members after all that was written back;
* `fieldReports_error_iff`: the first field that fails;
* `validate_fieldwise`: documents.
-/

namespace Rulebook

open Inquiry (Evaluator result_bind)
open Json (Members)

/-! ## Reports of single fields -/

/-- What validating a value by a field comes to. -/
def Field.report (evaluator : Evaluator Id) (f : Field) (path : String) (value : Option Json) :
    Except Failure FieldReport :=
  (f.validate path value).result evaluator

/-- The reports of fields by name, each on its member of the object as it came. -/
def fieldReports (evaluator : Evaluator Id) (base : String) (members : Members) :
    List (String × Field) → Except Failure (List (String × FieldReport))
  | [] => .ok []
  | (name, f) :: rest => do
    let report ← f.report evaluator (base ++ name) (members.find? name)
    let reports ← fieldReports evaluator base members rest
    pure ((name, report) :: reports)

/-- A field that is absent from the document has no value to write back. -/
def writeOne (name : String) (report : FieldReport) (members : Members) : Members :=
  match report.value with
  | some v => members.replace name v
  | none => members

/-- The members of an object after the values of these reports were written back. -/
def writeBack (reports : List (String × FieldReport)) (members : Members) : Members :=
  reports.foldl (fun ms r => writeOne r.1 r.2 ms) members

/-! ## Writing back -/

theorem find?_writeOne_of_ne {name key : String} (h : key ≠ name) (report : FieldReport)
    (members : Members) : (writeOne name report members).find? key = members.find? key := by
  unfold writeOne
  split
  · exact Members.find?_replace_of_ne h _ members
  · rfl

theorem find?_writeOne_self (name : String) (report : FieldReport) (members : Members) :
    (writeOne name report members).find? name =
      (members.find? name).map fun v => report.value.getD v := by
  unfold writeOne
  split
  · next v hv => simp [Members.find?_replace_self, hv]
  · next hv => simp [hv]

theorem keys_writeOne (name : String) (report : FieldReport) (members : Members) :
    (writeOne name report members).map Prod.fst = members.map Prod.fst := by
  unfold writeOne
  split
  · exact Members.keys_replace name _ members
  · rfl

theorem keys_writeBack (reports : List (String × FieldReport)) (members : Members) :
    (writeBack reports members).map Prod.fst = members.map Prod.fst := by
  induction reports generalizing members with
  | nil => rfl
  | cons r rest ih => exact (ih (writeOne r.1 r.2 members)).trans (keys_writeOne r.1 r.2 members)

theorem find?_writeBack_of_not_mem {reports : List (String × FieldReport)} {key : String}
    (h : key ∉ reports.map Prod.fst) (members : Members) :
    (writeBack reports members).find? key = members.find? key := by
  induction reports generalizing members with
  | nil => rfl
  | cons r rest ih =>
    rw [List.map_cons, List.mem_cons, not_or] at h
    exact (ih h.2 (writeOne r.1 r.2 members)).trans (find?_writeOne_of_ne h.1 r.2 members)

/-- A name that occurs once is written once. -/
theorem find?_writeBack {reports : List (String × FieldReport)}
    (hn : (reports.map Prod.fst).Nodup) {name : String} {report : FieldReport}
    (h : (name, report) ∈ reports) (members : Members) :
    (writeBack reports members).find? name =
      (members.find? name).map fun v => report.value.getD v := by
  induction reports generalizing members with
  | nil => cases h
  | cons r rest ih =>
    rw [List.map_cons, List.nodup_cons] at hn
    rcases List.mem_cons.mp h with rfl | hr
    · exact (find?_writeBack_of_not_mem hn.1 _).trans (find?_writeOne_self name report members)
    · have hne : name ≠ r.1 := by
        rintro rfl
        exact hn.1 (List.mem_map.mpr ⟨_, hr, rfl⟩)
      rw [← find?_writeOne_of_ne hne r.2 members]
      exact ih hn.2 hr (writeOne r.1 r.2 members)

/-! ## All fields of a schema -/

/-- Fields do not read what was written under another name. -/
theorem fieldReports_writeOne (evaluator : Evaluator Id) (base : String)
    {fields : List (String × Field)} {name : String} (h : name ∉ fields.map Prod.fst)
    (report : FieldReport) (members : Members) :
    fieldReports evaluator base (writeOne name report members) fields =
      fieldReports evaluator base members fields := by
  induction fields with
  | nil => rfl
  | cons p rest ih =>
    rw [List.map_cons, List.mem_cons, not_or] at h
    have hp : (writeOne name report members).find? p.1 = members.find? p.1 :=
      find?_writeOne_of_ne (Ne.symm h.1) report members
    simp only [fieldReports, hp, ih h.2]

/-- The fields of a schema, one after another, come to what each of them comes to by itself. -/
theorem result_runFields (evaluator : Evaluator Id) (base : String)
    {fields : List (String × Field)} (hn : (fields.map Prod.fst).Nodup) (members : Members) :
    (runFields fields base members).result evaluator = (do
      let reports ← fieldReports evaluator base members fields
      pure ⟨writeBack reports members, reports.flatMap fun r => r.2.violations⟩) := by
  induction fields generalizing members with
  | nil => rfl
  | cons p rest ih =>
    obtain ⟨name, f⟩ := p
    rw [List.map_cons, List.nodup_cons] at hn
    rw [runFields_cons, result_bind]
    simp only [fieldReports, LawfulMonad.bind_assoc]
    refine congrArg _ (funext fun report => ?_)
    rw [result_bind]
    change (runFields rest base (writeOne name report members)).result evaluator >>= _ = _
    rw [ih hn.2, fieldReports_writeOne evaluator base hn.1]
    simp only [LawfulMonad.bind_assoc, pure_bind]
    rfl

/-! ## Which fields fail -/

theorem names_of_fieldReports {evaluator : Evaluator Id} {base : String} {members : Members}
    {fields : List (String × Field)} {reports : List (String × FieldReport)}
    (h : fieldReports evaluator base members fields = .ok reports) :
    reports.map Prod.fst = fields.map Prod.fst := by
  induction fields generalizing reports with
  | nil =>
    obtain rfl := Except.ok.inj h
    rfl
  | cons p rest ih =>
    obtain ⟨report, _, h⟩ := bind_eq_ok.mp h
    obtain ⟨more, hm, h⟩ := bind_eq_ok.mp h
    obtain rfl := Except.ok.inj h
    simp [ih hm]

theorem forall₂_of_fieldReports {evaluator : Evaluator Id} {base : String} {members : Members}
    {fields : List (String × Field)} {reports : List (String × FieldReport)}
    (h : fieldReports evaluator base members fields = .ok reports) :
    List.Forall₂ (fun p r => p.1 = r.1 ∧
      p.2.report evaluator (base ++ p.1) (members.find? p.1) = .ok r.2) fields reports := by
  induction fields generalizing reports with
  | nil =>
    obtain rfl := Except.ok.inj h
    exact .nil
  | cons p rest ih =>
    obtain ⟨report, hr, h⟩ := bind_eq_ok.mp h
    obtain ⟨more, hm, h⟩ := bind_eq_ok.mp h
    obtain rfl := Except.ok.inj h
    exact .cons ⟨rfl, hr⟩ (ih hm)

theorem exists_report_of_mem {evaluator : Evaluator Id} {base : String} {members : Members}
    {fields : List (String × Field)} {reports : List (String × FieldReport)}
    (h : fieldReports evaluator base members fields = .ok reports) {name : String} {f : Field}
    (hf : (name, f) ∈ fields) :
    ∃ r, (name, r) ∈ reports ∧ f.report evaluator (base ++ name) (members.find? name) = .ok r := by
  induction forall₂_of_fieldReports h with
  | nil => cases hf
  | @cons p r _ more hp _ ih =>
    obtain ⟨_, _, h⟩ := bind_eq_ok.mp h
    obtain ⟨_, hm, h⟩ := bind_eq_ok.mp h
    obtain ⟨rfl, rfl⟩ := List.cons.inj (Except.ok.inj h)
    rcases List.mem_cons.mp hf with rfl | hf
    · exact ⟨_, List.mem_cons_self .., hp.2⟩
    · obtain ⟨r, hr, hfr⟩ := ih hm hf
      exact ⟨r, List.mem_cons_of_mem _ hr, hfr⟩

/-- There are reports of all fields unless one of them fails. -/
theorem exists_fieldReports_iff {evaluator : Evaluator Id} {base : String} {members : Members}
    {fields : List (String × Field)} :
    (∃ reports, fieldReports evaluator base members fields = .ok reports) ↔
      ∀ p ∈ fields, ∃ r, p.2.report evaluator (base ++ p.1) (members.find? p.1) = .ok r := by
  induction fields with
  | nil => simp [fieldReports]
  | cons p rest ih =>
    rw [List.forall_mem_cons, ← ih]
    constructor
    · rintro ⟨reports, h⟩
      obtain ⟨report, hr, h⟩ := bind_eq_ok.mp h
      obtain ⟨more, hm, _⟩ := bind_eq_ok.mp h
      exact ⟨⟨report, hr⟩, more, hm⟩
    · rintro ⟨⟨report, hr⟩, more, hm⟩
      exact ⟨(p.1, report) :: more, bind_eq_ok.mpr ⟨report, hr, bind_eq_ok.mpr ⟨more, hm, rfl⟩⟩⟩

theorem fieldReports_cons_error_iff {evaluator : Evaluator Id} {base : String} {members : Members}
    {p : String × Field} {rest : List (String × Field)} {e : Failure} :
    fieldReports evaluator base members (p :: rest) = .error e ↔
      p.2.report evaluator (base ++ p.1) (members.find? p.1) = .error e ∨
        (∃ r, p.2.report evaluator (base ++ p.1) (members.find? p.1) = .ok r) ∧
          fieldReports evaluator base members rest = .error e := by
  refine bind_eq_error.trans (or_congr_right ?_)
  constructor
  · rintro ⟨r, hr, h⟩
    obtain h | ⟨_, _, h⟩ := bind_eq_error.mp h
    · exact ⟨⟨r, hr⟩, h⟩
    · cases h
  · rintro ⟨⟨r, hr⟩, h⟩
    exact ⟨r, hr, bind_eq_error.mpr (Or.inl h)⟩

/-- The failure is that of the first field that fails. -/
theorem fieldReports_error_iff {evaluator : Evaluator Id} {base : String} {members : Members}
    {fields : List (String × Field)} {e : Failure} :
    fieldReports evaluator base members fields = .error e ↔
      ∃ (before : List (String × Field)) (p : String × Field) (after : List (String × Field)),
        fields = before ++ p :: after ∧
        (∀ q ∈ before, ∃ r, q.2.report evaluator (base ++ q.1) (members.find? q.1) = .ok r) ∧
        p.2.report evaluator (base ++ p.1) (members.find? p.1) = .error e := by
  induction fields with
  | nil => simp [fieldReports]
  | cons p rest ih =>
    rw [fieldReports_cons_error_iff, ih, exists_split_cons_iff]

/-! ## Documents -/

theorem result_validate (evaluator : Evaluator Id) {s : Schema} (hs : s.Built) (members : Members) :
    (s.validate (.object members)).result evaluator = (do
      let reports ← fieldReports evaluator "" members s.fields
      pure ⟨.object (writeBack reports members), reports.flatMap fun r => r.2.violations⟩) := by
  change (runFields s.fields "" members >>= _).result evaluator = _
  rw [result_bind, result_runFields evaluator "" hs.nodup_names, LawfulMonad.bind_assoc]
  rfl

/-- **Field by field.** A document is validated if and only if each field is by itself, on the
member of its name as it came. Then the violations are those of the fields, in the order of their
declaration; no key comes or goes, members that no field declares are left alone, and the others
hold what their fields report. If a field fails, so does the document, with the failure of the
first one that does. -/
theorem validate_fieldwise {s : Schema} (hs : s.Built) (members : Members)
    (evaluator : Evaluator Id) :
    ((∃ r, (s.validate (.object members)).result evaluator = .ok r) ↔
      ∀ p ∈ s.fields, ∃ r, p.2.report evaluator p.1 (members.find? p.1) = .ok r) ∧
    (∀ r, (s.validate (.object members)).result evaluator = .ok r →
      (∃ reports,
        List.Forall₂ (fun p q => p.2.report evaluator p.1 (members.find? p.1) = .ok q) s.fields
          reports ∧
        r.violations = reports.flatMap FieldReport.violations) ∧
      ∃ out : Members, r.value = .object out ∧ out.map Prod.fst = members.map Prod.fst ∧
        (∀ key, s.get? key = none → out.find? key = members.find? key) ∧
        (∀ key, members.find? key = none → out.find? key = none) ∧
        ∀ key f v, s.get? key = some f → members.find? key = some v →
          ∃ q w, f.report evaluator key (some v) = .ok q ∧ q.value = some w ∧
            out.find? key = some w) ∧
    ∀ e, (s.validate (.object members)).result evaluator = .error e ↔
      ∃ before p after, s.fields = before ++ p :: after ∧
        (∀ q ∈ before, ∃ r, q.2.report evaluator q.1 (members.find? q.1) = .ok r) ∧
        p.2.report evaluator p.1 (members.find? p.1) = .error e := by
  have hn := hs.nodup_names
  have hbase : ∀ name : String, "" ++ name = name := fun name => by simp
  rw [result_validate evaluator hs]
  refine ⟨?_, ?_, ?_⟩
  · have h := @exists_fieldReports_iff evaluator "" members s.fields
    simp only [hbase] at h
    rw [← h]
    constructor
    · rintro ⟨r, hr⟩
      obtain ⟨reports, hreports, _⟩ := bind_eq_ok.mp hr
      exact ⟨reports, hreports⟩
    · rintro ⟨reports, hreports⟩
      exact ⟨_, bind_eq_ok.mpr ⟨reports, hreports, rfl⟩⟩
  · intro r hr
    obtain ⟨reports, hreports, h⟩ := bind_eq_ok.mp hr
    obtain rfl := Except.ok.inj h
    have hall := forall₂_of_fieldReports hreports
    have hkeys : reports.map Prod.fst = s.names := names_of_fieldReports hreports
    simp only [hbase] at hall
    refine ⟨⟨reports.map Prod.snd, ?_, ?_⟩, writeBack reports members, rfl,
      keys_writeBack reports members, ?_, ?_, ?_⟩
    · exact List.forall₂_map_right_iff.mpr (hall.imp fun _ _ h => h.2)
    · rw [List.flatMap_map]
    · intro key hk
      refine find?_writeBack_of_not_mem ?_ members
      rw [hkeys]
      exact Schema.get?_eq_none_iff.mp hk
    · intro key hk
      by_cases hm : key ∈ reports.map Prod.fst
      · obtain ⟨⟨name, report⟩, hr, rfl⟩ := List.mem_map.mp hm
        rw [find?_writeBack (hkeys ▸ hn) hr, hk]
        rfl
      · rw [find?_writeBack_of_not_mem hm, hk]
    · intro key f v hf hv
      obtain ⟨report, hm, hreport⟩ :=
        exists_report_of_mem hreports (Schema.mem_fields_of_get? hf)
      rw [hbase, hv] at hreport
      -- a value that is there stays there
      have hsome := isSome_congr ((always_isNull_validate f key (some v)).of_result hreport)
      obtain ⟨w, hw⟩ := Option.isSome_iff_exists.mp hsome
      exact ⟨report, w, hreport, hw, by rw [find?_writeBack (hkeys ▸ hn) hm, hv]; simp [hw]⟩
  · intro e
    have h := @fieldReports_error_iff evaluator "" members s.fields e
    simp only [hbase] at h
    rw [← h]
    refine bind_eq_error.trans (or_iff_left ?_)
    rintro ⟨_, _, hpure⟩
    cases hpure

/-- A field that is declared anew, and a date that is coerced in a document with a note besides. -/
theorem validate_fieldwise_event :
    ∃ s : Schema, s.Built ∧ s.names = ["title", "day"] ∧
      ∃ (r : Report) (out : Members),
        (s.validate (.object [("day", .string "2024-02-29"), ("note", .null)])).result
          Inquiry.noStore = .ok r ∧
        r.value = .object out ∧ out.map Prod.fst = ["day", "note"] ∧
        ∃ w, out.find? "day" = some w := by
  have hs := @Schema.Built.declare _ _ "title" "optional|string" Context.empty
    (@Schema.Built.declare _ _ "day" "date" Context.empty
      (@Schema.Built.declare _ _ "title" "required" Context.empty (.empty "Event") rfl) rfl) rfl
  refine ⟨_, hs, rfl, ?_⟩
  have h := validate_fieldwise hs [("day", .string "2024-02-29"), ("note", .null)] Inquiry.noStore
  obtain ⟨r, hr⟩ := h.1.mpr (by
    intro p hp
    obtain rfl | rfl := List.mem_pair.mp hp
    · exact ⟨_, rfl⟩
    · exact ⟨_, rfl⟩)
  obtain ⟨_, out, hout, hkeys, _, _, hvalues⟩ := h.2.1 r hr
  obtain ⟨_, w, _, _, hw⟩ := hvalues "day" _ (.string "2024-02-29") rfl rfl
  exact ⟨r, out, hr, hout, hkeys, w, hw⟩

end Rulebook
