import Mathlib.Data.List.Forall2
import Rulebook.Proofs.Calendar.Timestamps

/-!
# The order of moments and of their texts

A later day has a later date: its year, month and day come later in the order of lists, and so do
hour, minute, second and millisecond within a day. Numbers of one width are written in their order,
so a text that is made of such numbers, with the same characters between them, keeps the order too.

* `Date.parts_ofNumber_lt`, `Moment.parts_ofMillis_lt`: later days and moments;
* `padded_lt`, `written_lt`: numbers of fixed width, and texts made of them;
* `Moment.text_eq_written`: the text of a moment in a year of four digits;
* `Moment.isInRange_iff`: the days of the years in range;
* `Moment.hasPlainYear_ofMillis_iff`: which milliseconds are in years of four digits.
-/

namespace Rulebook

/-! ## Digits -/

namespace Digits

theorem value_cons (c : Char) (digits : List Char) :
    value (c :: digits) = 10 ^ digits.length * digitValue c + value digits := by
  have hfold : value (c :: digits) = Nat.ofDigitChars 10 digits (10 * 0 + digitValue c) := rfl
  rw [hfold, Nat.ofDigitChars_eq_ofDigitChars_zero, Nat.mul_zero, Nat.zero_add]
  rfl

theorem eq_of_digitValue_eq {c d : Char} (hc : c.isDigit = true) (hd : d.isDigit = true)
    (h : digitValue c = digitValue d) : c = d := by
  have hc0 := zero_le_of_isDigit hc
  have hd0 := zero_le_of_isDigit hd
  simp only [digitValue] at h
  exact Char.toNat_inj.mp (by omega)

theorem lt_of_digitValue_lt {c d : Char} (h : digitValue c < digitValue d) : c < d := by
  simp only [digitValue] at h
  have hnat : c.toNat < d.toNat := by omega
  exact hnat

/-- Of as many digits each, those of the smaller number come first. -/
theorem lt_of_value_lt {xs ys : List Char} (hlength : xs.length = ys.length)
    (hx : ∀ c ∈ xs, c.isDigit = true) (hy : ∀ c ∈ ys, c.isDigit = true)
    (h : value xs < value ys) : xs < ys := by
  induction xs generalizing ys with
  | nil =>
    obtain rfl : ys = [] := List.length_eq_zero_iff.mp hlength.symm
    exact absurd h (Nat.lt_irrefl _)
  | cons c xs ih =>
    cases ys with
    | nil => cases hlength
    | cons d ys =>
      obtain ⟨hc, hxs⟩ := List.forall_mem_cons.mp hx
      obtain ⟨hd, hys⟩ := List.forall_mem_cons.mp hy
      have hrest : xs.length = ys.length := Nat.succ.inj hlength
      have hxlt := value_lt hxs
      have hylt := value_lt hys
      rw [value_cons, value_cons, hrest] at h
      rw [hrest] at hxlt
      rw [List.cons_lt_cons_iff]
      rcases Nat.lt_trichotomy (digitValue c) (digitValue d) with hcd | hcd | hcd
      · exact .inl (lt_of_digitValue_lt hcd)
      · rw [hcd] at h
        exact .inr ⟨eq_of_digitValue_eq hc hd hcd, ih hrest hxs hys (by omega)⟩
      · -- a greater first digit outweighs all digits behind it
        have hstep : 10 ^ ys.length * (digitValue d + 1) ≤ 10 ^ ys.length * digitValue c :=
          Nat.mul_le_mul_left _ hcd
        rw [Nat.mul_succ] at hstep
        omega

end Digits

namespace Calendar

open Moment (padded)

/-! ## Numbers of fixed width -/

theorem padded_lt {width n m : Nat} (hw : 0 < width) (hm : m < 10 ^ width) (h : n < m) :
    padded width n < padded width m := by
  have hn : n < 10 ^ width := Nat.lt_trans h hm
  refine Digits.lt_of_value_lt ?_ (fun _ => isDigit_of_mem_padded)
    (fun _ => isDigit_of_mem_padded) ?_
  · rw [length_padded hw hn, length_padded hw hm]
  · rw [value_padded, value_padded]
    exact h

/-- Texts of one length decide before what follows them. -/
theorem append_lt_append {xs ys : List Char} (hlength : xs.length = ys.length) (h : xs < ys)
    (rest other : List Char) : xs ++ rest < ys ++ other := by
  induction xs generalizing ys with
  | nil =>
    obtain rfl : ys = [] := List.length_eq_zero_iff.mp hlength.symm
    exact absurd h (List.lt_irrefl _)
  | cons c xs ih =>
    cases ys with
    | nil => cases hlength
    | cons d ys =>
      rw [List.cons_append, List.cons_append, List.cons_lt_cons_iff]
      rcases List.cons_lt_cons_iff.mp h with hcd | ⟨hcd, hrest⟩
      · exact .inl hcd
      · exact .inr ⟨hcd, ih (Nat.succ.inj hlength) hrest⟩

/-- Numbers, each of a fixed width and with a character behind it. -/
def written : List (Nat × Char) → List Nat → List Char
  | (width, mark) :: layout, n :: numbers => padded width n ++ mark :: written layout numbers
  | _, _ => []

/-- Each number is one that its width is enough for. -/
def Fits (layout : List (Nat × Char)) (numbers : List Nat) : Prop :=
  List.Forall₂ (fun part n => 0 < part.1 ∧ n < 10 ^ part.1) layout numbers

/-- Numbers in order are written in order. -/
theorem written_lt {layout : List (Nat × Char)} {ms ns : List Nat} (hm : Fits layout ms)
    (hn : Fits layout ns) (h : ms < ns) : written layout ms < written layout ns := by
  induction hm generalizing ns with
  | nil =>
    cases hn
    exact absurd h (List.lt_irrefl _)
  | @cons part m layout ms hpart _ ih =>
    cases hn with
    | @cons _ n _ ns hpart' hns =>
      obtain ⟨width, mark⟩ := part
      show padded width m ++ mark :: written layout ms < padded width n ++ mark :: written layout ns
      rcases List.cons_lt_cons_iff.mp h with hmn | ⟨rfl, hrest⟩
      · refine append_lt_append ?_ (padded_lt hpart.1 hpart'.2 hmn) _ _
        rw [length_padded hpart.1 hpart.2, length_padded hpart.1 hpart'.2]
      · exact List.append_left_lt (List.cons_lt_cons_iff.mpr (.inr ⟨rfl, ih hns hrest⟩))

/-- Digits and marks are written, nothing else. -/
theorem of_mem_written {layout : List (Nat × Char)} {numbers : List Nat} {c : Char}
    (h : c ∈ written layout numbers) : c.isDigit = true ∨ ∃ part ∈ layout, part.2 = c := by
  induction layout generalizing numbers with
  | nil => cases h
  | cons part layout ih =>
    cases numbers with
    | nil => cases h
    | cons n numbers =>
      rcases List.mem_append.mp h with h | h
      · exact .inl (isDigit_of_mem_padded h)
      · rcases List.mem_cons.mp h with rfl | h
        · exact .inr ⟨part, List.mem_cons_self .., rfl⟩
        · rcases ih h with h | ⟨other, ho, h⟩
          · exact .inl h
          · exact .inr ⟨other, List.mem_cons_of_mem _ ho, h⟩

/-! ## Bytes -/

/-- The bytes of a text. -/
def bytes (s : String) : List UInt8 := s.toUTF8.data.toList

theorem bytes_ofList (text : List Char) :
    bytes (String.ofList text) = text.flatMap String.utf8EncodeChar := by
  simp [bytes, String.toUTF8, String.toByteArray_ofList, List.utf8Encode]

/-- ASCII texts in order have bytes in order. -/
theorem bytes_lt {xs ys : List Char} (hx : ∀ c ∈ xs, c.toNat < 128) (hy : ∀ c ∈ ys, c.toNat < 128)
    (h : xs < ys) : bytes (String.ofList xs) < bytes (String.ofList ys) := by
  have hbyte : ∀ c : Char, c.toNat < 128 → String.utf8EncodeChar c = [UInt8.ofNat c.toNat] := by
    intro c hc
    have hle : c.val.toNat ≤ 127 := Nat.le_of_lt_succ hc
    simp only [String.utf8EncodeChar, hle, ↓reduceIte]
    rfl
  rw [bytes_ofList, bytes_ofList]
  induction xs generalizing ys with
  | nil =>
    cases ys with
    | nil => exact absurd h (List.lt_irrefl _)
    | cons d ys =>
      rw [List.flatMap_cons, hbyte d (hy d (List.mem_cons_self ..))]
      exact List.nil_lt_cons _ _
  | cons c xs ih =>
    cases ys with
    | nil => cases h
    | cons d ys =>
      obtain ⟨hc, hxs⟩ := List.forall_mem_cons.mp hx
      obtain ⟨hd, hys⟩ := List.forall_mem_cons.mp hy
      rw [List.flatMap_cons, List.flatMap_cons, hbyte c hc, hbyte d hd, List.singleton_append,
        List.singleton_append, List.cons_lt_cons_iff]
      rcases List.cons_lt_cons_iff.mp h with hcd | ⟨rfl, hrest⟩
      · have hsize : UInt8.size = 256 := rfl
        have hnat : c.toNat < d.toNat := hcd
        exact .inl ((UInt8.ofNat_lt_iff_lt (by omega) (by omega)).mpr hnat)
      · exact .inr ⟨rfl, ih hxs hys hrest⟩

/-! ## Dates -/

/-- In a year of these months, later days are in later months or later in a month. -/
theorem splitMonth_lt (lengths : List Nat) {a b : Nat} (h : a < b) :
    (splitMonth lengths a).1 < (splitMonth lengths b).1 ∨
      (splitMonth lengths a).1 = (splitMonth lengths b).1 ∧
        (splitMonth lengths a).2 < (splitMonth lengths b).2 := by
  induction lengths generalizing a b with
  | nil => exact .inr ⟨rfl, h⟩
  | cons length rest ih =>
    simp only [splitMonth]
    by_cases hb : b < length
    · have ha : a < length := by omega
      rw [if_pos ha, if_pos hb]
      exact .inr ⟨rfl, h⟩
    · rw [if_neg hb]
      by_cases ha : a < length
      · rw [if_pos ha]
        exact .inl (Nat.succ_pos _)
      · rw [if_neg ha]
        have hrest : a - length < b - length := by omega
        rcases ih hrest with hm | ⟨hm, hd⟩
        · exact .inl (Nat.succ_lt_succ hm)
        · exact .inr ⟨congrArg (· + 1) hm, hd⟩

theorem yearStart_mono {y z : Int} (h : y ≤ z) : yearStart y ≤ yearStart z := by
  simp only [yearStart]
  omega

/-- A day is in no earlier year than the days before it. -/
theorem yearOf_mono {a b : Int} (h : a ≤ b) : yearOf a ≤ yearOf b := by
  have hstart := yearStart_yearOf_le a
  have hend := lt_yearStart_yearOf b
  by_contra hlt
  have hmono := yearStart_mono (show yearOf b + 1 ≤ yearOf a by omega)
  omega

/-- The parts of a date in a year that is not negative, greater ones first. -/
def Date.parts (d : Date) : List Nat := [d.year.toNat, d.month, d.day]

/-- A later day has a later date. -/
theorem Date.parts_ofNumber_lt {n m : Int} (h0 : 0 ≤ (ofNumber n).year) (h : n < m)
    {rest other : List Nat} :
    (ofNumber n).parts ++ rest < (ofNumber m).parts ++ other := by
  have hyear : yearOf (n + epoch) ≤ yearOf (m + epoch) := yearOf_mono (by omega)
  have hstart := yearStart_yearOf_le (n + epoch)
  have h0' : 0 ≤ yearOf (n + epoch) := h0
  simp only [parts, ofNumber, List.cons_append, List.cons_lt_cons_iff]
  rcases Int.lt_or_eq_of_le hyear with hlt | heq
  · exact .inl (by omega)
  · have hday : (n + epoch - yearStart (yearOf (n + epoch))).toNat <
        (m + epoch - yearStart (yearOf (n + epoch))).toNat := by omega
    rw [← heq]
    refine .inr ⟨rfl, ?_⟩
    rcases splitMonth_lt (monthLengths (isLeap (yearOf (n + epoch)))) hday with hm | ⟨hm, hd⟩
    · exact .inl (Nat.succ_lt_succ hm)
    · exact .inr ⟨congrArg (· + 1) hm, .inl (Nat.succ_lt_succ hd)⟩

/-! ## Moments -/

/-- The parts of a time of day to the millisecond, greater ones first. -/
def Clock.parts (c : Clock) : List Nat := [c.hour, c.minute, c.second, c.nanos / 1000000]

namespace Moment

def parts (m : Moment) : List Nat := m.date.parts ++ m.clock.parts

/-- How many digits the parts of a moment are written with, and what stands behind each, as in
`2024-03-01T10:15:00.000Z`. -/
def layout : List (Nat × Char) :=
  [(4, '-'), (2, '-'), (2, 'T'), (2, ':'), (2, ':'), (2, '.'), (3, 'Z')]

theorem text_eq_written {m : Moment} (h : m.HasPlainYear) : m.text = written layout m.parts := by
  have hyear : yearText m.date.year = padded 4 m.date.year.toNat := if_pos h
  rw [text_eq, dateText, hyear]
  simp [clockText, layout, parts, Date.parts, Clock.parts, written]

theorem fits_parts {m : Moment} (h : m.HasPlainYear) (hn : m.nanos < 1000000000) :
    Fits layout m.parts := by
  obtain ⟨h0, h9⟩ := h
  obtain ⟨hmonth, hday⟩ := Date.lt_of_ofNumber (m.second / secondsPerDay)
  have hmonth' : m.date.month < 100 := hmonth
  have hday' : m.date.day < 100 := hday
  have hc := m.isValid_clock
  have hmillis : m.clock.nanos / 1000000 < 1000 := by
    have hsame : m.clock.nanos = m.nanos := rfl
    omega
  simp only [Clock.isValid, Bool.and_eq_true, decide_eq_true_eq] at hc
  simp only [Fits, layout, parts, Date.parts, Clock.parts, List.cons_append, List.nil_append,
    List.forall₂_cons, List.forall₂_nil_left_iff, Nat.reducePow, and_true]
  omega

/-- A later millisecond has later parts. -/
theorem parts_ofMillis_lt {a b : Int} (h0 : 0 ≤ (ofMillis a).date.year) (h : a < b) :
    (ofMillis a).parts < (ofMillis b).parts := by
  have hday : a / 1000 / secondsPerDay ≤ b / 1000 / secondsPerDay := by
    simp only [secondsPerDay]
    omega
  rcases Int.lt_or_eq_of_le hday with hlt | heq
  · exact Date.parts_ofNumber_lt h0 hlt
  · have hdate : (ofMillis a).date = (ofMillis b).date := congrArg Date.ofNumber heq
    rw [parts, parts, hdate]
    refine List.append_left_lt ?_
    simp only [secondsPerDay] at heq
    simp only [Clock.parts, clock, ofMillis, secondsPerDay, Bool.false_eq_true, ↓reduceIte,
      List.cons_lt_cons_iff]
    omega

theorem year_ofNumber_lt_iff (n year : Int) :
    (Date.ofNumber n).year < year ↔ n + Date.epoch < yearStart year := by
  have hstart := yearStart_yearOf_le (n + Date.epoch)
  have hend := lt_yearStart_yearOf (n + Date.epoch)
  show yearOf (n + Date.epoch) < year ↔ _
  constructor
  · intro h
    have hmono := yearStart_mono (show yearOf (n + Date.epoch) + 1 ≤ year by omega)
    omega
  · intro h
    by_contra hle
    have hmono := yearStart_mono (show year ≤ yearOf (n + Date.epoch) by omega)
    omega

/-- The year is one of those that dates may have. -/
def IsInRange (m : Moment) : Prop :=
  Date.leastYear ≤ m.date.year ∧ m.date.year ≤ Date.greatestYear

theorem isInRange_iff (m : Moment) :
    m.IsInRange ↔ yearStart Date.leastYear ≤ m.second / secondsPerDay + Date.epoch ∧
      m.second / secondsPerDay + Date.epoch < yearStart (Date.greatestYear + 1) := by
  have hleast := year_ofNumber_lt_iff (m.second / secondsPerDay) Date.leastYear
  have hgreatest := year_ofNumber_lt_iff (m.second / secondsPerDay) (Date.greatestYear + 1)
  simp only [IsInRange, date]
  omega

theorem HasPlainYear.isInRange {m : Moment} (h : m.HasPlainYear) : m.IsInRange :=
  ⟨Int.le_trans (by decide) h.1, Int.le_trans h.2 (by decide)⟩

theorem nanos_ofMillis_lt (n : Int) : (ofMillis n).nanos < 1000000000 := by
  simp only [ofMillis]
  omega

/-- The years 0 to 9999 in milliseconds. -/
theorem hasPlainYear_ofMillis_iff {n : Int} :
    (ofMillis n).HasPlainYear ↔ -62167219200000 ≤ n ∧ n ≤ 253402300799999 := by
  have hfirst := year_ofNumber_lt_iff (n / 1000 / secondsPerDay) 0
  have hlast := year_ofNumber_lt_iff (n / 1000 / secondsPerDay) 10000
  have h0 : yearStart 0 = 0 := by decide
  have h9 : yearStart 10000 = 3652425 := by decide
  simp only [Date.epoch, secondsPerDay, h0] at hfirst
  simp only [Date.epoch, secondsPerDay, h9] at hlast
  show 0 ≤ (Date.ofNumber (n / 1000 / 86400)).year ∧
    (Date.ofNumber (n / 1000 / 86400)).year ≤ 9999 ↔ _
  omega

/-- The texts of later milliseconds come later. -/
theorem bytes_text_ofMillis_lt {a b : Int} (ha : (ofMillis a).HasPlainYear)
    (hb : (ofMillis b).HasPlainYear) (h : a < b) :
    bytes (String.ofList (ofMillis a).text) < bytes (String.ofList (ofMillis b).text) := by
  have hmarks : ∀ part ∈ layout, part.2.toNat < 128 := by decide
  have hascii : ∀ numbers, ∀ c ∈ written layout numbers, c.toNat < 128 := by
    intro numbers c hc
    rcases of_mem_written hc with hc | ⟨part, hpart, rfl⟩
    · simp only [Char.isDigit, Bool.and_eq_true, decide_eq_true_eq] at hc
      have h9 : c.toNat ≤ '9'.toNat := hc.2
      exact Nat.lt_of_le_of_lt h9 (by decide)
    · exact hmarks part hpart
  rw [text_eq_written ha, text_eq_written hb]
  refine bytes_lt (hascii _) (hascii _) ?_
  exact written_lt (fits_parts ha (nanos_ofMillis_lt a)) (fits_parts hb (nanos_ofMillis_lt b))
    (parts_ofMillis_lt ha.1 h)

/-- A moment that is no leap second is made of its date and its time of day. -/
theorem of?_date_clock {m : Moment} (hvalid : m.date.isValid = true) (hleap : m.leap = false) :
    of? m.date m.clock 0 = some m := by
  obtain ⟨second, nanos, leap⟩ := m
  obtain rfl : leap = false := hleap
  have hnumber : (Moment.date ⟨second, nanos, false⟩).number = second / secondsPerDay :=
    Date.number_ofNumber _
  simp only [of?, hvalid, isValid_clock, Bool.and_self, ↓reduceIte, hnumber, Option.some.injEq,
    Moment.mk.injEq]
  refine ⟨?_, rfl, ?_⟩
  · simp only [Clock.seconds, clock, secondsPerDay, Bool.false_eq_true, ↓reduceIte]
    omega
  · simp only [clock, Bool.false_eq_true, ↓reduceIte, beq_eq_false_iff_ne]
    omega

/-- What is written for a count of milliseconds is read as that many. -/
theorem readTimestamp_text_ofMillis {n : Int} (h : (ofMillis n).HasPlainYear) :
    readTimestamp (ofMillis n).text = some (ofMillis n) := by
  have hmillis : (ofMillis n).clock.toMillis = (ofMillis n).clock := by
    simp only [Clock.toMillis, clock, ofMillis, Clock.mk.injEq, true_and]
    omega
  rw [readTimestamp_text_eq h (nanos_ofMillis_lt n), hmillis]
  exact of?_date_clock (isValid_date h) rfl

end Moment

end Calendar

end Rulebook
