import Mathlib.Data.Rat.Floor
import Rulebook.Proofs.Calendar.Layouts
import Rulebook.Proofs.Field.Milliseconds

/-!
# Instants in texts and in numbers

The parts that a text states add up to an instant, an exact number of seconds. As a date this text
is what the count of the instant's milliseconds is, so that the layout of a text, its offset and
the digits beyond the millisecond make no difference.

* `Date.number_next`: the days are counted one by one;
* `fractionNanos_eq`, `Reading.millis_moment`: what is dropped of a fraction;
* `Moment.text_ofMillis_millis`: a text shows whole milliseconds;
* `text_agrees_with_milliseconds`: texts and counts that name one instant.
-/

namespace Rulebook

/-! ## Fractions -/

namespace Digits

theorem value_append (xs ys : List Char) :
    value (xs ++ ys) = value xs * 10 ^ ys.length + value ys := by
  induction ys using List.reverseRecOn with
  | nil => simp [value]
  | append_singleton ys y ih =>
    rw [← List.append_assoc, value_append_singleton, value_append_singleton, ih,
      List.length_append, List.length_singleton, Nat.pow_succ]
    ring

end Digits

namespace Calendar

/-- The nanoseconds of a fraction of a second, rounded down. -/
theorem fractionNanos_eq {digits : List Char} (h : ∀ c ∈ digits, c.isDigit = true) :
    fractionNanos digits = Digits.value digits * 10 ^ 9 / 10 ^ digits.length := by
  simp only [fractionNanos, Nat.pow_eq]
  rcases Nat.le_total digits.length 9 with hle | hle
  · have hten : 10 ^ 9 = 10 ^ (9 - digits.length) * 10 ^ digits.length := by
      rw [← Nat.pow_add, Nat.sub_add_cancel hle]
    rw [List.take_of_length_le hle, hten, ← Nat.mul_assoc,
      Nat.mul_div_cancel _ (Nat.pow_pos (by decide))]
  · have hkept : (digits.take 9).length = 9 := List.length_take_of_le hle
    have hten : 10 ^ digits.length = 10 ^ (digits.drop 9).length * 10 ^ 9 := by
      rw [← Nat.pow_add, List.length_drop, Nat.sub_add_cancel hle]
    have hdropped : Digits.value (digits.drop 9) < 10 ^ (digits.drop 9).length :=
      Digits.value_lt fun c hc => h c (List.mem_of_mem_drop hc)
    have hvalue : Digits.value digits =
        Digits.value (digits.take 9) * 10 ^ (digits.drop 9).length +
          Digits.value (digits.drop 9) := by
      rw [← Digits.value_append, List.take_append_drop]
    rw [hkept, hten, Nat.mul_div_mul_right _ _ (by decide), hvalue,
      Nat.mul_comm _ (10 ^ (digits.drop 9).length), Nat.mul_add_div (Nat.pow_pos (by decide)),
      Nat.div_eq_of_lt hdropped]
    simp

theorem fractionNanos_div {digits : List Char} (h : ∀ c ∈ digits, c.isDigit = true) :
    fractionNanos digits / 1000000 = Digits.value digits * 1000 / 10 ^ digits.length := by
  have hten : 10 ^ 9 = 1000 * 1000000 := rfl
  calc fractionNanos digits / 1000000
      = Digits.value digits * (1000 * 1000000) / 10 ^ digits.length / 1000000 := by
        rw [fractionNanos_eq h, hten]
    _ = Digits.value digits * 1000 * 1000000 / (10 ^ digits.length * 1000000) := by
        rw [Nat.div_div_eq_div_mul, Nat.mul_assoc]
    _ = Digits.value digits * 1000 / 10 ^ digits.length := Nat.mul_div_mul_right _ _ (by decide)

theorem Time.ReadsFraction.isDigit {text digits rest : List Char}
    (h : ReadsFraction text digits rest) : ∀ c ∈ digits, c.isDigit = true := by
  cases h with
  | nothing => nofun
  | digits _ hdigits _ => exact hdigits

theorem Layout.isDigit {text : List Char} {r : Reading} (h : Layout text r) :
    ∀ c ∈ r.time.fraction, c.isDigit = true := by
  have htime {number : Reader Nat} {text rest : List Char} {time : Time}
      (h : time.Reads number text rest) : ∀ c ∈ time.fraction, c.isDigit = true := by
    obtain ⟨_, _, _, hfraction⟩ := h
    exact hfraction.isDigit
  cases h with
  | timestamp _ _ h _ => exact htime h
  | marked _ h => exact htime h
  | spaced _ h => exact htime h
  | bare => nofun

/-! ## Days -/

theorem daysIn_take_succ {lengths : List Nat} {i length : Nat} (h : lengths[i]? = some length) :
    daysIn (lengths.take (i + 1)) = daysIn (lengths.take i) + length := by
  induction lengths generalizing i with
  | nil => cases h
  | cons first rest ih =>
    cases i with
    | zero =>
      obtain rfl := Option.some.inj h
      simp [daysIn]
    | succ i =>
      have hrest := ih (i := i) h
      simp only [List.take_succ_cons, daysIn] at hrest ⊢
      omega

namespace Date

/-- The day after a date. -/
def next (d : Date) : Date :=
  if d.day < monthLength d.year d.month then ⟨d.year, d.month, d.day + 1⟩
  else if d.month < 12 then ⟨d.year, d.month + 1, 1⟩
  else ⟨d.year + 1, 1, 1⟩

theorem number_epoch : number ⟨1970, 1, 1⟩ = 0 := by decide

/-- The numbers of dates count the days. -/
theorem number_next {d : Date} (h : d.isValid = true) : d.next.number = d.number + 1 := by
  obtain ⟨hlength, hmonth, hfirst, hlast⟩ := getElem?_monthLengths h
  have htake := daysIn_take_succ hlength
  rw [Nat.sub_add_cancel hmonth] at htake
  unfold next
  split
  · simp only [number]
    omega
  · next hend =>
    have hday : d.day = monthLength d.year d.month := by omega
    split
    · simp only [number, Nat.add_sub_cancel, htake]
      omega
    · next hdecember =>
      -- the months of the year end with this one
      have hall : (monthLengths (isLeap d.year)).take d.month = monthLengths (isLeap d.year) :=
        List.take_of_length_le (Nat.le_of_not_lt hdecember)
      have hyear := daysIn_monthLengths d.year
      rw [hall] at htake
      simp only [number, yearStart_succ, ← hyear, htake, Nat.sub_self, List.take_zero, daysIn]
      omega

end Date

/-! ## Instants -/

namespace Reading

/-- Whole seconds since the start of 1970 in UTC; a leap second counts as the one that follows. -/
def seconds (r : Reading) : Int :=
  r.date.number * 86400 + r.time.hour * 3600 + r.time.minute * 60 + r.time.second - r.offset

/-- Seconds since the start of 1970 in UTC. -/
def instant (r : Reading) : ℚ :=
  r.seconds + Digits.value r.time.fraction / 10 ^ r.time.fraction.length

theorem floor_instant (r : Reading) :
    ⌊1000 * r.instant⌋ = r.seconds * 1000 +
      (Digits.value r.time.fraction * 1000 / 10 ^ r.time.fraction.length : Nat) := by
  have hsplit : 1000 * r.instant = (r.seconds * 1000 : Int) +
      ((Digits.value r.time.fraction * 1000 : Nat) : ℚ) / (10 ^ r.time.fraction.length : Nat) := by
    rw [instant]
    push_cast
    ring
  rw [hsplit, Int.floor_intCast_add, Rat.floor_natCast_div_natCast, Int.natCast_ediv]

/-- Milliseconds of an instant, those that have begun. -/
theorem millis_moment {r : Reading} (hsecond : r.time.second < 60)
    (hdigits : ∀ c ∈ r.time.fraction, c.isDigit = true) :
    r.moment.millis = ⌊1000 * r.instant⌋ := by
  have hmin : min r.time.second 59 = r.time.second := by omega
  rw [floor_instant, ← fractionNanos_div hdigits]
  simp only [Moment.millis, moment, seconds, Clock.seconds, Time.clock, secondsPerDay, hmin]
  ring

end Reading

/-! ## Texts -/

/-- A moment without what it has of the millisecond that has begun. -/
theorem Moment.ofMillis_millis {m : Moment} (hleap : m.leap = false)
    (hnanos : m.nanos < 1000000000) :
    ofMillis m.millis = { m with nanos := m.nanos / 1000000 * 1000000 } := by
  obtain ⟨second, nanos, leap⟩ := m
  simp only at hleap hnanos
  simp only [ofMillis, millis, Moment.mk.injEq]
  refine ⟨?_, ?_, hleap.symm⟩
  · omega
  · omega

/-- A text shows whole milliseconds. -/
theorem Moment.text_ofMillis_millis {m : Moment} (hleap : m.leap = false)
    (hnanos : m.nanos < 1000000000) : (ofMillis m.millis).text = m.text := by
  rw [ofMillis_millis hleap hnanos]
  simp only [text, date, clock, clockText, Nat.mul_div_cancel _ (show 0 < 1000000 by decide)]

end Calendar

open Calendar

/-- What a text and a count of milliseconds are coerced into, if they name one instant. -/
theorem coerceDate_of_layout {s : String} {r : Reading} (h : Layout s.toList r) (hvalid : r.IsValid)
    (hsecond : r.time.second < 60) :
    coerceDate (.string s) = some (.string (String.ofList r.moment.text)) ∧
      coerceDate (.ofInt ⌊1000 * r.instant⌋) = some (.string (String.ofList r.moment.text)) := by
  have hread : readMoment s.toList = some r.moment :=
    readMoment_eq_some_iff.mpr ⟨r, h, hvalid, rfl⟩
  have hleap : r.moment.leap = false := beq_eq_false_iff_ne.mpr (Nat.ne_of_lt hsecond)
  have hnanos := nanos_of_readMoment hread
  have hkept := Moment.ofMillis_millis hleap hnanos
  have hrange : (Moment.ofMillis r.moment.millis).IsInRange := by
    rw [hkept]
    exact h.isInRange hvalid
  constructor
  · show (readMoment s.toList).map _ = _
    rw [hread, Option.map_some]
  · rw [← Reading.millis_moment hsecond h.isDigit, coerceDate_ofInt_of_isInRange hrange,
      Moment.text_ofMillis_millis hleap hnanos]

/-- **Texts and milliseconds.** The texts that are coerced are those of a layout, if the date and
the time of day exist. Unless it is a leap second, such a text is coerced into what the whole
milliseconds of its instant are coerced into, counted from the start of 1970 in UTC and rounded
down. Hence texts with the same count of milliseconds are coerced into one text. -/
theorem text_agrees_with_milliseconds :
    (∀ s : String, (∃ w, coerceDate (.string s) = some w) ↔
      ∃ r, Layout s.toList r ∧ r.IsValid) ∧
    (∀ (s : String) (r : Reading), Layout s.toList r → r.IsValid → r.time.second < 60 →
      ∃ text : String, coerceDate (.string s) = some (.string text) ∧
        coerceDate (.ofInt ⌊1000 * r.instant⌋) = some (.string text)) ∧
    ∀ (s s' : String) (r r' : Reading), Layout s.toList r → r.IsValid → r.time.second < 60 →
      Layout s'.toList r' → r'.IsValid → r'.time.second < 60 →
      ⌊1000 * r.instant⌋ = ⌊1000 * r'.instant⌋ →
      coerceDate (.string s) = coerceDate (.string s') := by
  refine ⟨fun s => ?_, fun s r hs hr hsecond => ?_,
    fun s s' r r' hs hr hsecond hs' hr' hsecond' h => ?_⟩
  · constructor
    · rintro ⟨w, hw⟩
      obtain ⟨m, hm, _⟩ := Option.map_eq_some_iff.mp hw
      obtain ⟨r, hlayout, hvalid, _⟩ := readMoment_eq_some_iff.mp hm
      exact ⟨r, hlayout, hvalid⟩
    · rintro ⟨r, hlayout, hvalid⟩
      have hm : readMoment s.toList = some r.moment :=
        readMoment_eq_some_iff.mpr ⟨r, hlayout, hvalid, rfl⟩
      exact ⟨_, Option.map_eq_some_iff.mpr ⟨r.moment, hm, rfl⟩⟩
  · exact ⟨_, coerceDate_of_layout hs hr hsecond⟩
  · obtain ⟨htext, hmillis⟩ := coerceDate_of_layout hs hr hsecond
    obtain ⟨htext', hmillis'⟩ := coerceDate_of_layout hs' hr' hsecond'
    rw [h] at hmillis
    rw [htext, ← hmillis, hmillis', htext']

/-- The last instants before 1970, stated half an hour ahead of UTC and in UTC. -/
theorem text_agrees_with_milliseconds_eve :
    coerceDate (.string "1970-01-01T00:29:59.9999+00:30") =
        some (.string "1969-12-31T23:59:59.999Z") ∧
      coerceDate (.ofInt (-1)) = some (.string "1969-12-31T23:59:59.999Z") ∧
      coerceDate (.string "1969-12-31 23:59:59.999") =
        coerceDate (.string "1970-01-01T00:29:59.9999+00:30") := by
  let ahead : Reading := ⟨⟨1970, 1, 1⟩, ⟨0, 29, 59, "9999".toList⟩, 1800⟩
  let plain : Reading := ⟨⟨1969, 12, 31⟩, ⟨23, 59, 59, "999".toList⟩, 0⟩
  have hfraction : Time.ReadsFraction ('.' :: ("9999".toList ++ "+00:30".toList)) "9999".toList
      "+00:30".toList := .digits (by decide) (by simp) (by simp)
  have htime : Time.Reads (fixedDigits 2) "00:29:59.9999+00:30".toList ahead.time
      "+00:30".toList := .mk rfl rfl rfl hfraction
  have hdate : readDate fixedYear (fixedDigits 2) "1970-01-01T00:29:59.9999+00:30".toList =
      some (ahead.date, 'T' :: "00:29:59.9999+00:30".toList) := rfl
  have hahead : Layout "1970-01-01T00:29:59.9999+00:30".toList ahead :=
    .timestamp hdate (by decide) htime rfl
  have hfraction' : Time.ReadsFraction ('.' :: ("999".toList ++ [])) "999".toList [] :=
    .digits (by decide) (by simp) (by simp)
  have htime' : Time.Reads shortNumber "23:59:59.999".toList plain.time [] :=
    .mk rfl rfl rfl hfraction'
  have hdate' : readDate shortYear shortNumber "1969-12-31 23:59:59.999".toList =
      some (plain.date, " 23:59:59.999".toList) := rfl
  have hplain : Layout "1969-12-31 23:59:59.999".toList plain := .spaced hdate' htime'
  have hvalid : ahead.IsValid := ⟨by decide, by decide, by decide, by decide⟩
  have hvalid' : plain.IsValid := ⟨by decide, by decide, by decide, by decide⟩
  have hfloor : ⌊1000 * ahead.instant⌋ = -1 := by
    rw [Reading.floor_instant]
    decide
  have hfloor' : ⌊1000 * plain.instant⌋ = -1 := by
    rw [Reading.floor_instant]
    decide
  obtain ⟨_, hmillis, hsame⟩ := text_agrees_with_milliseconds
  obtain ⟨text, htext, hnumber⟩ := hmillis _ ahead hahead hvalid (by decide)
  have hwritten : coerceDate (.ofInt (-1)) = some (.string "1969-12-31T23:59:59.999Z") := rfl
  rw [hfloor, hwritten] at hnumber
  refine ⟨htext.trans hnumber.symm, hwritten, ?_⟩
  exact hsame _ _ plain ahead hplain hvalid' (by decide) hahead hvalid (by decide)
    (hfloor'.trans hfloor.symm)

end Rulebook
