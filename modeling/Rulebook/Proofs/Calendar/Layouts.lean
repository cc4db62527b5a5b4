import Rulebook.Proofs.Calendar.Chronology

/-!
# What texts say of moments

A text that names a moment states a date, a time of day with the digits of a fraction, and an offset
from UTC. It does so in one of four layouts, and no text is of two of them. The moment is the one
that these parts add up to.

* `Time.Reads`, `Layout`: what a text states, layout by layout;
* `readPlain_of_readTimestamp`, `readSpaced_of_readMarked`, `readBareDate_of_readSpaced`: a text is
  of one layout at most;
* `readMoment_eq_some_iff`: moments that are read;
* `Layout.isInRange`: the years of these moments.
-/

namespace Rulebook

namespace Calendar

/-! ## What a text states -/

/-- A time of day, with the digits behind the point of its seconds. -/
structure Time where
  hour : Nat
  minute : Nat
  second : Nat
  fraction : List Char

/-- What a text states: a date, a time of day, and the offset from UTC in seconds. -/
structure Reading where
  date : Date
  time : Time
  offset : Int

namespace Time

def midnight : Time := ⟨0, 0, 0, []⟩

/-- To the nanosecond. -/
def clock (t : Time) : Clock := ⟨t.hour, t.minute, t.second, fractionNanos t.fraction⟩

theorem clock_midnight : midnight.clock = Clock.midnight := by decide

/-- Digits behind a point, as many as there are; or neither. -/
inductive ReadsFraction : List Char → List Char → List Char → Prop where
  | nothing {rest : List Char} (h : rest.head? ≠ some '.') : ReadsFraction rest [] rest
  | digits {digits rest : List Char} (hne : digits ≠ []) (hdigits : ∀ c ∈ digits, c.isDigit = true)
      (hrest : ∀ c ∈ rest.head?, c.isDigit = false) :
      ReadsFraction ('.' :: (digits ++ rest)) digits rest

/-- Hours, minutes and seconds with colons between them, and a fraction. -/
inductive Reads (number : Reader Nat) : List Char → Time → List Char → Prop where
  | mk {text afterHour afterMinute afterSecond digits rest : List Char} {hour minute second : Nat}
      (hhour : number text = some (hour, ':' :: afterHour))
      (hminute : number afterHour = some (minute, ':' :: afterMinute))
      (hsecond : number afterMinute = some (second, afterSecond))
      (hfraction : ReadsFraction afterSecond digits rest) :
      Reads number text ⟨hour, minute, second, digits⟩ rest

end Time

/-- The layouts of texts. A timestamp has numbers of fixed width and states its offset. Other texts
are in UTC: a date and a time with `T` or with blanks between them, and a date alone, which is its
midnight. -/
inductive Layout : List Char → Reading → Prop where
  | timestamp {text after zone : List Char} {mark : Char} {date : Date} {time : Time} {offset : Int}
      (hdate : readDate fixedYear (fixedDigits 2) text = some (date, mark :: after))
      (hmark : isDateTimeMark mark = true) (htime : Time.Reads (fixedDigits 2) after time zone)
      (hzone : readOffset zone = some (offset, [])) : Layout text ⟨date, time, offset⟩
  | marked {text after : List Char} {date : Date} {time : Time}
      (hdate : readDate shortYear shortNumber text = some (date, 'T' :: after))
      (htime : Time.Reads shortNumber after time []) : Layout text ⟨date, time, 0⟩
  | spaced {text after : List Char} {date : Date} {time : Time}
      (hdate : readDate shortYear shortNumber text = some (date, after))
      (htime : Time.Reads shortNumber (skipBlanks after) time []) : Layout text ⟨date, time, 0⟩
  | bare {text : List Char} {date : Date}
      (hdate : readDate shortYear shortNumber text = some (date, [])) :
      Layout text ⟨date, .midnight, 0⟩

namespace Reading

/-- The date exists, and so does the time of day, which may be a leap second. -/
structure IsValid (r : Reading) : Prop where
  date : r.date.isValid = true
  hour : r.time.hour < 24
  minute : r.time.minute < 60
  second : r.time.second ≤ 60

/-- The moment of a date and a time of day that many seconds ahead of UTC. -/
def moment (r : Reading) : Moment :=
  ⟨r.date.number * secondsPerDay + r.time.clock.seconds - r.offset, fractionNanos r.time.fraction,
    r.time.second == 60⟩

end Reading

/-! ## Readers -/

theorem expect_eq_some_iff {test : Char → Bool} {text rest : List Char} :
    expect test text = some rest ↔ ∃ c, text = c :: rest ∧ test c = true := by
  cases text with
  | nil => simp [expect]
  | cons c text =>
    simp only [expect]
    split
    · next h => simp [h]
    · next h => simp [h]

theorem expect_char_eq_some_iff {c : Char} {text rest : List Char} :
    expect (· == c) text = some rest ↔ text = c :: rest := by
  rw [expect_eq_some_iff]
  simp

theorem readFraction_eq_some_iff {text rest : List Char} {n : Nat} :
    readFraction text = some (n, rest) ↔
      ∃ digits, Time.ReadsFraction text digits rest ∧ n = fractionNanos digits := by
  constructor
  · intro h
    unfold readFraction at h
    split at h
    · next after =>
      dsimp only at h
      split at h
      · cases h
      · next hne =>
        obtain ⟨rfl, rfl⟩ := Prod.mk.inj (Option.some.inj h)
        refine ⟨after.takeWhile Char.isDigit, ?_, rfl⟩
        have hall : ∀ c ∈ after.takeWhile Char.isDigit, c.isDigit = true := fun c hc =>
          List.mem_takeWhile_imp hc
        have hstop : ∀ c ∈ (after.dropWhile Char.isDigit).head?, c.isDigit = false := by
          intro c hc
          have hfirst := List.head?_dropWhile_not Char.isDigit after
          rw [hc] at hfirst
          exact hfirst
        have hread := Time.ReadsFraction.digits (fun he => hne (List.isEmpty_iff.mpr he)) hall hstop
        rwa [List.takeWhile_append_dropWhile] at hread
    · next hpoint =>
      obtain ⟨rfl, rfl⟩ := Prod.mk.inj (Option.some.inj h)
      refine ⟨[], .nothing fun hhead => ?_, rfl⟩
      obtain ⟨after, hafter⟩ := List.head?_eq_some_iff.mp hhead
      exact hpoint after hafter
  · rintro ⟨digits, hread, rfl⟩
    cases hread with
    | nothing h =>
      unfold readFraction
      split
      · exact absurd rfl h
      · rfl
    | digits hne hdigits hrest =>
      have hsplit : (digits ++ rest).takeWhile Char.isDigit = digits ∧
          (digits ++ rest).dropWhile Char.isDigit = rest := by
        rw [List.takeWhile_append_of_pos hdigits, List.dropWhile_append_of_pos hdigits]
        cases rest with
        | nil => simp
        | cons c rest => simp [hrest c rfl]
      have hnotEmpty : digits.isEmpty = false := by simpa using hne
      simp [readFraction, hsplit, hnotEmpty]

theorem readClock_eq_some_iff {number : Reader Nat} {text rest : List Char} {c : Clock} :
    readClock number text = some (c, rest) ↔
      ∃ time, Time.Reads number text time rest ∧ c = time.clock := by
  simp only [readClock, Option.bind_eq_bind, Option.bind_eq_some_iff]
  constructor
  · rintro ⟨⟨hour, _⟩, hhour, afterHour, hcolon, ⟨minute, _⟩, hminute, afterMinute, hcolon',
      ⟨second, afterSecond⟩, hsecond, ⟨nanos, left⟩, hfraction, hc⟩
    obtain rfl := expect_char_eq_some_iff.mp hcolon
    obtain rfl := expect_char_eq_some_iff.mp hcolon'
    obtain ⟨digits, hdigits, rfl⟩ := readFraction_eq_some_iff.mp hfraction
    obtain ⟨rfl, rfl⟩ := Prod.mk.inj (Option.some.inj hc)
    exact ⟨⟨hour, minute, second, digits⟩, .mk hhour hminute hsecond hdigits, rfl⟩
  · rintro ⟨time, ⟨hhour, hminute, hsecond, hfraction⟩, rfl⟩
    have hnanos := readFraction_eq_some_iff.mpr ⟨_, hfraction, rfl⟩
    exact ⟨_, hhour, _, expect_char_eq_some_iff.mpr rfl, _, hminute, _,
      expect_char_eq_some_iff.mpr rfl, _, hsecond, _, hnanos, rfl⟩

/-- A date and a time of day make a moment if they exist. -/
theorem of?_eq_some_iff {date : Date} {time : Time} {offset : Int} {m : Moment} :
    Moment.of? date time.clock offset = some m ↔
      (Reading.mk date time offset).IsValid ∧ m = (Reading.mk date time offset).moment := by
  have hvalid : (date.isValid && time.clock.isValid) = true ↔
      (Reading.mk date time offset).IsValid := by
    simp only [Bool.and_eq_true, Clock.isValid, decide_eq_true_eq]
    constructor
    · rintro ⟨hdate, ⟨hhour, hminute⟩, hsecond⟩
      exact ⟨hdate, hhour, hminute, hsecond⟩
    · rintro ⟨hdate, hhour, hminute, hsecond⟩
      exact ⟨hdate, ⟨hhour, hminute⟩, hsecond⟩
  unfold Moment.of?
  split
  · next h =>
    rw [Option.some.injEq, eq_comm]
    exact ⟨fun hm => ⟨hvalid.mp h, hm⟩, fun hm => hm.2⟩
  · next h =>
    constructor
    · intro hm
      cases hm
    · intro hm
      exact absurd (hvalid.mpr hm.1) h

theorem readTimestamp_eq_some_iff {text : List Char} {m : Moment} :
    readTimestamp text = some m ↔ ∃ date mark after time zone offset,
      readDate fixedYear (fixedDigits 2) text = some (date, mark :: after) ∧
      isDateTimeMark mark = true ∧ Time.Reads (fixedDigits 2) after time zone ∧
      readOffset zone = some (offset, []) ∧ (Reading.mk date time offset).IsValid ∧
      m = (Reading.mk date time offset).moment := by
  simp only [readTimestamp, Option.bind_eq_bind, Option.bind_eq_some_iff]
  constructor
  · rintro ⟨⟨date, _⟩, hdate, after, hexpect, ⟨clock, zone⟩, hclock, ⟨offset, left⟩, hzone, hm⟩
    obtain ⟨mark, rfl, hmark⟩ := expect_eq_some_iff.mp hexpect
    obtain ⟨time, htime, rfl⟩ := readClock_eq_some_iff.mp hclock
    split at hm
    · next hleft =>
      obtain rfl := List.isEmpty_iff.mp hleft
      obtain ⟨hvalid, rfl⟩ := of?_eq_some_iff.mp hm
      exact ⟨date, mark, after, time, zone, offset, hdate, hmark, htime, hzone, hvalid, rfl⟩
    · cases hm
  · rintro ⟨date, mark, after, time, zone, offset, hdate, hmark, htime, hzone, hvalid, rfl⟩
    exact ⟨_, hdate, after, expect_eq_some_iff.mpr ⟨mark, rfl, hmark⟩, _,
      readClock_eq_some_iff.mpr ⟨time, htime, rfl⟩, _, hzone,
      of?_eq_some_iff.mpr ⟨hvalid, rfl⟩⟩

theorem readPlain_eq_some_iff {separator : List Char → Option (List Char)} {text : List Char}
    {m : Moment} :
    readPlain separator text = some m ↔ ∃ date after behind time,
      readDate shortYear shortNumber text = some (date, after) ∧ separator after = some behind ∧
      Time.Reads shortNumber behind time [] ∧ (Reading.mk date time 0).IsValid ∧
      m = (Reading.mk date time 0).moment := by
  simp only [readPlain, Option.bind_eq_bind, Option.bind_eq_some_iff]
  constructor
  · rintro ⟨⟨date, after⟩, hdate, behind, hseparator, ⟨clock, left⟩, hclock, hm⟩
    obtain ⟨time, htime, rfl⟩ := readClock_eq_some_iff.mp hclock
    split at hm
    · next hleft =>
      obtain rfl := List.isEmpty_iff.mp hleft
      obtain ⟨hvalid, rfl⟩ := of?_eq_some_iff.mp hm
      exact ⟨date, after, behind, time, hdate, hseparator, htime, hvalid, rfl⟩
    · cases hm
  · rintro ⟨date, after, behind, time, hdate, hseparator, htime, hvalid, rfl⟩
    exact ⟨_, hdate, behind, hseparator, _, readClock_eq_some_iff.mpr ⟨time, htime, rfl⟩,
      of?_eq_some_iff.mpr ⟨hvalid, rfl⟩⟩

theorem readBareDate_eq_some_iff {text : List Char} {m : Moment} :
    readBareDate text = some m ↔ ∃ date,
      readDate shortYear shortNumber text = some (date, []) ∧
      (Reading.mk date .midnight 0).IsValid ∧ m = (Reading.mk date .midnight 0).moment := by
  simp only [readBareDate, Option.bind_eq_bind, Option.bind_eq_some_iff]
  constructor
  · rintro ⟨⟨date, left⟩, hdate, hm⟩
    split at hm
    · next hleft =>
      obtain rfl := List.isEmpty_iff.mp hleft
      obtain ⟨hvalid, rfl⟩ := of?_eq_some_iff.mp (Time.clock_midnight ▸ hm)
      exact ⟨date, hdate, hvalid, rfl⟩
    · cases hm
  · rintro ⟨date, hdate, hvalid, rfl⟩
    have hm := of?_eq_some_iff.mpr ⟨hvalid, rfl⟩
    rw [Time.clock_midnight] at hm
    exact ⟨_, hdate, hm⟩

/-! ## One layout at most -/

theorem exists_digit_of_fixedDigits {width n : Nat} {text rest : List Char} (hwidth : 0 < width)
    (h : fixedDigits width text = some (n, rest)) :
    ∃ c after, text = c :: after ∧ c.isDigit = true := by
  unfold fixedDigits at h
  split at h
  · next hdigits =>
    obtain ⟨hlength, hall⟩ := hdigits
    cases text with
    | nil => simp only [List.take_nil, List.length_nil] at hlength; omega
    | cons c after =>
      refine ⟨c, after, rfl, List.all_eq_true.mp hall c ?_⟩
      obtain ⟨k, rfl⟩ := Nat.exists_eq_add_of_lt hwidth
      simp
  · cases h

/-- Where a number has all the digits that it may have, there are no more. -/
theorem upToDigits_of_fixedDigits {width n : Nat} {text rest : List Char} (hwidth : 0 < width)
    (h : fixedDigits width text = some (n, rest)) : upToDigits width text = some (n, rest) := by
  unfold fixedDigits at h
  split at h
  · next hdigits =>
    obtain ⟨hlength, hall⟩ := hdigits
    have htake : (text.take width).takeWhile Char.isDigit = text.take width :=
      List.takeWhile_eq_self_iff.mpr (List.all_eq_true.mp hall)
    have hne : (text.take width).isEmpty = false := by
      rw [List.isEmpty_eq_false_iff]
      intro he
      rw [he] at hlength
      exact absurd hlength (Nat.ne_of_lt hwidth)
    simp only [upToDigits, htake, hne, hlength, Bool.false_eq_true, ↓reduceIte]
    exact h
  · cases h

theorem skipBlanks_cons_of_not_blank {c : Char} (h : Unicode.isBlank c = false)
    (rest : List Char) : skipBlanks (c :: rest) = c :: rest :=
  List.dropWhile_cons_of_neg (by simp [h])

theorem shortNumber_of_fixedDigits {text : List Char} {p : Nat × List Char}
    (h : fixedDigits 2 text = some p) : shortNumber text = some p := by
  obtain ⟨c, after, rfl, hc⟩ := exists_digit_of_fixedDigits (by decide) h
  rw [shortNumber, skipBlanks_cons_of_not_blank (isBlank_of_isDigit hc)]
  exact upToDigits_of_fixedDigits (by decide) h

theorem shortYear_of_fixedYear {text : List Char} {p : Int × List Char}
    (h : fixedYear text = some p) : shortYear text = some p := by
  obtain ⟨⟨n, rest⟩, hn, rfl⟩ := Option.map_eq_some_iff.mp h
  obtain ⟨c, after, rfl, hc⟩ := exists_digit_of_fixedDigits (by decide) hn
  have hdigits := upToDigits_of_fixedDigits (by decide) hn
  rw [shortYear, skipBlanks_cons_of_not_blank (isBlank_of_isDigit hc)]
  split
  · next hminus =>
    obtain ⟨rfl, _⟩ := List.cons.inj hminus
    cases hc
  · next hplus =>
    obtain ⟨rfl, _⟩ := List.cons.inj hplus
    cases hc
  · rw [hdigits]
    rfl

theorem readDate_of_fixed {text : List Char} {p : Date × List Char}
    (h : readDate fixedYear (fixedDigits 2) text = some p) :
    readDate shortYear shortNumber text = some p := by
  simp only [readDate, Option.bind_eq_bind, Option.bind_eq_some_iff] at h ⊢
  obtain ⟨year, hyear, afterYear, hhyphen, month, hmonth, afterMonth, hhyphen', day, hday, hp⟩ := h
  exact ⟨year, shortYear_of_fixedYear hyear, afterYear, hhyphen, month,
    shortNumber_of_fixedDigits hmonth, afterMonth, hhyphen', day, shortNumber_of_fixedDigits hday,
    hp⟩

theorem Time.Reads.short {text rest : List Char} {time : Time}
    (h : Time.Reads (fixedDigits 2) text time rest) : Time.Reads shortNumber text time rest := by
  obtain ⟨hhour, hminute, hsecond, hfraction⟩ := h
  exact .mk (shortNumber_of_fixedDigits hhour) (shortNumber_of_fixedDigits hminute)
    (shortNumber_of_fixedDigits hsecond) hfraction

/-- What is read of a time of day is read in one way. -/
theorem Time.Reads.rest_unique {number : Reader Nat} {text rest rest' : List Char}
    {time time' : Time} (h : Time.Reads number text time rest)
    (h' : Time.Reads number text time' rest') : rest = rest' := by
  have hclock := readClock_eq_some_iff.mpr ⟨time, h, rfl⟩
  have hclock' := readClock_eq_some_iff.mpr ⟨time', h', rfl⟩
  exact (Prod.mk.inj (Option.some.inj (hclock.symm.trans hclock'))).2

/-- A time of day starts with a digit or a blank. -/
theorem Time.Reads.not_cons {c : Char} (hdigit : c.isDigit = false)
    (hblank : Unicode.isBlank c = false) {after rest : List Char} {time : Time} :
    ¬Time.Reads shortNumber (c :: after) time rest := by
  intro h
  have hclock := readClock_eq_some_iff.mpr ⟨time, h, rfl⟩
  rw [readClock_eq_none hdigit hblank] at hclock
  cases hclock

theorem Time.Reads.not_nil {rest : List Char} {time : Time} :
    ¬Time.Reads shortNumber [] time rest := by
  rintro ⟨hhour, _, _, _⟩
  cases hhour

/-- The date at the start of a text is read in one way, so that it decides what is left. -/
theorem readPlain_eq_none {separator : List Char → Option (List Char)} {text after : List Char}
    {date : Date} (hdate : readDate shortYear shortNumber text = some (date, after))
    (h : ∀ behind, separator after = some behind → ∀ time, ¬Time.Reads shortNumber behind time []) :
    readPlain separator text = none := by
  rw [Option.eq_none_iff_forall_ne_some]
  intro m hm
  obtain ⟨date', after', behind, time, hdate', hseparator, htime, _⟩ := readPlain_eq_some_iff.mp hm
  obtain ⟨rfl, rfl⟩ := Prod.mk.inj (Option.some.inj (hdate.symm.trans hdate'))
  exact h behind hseparator time htime

theorem readBareDate_eq_none {text after : List Char} {date : Date}
    (hdate : readDate shortYear shortNumber text = some (date, after)) (hne : after ≠ []) :
    readBareDate text = none := by
  rw [Option.eq_none_iff_forall_ne_some]
  intro m hm
  obtain ⟨date', hdate', _⟩ := readBareDate_eq_some_iff.mp hm
  exact hne (Prod.mk.inj (Option.some.inj (hdate.symm.trans hdate'))).2

/-- What is read as a timestamp is read as nothing else, as its offset is left over. -/
theorem readPlain_of_readTimestamp {text : List Char} {m : Moment}
    (h : readTimestamp text = some m) :
    readPlain (expect (· == 'T')) text = none ∧
      readPlain (fun text => some (skipBlanks text)) text = none ∧ readBareDate text = none := by
  obtain ⟨date, mark, after, time, zone, offset, hdate, hmark, htime, hzone, _⟩ :=
    readTimestamp_eq_some_iff.mp h
  have hshort := readDate_of_fixed hdate
  have hleft : ∀ time', ¬Time.Reads shortNumber after time' [] := by
    intro time' htime'
    obtain rfl := htime.short.rest_unique htime'
    cases hzone
  refine ⟨readPlain_eq_none hshort fun behind hexpect => ?_,
    readPlain_eq_none hshort fun behind hskip => ?_,
    readBareDate_eq_none hshort (List.cons_ne_nil _ _)⟩
  · obtain ⟨rfl, rfl⟩ := List.cons.inj (expect_char_eq_some_iff.mp hexpect)
    exact hleft
  · obtain rfl := Option.some.inj hskip
    by_cases hspace : mark = ' '
    · -- the blank is skipped, and the time starts behind it
      obtain ⟨hhour, _, _, _⟩ := htime
      obtain ⟨c, digits, rfl, hc⟩ := exists_digit_of_fixedDigits (by decide) hhour
      have hblank : Unicode.isBlank ' ' = true := by decide
      have hskipped : skipBlanks (mark :: c :: digits) = c :: digits := by
        rw [hspace, skipBlanks, List.dropWhile_cons_of_pos hblank]
        exact skipBlanks_cons_of_not_blank (isBlank_of_isDigit hc) digits
      rw [hskipped]
      exact hleft
    · have hletter : mark = 'T' ∨ mark = 't' := by
        simpa [isDateTimeMark, hspace] using hmark
      have hmarkDigit : mark.isDigit = false := by rcases hletter with rfl | rfl <;> decide
      have hmarkBlank : Unicode.isBlank mark = false := by rcases hletter with rfl | rfl <;> decide
      rw [skipBlanks_cons_of_not_blank hmarkBlank]
      exact fun time' htime' => htime'.not_cons hmarkDigit hmarkBlank

theorem readSpaced_of_readMarked {text : List Char} {m : Moment}
    (h : readPlain (expect (· == 'T')) text = some m) :
    readPlain (fun text => some (skipBlanks text)) text = none ∧ readBareDate text = none := by
  obtain ⟨date, after, behind, time, hdate, hexpect, _⟩ := readPlain_eq_some_iff.mp h
  obtain rfl := expect_char_eq_some_iff.mp hexpect
  have hblank : Unicode.isBlank 'T' = false := by decide
  refine ⟨readPlain_eq_none hdate fun behind' hskip => ?_,
    readBareDate_eq_none hdate (List.cons_ne_nil _ _)⟩
  obtain rfl := Option.some.inj hskip
  rw [skipBlanks_cons_of_not_blank hblank]
  exact fun time' htime' => htime'.not_cons (by decide) hblank

theorem readBareDate_of_readSpaced {text : List Char} {m : Moment}
    (h : readPlain (fun text => some (skipBlanks text)) text = some m) :
    readBareDate text = none := by
  obtain ⟨date, after, behind, time, hdate, hskip, htime, _⟩ := readPlain_eq_some_iff.mp h
  obtain rfl := Option.some.inj hskip
  refine readBareDate_eq_none hdate ?_
  rintro rfl
  exact Time.Reads.not_nil htime

/-- Of two readers that never both find something, it does not matter which one is tried first. -/
theorem or_eq_some_iff_of_excludes {α : Type} {x y : Option α} {a : α}
    (h : ∀ b, x = some b → y = none) : x.or y = some a ↔ x = some a ∨ y = some a := by
  cases x with
  | none => simp
  | some b => simp [h b rfl]

/-- A text names a moment if it is of a layout and states a date and a time of day that exist. -/
theorem readMoment_eq_some_iff {text : List Char} {m : Moment} :
    readMoment text = some m ↔ ∃ r, Layout text r ∧ r.IsValid ∧ m = r.moment := by
  have hspaced (b : Moment) (h : readPlain (fun text => some (skipBlanks text)) text = some b) :=
    readBareDate_of_readSpaced h
  have hmarked (b : Moment) (h : readPlain (expect (· == 'T')) text = some b) :
      (readPlain (fun text => some (skipBlanks text)) text).or (readBareDate text) = none :=
    Option.or_eq_none_iff.mpr (readSpaced_of_readMarked h)
  have htimestamp (b : Moment) (h : readTimestamp text = some b) :
      ((readPlain (expect (· == 'T')) text).or <|
        (readPlain (fun text => some (skipBlanks text)) text).or (readBareDate text)) = none := by
    obtain ⟨hT, hblank, hbare⟩ := readPlain_of_readTimestamp h
    exact Option.or_eq_none_iff.mpr ⟨hT, Option.or_eq_none_iff.mpr ⟨hblank, hbare⟩⟩
  rw [readMoment, or_eq_some_iff_of_excludes htimestamp, or_eq_some_iff_of_excludes hmarked,
    or_eq_some_iff_of_excludes hspaced]
  constructor
  · rintro (h | h | h | h)
    · obtain ⟨date, mark, after, time, zone, offset, hdate, hmark, htime, hzone, hvalid, rfl⟩ :=
        readTimestamp_eq_some_iff.mp h
      exact ⟨_, .timestamp hdate hmark htime hzone, hvalid, rfl⟩
    · obtain ⟨date, after, behind, time, hdate, hexpect, htime, hvalid, rfl⟩ :=
        readPlain_eq_some_iff.mp h
      obtain rfl := expect_char_eq_some_iff.mp hexpect
      exact ⟨_, .marked hdate htime, hvalid, rfl⟩
    · obtain ⟨date, after, behind, time, hdate, hskip, htime, hvalid, rfl⟩ :=
        readPlain_eq_some_iff.mp h
      obtain rfl := Option.some.inj hskip
      exact ⟨_, .spaced hdate htime, hvalid, rfl⟩
    · obtain ⟨date, hdate, hvalid, rfl⟩ := readBareDate_eq_some_iff.mp h
      exact ⟨_, .bare hdate, hvalid, rfl⟩
  · rintro ⟨r, hlayout, hvalid, rfl⟩
    cases hlayout with
    | timestamp hdate hmark htime hzone =>
      exact .inl (readTimestamp_eq_some_iff.mpr
        ⟨_, _, _, _, _, _, hdate, hmark, htime, hzone, hvalid, rfl⟩)
    | marked hdate htime =>
      exact .inr (.inl (readPlain_eq_some_iff.mpr
        ⟨_, _, _, _, hdate, expect_char_eq_some_iff.mpr rfl, htime, hvalid, rfl⟩))
    | spaced hdate htime =>
      exact .inr (.inr (.inl (readPlain_eq_some_iff.mpr
        ⟨_, _, _, _, hdate, rfl, htime, hvalid, rfl⟩)))
    | bare hdate =>
      exact .inr (.inr (.inr (readBareDate_eq_some_iff.mpr ⟨_, hdate, hvalid, rfl⟩)))

/-! ## Years -/

theorem daysIn_take_lt {lengths : List Nat} {i k length : Nat} (h : lengths[i]? = some length)
    (hk : k < length) : daysIn (lengths.take i) + k < daysIn lengths := by
  induction lengths generalizing i with
  | nil => cases h
  | cons first rest ih =>
    cases i with
    | zero =>
      obtain rfl := Option.some.inj h
      simp only [List.take_zero, daysIn]
      omega
    | succ i =>
      have hrest := ih (i := i) h
      simp only [List.take_succ_cons, daysIn]
      omega

theorem Date.getElem?_monthLengths {d : Date} (h : d.isValid = true) :
    (monthLengths (isLeap d.year))[d.month - 1]? = some (monthLength d.year d.month) ∧
      1 ≤ d.month ∧ 1 ≤ d.day ∧ d.day ≤ monthLength d.year d.month := by
  simp only [isValid, Bool.and_eq_true, decide_eq_true_eq] at h
  obtain ⟨⟨_, hfirst⟩, hlast⟩ := h
  have hmonth : d.month ≠ 0 := by
    intro h0
    simp only [monthLength, h0, ↓reduceIte] at hlast
    omega
  have hlength : monthLength d.year d.month =
      ((monthLengths (isLeap d.year))[d.month - 1]?).getD 0 := by
    rw [monthLength, if_neg hmonth, List.getD_eq_getElem?_getD]
  refine ⟨?_, Nat.pos_of_ne_zero hmonth, hfirst, hlast⟩
  cases hfound : (monthLengths (isLeap d.year))[d.month - 1]? with
  | none =>
    rw [hlength, hfound, Option.getD_none] at hlast
    omega
  | some length => rw [hlength, hfound, Option.getD_some]

/-- The day of a date is in the year of the date. -/
theorem Date.number_bounds {d : Date} (h : d.isValid = true) :
    yearStart d.year ≤ d.number + epoch ∧ d.number + epoch < yearStart (d.year + 1) := by
  obtain ⟨hlength, _, hfirst, hlast⟩ := getElem?_monthLengths h
  have hday := daysIn_take_lt hlength (show d.day - 1 < monthLength d.year d.month by omega)
  have hyear := daysIn_monthLengths d.year
  rw [yearStart_succ, ← hyear]
  simp only [number]
  omega

theorem year_of_readDate {number : Reader Nat} {text rest : List Char} {date : Date}
    (h : readDate fixedYear number text = some (date, rest)) :
    0 ≤ date.year ∧ date.year ≤ 9999 := by
  simp only [readDate, Option.bind_eq_bind, Option.bind_eq_some_iff] at h
  obtain ⟨⟨year, _⟩, hyear, _, _, month, _, _, _, day, _, hdate⟩ := h
  obtain ⟨rfl, _⟩ := Prod.mk.inj (Option.some.inj hdate)
  obtain ⟨⟨n, left⟩, hn, hyear⟩ := Option.map_eq_some_iff.mp hyear
  obtain ⟨rfl, _⟩ := Prod.mk.inj hyear
  unfold fixedDigits at hn
  split at hn
  · next hdigits =>
    obtain ⟨rfl, _⟩ := Prod.mk.inj (Option.some.inj hn)
    have hlt := Digits.value_lt (List.all_eq_true.mp hdigits.2)
    rw [hdigits.1] at hlt
    simp only
    omega
  · cases hn

/-- An offset is less than a day. -/
theorem readOffset_lt {text rest : List Char} {offset : Int}
    (h : readOffset text = some (offset, rest)) : -86400 < offset ∧ offset < 86400 := by
  unfold readOffset at h
  split at h
  · cases h
  · split at h
    · obtain ⟨rfl, _⟩ := Prod.mk.inj (Option.some.inj h)
      omega
    · split at h
      · simp only [Option.bind_eq_bind, Option.bind_eq_some_iff] at h
        obtain ⟨⟨hours, _⟩, _, _, _, ⟨minutes, _⟩, _, h⟩ := h
        split at h
        · next hclock =>
          obtain ⟨rfl, _⟩ := Prod.mk.inj (Option.some.inj h)
          simp only
          split <;> omega
        · cases h
      · cases h

theorem Clock.seconds_lt {c : Clock} (h : c.isValid = true) :
    0 ≤ c.seconds ∧ c.seconds < 86400 := by
  simp only [isValid, Bool.and_eq_true, decide_eq_true_eq] at h
  simp only [seconds]
  omega

/-- Only timestamps have an offset, and their years are far from the ends of the range. -/
theorem Layout.offset {text : List Char} {r : Reading} (h : Layout text r) :
    r.offset = 0 ∨
      (0 ≤ r.date.year ∧ r.date.year ≤ 9999) ∧ -86400 < r.offset ∧ r.offset < 86400 := by
  cases h with
  | timestamp hdate _ _ hzone => exact .inr ⟨year_of_readDate hdate, readOffset_lt hzone⟩
  | marked => exact .inl rfl
  | spaced => exact .inl rfl
  | bare => exact .inl rfl

/-- The offset moves a moment by less than a day, which keeps its year in the range. -/
theorem Layout.isInRange {text : List Char} {r : Reading} (h : Layout text r) (hvalid : r.IsValid) :
    r.moment.IsInRange := by
  have hclock : r.time.clock.isValid = true := by
    simp [Clock.isValid, Time.clock, hvalid.hour, hvalid.minute, hvalid.second]
  obtain ⟨hseconds, hseconds'⟩ := Clock.seconds_lt hclock
  obtain ⟨hfirst, hlast⟩ := Date.number_bounds hvalid.date
  rw [Moment.isInRange_iff]
  simp only [Reading.moment, secondsPerDay]
  rcases h.offset with hoffset | ⟨⟨h0, h9⟩, hback, hahead⟩
  · have hyears := hvalid.date
    simp only [Date.isValid, Bool.and_eq_true, decide_eq_true_eq] at hyears
    have hleast := yearStart_mono hyears.1.1.1
    have hgreatest := yearStart_mono (show r.date.year + 1 ≤ Date.greatestYear + 1 by omega)
    omega
  · have hleast := yearStart_mono h0
    have hgreatest := yearStart_mono (show r.date.year + 1 ≤ 10000 by omega)
    have hends : yearStart Date.leastYear + 1 ≤ yearStart 0 ∧
        yearStart 10000 + 1 ≤ yearStart (Date.greatestYear + 1) := by decide
    omega

end Calendar

end Rulebook
