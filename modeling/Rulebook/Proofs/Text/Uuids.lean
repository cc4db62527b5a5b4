import Mathlib
import Rulebook.Proofs.Pattern.Languages
import Rulebook.Proofs.Pattern.Reading
import Rulebook.Proofs.Unicode.Folding
import Rulebook.Text.Uuid

/-!
# UUIDs and their pattern

A UUID of version 4 has its shape by offsets. The pattern of UUIDs describes the shape part by part,
each of them some slots. Case does not count in it, which brings in the capital letters and nothing
else, as no other characters fold to digits, hyphens or the first letters of the alphabet.

* `Version4`, `isUuid_iff`: the shape, and its test;
* `denotes_uuidParts`: what the pattern describes;
* `fold_hexDigits`, `fold_single`: sets of the pattern without regard to case;
* `ofString_source`: how the pattern is read.
-/

namespace Rulebook

namespace Uuid

open Pattern

/-! ## Offsets -/

def HexDigit (c : Char) : Prop :=
  ('0' ≤ c ∧ c ≤ '9') ∨ ('a' ≤ c ∧ c ≤ 'f') ∨ ('A' ≤ c ∧ c ≤ 'F')

/-- 36 characters: hyphens, the version and the variant at their offsets, and hexadecimal digits
anywhere else. -/
def Version4 (text : List Char) : Prop :=
  text.length = 36 ∧ (∀ i ∈ [8, 13, 18, 23], text[i]? = some '-') ∧ text[14]? = some '4' ∧
    (∃ c ∈ ['8', '9', 'a', 'b', 'A', 'B'], text[19]? = some c) ∧
    ∀ i c, i ∉ [8, 13, 14, 18, 19, 23] → text[i]? = some c → HexDigit c

theorem isHex_iff {c : Char} : isHex c = true ↔ HexDigit c := by
  have hdigit : c.isDigit = true ↔ '0' ≤ c ∧ c ≤ '9' := by
    rw [Char.isDigit, Bool.and_eq_true, decide_eq_true_eq, decide_eq_true_eq]
    rfl
  simp only [isHex, HexDigit, Bool.or_eq_true, Bool.and_eq_true, decide_eq_true_eq, hdigit,
    or_assoc]

/-- A text has the shape if each of its characters is allowed at its offset. -/
theorem matchesShape_iff {slots : List Slot} {text : List Char} :
    matchesShape slots text = true ↔ text.length = slots.length ∧
      ∀ (i : Nat) (slot : Slot), slots[i]? = some slot →
        ∃ c, text[i]? = some c ∧ slot.allows c = true := by
  induction slots generalizing text with
  | nil => cases text <;> simp [matchesShape]
  | cons slot slots ih =>
    cases text with
    | nil => simp [matchesShape]
    | cons c rest =>
      rw [matchesShape, Bool.and_eq_true, ih]
      constructor
      · rintro ⟨hc, hlength, hrest⟩
        refine ⟨by rw [List.length_cons, List.length_cons, hlength], fun i => ?_⟩
        cases i with
        | zero => rintro _ ⟨⟩; exact ⟨c, rfl, hc⟩
        | succ i => exact hrest i
      · rintro ⟨hlength, hall⟩
        obtain ⟨_, ⟨⟩, hc⟩ := hall 0 slot rfl
        exact ⟨hc, Nat.succ.inj hlength, fun i => hall (i + 1)⟩

theorem getElem?_shape_hyphen : ∀ i ∈ [8, 13, 18, 23], shape[i]? = some Slot.hyphen := by decide

theorem getElem?_shape_hex :
    ∀ i < 36, i ∉ [8, 13, 14, 18, 19, 23] → shape[i]? = some Slot.hex := by decide

/-- Each slot of the shape has the character at its offset. -/
theorem Version4.allows {text : List Char} (h : Version4 text) {i : Nat} {slot : Slot}
    (hslot : shape[i]? = some slot) : ∃ c, text[i]? = some c ∧ slot.allows c = true := by
  obtain ⟨hlength, hhyphens, hversion, ⟨v, hv, hvariant⟩, hdigits⟩ := h
  obtain ⟨hlt, _⟩ := List.getElem?_eq_some_iff.mp hslot
  by_cases hi : i ∈ [8, 13, 18, 23]
  · rw [getElem?_shape_hyphen i hi] at hslot
    cases hslot
    exact ⟨'-', hhyphens i hi, rfl⟩
  by_cases h14 : i = 14
  · subst h14
    cases hslot
    exact ⟨'4', hversion, rfl⟩
  by_cases h19 : i = 19
  · subst h19
    cases hslot
    refine ⟨v, hvariant, ?_⟩
    simpa [Slot.allows, or_assoc] using hv
  · have hother : i ∉ [8, 13, 14, 18, 19, 23] := by
      simp only [List.mem_cons, List.not_mem_nil, or_false, not_or] at hi ⊢
      exact ⟨hi.1, hi.2.1, h14, hi.2.2.1, h19, hi.2.2.2⟩
    rw [getElem?_shape_hex i hlt hother] at hslot
    cases hslot
    have hinside : i < text.length := by rwa [hlength]
    obtain ⟨c, hc⟩ : ∃ c, text[i]? = some c := ⟨_, List.getElem?_eq_getElem hinside⟩
    exact ⟨c, hc, isHex_iff.mpr (hdigits i c hother hc)⟩

theorem isUuid_iff {text : List Char} : isUuid text = true ↔ Version4 text := by
  rw [isUuid, matchesShape_iff]
  constructor
  · rintro ⟨hlength, hall⟩
    refine ⟨hlength, fun i hi => ?_, ?_, ?_, fun i c hi hc => ?_⟩
    · obtain ⟨c, hc, hallows⟩ := hall i _ (getElem?_shape_hyphen i hi)
      rw [hc, beq_iff_eq.mp hallows]
    · obtain ⟨c, hc, hallows⟩ := hall 14 .version rfl
      rw [hc, beq_iff_eq.mp hallows]
    · obtain ⟨c, hc, hallows⟩ := hall 19 .variant rfl
      refine ⟨c, ?_, hc⟩
      simpa [Slot.allows, or_assoc] using hallows
    · obtain ⟨hlt, _⟩ := List.getElem?_eq_some_iff.mp hc
      rw [hlength] at hlt
      obtain ⟨d, hd, hallows⟩ := hall i .hex (getElem?_shape_hex i hlt hi)
      rw [hc] at hd
      cases hd
      exact isHex_iff.mp hallows
  · exact fun h => ⟨h.1, fun i slot => h.allows⟩

theorem Slot.newline_not_allowed (slot : Slot) : slot.allows '\n' = false := by
  cases slot <;> decide

theorem newline_not_mem {text : List Char} (h : isUuid text = true) : '\n' ∉ text := by
  intro hmem
  obtain ⟨hlength, hall⟩ := matchesShape_iff.mp h
  obtain ⟨i, hi, hnewline⟩ := List.mem_iff_getElem.mp hmem
  obtain ⟨slot, hslot⟩ : ∃ slot, shape[i]? = some slot :=
    ⟨_, List.getElem?_eq_getElem (hlength ▸ hi)⟩
  obtain ⟨c, hc, hallows⟩ := hall i slot hslot
  rw [List.getElem?_eq_getElem hi, hnewline] at hc
  cases hc
  rw [slot.newline_not_allowed] at hallows
  cases hallows

/-! ## The pattern of UUIDs -/

def source : String :=
  "^(?i)[0-9a-f]\x7b8\x7d-[0-9a-f]\x7b4\x7d-4[0-9a-f]\x7b3\x7d-[89ab][0-9a-f]\x7b3\x7d-[0-9a-f]\x7b12\x7d$"

def hexDigits : CharSet := ⟨[(48, 57), (65, 70), (97, 102)]⟩

def variantDigits : CharSet := ⟨[(56, 57), (65, 66), (97, 98)]⟩

def hexRun (n : Nat) : Expr := .many (.chars hexDigits) n (some n) false

def uuidParts : List Expr :=
  [hexRun 8, .text ['-'], hexRun 4, .text ['-', '4'], hexRun 3, .text ['-'], .chars variantDigits,
    hexRun 3, .text ['-'], hexRun 12]

theorem haveNoEdge_uuidParts : HaveNoEdge uuidParts := by
  simp [uuidParts, hexRun, HaveNoEdge, Expr.HasNoEdge]

theorem contains_hexDigits (c : Char) : hexDigits.contains c = isHex c := by
  refine CharSet.contains_eq_of_ascii rfl (fun c hc => ?_) (by decide) c
  have hlast : ∀ d : Char, c ≤ d → d.toNat < 128 → c.toNat < 128 := fun d hcd hd =>
    Nat.lt_of_le_of_lt (UInt32.le_iff_toNat_le.mp hcd) hd
  rcases isHex_iff.mp hc with ⟨_, h⟩ | ⟨_, h⟩ | ⟨_, h⟩ <;> exact hlast _ h (by decide)

theorem contains_variantDigits (c : Char) : variantDigits.contains c = Slot.variant.allows c := by
  refine CharSet.contains_eq_of_ascii rfl (fun c hc => ?_) (by decide) c
  simp only [Slot.allows, Bool.or_eq_true, beq_iff_eq] at hc
  rcases hc with ((((rfl | rfl) | rfl) | rfl) | rfl) | rfl <;> decide

/-- A part of the pattern describes the texts of some slots. -/
def Describes (p : Expr) (slots : List Slot) : Prop :=
  ∀ text, p.Denotes text ↔ matchesShape slots text = true

theorem matchesShape_append {slots more : List Slot} {text : List Char} :
    matchesShape (slots ++ more) text = true ↔ ∃ first rest, text = first ++ rest ∧
      matchesShape slots first = true ∧ matchesShape more rest = true := by
  induction slots generalizing text with
  | nil =>
    constructor
    · exact fun h => ⟨[], text, rfl, rfl, h⟩
    · rintro ⟨first, rest, rfl, hfirst, hrest⟩
      cases first with
      | nil => exact hrest
      | cons c first => cases hfirst
  | cons slot slots ih =>
    constructor
    · intro h
      cases text with
      | nil => cases h
      | cons c text =>
        obtain ⟨hc, htext⟩ := Bool.and_eq_true_iff.mp h
        obtain ⟨first, rest, rfl, hfirst, hrest⟩ := ih.mp htext
        exact ⟨c :: first, rest, rfl, Bool.and_eq_true_iff.mpr ⟨hc, hfirst⟩, hrest⟩
    · rintro ⟨first, rest, rfl, hfirst, hrest⟩
      cases first with
      | nil => cases hfirst
      | cons c first =>
        obtain ⟨hc, hfirst⟩ := Bool.and_eq_true_iff.mp hfirst
        exact Bool.and_eq_true_iff.mpr ⟨hc, ih.mpr ⟨first, rest, rfl, hfirst, hrest⟩⟩

theorem denotesAll_of_describes {ps : List Expr} {slots : List (List Slot)}
    (h : List.Forall₂ Describes ps slots) {text : List Char} :
    DenotesAll ps text ↔ matchesShape slots.flatten text = true := by
  induction h generalizing text with
  | nil => cases text <;> simp [DenotesAll, matchesShape]
  | cons hp _ ih => simp only [DenotesAll, List.flatten_cons, matchesShape_append, hp _, ih]

theorem matchesShape_hexes {n : Nat} {text : List Char} :
    matchesShape (hexes n) text = true ↔ text.length = n ∧ ∀ c ∈ text, isHex c = true := by
  induction n generalizing text with
  | zero => cases text <;> simp [hexes, matchesShape]
  | succ n ih =>
    rw [hexes, List.replicate_succ, ← hexes]
    cases text with
    | nil => simp [matchesShape]
    | cons c text =>
      simp only [matchesShape, Slot.allows, Bool.and_eq_true, ih, List.length_cons,
        Nat.add_right_cancel_iff, List.forall_mem_cons, and_left_comm]

theorem describes_hexRun (n : Nat) : Describes (hexRun n) (hexes n) := by
  intro text
  simp only [hexRun, denotes_many_chars, matchesShape_hexes, contains_hexDigits,
    Option.some.injEq, forall_eq']
  refine and_congr_left fun _ => ?_
  omega

theorem describes_text {cs : List Char} {slots : List Slot}
    (h : List.Forall₂ (fun c slot => ∀ d, Slot.allows slot d = (d == c)) cs slots) :
    Describes (.text cs) slots := by
  intro text
  rw [Expr.Denotes]
  induction h generalizing text with
  | nil => cases text <;> simp [matchesShape]
  | cons hc _ ih =>
    cases text with
    | nil => simp [matchesShape]
    | cons d text =>
      rw [matchesShape, hc, Bool.and_eq_true, beq_iff_eq, ← ih, List.cons.injEq]

theorem describes_variant : Describes (.chars variantDigits) [.variant] := by
  intro text
  simp only [Expr.Denotes, contains_variantDigits]
  constructor
  · rintro ⟨c, hc, rfl⟩
    rw [matchesShape, hc]
    rfl
  · intro h
    obtain ⟨c, rfl⟩ := List.length_eq_one_iff.mp (matchesShape_length h)
    exact ⟨c, (Bool.and_eq_true_iff.mp h).1, rfl⟩

/-- The parts of the pattern describe the shape, slot by slot. -/
theorem denotes_uuidParts {text : List Char} :
    DenotesAll uuidParts text ↔ isUuid text = true := by
  have hhyphen : Describes (.text ['-']) [.hyphen] := describes_text (.cons (fun _ => rfl) .nil)
  have hversion : Describes (.text ['-', '4']) [.hyphen, .version] :=
    describes_text (.cons (fun _ => rfl) (.cons (fun _ => rfl) .nil))
  exact denotesAll_of_describes <|
    .cons (describes_hexRun 8) <| .cons hhyphen <| .cons (describes_hexRun 4) <|
    .cons hversion <| .cons (describes_hexRun 3) <| .cons hhyphen <| .cons describes_variant <|
    .cons (describes_hexRun 3) <| .cons hhyphen <| .cons (describes_hexRun 12) .nil

theorem fold_hexDigits : CharSet.fold ⟨[(48, 57), (97, 102)]⟩ = hexDigits := by
  have hnew : (CharSet.asciiFoldings.filter fun p =>
      [(48, 57), (97, 102)].any (RankRange.holds (rank p.1))).map (fun p => rank p.2) =
      [65, 66, 67, 68, 69, 70] := by decide
  refine CharSet.fold_eq rfl (by simp [CharSet.Apart]) (by simp [CharSet.Apart, hexDigits])
    (by decide) fun n => ?_
  rw [hnew]
  simp [hexDigits, RankRange.holds]
  omega

theorem fold_variantDigits : CharSet.fold ⟨[(56, 57), (97, 98)]⟩ = variantDigits := by
  have hnew : (CharSet.asciiFoldings.filter fun p =>
      [(56, 57), (97, 98)].any (RankRange.holds (rank p.1))).map (fun p => rank p.2) =
      [65, 66] := by decide
  refine CharSet.fold_eq rfl (by simp [CharSet.Apart]) (by simp [CharSet.Apart, variantDigits])
    (by decide) fun n => ?_
  rw [hnew]
  simp [variantDigits, RankRange.holds]
  omega

/-- A character that is no letter has no variant. -/
theorem fold_single {c : Char} (hascii : (CharSet.single c).isAscii = true)
    (hfirst : (CharSet.asciiFoldings.filter fun p =>
      (CharSet.single c).ranges.any (RankRange.holds (rank p.1))) = [])
    (hsecond : ∀ p ∈ CharSet.asciiFoldings,
      (CharSet.single c).ranges.any (RankRange.holds (rank p.2)) = false) :
    (CharSet.single c).fold = .single c := by
  have hapart : CharSet.Apart (CharSet.single c).ranges := ⟨Nat.le_refl _, nofun, trivial⟩
  refine CharSet.fold_eq hascii hapart hapart hsecond fun n => ?_
  rw [hfirst]
  simp

theorem read_hexDigits (rest : List Char) :
    Bracket.read (.ofCase true) ("0-9a-f]".toList ++ rest) = some (⟨2, hexDigits⟩, rest) := by
  have hread : ∀ ignoreCase, Bracket.read (.ofCase ignoreCase) ("0-9a-f]".toList ++ rest) =
      some (⟨2, (Flags.ofCase ignoreCase).fold ⟨[(48, 57), (97, 102)]⟩⟩, rest) := by
    intro ignoreCase
    cbv
  rw [hread, ← fold_hexDigits]
  rfl

theorem read_variantDigits (rest : List Char) :
    Bracket.read (.ofCase true) ("89ab]".toList ++ rest) = some (⟨2, variantDigits⟩, rest) := by
  have hread : ∀ ignoreCase, Bracket.read (.ofCase ignoreCase) ("89ab]".toList ++ rest) =
      some (⟨2, (Flags.ofCase ignoreCase).fold ⟨[(56, 57), (97, 98)]⟩⟩, rest) := by
    intro ignoreCase
    cbv
  rw [hread, ← fold_variantDigits]
  rfl

theorem reads_hexRun (n : Nat) (bounds : List Char)
    (hbounds : ∀ rest, readBounds (.ofCase true) (bounds ++ rest) = some (n, some n, rest))
    (hn : Expr.ofMany (.chars hexDigits) n (some n) false = hexRun n) :
    Reads true NotLazy ('[' :: "0-9a-f]".toList ++ '{' :: bounds) [⟨3, some (hexRun n)⟩] := by
  have hrun : Reads true NotLazy ('[' :: "0-9a-f]".toList ++ '{' :: bounds)
      [⟨3, some (.ofMany (.chars hexDigits) n (some n) false)⟩] :=
    .repeated (.set read_hexDigits) (repeats_bounds hbounds) (by decide)
  rwa [hn] at hrun

set_option maxRecDepth 8000 in
theorem fits_uuidParts : (anchored uuidParts).fits = true := by cbv

/-- The source behind the test for the start and the flag. -/
def digitsSource : List Char :=
  "[0-9a-f]\x7b8\x7d-[0-9a-f]\x7b4\x7d-4[0-9a-f]\x7b3\x7d-[89ab][0-9a-f]\x7b3\x7d-[0-9a-f]\x7b12\x7d$".toList

def digitsItems : List Item :=
  [⟨0, some (.edge .stop)⟩, ⟨3, some (hexRun 12)⟩, ⟨0, some (.text ['-'])⟩, ⟨3, some (hexRun 3)⟩,
    ⟨2, some (.chars variantDigits)⟩, ⟨0, some (.text ['-'])⟩, ⟨3, some (hexRun 3)⟩,
    ⟨0, some (.text ['4'])⟩, ⟨0, some (.text ['-'])⟩, ⟨3, some (hexRun 4)⟩,
    ⟨0, some (.text ['-'])⟩, ⟨3, some (hexRun 8)⟩]

theorem reads_digits : Reads true (fun _ => True) digitsSource digitsItems := by
  have h8 := reads_hexRun 8 "8\x7d".toList (fun _ => rfl) rfl
  have h4 := reads_hexRun 4 "4\x7d".toList (fun _ => rfl) rfl
  have h3 := reads_hexRun 3 "3\x7d".toList (fun _ => rfl) rfl
  have h12 := reads_hexRun 12 "12\x7d".toList (fun _ => rfl) rfl
  have hhyphen : Reads true (fun _ => True) ['-'] [⟨0, some (.text ['-'])⟩] :=
    .char (fun _ _ => rfl) (fold_single rfl (by decide) (by decide))
  have hversion : Reads true (fun _ => True) ['4'] [⟨0, some (.text ['4'])⟩] :=
    .char (fun _ _ => rfl) (fold_single rfl (by decide) (by decide))
  have hvariant : Reads true (fun _ => True) ('[' :: "89ab]".toList)
    [⟨2, some (.chars variantDigits)⟩] := .set read_variantDigits
  have hstop : Reads true (fun _ => True) ['$'] [⟨0, some (.edge .stop)⟩] := .stop
  have hfirst := ((h8.append hhyphen fun _ _ => nofun).append h4 fun _ _ => trivial).append hhyphen
    fun _ _ => nofun
  have hmiddle := (((hversion.append h3 fun _ _ => trivial).append hhyphen fun _ _ => nofun).append
    hvariant fun _ _ => trivial).append h3 fun _ _ => trivial
  have hlast := ((hhyphen.append h12 fun _ _ => trivial).append hstop fun _ _ => nofun)
  exact (hfirst.append hmiddle fun _ _ => trivial).append hlast fun _ _ => nofun

theorem ofString_source : Pattern.ofString source = .ok ⟨source, anchored uuidParts⟩ := by
  have htext : source.toList = '^' :: '(' :: '?' :: 'i' :: ')' :: digitsSource := by
    decide +kernel
  have hstart : State.step .start ('^' :: '(' :: '?' :: 'i' :: ')' :: digitsSource) =
      some (State.start.push (.edge .start), '(' :: '?' :: 'i' :: ')' :: digitsSource) := rfl
  have hflag : State.step (State.start.push (.edge .start))
      ('(' :: '?' :: 'i' :: ')' :: digitsSource) =
      some (⟨[], [], 0, .ofCase true, [], [⟨0, none⟩, ⟨0, some (.edge .start)⟩]⟩, digitsSource) :=
    rfl
  have hplain : State.start.flags = .ofCase false := rfl
  have hpushed : (State.start.push (.edge .start)).flags = .ofCase false := rfl
  have hlength : source.toList.length + 1 = digitsSource.length + 4 + 1 + 1 := by
    rw [htext]
    rfl
  have hrun : State.run (source.toList.length + 1) .start source.toList =
      some ⟨[], [], 0, .ofCase true, [], digitsItems ++ [⟨0, none⟩, ⟨0, some (.edge .start)⟩]⟩ := by
    rw [hlength, htext, State.run_step hplain hstart, State.run_step hpushed hflag]
    exact reads_digits.run trivial rfl (by omega)
  have hread : Expr.read? source.toList = some (anchored uuidParts) :=
    Expr.read?_of_run hrun rfl rfl (by decide)
  rw [Pattern.ofString, hread]
  simp only [fits_uuidParts, if_true]

end Uuid

end Rulebook
