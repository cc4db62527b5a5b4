import Mathlib
import Rulebook.Proofs.Pattern.Languages
import Rulebook.Proofs.Pattern.Reading
import Rulebook.Proofs.Rule.Splitting
import Rulebook.Proofs.Unicode.Folding
import Rulebook.Text.Email

/-!
# Email addresses and their pattern

The parts of an address can be told by its characters: no mailbox has an `@`, and no label a dot. So
the test of addresses finds them if there are any. The pattern of addresses describes the same
parts; there a label is a character, or two with up to 61 others between them, so that no hyphen
comes to stand at an end.

* `Address`: what an address is;
* `isAddress_iff`: the test of addresses;
* `denotes_label`, `denotes_addressParts`: what the pattern describes;
* `ofString_source`: how the pattern is read.
-/

namespace Rulebook

namespace Email

open Pattern

/-! ## Addresses -/

/-- The characters that a mailbox has. -/
def MailboxChar (c : Char) : Prop := c.isAlphanum = true ∨ c ∈ mailboxSigns

/-- 1 to 63 letters, digits and hyphens, with no hyphen at an end. -/
def Label (text : List Char) : Prop :=
  1 ≤ text.length ∧ text.length ≤ 63 ∧ (∀ c ∈ text, c.isAlphanum = true ∨ c = '-') ∧
    text.head? ≠ some '-' ∧ text.getLast? ≠ some '-'

/-- One `@`, with a mailbox before it and labels separated by dots behind it. -/
def Address (text : List Char) : Prop :=
  text.count '@' = 1 ∧ ∃ (mailbox : List Char) (labels : List (List Char)),
    text = mailbox ++ '@' :: ['.'].intercalate labels ∧
      mailbox ≠ [] ∧ (∀ c ∈ mailbox, MailboxChar c) ∧
      2 ≤ labels.length ∧ ∀ label ∈ labels, Label label

theorem isLabel_iff {text : List Char} : isLabel text = true ↔ Label text := by
  simp only [isLabel, isLabelChar, Label, Bool.and_eq_true, decide_eq_true_eq, List.all_eq_true,
    Bool.or_eq_true, beq_iff_eq, bne_iff_ne, and_assoc]

theorem isMailbox_iff {text : List Char} :
    isMailbox text = true ↔ text ≠ [] ∧ ∀ c ∈ text, MailboxChar c := by
  simp only [isMailbox, isMailboxChar, MailboxChar, Bool.and_eq_true,
    Bool.not_eq_true', List.isEmpty_eq_false_iff, List.all_eq_true, Bool.or_eq_true,
    List.contains_eq_mem, decide_eq_true_eq]

theorem labels_eq_pieces (text : List Char) : labels text = Text.pieces '.' text := by
  induction text with
  | nil => rfl
  | cons c rest ih =>
    cases hrest : Text.pieces '.' rest with
    | nil => simp only [labels, Text.pieces, ih, hrest]
    | cons piece rest => simp only [labels, Text.pieces, ih, hrest]

theorem Label.not_mem {label : List Char} (h : Label label) {c : Char}
    (hc : c.isAlphanum = false) (hne : c ≠ '-') : c ∉ label := by
  intro hmem
  rcases h.2.2.1 c hmem with hc' | hc'
  · rw [hc] at hc'
    cases hc'
  · exact hne hc'

theorem isDomain_iff {text : List Char} :
    isDomain text = true ↔ ∃ labels : List (List Char), text = ['.'].intercalate labels ∧
      2 ≤ labels.length ∧ ∀ label ∈ labels, Label label := by
  simp only [isDomain, labels_eq_pieces, Bool.and_eq_true, decide_eq_true_eq, List.all_eq_true,
    isLabel_iff, ← Text.join_eq_intercalate]
  constructor
  · rintro ⟨hlength, hlabels⟩
    exact ⟨_, (Text.join_pieces '.' text).symm, hlength, hlabels⟩
  · rintro ⟨labels, rfl, hlength, hlabels⟩
    have hne : labels ≠ [] := by
      rintro rfl
      simp at hlength
    rw [Text.pieces_join hne fun label h => (hlabels label h).not_mem rfl (by decide)]
    exact ⟨hlength, hlabels⟩

theorem splitAt_of_not_mem {mailbox : List Char} (h : '@' ∉ mailbox) (domain : List Char) :
    splitAt (mailbox ++ '@' :: domain) = some (mailbox, domain) := by
  induction mailbox with
  | nil => rfl
  | cons c rest ih =>
    obtain ⟨hc, hrest⟩ := List.ne_and_not_mem_of_not_mem_cons h
    rw [List.cons_append, splitAt, if_neg (Ne.symm hc), ih hrest]
    rfl

theorem MailboxChar.ne_at {c : Char} (h : MailboxChar c) : c ≠ '@' := by
  rintro rfl
  rcases h with h | h
  · cases h
  · exact absurd h (by decide)

theorem not_mem_labels {labels : List (List Char)} (h : ∀ label ∈ labels, Label label) {c : Char}
    (hc : c.isAlphanum = false) (hne : c ≠ '-') (hdot : c ≠ '.') :
    c ∉ ['.'].intercalate labels := by
  rw [← Text.join_eq_intercalate]
  cases labels with
  | nil => exact List.not_mem_nil
  | cons label more =>
    obtain ⟨hlabel, hmore⟩ := List.forall_mem_cons.mp h
    rw [Text.join_cons, List.mem_append, List.mem_flatMap]
    rintro (hmem | ⟨next, hnext, hmem⟩)
    · exact hlabel.not_mem hc hne hmem
    · rcases List.mem_cons.mp hmem with hmem | hmem
      · exact hdot hmem
      · exact (hmore next hnext).not_mem hc hne hmem

/-- The `@` that the parts of an address are put around is the only one. -/
theorem count_at {mailbox : List Char} {labels : List (List Char)}
    (hmailbox : ∀ c ∈ mailbox, MailboxChar c) (hlabels : ∀ label ∈ labels, Label label) :
    (mailbox ++ '@' :: ['.'].intercalate labels).count '@' = 1 := by
  have hm : '@' ∉ mailbox := fun h => (hmailbox _ h).ne_at rfl
  have hd := not_mem_labels hlabels (c := '@') rfl (by decide) (by decide)
  rw [List.count_append, List.count_cons_self, List.count_eq_zero_of_not_mem hm,
    List.count_eq_zero_of_not_mem hd]

theorem newline_not_mem {text : List Char} (h : Address text) : '\n' ∉ text := by
  obtain ⟨_, mailbox, labels, rfl, _, hmailbox, _, hlabels⟩ := h
  rw [List.mem_append, List.mem_cons]
  rintro (hmem | hmem | hmem)
  · rcases hmailbox _ hmem with hc | hc
    · cases hc
    · exact absurd hc (by decide)
  · cases hmem
  · exact not_mem_labels hlabels rfl (by decide) (by decide) hmem

theorem isAddress_iff {text : List Char} : isAddress text = true ↔ Address text := by
  constructor
  · intro h
    unfold isAddress at h
    split at h
    · next mailbox domain hsplit =>
      obtain ⟨hmailbox, hdomain⟩ := Bool.and_eq_true_iff.mp h
      obtain ⟨hne, hchars⟩ := isMailbox_iff.mp hmailbox
      obtain ⟨labels, rfl, hlength, hlabels⟩ := isDomain_iff.mp hdomain
      obtain rfl := splitAt_append hsplit
      exact ⟨count_at hchars hlabels, mailbox, labels, rfl, hne, hchars, hlength, hlabels⟩
    · cases h
  · rintro ⟨_, mailbox, labels, rfl, hne, hchars, hlength, hlabels⟩
    have hat : '@' ∉ mailbox := fun h => (hchars _ h).ne_at rfl
    rw [isAddress, splitAt_of_not_mem hat]
    have hmailbox := isMailbox_iff.mpr ⟨hne, hchars⟩
    have hdomain := isDomain_iff.mpr ⟨labels, rfl, hlength, hlabels⟩
    simp only [hmailbox, hdomain, Bool.and_self]

/-! ## The pattern of addresses -/

/-- One label, as it is written in the pattern. -/
def labelSource : List Char := "[A-Za-z0-9](?:[A-Za-z0-9-]\x7b0,61\x7d[A-Za-z0-9])?".toList

def source : String :=
  "^[A-Za-z0-9.!#$%&'*+/=?^_\x60\x7b|\x7d~-]+@" ++
    "[A-Za-z0-9](?:[A-Za-z0-9-]\x7b0,61\x7d[A-Za-z0-9])?" ++
    "(?:\\.[A-Za-z0-9](?:[A-Za-z0-9-]\x7b0,61\x7d[A-Za-z0-9])?)+$"

def alphanum : CharSet := ⟨[(48, 57), (65, 90), (97, 122)]⟩

def labelChars : CharSet := ⟨[(45, 45), (48, 57), (65, 90), (97, 122)]⟩

def mailboxChars : CharSet :=
  ⟨[(33, 33), (35, 39), (42, 43), (45, 57), (61, 61), (63, 63), (65, 90), (94, 126)]⟩

/-- The characters in the middle of a label, and its last one. -/
def labelRest : Expr := .seq [.many (.chars labelChars) 0 (some 61) false, .chars alphanum]

def labelParts : List Expr := [.chars alphanum, .many labelRest 0 (some 1) false]

def addressParts : List Expr :=
  .many (.chars mailboxChars) 1 none false :: .text ['@'] :: (labelParts ++
    [Expr.many (.seq (.text ['.'] :: labelParts)) 1 none false])

theorem haveNoEdge_addressParts : HaveNoEdge addressParts := by
  simp [addressParts, labelParts, labelRest, HaveNoEdge, Expr.HasNoEdge]

theorem contains_alphanum (c : Char) : alphanum.contains c = c.isAlphanum :=
  CharSet.contains_eq_of_ascii rfl (fun _ => CharSet.lt_of_isAlphanum) (by decide) c

theorem contains_labelChars (c : Char) : labelChars.contains c = isLabelChar c := by
  refine CharSet.contains_eq_of_ascii rfl (fun c hc => ?_) (by decide) c
  rcases Bool.or_eq_true_iff.mp hc with hc | hc
  · exact CharSet.lt_of_isAlphanum hc
  · rw [beq_iff_eq.mp hc]
    decide

set_option maxRecDepth 1000 in
theorem contains_mailboxChars (c : Char) : mailboxChars.contains c = isMailboxChar c := by
  refine CharSet.contains_eq_of_ascii rfl (fun c hc => ?_) (by decide) c
  rcases Bool.or_eq_true_iff.mp hc with hc | hc
  · exact CharSet.lt_of_isAlphanum hc
  · have hsigns : mailboxSigns.all (fun c => decide (c.toNat < 128)) = true := by decide
    exact of_decide_eq_true (List.all_eq_true.mp hsigns c (List.contains_iff_mem.mp hc))

theorem denotes_labelRest {text : List Char} :
    labelRest.Denotes text ↔ ∃ (middle : List Char) (last : Char),
      text = middle ++ [last] ∧ middle.length ≤ 61 ∧
      (∀ c ∈ middle, c.isAlphanum = true ∨ c = '-') ∧ last.isAlphanum = true := by
  have hchars : ∀ c, labelChars.contains c = true ↔ c.isAlphanum = true ∨ c = '-' := fun c => by
    rw [contains_labelChars, isLabelChar, Bool.or_eq_true, beq_iff_eq]
  constructor
  · rintro ⟨middle, _, rfl, hmiddle, hrest⟩
    obtain ⟨⟨_, hlength⟩, hall⟩ := denotes_many_chars.mp hmiddle
    obtain ⟨last, hlast, rfl⟩ := denotesAll_singleton.mp hrest
    rw [contains_alphanum] at hlast
    exact ⟨middle, last, rfl, hlength 61 rfl, fun c hc => (hchars c).mp (hall c hc), hlast⟩
  · rintro ⟨middle, last, rfl, hlength, hall, hlast⟩
    rw [← contains_alphanum] at hlast
    refine ⟨middle, [last], rfl, denotes_many_chars.mpr ⟨⟨Nat.zero_le _, ?_⟩, ?_⟩,
      denotesAll_singleton.mpr ⟨last, hlast, rfl⟩⟩
    · rintro m ⟨⟩
      exact hlength
    · exact fun c hc => (hchars c).mpr (hall c hc)

theorem ne_hyphen_of_isAlphanum {c : Char} (h : c.isAlphanum = true) : c ≠ '-' := by
  rintro rfl
  cases h

/-- A label is a character, or two with a text of up to 61 characters in between. -/
theorem denotes_label {text : List Char} : DenotesAll labelParts text ↔ Label text := by
  simp only [labelParts, denotesAll_chars_cons, denotesAll_singleton, denotes_optional,
    denotes_labelRest, contains_alphanum]
  constructor
  · rintro ⟨c, _, rfl, hc, rfl | ⟨middle, last, rfl, hlength, hmiddle, hlast⟩⟩
    · have hne := ne_hyphen_of_isAlphanum hc
      exact ⟨Nat.le_refl _, by simp, by simp [hc], by simpa using hne, by simpa using hne⟩
    · have hne := ne_hyphen_of_isAlphanum hc
      have hlastne := ne_hyphen_of_isAlphanum hlast
      refine ⟨by simp, ?_, ?_, by simpa using hne, ?_⟩
      · rw [List.length_cons, List.length_append, List.length_singleton]
        omega
      · rw [List.forall_mem_cons, List.forall_mem_append, List.forall_mem_singleton]
        exact ⟨.inl hc, hmiddle, .inl hlast⟩
      · rw [← List.cons_append, List.getLast?_concat]
        simpa using hlastne
  · rintro ⟨hpos, hlength, hchars, hhead, hlast⟩
    obtain ⟨c, rest, rfl⟩ := List.exists_cons_of_length_pos hpos
    obtain ⟨hc, hrest⟩ := List.forall_mem_cons.mp hchars
    have hfirst : c.isAlphanum = true := hc.resolve_right fun h => hhead (congrArg some h)
    refine ⟨c, rest, rfl, hfirst, ?_⟩
    rcases List.eq_nil_or_concat' rest with rfl | ⟨middle, last, rfl⟩
    · exact .inl rfl
    · rw [← List.cons_append, List.getLast?_concat] at hlast
      rw [List.forall_mem_append, List.forall_mem_singleton] at hrest
      rw [List.length_cons, List.length_append, List.length_singleton] at hlength
      exact .inr ⟨middle, last, rfl, by omega, hrest.1,
        hrest.2.resolve_right fun h => hlast (congrArg some h)⟩

theorem exists_labels {parts : List (List Char)}
    (h : ∀ part ∈ parts, ∃ label, part = '.' :: label ∧ Label label) :
    ∃ more : List (List Char), parts = more.map ('.' :: ·) ∧ ∀ label ∈ more, Label label := by
  induction parts with
  | nil => exact ⟨[], rfl, nofun⟩
  | cons part parts ih =>
    obtain ⟨⟨label, rfl, hlabel⟩, hparts⟩ := List.forall_mem_cons.mp h
    obtain ⟨more, rfl, hmore⟩ := ih hparts
    exact ⟨label :: more, rfl, List.forall_mem_cons.mpr ⟨hlabel, hmore⟩⟩

theorem denotes_moreLabels {text : List Char} :
    (Expr.many (.seq (.text ['.'] :: labelParts)) 1 none false).Denotes text ↔
      ∃ more : List (List Char), more ≠ [] ∧ (∀ label ∈ more, Label label) ∧
        text = more.flatMap ('.' :: ·) := by
  have hlabel : ∀ part, (Expr.seq (.text ['.'] :: labelParts)).Denotes part ↔
      ∃ label, part = '.' :: label ∧ DenotesAll labelParts label := fun part =>
    denotesAll_text_cons
  simp only [denotes_some, hlabel, denotes_label]
  constructor
  · rintro ⟨parts, hne, hparts, rfl⟩
    obtain ⟨more, rfl, hmore⟩ := exists_labels hparts
    exact ⟨more, by simpa using hne, hmore, List.flatMap_def.symm⟩
  · rintro ⟨more, hne, hmore, rfl⟩
    refine ⟨more.map ('.' :: ·), by simpa using hne, fun part hpart => ?_, List.flatMap_def⟩
    obtain ⟨label, hmem, rfl⟩ := List.mem_map.mp hpart
    exact ⟨label, rfl, hmore label hmem⟩

theorem denotes_addressParts {text : List Char} :
    DenotesAll addressParts text ↔ Address text := by
  have hmailbox : ∀ c, mailboxChars.contains c = true ↔ MailboxChar c := fun c => by
    rw [contains_mailboxChars, isMailboxChar, Bool.or_eq_true, List.contains_iff_mem]
    rfl
  constructor
  · rintro ⟨mailbox, _, rfl, hfirst, hrest⟩
    obtain ⟨⟨hlength, _⟩, hchars⟩ := denotes_many_chars.mp hfirst
    obtain ⟨domain, rfl, hdomain⟩ := denotesAll_text_cons.mp hrest
    obtain ⟨label, _, rfl, hlabel, hlast⟩ := denotesAll_append.mp hdomain
    obtain ⟨more, hne, hmore, rfl⟩ := denotes_moreLabels.mp (denotesAll_singleton.mp hlast)
    rw [← Text.join_cons, Text.join_eq_intercalate]
    have hmailboxChars : ∀ c ∈ mailbox, MailboxChar c := fun c hc => (hmailbox c).mp (hchars c hc)
    have hlabels := List.forall_mem_cons.mpr ⟨denotes_label.mp hlabel, hmore⟩
    refine ⟨count_at hmailboxChars hlabels, mailbox, label :: more, rfl,
      List.length_pos_iff.mp hlength, hmailboxChars, ?_, hlabels⟩
    have := List.length_pos_iff.mpr hne
    rw [List.length_cons]
    omega
  · rintro ⟨_, mailbox, labels, rfl, hne, hchars, hlength, hlabels⟩
    obtain ⟨label, more, rfl⟩ := List.exists_cons_of_length_pos (by omega : 0 < labels.length)
    obtain ⟨hlabel, hmore⟩ := List.forall_mem_cons.mp hlabels
    have hmoreNe : more ≠ [] := by
      rintro rfl
      simp at hlength
    rw [← Text.join_eq_intercalate, Text.join_cons]
    refine ⟨mailbox, _, rfl, denotes_many_chars.mpr ⟨⟨List.length_pos_iff.mpr hne, nofun⟩,
      fun c hc => (hmailbox c).mpr (hchars c hc)⟩, denotesAll_text_cons.mpr ⟨_, rfl, ?_⟩⟩
    refine denotesAll_append.mpr ⟨label, _, rfl, denotes_label.mpr hlabel, ?_⟩
    exact denotesAll_singleton.mpr (denotes_moreLabels.mpr ⟨more, hmoreNe, hmore, rfl⟩)

theorem read_alphanum (rest : List Char) :
    Bracket.read (.ofCase false) ("A-Za-z0-9]".toList ++ rest) = some (⟨2, alphanum⟩, rest) := by
  cbv

theorem read_labelChars (rest : List Char) :
    Bracket.read (.ofCase false) ("A-Za-z0-9-]".toList ++ rest) =
      some (⟨2, labelChars⟩, rest) := by
  cbv

theorem read_mailboxChars (rest : List Char) :
    Bracket.read (.ofCase false) ("A-Za-z0-9.!#$%&'*+/=?^_\x60\x7b|\x7d~-]".toList ++ rest) =
      some (⟨2, mailboxChars⟩, rest) := by
  cbv

theorem reads_label :
    Reads false NotLazy labelSource
      [⟨6, some (.many labelRest 0 (some 1) false)⟩, ⟨2, some (.chars alphanum)⟩] := by
  have hchar : Reads false (fun _ => True) ('[' :: "A-Za-z0-9]".toList)
      [⟨2, some (.chars alphanum)⟩] := .set read_alphanum
  have hbounds : Repeats false ('{' :: "0,61\x7d".toList) 0 (some 61) :=
    repeats_bounds fun _ => rfl
  have hmiddle : Reads false NotLazy ('[' :: "A-Za-z0-9-]".toList ++ '{' :: "0,61\x7d".toList)
      [⟨3, some (.many (.chars labelChars) 0 (some 61) false)⟩] :=
    .repeated (.set read_labelChars) hbounds (by decide)
  have hrest := hmiddle.append hchar fun rest _ => nofun
  have hgroup := (hrest.group (fun _ => trivial) (by decide)).repeated repeats_question (by decide)
  exact hchar.append hgroup fun _ _ => trivial

set_option maxRecDepth 8000 in
theorem fits_addressParts : (anchored addressParts).fits = true := by cbv

/-- The pattern is read as the parts of an address between the tests for both ends. -/
theorem ofString_source : Pattern.ofString source = .ok ⟨source, anchored addressParts⟩ := by
  have hmailbox : Reads false NotLazy
      ('[' :: "A-Za-z0-9.!#$%&'*+/=?^_\x60\x7b|\x7d~-]".toList ++ ['+'])
      [⟨3, some (.many (.chars mailboxChars) 1 none false)⟩] :=
    .repeated (.set read_mailboxChars) repeats_plus (by decide)
  have hat : Reads false (fun _ => True) ['@'] [⟨0, some (.text ['@'])⟩] :=
    .char (fun _ _ => rfl) rfl
  have hdot : Reads false (fun _ => True) ['\\', '.'] [⟨0, some (.text ['.'])⟩] :=
    .escaped (fun _ => rfl) rfl
  have hmore : Reads false NotLazy
      ('(' :: '?' :: ':' :: (['\\', '.'] ++ labelSource ++ [')']) ++ ['+'])
      [⟨9, some (.many (.seq (.text ['.'] :: labelParts)) 1 none false)⟩] := by
    have hparts := hdot.append reads_label fun _ _ => trivial
    exact (hparts.group (fun _ => nofun) (by decide)).repeated repeats_plus (by decide)
  have hstart : Reads false (fun _ => True) ['^'] [⟨0, some (.edge .start)⟩] := .start
  have hstop : Reads false (fun _ => True) ['$'] [⟨0, some (.edge .stop)⟩] := .stop
  have hall := ((((hstart.append hmailbox fun _ _ => trivial).append hat fun _ _ => nofun).append
    reads_label fun _ _ => trivial).append hmore fun _ _ => nofun).append hstop fun _ _ => nofun
  have htext : ['^'] ++ ('[' :: "A-Za-z0-9.!#$%&'*+/=?^_\x60\x7b|\x7d~-]".toList ++ ['+']) ++
      ['@'] ++ labelSource ++
      ('(' :: '?' :: ':' :: (['\\', '.'] ++ labelSource ++ [')']) ++ ['+']) ++ ['$'] =
      source.toList := by decide +kernel
  rw [htext] at hall
  have hrun : State.run (source.toList.length + 1) .start source.toList = _ :=
    hall.run trivial rfl (by omega)
  have hread : Expr.read? source.toList = some (anchored addressParts) :=
    Expr.read?_of_run hrun rfl rfl (by decide)
  rw [Pattern.ofString, hread]
  simp only [fits_addressParts, if_true]

end Email

end Rulebook
