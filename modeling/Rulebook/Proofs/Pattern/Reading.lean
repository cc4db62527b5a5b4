import Rulebook.Pattern.Source

/-!
# Reading patterns part by part

The reader keeps what it has read in a state. Where parts of a pattern stand one after another, each
of them adds its own items to that state, whatever has been read before. So the reading of a pattern
is put together as the pattern itself is.

* `State.step_close`, `State.step_set` and so on: a step, by the character in front;
* `Reads`: the items that a text adds;
* `Reads.append`, `Reads.char`, `Reads.set`, `Reads.repeated`, `Reads.group`: parts of patterns;
* `Reads.run`, `Expr.read?_of_run`: whole patterns.
-/

namespace Rulebook.Pattern

/-! ## Steps

The step of the reader has a case for each character that means something. The cases that patterns
below need are stated here, so that no other proof has to go through all of them. -/

namespace State

variable (s : State) (rest : List Char)

theorem step_close : s.step (')' :: rest) = s.closeGroup.map (·, rest) := rfl

theorem step_plus :
    s.step ('+' :: rest) = (s.repeated 1 none (readLazy rest).1).map (·, (readLazy rest).2) := rfl

theorem step_question :
    s.step ('?' :: rest) =
      (s.repeated 0 (some 1) (readLazy rest).1).map (·, (readLazy rest).2) := rfl

theorem step_bounds :
    s.step ('{' :: rest) = (readBounds s.flags rest).bind fun (least, most, rest) =>
      (s.repeated least most (readLazy (s.flags.skip rest)).1).bind fun s' =>
        some (s', (readLazy (s.flags.skip rest)).2) := rfl

theorem step_set :
    s.step ('[' :: rest) = (Bracket.read s.flags rest).bind fun (set, rest) =>
      some ({ s with items := ⟨set.depth, some (.ofChars set.value)⟩ :: s.items }, rest) := rfl

theorem step_start :
    s.step ('^' :: rest) = some (s.push (.edge
      (if s.flags.multiLine then .lineStart s.flags.returns else .start)), rest) := rfl

theorem step_stop :
    s.step ('$' :: rest) = some (s.push (.edge
      (if s.flags.multiLine then .lineStop s.flags.returns else .stop)), rest) := rfl

theorem step_escape_of_char {c : Char} {rest' : List Char}
    (h : Escape.read s.flags rest = some (.char c, rest')) :
    s.step ('\\' :: rest) = some (s.pushChars (s.flags.fold (.single c)), rest') := by
  change (Escape.read s.flags rest).bind _ = _
  rw [h]
  rfl

end State

/-! ## Items that are added -/

/-- Flags of which none is set, but that case may not count. -/
def Flags.ofCase (ignoreCase : Bool) : Flags := { Flags.none with ignoreCase }

/-- No question mark follows, with which a repetition would prefer short matches. -/
def NotLazy (rest : List Char) : Prop := rest.head? ≠ some '?'

/-- A text that stands before others of some kind adds items to every state. -/
def Reads (ignoreCase : Bool) (before : List Char → Prop) (text : List Char)
    (items : List Item) : Prop :=
  ∃ n, n ≤ text.length ∧ ∀ (fuel : Nat) (s : State) (rest : List Char),
    s.flags = .ofCase ignoreCase → before rest →
      State.run (n + fuel) s (text ++ rest) =
        State.run fuel { s with items := items ++ s.items } rest

variable {ignoreCase : Bool} {before : List Char → Prop} {text : List Char} {items : List Item}

theorem State.run_step {s s' : State} {c : Char} {cs rest : List Char}
    (hs : s.flags = .ofCase ignoreCase) (h : s.step (c :: cs) = some (s', rest)) (fuel : Nat) :
    run (fuel + 1) s (c :: cs) = run fuel s' rest := by
  have hskip : s.flags.skip (c :: cs) = c :: cs := by
    rw [hs]
    rfl
  simp only [run, hskip, h, Option.bind_eq_bind, Option.bind_some]

namespace Reads

/-- One step of the reader. -/
theorem of_step {c : Char} {cs : List Char} {item : Item}
    (h : ∀ (s : State) (rest : List Char), s.flags = .ofCase ignoreCase → before rest →
      s.step (c :: (cs ++ rest)) = some ({ s with items := item :: s.items }, rest)) :
    Reads ignoreCase before (c :: cs) [item] := by
  refine ⟨1, by rw [List.length_cons]; omega, fun fuel s rest hs hrest => ?_⟩
  rw [Nat.add_comm]
  exact State.run_step hs (h s rest hs hrest) fuel

theorem append {next : List Char → Prop} {more : List Char} {last : List Item}
    (h : Reads ignoreCase before text items) (hmore : Reads ignoreCase next more last)
    (hbefore : ∀ rest, next rest → before (more ++ rest)) :
    Reads ignoreCase next (text ++ more) (last ++ items) := by
  obtain ⟨m, hm, hfirst⟩ := h
  obtain ⟨n, hn, hlast⟩ := hmore
  refine ⟨m + n, by rw [List.length_append]; omega, fun fuel s rest hs hrest => ?_⟩
  rw [List.append_assoc, Nat.add_assoc, hfirst (n + fuel) s (more ++ rest) hs (hbefore rest hrest),
    hlast fuel { s with items := items ++ s.items } rest hs hrest, List.append_assoc]

/-- A character that stands for itself, and has no variants if case does not count. -/
theorem char {c : Char}
    (h : ∀ (s : State) (rest : List Char),
      s.step (c :: rest) = some (s.pushChars (s.flags.fold (.single c)), rest))
    (hfold : (Flags.ofCase ignoreCase).fold (.single c) = .single c) :
    Reads ignoreCase before [c] [⟨0, some (.ofChars (.single c))⟩] := by
  refine of_step fun s rest hs _ => ?_
  have hstep := h s rest
  rw [hs, hfold] at hstep
  exact hstep

/-- A character behind a backslash that stands for itself. -/
theorem escaped {c : Char}
    (h : ∀ rest, Escape.read (.ofCase ignoreCase) (c :: rest) = some (.char c, rest))
    (hfold : (Flags.ofCase ignoreCase).fold (.single c) = .single c) :
    Reads ignoreCase before ['\\', c] [⟨0, some (.ofChars (.single c))⟩] := by
  refine of_step fun s rest hs _ => ?_
  have hread : Escape.read s.flags (c :: rest) = some (.char c, rest) := by rw [hs, h]
  have hset : s.flags.fold (.single c) = .single c := by rw [hs, hfold]
  rw [List.cons_append, List.nil_append, s.step_escape_of_char _ hread, hset]
  rfl

theorem start : Reads ignoreCase before ['^'] [⟨0, some (.edge .start)⟩] := by
  refine of_step fun s rest hs _ => ?_
  have hlines : s.flags.multiLine = false := by rw [hs]; rfl
  rw [State.step_start, hlines]
  rfl

theorem stop : Reads ignoreCase before ['$'] [⟨0, some (.edge .stop)⟩] := by
  refine of_step fun s rest hs _ => ?_
  have hlines : s.flags.multiLine = false := by rw [hs]; rfl
  rw [State.step_stop, hlines]
  rfl

theorem set {set : Nested CharSet}
    (h : ∀ rest, Bracket.read (.ofCase ignoreCase) (text ++ rest) = some (set, rest)) :
    Reads ignoreCase before ('[' :: text) [⟨set.depth, some (.ofChars set.value)⟩] := by
  refine of_step fun s rest hs _ => ?_
  rw [State.step_set, hs, h, Option.bind_some]

end Reads

/-! ## Repetitions and groups -/

/-- A text asks for a repetition of the item before it. -/
def Repeats (ignoreCase : Bool) (text : List Char) (least : Nat) (most : Option Nat) : Prop :=
  text ≠ [] ∧ ∀ (s : State) (rest : List Char), s.flags = .ofCase ignoreCase → NotLazy rest →
    s.step (text ++ rest) = (s.repeated least most false).map (·, rest)

theorem readLazy_of_notLazy {rest : List Char} (h : NotLazy rest) :
    readLazy rest = (false, rest) := by
  unfold readLazy
  split
  · exact absurd rfl h
  · rfl

theorem repeats_plus : Repeats ignoreCase ['+'] 1 none := by
  refine ⟨nofun, fun s rest _ hrest => ?_⟩
  rw [List.cons_append, List.nil_append, State.step_plus, readLazy_of_notLazy hrest]

theorem repeats_question : Repeats ignoreCase ['?'] 0 (some 1) := by
  refine ⟨nofun, fun s rest _ hrest => ?_⟩
  rw [List.cons_append, List.nil_append, State.step_question, readLazy_of_notLazy hrest]

/-- Bounds in braces. -/
theorem repeats_bounds {bounds : List Char} {least : Nat} {most : Option Nat}
    (h : ∀ rest, readBounds (.ofCase ignoreCase) (bounds ++ rest) = some (least, most, rest)) :
    Repeats ignoreCase ('{' :: bounds) least most := by
  refine ⟨nofun, fun s rest hs hrest => ?_⟩
  have hskip : (Flags.ofCase ignoreCase).skip rest = rest := rfl
  simp only [List.cons_append, State.step_bounds, hs, h, hskip, readLazy_of_notLazy hrest,
    Option.bind_some]
  cases s.repeated least most false <;> rfl

namespace Reads

/-- An item that is repeated is one level deeper. -/
theorem repeated {depth least : Nat} {most : Option Nat} {p : Expr} {bounds : List Char}
    (h : Reads ignoreCase (fun _ => True) text [⟨depth, some p⟩])
    (hbounds : Repeats ignoreCase bounds least most) (hdepth : depth < depthLimit) :
    Reads ignoreCase NotLazy (text ++ bounds)
      [⟨depth + 1, some (.ofMany p least most false)⟩] := by
  obtain ⟨n, hn, hread⟩ := h
  obtain ⟨hne, hstep⟩ := hbounds
  obtain ⟨c, cs, rfl⟩ := List.exists_cons_of_ne_nil hne
  refine ⟨n + 1, by simp only [List.length_append, List.length_cons]; omega,
    fun fuel s rest hs hrest => ?_⟩
  have hflags : ({ s with items := ⟨depth, some p⟩ :: s.items } : State).flags =
      .ofCase ignoreCase := hs
  have hrepeated : State.repeated { s with items := ⟨depth, some p⟩ :: s.items } least most false =
      some { s with items := ⟨depth + 1, some (.ofMany p least most false)⟩ :: s.items } := by
    simp only [State.repeated, Nested.wrap, if_pos hdepth, hs, Option.bind_eq_bind,
      Option.bind_some]
    rfl
  have hnext := hstep _ rest hflags hrest
  rw [hrepeated] at hnext
  rw [List.append_assoc, Nat.add_assoc, Nat.add_comm 1, hread _ s _ hs trivial]
  exact State.run_step hflags hnext fuel

/-- The items of a group without a number become one item. -/
theorem group (h : Reads ignoreCase before text items) (hbefore : ∀ rest, before (')' :: rest))
    (hdepth : (closeBranch items).depth < depthLimit) :
    Reads ignoreCase (fun _ => True) ('(' :: '?' :: ':' :: (text ++ [')']))
      [⟨(closeBranch items).depth + 1, some (closeBranch items).value⟩] := by
  obtain ⟨n, hn, hread⟩ := h
  refine ⟨n + 2, by simp only [List.length_append, List.length_cons]; omega,
    fun fuel s rest hs _ => ?_⟩
  obtain ⟨outer, names, groups, flags, branches, before⟩ := s
  obtain rfl : flags = .ofCase ignoreCase := hs
  have hopen : State.step ⟨outer, names, groups, .ofCase ignoreCase, branches, before⟩
      ('(' :: '?' :: ':' :: (text ++ ')' :: rest)) =
      some (⟨⟨.ofCase ignoreCase, none, branches, before⟩ :: outer, names, groups,
        .ofCase ignoreCase, [], []⟩, text ++ ')' :: rest) := rfl
  have hclose : State.step ⟨⟨.ofCase ignoreCase, none, branches, before⟩ :: outer, names, groups,
      .ofCase ignoreCase, [], items ++ []⟩ (')' :: rest) =
      some (⟨outer, names, groups, .ofCase ignoreCase, branches,
        ⟨(closeBranch items).depth + 1, some (closeBranch items).value⟩ :: before⟩, rest) := by
    simp only [State.step_close, State.closeGroup, closeBranches, List.append_nil, Nested.wrap,
      if_pos hdepth, Option.bind_eq_bind, Option.bind_some, Option.map_some]
  have htext : ('(' :: '?' :: ':' :: (text ++ [')'])) ++ rest =
      '(' :: '?' :: ':' :: (text ++ ')' :: rest) := by
    simp
  have hfuel : n + 2 + fuel = n + (fuel + 1) + 1 := by omega
  rw [htext, hfuel, State.run_step rfl hopen, hread _ _ _ rfl (hbefore rest),
    State.run_step rfl hclose]
  rfl

end Reads

/-! ## Whole patterns -/

theorem Reads.run {s : State} {fuel : Nat} (h : Reads ignoreCase before text items)
    (hnil : before []) (hs : s.flags = .ofCase ignoreCase) (hfuel : text.length < fuel) :
    State.run fuel s text = some { s with items := items ++ s.items } := by
  obtain ⟨n, hn, hread⟩ := h
  obtain ⟨more, rfl⟩ : ∃ more, fuel = n + (more + 1) := ⟨fuel - n - 1, by omega⟩
  have hall := hread (more + 1) s [] hs hnil
  rw [List.append_nil] at hall
  rw [hall, State.run, hs]
  rfl

/-- The pattern that the reader ends with, if no group is open. -/
theorem Expr.read?_of_run {s : State} (h : State.run (text.length + 1) .start text = some s)
    (houter : s.outer = []) (hbranches : s.branches = [])
    (hdepth : (closeBranch s.items).depth ≤ depthLimit) :
    Expr.read? text = some (closeBranch s.items).value := by
  simp only [Expr.read?, h, houter, hbranches, closeBranches, List.isEmpty_nil, if_true,
    if_pos hdepth, Option.bind_eq_bind, Option.bind_some]

end Rulebook.Pattern
