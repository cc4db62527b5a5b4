import Mathlib.Data.List.TakeWhile
import Rulebook.Proofs.Rule.Grammar

/-!
# Splitting and joining rule strings

A rule string is cut at every bar, and each piece at its first colon. The grammar of rule strings
comes to the same on every text: a name ends before the first bar or colon, an argument before the
first bar, and so a token takes exactly one piece. Nothing is lost on the way, so a rule string and
its tokens determine each other.

* `pieces_eq_splitOn`, `splitColon_eq`: the cuts, in terms of lists;
* `yields_grammar`: what the grammar finds in pieces with bars between them;
* `parses_iff`: every rule string is parsed, into its tokens and nothing else;
* `ofString_join_of_wellFormed`: tokens that are joined are the tokens of the text;
* `splitting_inverts_joining`: all of this together.
-/

namespace Rulebook

/-! ## Pieces -/

namespace Text

variable {separator : Char} {text piece : List Char} {parts : List (List Char)}

theorem pieces_eq_splitOn (separator : Char) (text : List Char) :
    pieces separator text = text.splitOn separator := by
  induction text with
  | nil => rfl
  | cons c rest ih =>
    rw [List.splitOn, List.splitOnP_cons_eq_if_modifyHead, ← List.splitOn, ← ih]
    by_cases h : c = separator
    · simp [pieces, h]
    · simp only [pieces, h, ↓reduceIte, beq_iff_eq]
      cases hp : pieces separator rest with
      | nil => exact absurd hp (pieces_ne_nil separator rest)
      | cons piece more => rfl

theorem join_eq_intercalate (separator : Char) (parts : List (List Char)) :
    join separator parts = [separator].intercalate parts := by
  induction parts with
  | nil => rfl
  | cons piece more ih =>
    cases more with
    | nil => simp [join]
    | cons next more =>
      have hjoin : join separator (piece :: next :: more) =
          piece ++ separator :: join separator (next :: more) := rfl
      rw [hjoin, ih, List.intercalate_cons_cons, List.append_assoc, List.singleton_append]

theorem not_mem_of_mem_pieces (h : piece ∈ pieces separator text) : separator ∉ piece := by
  induction text generalizing piece with
  | nil =>
    obtain rfl := List.mem_singleton.mp h
    exact List.not_mem_nil
  | cons c rest ih =>
    by_cases hc : c = separator
    · simp only [pieces, hc, ↓reduceIte, List.mem_cons] at h
      rcases h with rfl | h
      · exact List.not_mem_nil
      · exact ih h
    · simp only [pieces, hc, ↓reduceIte] at h
      cases hp : pieces separator rest with
      | nil => exact absurd hp (pieces_ne_nil separator rest)
      | cons first more =>
        rw [hp] at ih h
        rcases List.mem_cons.mp h with rfl | h
        · have hfirst := ih (List.mem_cons_self ..)
          rw [List.mem_cons, not_or]
          exact ⟨Ne.symm hc, hfirst⟩
        · exact ih (List.mem_cons_of_mem _ h)

theorem pieces_join (hparts : parts ≠ []) (h : ∀ piece ∈ parts, separator ∉ piece) :
    pieces separator (join separator parts) = parts := by
  rw [pieces_eq_splitOn, join_eq_intercalate]
  exact List.splitOn_intercalate separator h hparts

theorem join_cons (separator : Char) (piece : List Char) (more : List (List Char)) :
    join separator (piece :: more) = piece ++ more.flatMap (separator :: ·) := by
  induction more generalizing piece with
  | nil => simp [join]
  | cons next more ih =>
    have hjoin : join separator (piece :: next :: more) =
        piece ++ separator :: join separator (next :: more) := rfl
    rw [hjoin, ih, List.flatMap_cons, List.cons_append]

end Text

namespace Token

/-! ## Names and arguments -/

/-- A piece is cut where its first colon is. -/
theorem splitColon_eq (piece : List Char) :
    splitColon piece = (piece.takeWhile (· != ':'), (piece.dropWhile (· != ':')).tail?) := by
  induction piece with
  | nil => rfl
  | cons c rest ih =>
    by_cases hc : c = ':'
    · subst hc
      rfl
    · have hne : (c != ':') = true := bne_iff_ne.mpr hc
      rw [splitColon, if_neg hc, ih, List.takeWhile_cons_of_pos (p := (· != ':')) hne,
        List.dropWhile_cons_of_pos (p := (· != ':')) hne]

theorem ne_colon_of_not_mem {text : List Char} (h : ':' ∉ text) :
    ∀ c ∈ text, (c != ':') = true := by
  intro c hc
  exact bne_iff_ne.mpr fun he => h (he ▸ hc)

theorem splitColon_of_not_mem {piece : List Char} (h : ':' ∉ piece) :
    splitColon piece = (piece, none) := by
  have hall := ne_colon_of_not_mem h
  rw [splitColon_eq, List.takeWhile_eq_self_iff.mpr hall, List.dropWhile_eq_nil_iff.mpr hall]
  rfl

theorem splitColon_append {name : List Char} (h : ':' ∉ name) (arg : List Char) :
    splitColon (name ++ ':' :: arg) = (name, some arg) := by
  have hall := ne_colon_of_not_mem h
  have hcolon : ¬(':' != ':') = true := by decide
  rw [splitColon_eq, List.takeWhile_append_of_pos hall, List.dropWhile_append_of_pos hall,
    List.takeWhile_cons_of_neg (p := (· != ':')) hcolon,
    List.dropWhile_cons_of_neg (p := (· != ':')) hcolon, List.append_nil]
  rfl

theorem ofPiece_of_not_mem {piece : List Char} (h : ':' ∉ piece) :
    ofPiece piece = ⟨String.ofList piece, none⟩ := by
  rw [ofPiece, splitColon_of_not_mem h]
  rfl

theorem ofPiece_append {name : List Char} (h : ':' ∉ name) (arg : List Char) :
    ofPiece (name ++ ':' :: arg) = ⟨String.ofList name, some (String.ofList arg)⟩ := by
  rw [ofPiece, splitColon_append h]
  rfl

/-- No separator is mistaken: a name has neither bars nor colons, an argument has no bar. -/
structure WellFormed (t : Token) : Prop where
  name_bar : '|' ∉ t.name.toList
  name_colon : ':' ∉ t.name.toList
  arg_bar : ∀ arg, t.arg = some arg → '|' ∉ arg.toList

theorem ofPiece_chars {t : Token} (h : t.WellFormed) : ofPiece t.chars = t := by
  obtain ⟨name, arg⟩ := t
  cases arg with
  | none => rw [chars, ofPiece_of_not_mem h.name_colon, String.ofList_toList]
  | some arg =>
    rw [chars, ofPiece_append h.name_colon, String.ofList_toList, String.ofList_toList]

theorem not_mem_chars {t : Token} (h : t.WellFormed) : '|' ∉ t.chars := by
  obtain ⟨name, arg⟩ := t
  cases arg with
  | none => exact h.name_bar
  | some arg =>
    have harg := h.arg_bar arg rfl
    simp only [chars, List.mem_append, List.mem_cons, not_or]
    exact ⟨h.name_bar, by decide, harg⟩

/-- The tokens of a rule string are well-formed. -/
theorem wellFormed_of_mem {rules : String} {t : Token} (h : t ∈ ofString rules) :
    t.WellFormed := by
  unfold ofString at h
  split at h
  · cases h
  · obtain ⟨piece, hpiece, rfl⟩ := List.mem_map.mp h
    have hbar := Text.not_mem_of_mem_pieces hpiece
    by_cases hcolon : ':' ∈ piece
    · obtain ⟨name, arg, rfl, hname⟩ := List.eq_append_cons_of_mem hcolon
      rw [List.mem_append, List.mem_cons, not_or, not_or] at hbar
      rw [ofPiece_append hname]
      refine ⟨?_, ?_, fun text htext => ?_⟩
      · rw [String.toList_ofList]
        exact hbar.1
      · rw [String.toList_ofList]
        exact hname
      · rw [← Option.some.inj htext, String.toList_ofList]
        exact hbar.2.2
    · rw [ofPiece_of_not_mem hcolon]
      refine ⟨?_, ?_, nofun⟩
      · rw [String.toList_ofList]
        exact hbar
      · rw [String.toList_ofList]
        exact hcolon

theorem join_ne_empty {tokens : List Token} (hne : tokens ≠ []) (hempty : tokens ≠ [⟨"", none⟩]) :
    join tokens ≠ "" := by
  intro hjoin
  have hchars : Text.join '|' (tokens.map chars) = [] := String.ofList_eq_empty_iff.mp hjoin
  cases tokens with
  | nil => exact hne rfl
  | cons t more =>
    rw [List.map_cons, Text.join_cons, List.append_eq_nil_iff] at hchars
    obtain ⟨ht, hmore⟩ := hchars
    cases more with
    | cons u more => cases hmore
    | nil =>
      obtain ⟨name, arg⟩ := t
      cases arg with
      | none =>
        obtain rfl := String.toList_eq_nil_iff.mp ht
        exact hempty rfl
      | some arg => exact absurd ht (List.append_ne_nil_of_right_ne_nil _ (List.cons_ne_nil _ _))

/-- Well-formed tokens that are joined are the tokens of the text. Only the token without a name
and without an argument cannot stand alone, as its text is the empty one. -/
theorem ofString_join_of_wellFormed {tokens : List Token} (hne : tokens ≠ [])
    (hempty : tokens ≠ [⟨"", none⟩]) (h : ∀ t ∈ tokens, t.WellFormed) :
    ofString (join tokens) = tokens := by
  have hjoin : (join tokens).isEmpty = false := by simpa using join_ne_empty hne hempty
  have hpieces : ∀ piece ∈ tokens.map chars, '|' ∉ piece := by
    intro piece hpiece
    obtain ⟨t, ht, rfl⟩ := List.mem_map.mp hpiece
    exact not_mem_chars (h t ht)
  have hid : tokens.map (fun t => ofPiece t.chars) = tokens := by
    refine (List.map_congr_left fun t ht => ?_).trans (List.map_id tokens)
    exact ofPiece_chars (h t ht)
  rw [ofString, hjoin, join, String.toList_ofList,
    Text.pieces_join (by simpa using hne) hpieces, List.map_map]
  exact hid

end Token

/-! ## What the grammar matches -/

namespace Peg

theorem yields_char_else {c d : Char} (h : d ≠ c) (rest : List Char) :
    (char c).Yields (d :: rest) none := by
  refine .char_else fun hhead => ?_
  exact h (Option.some.inj hhead)

/-- A repetition up to an expression goes on to the end, or to where the expression matches. -/
theorem yields_upTo {e : Peg} {text rest : List Char}
    (htext : ∀ c ∈ text, ∀ after, e.Yields (c :: after) none)
    (hrest : (rest = [] ∧ e.Yields [] none) ∨ ∃ m, e.Yields rest (some m)) :
    (upTo e).Yields (text ++ rest) (some ⟨text, [], rest⟩) := by
  induction text with
  | nil =>
    rcases hrest with ⟨rfl, hend⟩ | ⟨m, hm⟩
    · exact .many_end (.seq_second (.not hend) .any_end)
    · exact .many_end (.seq_first (.not_else hm))
  | cons c text ih =>
    obtain ⟨hc, htext⟩ := List.forall_mem_cons.mp htext
    exact .many (.seq (.not (hc _)) (.any c _)) (ih htext)

end Peg

namespace Token

variable {rest : List Char}

/-- A name goes on to the first bar or colon. -/
theorem yields_nameExpr {name : List Char} (hbar : '|' ∉ name) (hcolon : ':' ∉ name)
    (hrest : ∀ c ∈ rest.head?, c = '|' ∨ c = ':') :
    nameExpr.Yields (name ++ rest) (some ⟨name, [⟨.name, name, []⟩], rest⟩) := by
  refine .part (m := ⟨name, [], rest⟩) (Peg.yields_upTo (fun c hc after => ?_) ?_)
  · have hcbar : c ≠ '|' := fun h => hbar (h ▸ hc)
    have hccolon : c ≠ ':' := fun h => hcolon (h ▸ hc)
    exact .either_second (Peg.yields_char_else hcbar after) (Peg.yields_char_else hccolon after)
  · cases rest with
    | nil => exact .inl ⟨rfl, .either_second (.char_else nofun) (.char_else nofun)⟩
    | cons c after =>
      rcases hrest c rfl with rfl | rfl
      · exact .inr ⟨_, .either_first (.char '|' after)⟩
      · exact .inr ⟨_, .either_second (Peg.yields_char_else (by decide) after) (.char ':' after)⟩

/-- An argument goes on to the first bar. -/
theorem yields_argExpr {arg : List Char} (hbar : '|' ∉ arg) (hrest : ∀ c ∈ rest.head?, c = '|') :
    argExpr.Yields (arg ++ rest) (some ⟨arg, [⟨.arg, arg, []⟩], rest⟩) := by
  refine .part (m := ⟨arg, [], rest⟩) (Peg.yields_upTo (fun c hc after => ?_) ?_)
  · have hcbar : c ≠ '|' := fun h => hbar (h ▸ hc)
    exact Peg.yields_char_else hcbar after
  · cases rest with
    | nil => exact .inl ⟨rfl, .char_else nofun⟩
    | cons c after =>
      obtain rfl := hrest c rfl
      exact .inr ⟨_, .char '|' after⟩

/-- A token is a piece, with the name and the argument that the piece is cut into. -/
theorem yields_tokenExpr {piece : List Char} (hbar : '|' ∉ piece)
    (hrest : ∀ c ∈ rest.head?, c = '|') :
    ∃ node : Node, node.part = .token ∧ ofNode node = ofPiece piece ∧
      tokenExpr.Yields (piece ++ rest) (some ⟨piece, [node], rest⟩) := by
  by_cases hcolon : ':' ∈ piece
  · obtain ⟨name, arg, rfl, hname⟩ := List.eq_append_cons_of_mem hcolon
    rw [List.mem_append, List.mem_cons, not_or, not_or] at hbar
    obtain ⟨hnamebar, _, hargbar⟩ := hbar
    have hn : nameExpr.Yields (name ++ (':' :: (arg ++ rest))) _ :=
      yields_nameExpr hnamebar hname fun c hc => .inr (Option.some.inj hc).symm
    have ha := yields_argExpr hargbar hrest
    refine ⟨⟨.token, name ++ ':' :: arg, [⟨.name, name, []⟩, ⟨.arg, arg, []⟩]⟩, rfl, ?_, ?_⟩
    · rw [ofPiece_append hname]
      rfl
    · rw [List.append_assoc]
      exact .part (.seq hn (.maybe (.seq (.char ':' _) ha)))
  · have hn : nameExpr.Yields (piece ++ rest) _ :=
      yields_nameExpr hbar hcolon fun c hc => .inl (hrest c hc)
    have hnone : (Peg.seq (.char ':') argExpr).Yields rest none := by
      refine .seq_first (.char_else fun hhead => ?_)
      exact absurd (hrest ':' hhead) (by decide)
    refine ⟨⟨.token, piece, [⟨.name, piece, []⟩]⟩, rfl, ?_, ?_⟩
    · rw [ofPiece_of_not_mem hcolon]
      rfl
    · have hmatch := Peg.Yields.seq hn (.maybe_not hnone)
      rw [Match.append_empty] at hmatch
      exact .part hmatch

/-- Pieces with a bar in front of each begin with a bar, if there are any. -/
theorem head?_flatMap_bar (pieces : List (List Char)) :
    ∀ c ∈ (pieces.flatMap ('|' :: ·)).head?, c = '|' := by
  intro c hc
  cases pieces with
  | nil => cases hc
  | cons piece more => exact (Option.some.inj hc).symm

/-- Bars and tokens behind them are found up to the end. -/
theorem yields_tokens {pieces : List (List Char)} (h : ∀ piece ∈ pieces, '|' ∉ piece) :
    ∃ nodes, (∀ node ∈ nodes, node.part = .token) ∧ nodes.map ofNode = pieces.map ofPiece ∧
      (Peg.many (.seq (.char '|') tokenExpr)).Yields (pieces.flatMap ('|' :: ·))
        (some ⟨pieces.flatMap ('|' :: ·), nodes, []⟩) := by
  induction pieces with
  | nil => exact ⟨[], nofun, rfl, .many_end (.seq_first (.char_else nofun))⟩
  | cons piece more ih =>
    obtain ⟨hpiece, hmore⟩ := List.forall_mem_cons.mp h
    obtain ⟨nodes, hparts, htokens, hnodes⟩ := ih hmore
    obtain ⟨node, hpart, htoken, hnode⟩ := yields_tokenExpr hpiece (head?_flatMap_bar more)
    refine ⟨node :: nodes, List.forall_mem_cons.mpr ⟨hpart, hparts⟩, ?_, ?_⟩
    · rw [List.map_cons, List.map_cons, htoken, htokens]
    · exact .many (.seq (.char '|' _) hnode) hnodes

/-- The grammar finds the tokens of a rule string that is not empty. -/
theorem yields_grammar {rules : String} (h : rules ≠ "") :
    ∃ m, grammar.Yields rules.toList (some m) ∧ ofNodes m.nodes = ofString rules := by
  obtain ⟨piece, more, hpieces⟩ : ∃ piece more, Text.pieces '|' rules.toList = piece :: more :=
    List.exists_cons_of_ne_nil (Text.pieces_ne_nil '|' rules.toList)
  have hbars : ∀ p ∈ piece :: more, '|' ∉ p := by
    intro p hp
    rw [← hpieces] at hp
    exact Text.not_mem_of_mem_pieces hp
  have htext : rules.toList = piece ++ more.flatMap ('|' :: ·) := calc
    rules.toList = Text.join '|' (Text.pieces '|' rules.toList) := (Text.join_pieces _ _).symm
    _ = piece ++ more.flatMap ('|' :: ·) := by rw [hpieces, Text.join_cons]
  obtain ⟨hpiece, hmore⟩ := List.forall_mem_cons.mp hbars
  obtain ⟨node, hpart, htoken, hnode⟩ := yields_tokenExpr hpiece (head?_flatMap_bar more)
  obtain ⟨nodes, hparts, htokens, hnodes⟩ := yields_tokens hmore
  rw [htext]
  refine ⟨_, .part (.seq hnode (.seq hnodes (.part .stop))), ?_⟩
  have hfound : (nodes.filter fun n => n.part = .token) = nodes := by
    refine List.filter_eq_self.mpr fun n hn => ?_
    exact decide_eq_true (hparts n hn)
  have hnotEmpty : rules.isEmpty = false := by simpa using h
  simp [ofNodes, ofString, hnotEmpty, hpieces, Match.append, hfound, hpart, htoken, htokens]

/-- Every rule string is parsed, into its tokens and into nothing else. -/
theorem parses_iff {rules : String} {result : Except Failure (List Token)} :
    Parses rules result ↔ result = .ok (ofString rules) := by
  constructor
  · intro hparses
    cases hparses with
    | empty => rfl
    | tokens h hm =>
      obtain ⟨m, hgrammar, htokens⟩ := yields_grammar h
      obtain rfl := Option.some.inj (hm.unique hgrammar)
      rw [htokens]
    | refused h hm text =>
      obtain ⟨m, hgrammar, _⟩ := yields_grammar h
      cases hm.unique hgrammar
  · rintro rfl
    by_cases h : rules = ""
    · subst h
      exact .empty
    · obtain ⟨m, hgrammar, htokens⟩ := yields_grammar h
      rw [← htokens]
      exact .tokens h hgrammar

theorem ofString_eq_nil_iff {rules : String} : ofString rules = [] ↔ rules = "" := by
  constructor
  · intro h
    rw [← ofString_join rules, h]
    rfl
  · rintro rfl
    rfl

/-- **Splitting and joining.** The grammar of rule strings refuses no text, and makes of each text
the list of its tokens. These are the text cut at every bar, and each piece at its first colon; the
empty text alone has none. The tokens of a text, joined again, are the text; and tokens without
bars, and without colons in their names, are the tokens of the text that they are joined to, but for
the one without name and argument if it is alone. -/
theorem splitting_inverts_joining :
    (∀ rules result, Parses rules result ↔ result = .ok (ofString rules)) ∧
    (∀ rules, ofString rules = [] ↔ rules = "") ∧
    (∀ rules, rules ≠ "" → ofString rules = (rules.toList.splitOn '|').map fun piece =>
      ⟨String.ofList (piece.takeWhile (· != ':')),
        (piece.dropWhile (· != ':')).tail?.map String.ofList⟩) ∧
    (∀ rules, join (ofString rules) = rules) ∧
    ∀ tokens, tokens ≠ [] → tokens ≠ [⟨"", none⟩] →
      (∀ t ∈ tokens, '|' ∉ t.name.toList ∧ ':' ∉ t.name.toList ∧
        ∀ arg, t.arg = some arg → '|' ∉ arg.toList) →
      Parses (join tokens) (.ok tokens) := by
  refine ⟨fun rules result => parses_iff, fun rules => ofString_eq_nil_iff, fun rules h => ?_,
    ofString_join, fun tokens hne hempty h => ?_⟩
  · have hnotEmpty : rules.isEmpty = false := by simpa using h
    have hpiece : ofPiece = fun piece => ⟨String.ofList (piece.takeWhile (· != ':')),
        (piece.dropWhile (· != ':')).tail?.map String.ofList⟩ := by
      funext piece
      rw [ofPiece, splitColon_eq]
    rw [ofString, hnotEmpty, Text.pieces_eq_splitOn, ← hpiece]
    rfl
  · have hwell : ∀ t ∈ tokens, t.WellFormed := by
      intro t ht
      obtain ⟨hbar, hcolon, harg⟩ := h t ht
      exact ⟨hbar, hcolon, harg⟩
    rw [parses_iff, ofString_join_of_wellFormed hne hempty hwell]

/-- A colon in an argument stays there, and a bar at the end is followed by a token. -/
theorem splitting_inverts_joining_trailing :
    Parses "required|pattern:a:b|" (.ok [⟨"required", none⟩, ⟨"pattern", some "a:b"⟩, ⟨"", none⟩]) ∧
      join (ofString "required|pattern:a:b|") = "required|pattern:a:b|" ∧
      ¬Parses "required|pattern:a:b|" (.error (.parse "expected token")) := by
  obtain ⟨hparses, _, _, hjoin, htokens⟩ := splitting_inverts_joining
  refine ⟨?_, hjoin _, fun h => ?_⟩
  · exact htokens [⟨"required", none⟩, ⟨"pattern", some "a:b"⟩, ⟨"", none⟩] (by decide) (by decide)
      (by decide)
  · cases (hparses _ _).mp h

end Token

end Rulebook
