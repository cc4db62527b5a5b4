import Rulebook.Proofs.Field.Places

/-!
# How places are written

The path of a part of a document is written as the name of a field, and the steps from there: a key
after a point, an index in brackets. If no name and no key has a point or an opening bracket in it,
there is only one way to read a path.

* `Place.text`: how the steps of a place are written;
* `append_inj_of_stops`: what is read up to a character that ends it;
* `Place.text_inj`, `path_inj`: places and paths are read in one way.
-/

namespace Rulebook

namespace Json

/-! ## Writing -/

def Step.text : Step → String
  | .key name => "." ++ name
  | .item index => "[" ++ toString index ++ "]"

/-- The steps of a place, one after another. -/
def Place.text : Place → String
  | [] => ""
  | step :: rest => step.text ++ Place.text rest

theorem Place.toList_text_key (name : String) (rest : Place) :
    (Place.text (.key name :: rest)).toList =
      '.' :: (name.toList ++ (Place.text rest).toList) := by
  simp [Place.text, Step.text, String.toList_append]

theorem Place.toList_text_item (index : Nat) (rest : Place) :
    (Place.text (.item index :: rest)).toList =
      '[' :: (Nat.toDigits 10 index ++ ']' :: (Place.text rest).toList) := by
  simp [Place.text, Step.text, String.toList_append, Nat.toString_eq_repr, Nat.toList_repr]

theorem Place.text_cons_ne (step : Step) (rest : Place) : Place.text (step :: rest) ≠ "" := by
  intro h
  have hlist := congrArg String.toList h
  cases step with
  | key name =>
    rw [Place.toList_text_key] at hlist
    cases hlist
  | item index =>
    rw [Place.toList_text_item] at hlist
    cases hlist

/-! ## Names that can be told from what follows -/

/-- Whether a character can stand in a plain name. -/
def isPlainChar (c : Char) : Bool := c != '.' && c != '['

/-- A name is plain if there is neither a point nor an opening bracket in it. -/
def isPlainName (name : String) : Bool := name.toList.all isPlainChar

def Step.isPlain : Step → Bool
  | .key name => isPlainName name
  | .item _ => true

def Place.isPlain (place : Place) : Bool := List.all place Step.isPlain

theorem Place.isPlain_cons {step : Step} {rest : Place} :
    Place.isPlain (step :: rest) = true ↔ step.isPlain = true ∧ Place.isPlain rest = true := by
  simp [Place.isPlain]

/-! ## Reading -/

theorem takeWhile_of_stops {α : Type} {p : α → Bool} {xs rest : List α} (hx : ∀ a ∈ xs, p a = true)
    (hrest : ∀ a ∈ rest.head?, p a = false) : (xs ++ rest).takeWhile p = xs := by
  rw [List.takeWhile_append_of_pos hx]
  cases rest with
  | nil => simp
  | cons a rest => simp [hrest a rfl]

/-- What is read up to an element that ends it, and what is left then. -/
theorem append_inj_of_stops {α : Type} {p : α → Bool} {xs ys rest other : List α}
    (hx : ∀ a ∈ xs, p a = true) (hy : ∀ a ∈ ys, p a = true)
    (hrest : ∀ a ∈ rest.head?, p a = false) (hother : ∀ a ∈ other.head?, p a = false)
    (h : xs ++ rest = ys ++ other) : xs = ys ∧ rest = other := by
  have hxy : xs = ys := by
    rw [← takeWhile_of_stops hx hrest, h, takeWhile_of_stops hy hother]
  subst hxy
  exact ⟨rfl, List.append_cancel_left h⟩

/-- A step ends the name before it. -/
theorem Place.stops_text (place : Place) :
    ∀ c ∈ (Place.text place).toList.head?, isPlainChar c = false := by
  intro c hc
  cases place with
  | nil => simp [Place.text] at hc
  | cons step rest =>
    cases step with
    | key name =>
      rw [Place.toList_text_key] at hc
      obtain rfl : '.' = c := Option.some.inj hc
      rfl
    | item index =>
      rw [Place.toList_text_item] at hc
      obtain rfl : '[' = c := Option.some.inj hc
      rfl

/-- A plain name is read up to the first step after it. -/
theorem name_inj {name other : String} {place rest : Place} (hn : isPlainName name = true)
    (ho : isPlainName other = true)
    (h : name.toList ++ (Place.text place).toList = other.toList ++ (Place.text rest).toList) :
    name = other ∧ Place.text place = Place.text rest := by
  obtain ⟨hnames, htexts⟩ := append_inj_of_stops (List.all_eq_true.mp hn) (List.all_eq_true.mp ho)
    (Place.stops_text place) (Place.stops_text rest) h
  exact ⟨String.toList_inj.mp hnames, String.toList_inj.mp htexts⟩

/-- An index is read up to the closing bracket. -/
theorem index_inj {i j : Nat} {rest other : List Char}
    (h : Nat.toDigits 10 i ++ ']' :: rest = Nat.toDigits 10 j ++ ']' :: other) :
    i = j ∧ rest = other := by
  have hdigits : ∀ n, ∀ c ∈ Nat.toDigits 10 n, c.isDigit = true := fun n c hc =>
    Nat.isDigit_of_mem_toDigits (by decide) (by decide) hc
  have hstops : ∀ l : List Char, ∀ c ∈ (']' :: l).head?, c.isDigit = false := by
    intro l c hc
    obtain rfl : ']' = c := Option.some.inj hc
    rfl
  obtain ⟨hij, hrest⟩ := append_inj_of_stops (hdigits i) (hdigits j) (hstops rest) (hstops other) h
  have hvalues : i = j := calc
    i = Nat.ofDigitChars 10 (Nat.toDigits 10 i) 0 := Nat.ofDigitChars_ten_toDigits.symm
    _ = Nat.ofDigitChars 10 (Nat.toDigits 10 j) 0 := by rw [hij]
    _ = j := Nat.ofDigitChars_ten_toDigits
  exact ⟨hvalues, (List.cons.inj hrest).2⟩

/-- Plain places are written differently. -/
theorem Place.text_inj {place other : Place} (hp : Place.isPlain place = true)
    (ho : Place.isPlain other = true) (h : Place.text place = Place.text other) :
    place = other := by
  induction place generalizing other with
  | nil =>
    cases other with
    | nil => rfl
    | cons step rest => exact absurd h.symm (Place.text_cons_ne step rest)
  | cons step rest ih =>
    obtain ⟨hstep, hrest⟩ := Place.isPlain_cons.mp hp
    cases other with
    | nil => exact absurd h (Place.text_cons_ne step rest)
    | cons step' rest' =>
      obtain ⟨hstep', hrest'⟩ := Place.isPlain_cons.mp ho
      have hlist := congrArg String.toList h
      cases step with
      | key name =>
        cases step' with
        | key name' =>
          rw [Place.toList_text_key, Place.toList_text_key] at hlist
          obtain ⟨rfl, htexts⟩ := name_inj hstep hstep' (List.cons.inj hlist).2
          rw [ih hrest hrest' htexts]
        | item index =>
          -- a point is no bracket
          rw [Place.toList_text_key, Place.toList_text_item] at hlist
          cases (List.cons.inj hlist).1
      | item index =>
        cases step' with
        | key name =>
          rw [Place.toList_text_item, Place.toList_text_key] at hlist
          cases (List.cons.inj hlist).1
        | item index' =>
          rw [Place.toList_text_item, Place.toList_text_item] at hlist
          obtain ⟨rfl, htexts⟩ := index_inj (List.cons.inj hlist).2
          rw [ih hrest hrest' (String.toList_inj.mp htexts)]

/-- **Paths.** A path is read in one way as a plain name and the steps of a plain place. -/
theorem path_inj {name other : String} {place rest : Place} (hn : isPlainName name = true)
    (hp : Place.isPlain place = true) (ho : isPlainName other = true)
    (hr : Place.isPlain rest = true) (h : name ++ Place.text place = other ++ Place.text rest) :
    name = other ∧ place = rest := by
  have hlist := congrArg String.toList h
  rw [String.toList_append, String.toList_append] at hlist
  obtain ⟨hnames, htexts⟩ := name_inj hn ho hlist
  exact ⟨hnames, Place.text_inj hp hr htexts⟩

end Json

end Rulebook
