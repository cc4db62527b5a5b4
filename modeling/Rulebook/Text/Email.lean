/-!
# Email addresses

An address is a mailbox, one `@` and a domain. The mailbox is a non-empty run of letters, digits
and some signs; the domain is at least two labels separated by dots, each of 1 to 63 letters,
digits and hyphens, with no hyphen at an end. All characters are ASCII.

* `splitAt_append`, `labels_ne_nil`: splitting loses nothing.
-/

namespace Rulebook.Email

def mailboxSigns : List Char := ".!#$%&'*+/=?^_\x60\x7b|\x7d~-".toList

def isMailboxChar (c : Char) : Bool := c.isAlphanum || mailboxSigns.contains c

def isMailbox (text : List Char) : Bool := !text.isEmpty && text.all isMailboxChar

/-! ## Domains -/

def isLabelChar (c : Char) : Bool := c.isAlphanum || c == '-'

def isLabel (text : List Char) : Bool :=
  1 ≤ text.length && text.length ≤ 63 && text.all isLabelChar &&
    text.head? != some '-' && text.getLast? != some '-'

/-- The pieces of a text between its dots. -/
def labels : List Char → List (List Char)
  | [] => [[]]
  | c :: rest =>
    if c = '.' then [] :: labels rest
    else match labels rest with
      | [] => [[c]]
      | label :: more => (c :: label) :: more

def isDomain (text : List Char) : Bool :=
  2 ≤ (labels text).length && (labels text).all isLabel

/-! ## Addresses -/

/-- The text before the first `@` and the text after it. -/
def splitAt : List Char → Option (List Char × List Char)
  | [] => none
  | c :: rest =>
    if c = '@' then some ([], rest) else (splitAt rest).map fun (mailbox, domain) =>
      (c :: mailbox, domain)

def isAddress (text : List Char) : Bool :=
  match splitAt text with
  | some (mailbox, domain) => isMailbox mailbox && isDomain domain
  | none => false

/-! ## Laws -/

theorem labels_ne_nil (text : List Char) : labels text ≠ [] := by
  cases text with
  | nil => simp [labels]
  | cons c rest =>
    by_cases h : c = '.'
    · simp [labels, h]
    · simp only [labels, h, ↓reduceIte]
      split <;> simp

theorem splitAt_append {text mailbox domain : List Char}
    (h : splitAt text = some (mailbox, domain)) : text = mailbox ++ '@' :: domain := by
  induction text generalizing mailbox with
  | nil => simp [splitAt] at h
  | cons c rest ih =>
    by_cases hc : c = '@'
    · simp only [splitAt, hc, ↓reduceIte, Option.some.injEq, Prod.mk.injEq] at h
      simp [hc, ← h.1, h.2]
    · simp only [splitAt, hc, ↓reduceIte, Option.map_eq_some_iff] at h
      obtain ⟨⟨m, d⟩, hm, he⟩ := h
      simp only [Prod.mk.injEq] at he
      have hr : splitAt rest = some (m, domain) := by rw [hm, he.2]
      rw [ih hr, ← he.1]
      rfl

end Rulebook.Email
