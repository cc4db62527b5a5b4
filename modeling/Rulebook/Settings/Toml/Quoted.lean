import Rulebook.Settings.Toml.Layout
import Rulebook.Text.Digits

/-!
# Quoted texts

Texts stand in double quotes, with escapes, or in single quotes, as they are. Either kind of quote
may be tripled; then the text may go over lines, a line end right after the opening quotes does not
count, and one or two quotes more may stand before the closing ones.

* `length_readEscape`: an escape takes one character at least;
* `readRawFrom_of_plain`: what holds neither quotes nor control characters is read as it is.
-/

namespace Rulebook.Toml

/-! ## Escapes -/

def simpleEscape (c : Char) : Option Char :=
  if c = 'b' then some '\x08'
  else if c = 't' then some '\t'
  else if c = 'n' then some '\n'
  else if c = 'f' then some '\x0c'
  else if c = 'r' then some '\r'
  else if c = 'e' then some '\x1b'
  else if c = '"' then some '"'
  else if c = '\\' then some '\\'
  else none

def hexChar (digits : List Char) : Option Char := (Digits.hexNumber? digits).bind Digits.charOf?

/-- How many hexadecimal digits follow the letter of an escape. -/
def hexWidth (c : Char) : Nat :=
  if c = 'x' then 2 else if c = 'u' then 4 else if c = 'U' then 8 else 0

/-- The character that is written behind a backslash. -/
def readEscape : Reader Char
  | [] => none
  | c :: rest =>
    let width := hexWidth c
    if width = 0 then (simpleEscape c).map fun x => (x, rest)
    else if (rest.take width).length < width then none
    else (hexChar (rest.take width)).map fun x => (x, rest.drop width)

theorem length_readEscape {text rest : List Char} {x : Char}
    (h : readEscape text = some (x, rest)) : rest.length < text.length := by
  cases text with
  | nil => simp [readEscape] at h
  | cons c text =>
    simp only [readEscape] at h
    split at h
    · obtain ⟨_, _, e⟩ := Option.map_eq_some_iff.1 h
      simp only [Prod.mk.injEq] at e
      rw [← e.2]
      exact Nat.lt_succ_self _
    · split at h
      · simp at h
      · obtain ⟨_, _, e⟩ := Option.map_eq_some_iff.1 h
        simp only [Prod.mk.injEq] at e
        rw [← e.2, List.length_drop, List.length_cons]
        omega

/-! ## One line -/

/-- The characters up to a double quote, in reverse order behind those that are done. -/
def readBasicFrom (done text : List Char) : Option (List Char × List Char) :=
  match text with
  | [] => none
  | '"' :: rest => some (done, rest)
  | '\\' :: rest =>
    match h : readEscape rest with
    | some (x, after) =>
      have := length_readEscape h
      readBasicFrom (x :: done) after
    | none => none
  | c :: rest => if isControl c then none else readBasicFrom (c :: done) rest
termination_by text.length
decreasing_by all_goals simp_wf <;> omega

/-- The characters up to a single quote. -/
def readRawFrom (done : List Char) : List Char → Option (List Char × List Char)
  | [] => none
  | c :: rest =>
    if c = '\x27' then some (done, rest)
    else if isControl c then none
    else readRawFrom (c :: done) rest

theorem readRawFrom_of_plain {text : List Char}
    (h : ∀ c ∈ text, c ≠ '\x27' ∧ isControl c = false) (done rest : List Char) :
    readRawFrom done (text ++ '\x27' :: rest) = some (text.reverse ++ done, rest) := by
  induction text generalizing done with
  | nil => simp [readRawFrom]
  | cons c text ih =>
    have hc := h c (List.mem_cons_self ..)
    simp [readRawFrom, hc.1, hc.2, ih fun d hd => h d (List.mem_cons_of_mem _ hd)]

/-! ## Several lines -/

/-- Adds the quotes beyond the three that close a text, two at most. -/
def closeLong (quote : Char) (done : List Char) : List Char → List Char × List Char
  | c :: d :: rest =>
    if c = quote then
      if d = quote then (quote :: quote :: done, rest) else (quote :: done, d :: rest)
    else (done, c :: d :: rest)
  | [c] => if c = quote then (quote :: done, []) else (done, [c])
  | [] => (done, [])

/-- The characters up to three double quotes. A backslash at the end of a line drops all blanks and
line ends that follow it. -/
def readLongFrom (done text : List Char) : Option (List Char × List Char) :=
  match text with
  | [] => none
  | '"' :: '"' :: '"' :: rest => some (closeLong '"' done rest)
  | '\\' :: rest =>
    if (lineEnd? (skipBlanks rest)).isSome then
      have := length_skipSpace rest
      readLongFrom done (skipSpace rest)
    else match h : readEscape rest with
      | some (x, after) =>
        have := length_readEscape h
        readLongFrom (x :: done) after
      | none => none
  | '\r' :: '\n' :: rest => readLongFrom ('\n' :: '\r' :: done) rest
  | c :: rest => if isControl c && c != '\n' then none else readLongFrom (c :: done) rest
termination_by text.length
decreasing_by all_goals simp_wf <;> omega

/-- The characters up to three single quotes. -/
def readLongRawFrom (done : List Char) : List Char → Option (List Char × List Char)
  | [] => none
  | '\x27' :: '\x27' :: '\x27' :: rest => some (closeLong '\x27' done rest)
  | '\r' :: '\n' :: rest => readLongRawFrom ('\n' :: '\r' :: done) rest
  | c :: rest => if isControl c && c != '\n' then none else readLongRawFrom (c :: done) rest

/-- A text whose opening quotes are followed by a line end starts on the next line. -/
def skipLineEnd (text : List Char) : List Char := (lineEnd? text).getD text

/-! ## Readers -/

def ofReversed (read : Option (List Char × List Char)) : Option (String × List Char) :=
  read.map fun (done, rest) => (String.ofList done.reverse, rest)

/-- A quoted text on one line. -/
def readQuotedLine : Reader String
  | '"' :: rest => ofReversed (readBasicFrom [] rest)
  | '\x27' :: rest => ofReversed (readRawFrom [] rest)
  | _ => none

/-- A quoted text in any form. -/
def readQuoted : Reader String
  | '"' :: '"' :: '"' :: rest => ofReversed (readLongFrom [] (skipLineEnd rest))
  | '\x27' :: '\x27' :: '\x27' :: rest => ofReversed (readLongRawFrom [] (skipLineEnd rest))
  | text => readQuotedLine text

end Rulebook.Toml
