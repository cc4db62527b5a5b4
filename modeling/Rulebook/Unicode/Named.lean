import Rulebook.Unicode.Age
import Rulebook.Unicode.Script
import Rulebook.Unicode.Word

/-!
# Sets of characters by name

Patterns can name a property, a general category or a script, and with the kind of the property
in front also the scripts that a character is used with and its age. Case, blanks, hyphens and
underscores do not count in names, nor does `is` in front.
-/

namespace Rulebook.Unicode

/-! ## Names -/

def isSeparator (c : Char) : Bool := c == ' ' || c == '_' || c == '-'

/-- A name without what does not count. The name `isc` stands for itself and not for `c`. -/
def normalName (name : List Char) : String :=
  let plain (name : List Char) : List Char :=
    (name.filter fun c => c.toNat < 128 && !isSeparator c).map Char.toLower
  match name with
  | i :: s :: rest =>
    if i.toLower = 'i' ∧ s.toLower = 's' then
      String.ofList (if plain rest = ['c'] then ['i', 's', 'c'] else plain rest)
    else String.ofList (plain name)
  | _ => String.ofList (plain name)

def find? {α : Type} (table : List (List String × α)) (name : String) : Option α :=
  (table.find? fun entry => entry.1.contains name).map (·.2)

/-! ## General categories -/

/-- The names of categories, with their abbreviations. -/
def categoryNames : List (List String × String) := [
  (["cc", "control", "cntrl"], "Cc"), (["cf", "format"], "Cf"), (["co", "privateuse"], "Co"),
  (["l", "letter"], "L"), (["ll", "lowercaseletter"], "Ll"), (["lm", "modifierletter"], "Lm"),
  (["lo", "otherletter"], "Lo"), (["lt", "titlecaseletter"], "Lt"),
  (["lu", "uppercaseletter"], "Lu"), (["m", "mark", "combiningmark"], "M"),
  (["mc", "spacingmark"], "Mc"), (["me", "enclosingmark"], "Me"), (["mn", "nonspacingmark"], "Mn"),
  (["n", "number"], "N"), (["nd", "decimalnumber", "digit"], "Nd"), (["nl", "letternumber"], "Nl"),
  (["no", "othernumber"], "No"), (["p", "punctuation", "punct"], "P"),
  (["pc", "connectorpunctuation"], "Pc"), (["pd", "dashpunctuation"], "Pd"),
  (["pe", "closepunctuation"], "Pe"), (["pf", "finalpunctuation"], "Pf"),
  (["pi", "initialpunctuation"], "Pi"), (["po", "otherpunctuation"], "Po"),
  (["ps", "openpunctuation"], "Ps"), (["s", "symbol"], "S"), (["sc", "currencysymbol"], "Sc"),
  (["sk", "modifiersymbol"], "Sk"), (["sm", "mathsymbol"], "Sm"), (["so", "othersymbol"], "So"),
  (["z", "separator"], "Z"), (["zl", "lineseparator"], "Zl"), (["zp", "paragraphseparator"], "Zp"),
  (["zs", "spaceseparator"], "Zs")]

def unassigned : CharSet := assigned.compl.union recent

/-- A category of version 16, or one of the sets that are named like one. -/
def namedCategory? (name : String) : Option CharSet :=
  if name = "any" then some .all
  else if name = "ascii" then some (.range '\x00' '\x7f')
  else if name = "assigned" then some unassigned.compl
  else if name = "cn" ∨ name = "unassigned" then some unassigned
  else if name = "c" ∨ name = "other" then some (unassigned.union (category "C"))
  else if name = "lc" ∨ name = "casedletter" then
    some ((CharSet.unions [category "Lu", category "Ll", category "Lt"]).diff recent)
  else (find? categoryNames name).map fun abbreviation => (category abbreviation).diff recent

/-! ## Properties and scripts -/

def namedProperty? (name : String) : Option CharSet :=
  match find? assignedProperties name with
  | some s => some (s.diff recent)
  | none => find? reservedProperties name

def namedScript? (name : String) : Option Script := scripts.find? (·.names.contains name)

/-- The set of a name that stands alone. `cf`, `sc` and `lc` are categories. -/
def named? (name : List Char) : Option CharSet :=
  let name := normalName name
  match namedProperty? name, namedCategory? name with
  | some s, _ => some s
  | none, some s => some s
  | none, none => (namedScript? name).map Script.chars

/-- The set of a name behind the kind of its property. -/
def namedBy? (kind name : List Char) : Option CharSet :=
  let kind := normalName kind
  let name := normalName name
  if kind = "gc" ∨ kind = "category" ∨ kind = "generalcategory" then namedCategory? name
  else if kind = "sc" ∨ kind = "script" then (namedScript? name).map Script.chars
  else if kind = "scx" ∨ kind = "scriptextensions" then (namedScript? name).map Script.extended
  else if kind = "age" then age? name
  else none

end Rulebook.Unicode
