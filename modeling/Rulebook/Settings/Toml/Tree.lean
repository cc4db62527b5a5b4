import Rulebook.Settings.Setting

/-!
# Tables of a document

While a document is read, each table remembers how it came to be. A table that a header states is
stated once; a table that dotted keys lead to gets further keys only from dotted keys; a table in
which a header only passes may still be stated. Values, among them arrays and tables on one line,
take no further keys at all.

* `define_fresh`: a plain key that is new comes last;
* `define_of_has`: no key is given twice.
-/

namespace Rulebook.Toml

/-- How a table came to be. -/
inductive Origin where
  /-- By its own header. -/
  | stated
  /-- A header passes through it. -/
  | passed
  /-- Dotted keys lead through it. -/
  | dotted
  deriving DecidableEq

inductive Node where
  | value (v : Setting)
  | table (origin : Origin) (entries : List (String × Node))
  /-- Tables with one header each, of which only the last can still grow. -/
  | tables (last : List (String × Node))

namespace Node

instance : Inhabited Node := ⟨value .null⟩

mutual

def toSetting : Node → Setting
  | value v => v
  | table _ es => .table (toSettings es)
  | tables _ => .array

def toSettings : List (String × Node) → Entries Setting
  | [] => []
  | (k, n) :: rest => (k, toSetting n) :: toSettings rest

end

/-- Changes the entries of the table that a path leads to from the entries of a table; the change is
told how that table came to be. Dotted keys pass no table that a header states. -/
def alter (dotted : Bool) (change : Origin → Entries Node → Option (Entries Node)) :
    List String → Origin → Entries Node → Option (Entries Node)
  | [], origin, es => change origin es
  | key :: path, _, es =>
    match es.find? key with
    | none =>
      let origin := if dotted then Origin.dotted else Origin.passed
      (alter dotted change path origin []).map fun inner => es.set key (table origin inner)
    | some (table origin inner) =>
      if dotted && origin == .stated then none
      else (alter dotted change path origin inner).map fun inner =>
        es.set key (table origin inner)
    | some (tables last) =>
      (alter dotted change path .stated last).map fun last => es.set key (tables last)
    | some (value _) => none

/-- Adds a key that is not there yet. Only dotted keys add to a table that dotted keys lead to. -/
def add (dotted : Bool) (key : String) (v : Setting) (origin : Origin) (es : Entries Node) :
    Option (Entries Node) :=
  if dotted != (origin == .dotted) || es.has key then none else some (es.set key (value v))

/-- Gives a value to a key of a table; the key has names in front of its last one if it is
dotted. -/
def define (path : List String) (key : String) (v : Setting) (origin : Origin)
    (es : Entries Node) : Option (Entries Node) :=
  alter (!path.isEmpty) (add (!path.isEmpty) key v) path origin es

theorem define_fresh {key : String} {origin : Origin} {es : Entries Node}
    (ho : origin ≠ .dotted) (h : es.has key = false) (v : Setting) :
    define [] key v origin es = some (es.set key (value v)) := by
  have hb : (origin == Origin.dotted) = false := by simpa using ho
  simp [define, alter, add, hb, h]

theorem define_of_has {key : String} {es : Entries Node} (h : es.has key = true)
    (v : Setting) (origin : Origin) : define [] key v origin es = none := by
  simp [define, alter, add, h]

/-- The table of a header. -/
def state (key : String) (_ : Origin) (es : Entries Node) : Option (Entries Node) :=
  match es.find? key with
  | none => some (es.set key (table .stated []))
  | some (table .passed inner) => some (es.set key (table .stated inner))
  | some _ => none

/-- One more table of a header in double brackets. -/
def stateNext (key : String) (_ : Origin) (es : Entries Node) : Option (Entries Node) :=
  match es.find? key with
  | none | some (tables _) => some (es.set key (tables []))
  | some _ => none

/-- The document after a header. -/
def open? (several : Bool) (path : List String) (key : String) (es : Entries Node) :
    Option (Entries Node) :=
  alter false (if several then stateNext key else state key) path .stated es

end Node

end Rulebook.Toml
