import Rulebook.Text.Pieces

/-!
# Arguments of the command line

The first argument names a command; options stand anywhere behind it, as `--name value` or as
`--name=value`, and everything behind `--` is a plain argument.
-/

namespace Rulebook.CommandLine

/-- Options of the commands, as given. -/
structure Options where
  pattern : Option String
  enumName : Option String
  enumValues : Option (List String)
  arrayKind : Option String
  entity : Option String
  example? : Option String
  config : Option String
  name : Option String
  deriving DecidableEq

inductive Command where
  | describe (rules : String) (options : Options)
  | check (rules value : String) (options : Options)
  deriving DecidableEq

def Options.none : Options :=
  ⟨Option.none, Option.none, Option.none, Option.none, Option.none, Option.none, Option.none,
    Option.none⟩

/-! ## Options -/

/-- An option is given once. -/
def once (old : Option String) (value : String) : Option (Option String) :=
  match old with
  | some _ => none
  | none => some (some value)

/-- Whether the command has an option of that name; `check` has two more than `describe`. -/
def isOption (isCheck : Bool) (name : String) : Bool :=
  ["pattern", "enum-name", "enum-values", "array-kind", "entity", "example"].contains name ||
    (isCheck && ["config", "name"].contains name)

/-- Sets an option; only `enum-values` may be given more than once, and its values add up. -/
def Options.set (o : Options) (name value : String) : Option Options :=
  match name with
  | "pattern" => (once o.pattern value).map fun v => { o with pattern := v }
  | "enum-name" => (once o.enumName value).map fun v => { o with enumName := v }
  | "enum-values" =>
    some { o with
      enumValues :=
        some (o.enumValues.getD [] ++ (Text.pieces ',' value.toList).map String.ofList) }
  | "array-kind" => (once o.arrayKind value).map fun v => { o with arrayKind := v }
  | "entity" => (once o.entity value).map fun v => { o with entity := v }
  | "example" => (once o.example? value).map fun v => { o with example? := v }
  | "config" => (once o.config value).map fun v => { o with config := v }
  | "name" => (once o.name value).map fun v => { o with name := v }
  | _ => none

/-! ## Reading -/

/-- An argument that starts with a hyphen is no value and no plain argument. -/
def isPlain (arg : String) : Bool :=
  match arg.toList with
  | '-' :: _ :: _ => false
  | _ => true

/-- The name of an option, and its value if it stands behind an equals sign. -/
def splitOption (arg : String) : Option (String × Option String) :=
  match arg.toList with
  | '-' :: '-' :: rest =>
    let name := String.ofList (rest.takeWhile (· != '='))
    match rest.dropWhile (· != '=') with
    | _ :: value => some (name, some (String.ofList value))
    | [] => some (name, none)
  | _ => none

/-- The plain arguments in order, and the options; `pending` is an option that waits for its
value. -/
def readArguments (isCheck : Bool) :
    Option String → List String → Options → Option (List String × Options)
  | none, [], o => some ([], o)
  | some _, [], _ => none
  | some name, value :: rest, o =>
    if isPlain value then (o.set name value).bind fun o => readArguments isCheck none rest o
    else none
  | none, arg :: rest, o =>
    if arg = "--" then some (rest, o)
    else if isPlain arg then
      (readArguments isCheck none rest o).map fun (plain, o) => (arg :: plain, o)
    else match splitOption arg with
      | none => none
      | some (name, given) =>
        if isOption isCheck name then
          match given with
          | some value => (o.set name value).bind fun o => readArguments isCheck none rest o
          | none => readArguments isCheck (some name) rest o
        else none

/-- The command that the arguments state, if they state one. -/
def Command.read? : List String → Option Command
  | "describe" :: rest =>
    match readArguments false none rest Options.none with
    | some ([rules], o) => some (.describe rules o)
    | _ => none
  | "check" :: rest =>
    match readArguments true none rest Options.none with
    | some ([rules, value], o) => some (.check rules value o)
    | _ => none
  | _ => none

end Rulebook.CommandLine
