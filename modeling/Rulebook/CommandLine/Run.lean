import Rulebook.CommandLine.Arguments
import Rulebook.Json.Reader
import Rulebook.Rule.Compile
import Rulebook.Settings.Load
import Rulebook.Store.Disk

/-!
# Commands

`describe` writes the metadata that a rule string compiles to, `check` the violations of a value.
The exit code is 0 on success, 1 if there are violations, and 2 on any failure, with a message on
standard error. Settings are loaded after compiling; if no settings file is named, settings that do
not load only mean that there is no record store.

* `run_describe_of_failure`: a rule string that does not compile leaves standard output empty.
-/

namespace Rulebook.CommandLine

/-- What a run leaves behind. -/
structure Output where
  code : Nat
  stdout : String
  stderr : String
  deriving DecidableEq

/-- What a run finds: the files of the working directory, and the environment. -/
structure Surroundings where
  files : Files Content
  environment : List (String × String)

def Output.failure (text : String) : Output := ⟨2, "", "error: " ++ text ++ "\n"⟩

/-! ## Contexts -/

/-- Text that is no JSON text stands for itself. -/
def valueOf (text : String) : Json := (Json.read? text).getD (.string text)

def patternOf (text : Option String) : Except String (Option Pattern) :=
  match text with
  | none => .ok none
  | some source =>
    match Pattern.ofString source with
    | .ok p => .ok (some p)
    | .error f => .error f.message

def elementOf (arg : Option String) : Except String (Option Element) :=
  match arg with
  | none => .ok none
  | some arg =>
    match Element.ofArg? arg with
    | some e => .ok (some e)
    | none => .error ("unsupported array kind '" ++ arg ++ "'")

def defaultEnumName : String := "Enum"

/-- The context that the options state. -/
def Options.context (o : Options) : Except String Context :=
  match patternOf o.pattern with
  | .error e => .error e
  | .ok pattern =>
    match elementOf o.arrayKind with
    | .error e => .error e
    | .ok element =>
      .ok { Context.empty with
        enumeration := o.enumValues.map fun values =>
          ⟨o.enumName.getD defaultEnumName, values.map .string⟩
        element := element
        pattern := pattern
        entity := o.entity
        example? := o.example?.map valueOf }

/-- The field that a rule string describes with these options. -/
def Options.field (o : Options) (rules : String) : Except String Field :=
  match o.context with
  | .error e => .error e
  | .ok context =>
    match compile rules context with
    | .error f => .error f.message
    | .ok field => .ok field

/-! ## Running -/

/-- The record store that the settings lead to, none if they do not load. -/
def store (s : Surroundings) (config : Option String) : Except Failure (Option Disk) :=
  match ConnectionParams.load s.files.texts s.environment config with
  | .ok params => .ok (some ⟨s.files, [], params⟩)
  | .error f => if config.isSome then .error f else .ok none

/-- The report of a field on a value, with a record store or without one. -/
def report (disk : Option Disk) (field : Field) (name : String) (value : Json) :
    Except Failure FieldReport :=
  let inquiry := field.validate name (some value)
  match disk with
  | some d => (Session.run Disk.backend inquiry (.initial d)).1
  | none => inquiry.answer Inquiry.noStore

def defaultName : String := "value"

def printed (v : Json) : String := v.indented ++ "\n"

def runDescribe (rules : String) (o : Options) : Output :=
  match o.field rules with
  | .error e => .failure e
  | .ok field => ⟨0, printed (.object field.metadata.members), ""⟩

def runCheck (s : Surroundings) (rules value : String) (o : Options) : Output :=
  match o.field rules with
  | .error e => .failure e
  | .ok field =>
    match store s o.config with
    | .error f => .failure f.message
    | .ok disk =>
      match report disk field (o.name.getD defaultName) (valueOf value) with
      | .error f => .failure f.message
      | .ok r =>
        ⟨if r.isValid then 0 else 1, printed (.array (r.violations.map Violation.toJson)), ""⟩

def Command.run (s : Surroundings) : Command → Output
  | .describe rules o => runDescribe rules o
  | .check rules value o => runCheck s rules value o

/-- Runs the command that the arguments state. -/
def run (s : Surroundings) (args : List String) : Output :=
  match Command.read? args with
  | some c => c.run s
  | none => .failure "unexpected arguments"

theorem run_describe_of_failure (s : Surroundings) {rules : String} {o : Options} {e : String}
    (h : o.field rules = .error e) :
    (Command.describe rules o).run s = .failure e := by
  simp [Command.run, runDescribe, h]

end Rulebook.CommandLine
