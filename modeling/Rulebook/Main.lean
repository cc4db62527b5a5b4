import Rulebook.CommandLine.Run

/-!
# The program

Collects the settings files and variables that a command may look at, runs it, and writes what it
leaves behind.
-/

open Rulebook

/-- Names of the variables that settings are read from. -/
def settingNames : List String :=
  ["DB_TYPE", "DB_HOST", "DB_PORT", "DB_USERNAME", "DB_PASSWORD", "DB_DATABASE", "DB_ENTITIES"]

def readVariables : List String → IO (List (String × String))
  | [] => return []
  | name :: rest => do
    let more ← readVariables rest
    match ← IO.getEnv name with
    | some value => return (name, value) :: more
    | none => return more

def readTexts : List String → IO (Files String)
  | [] => return []
  | name :: rest => do
    let more ← readTexts rest
    try
      let text ← IO.FS.readFile name
      return (name, text) :: more
    catch _ => return more

/-- The names on a path that may be those of files in the working directory. -/
def namesOn (path : String) : List String :=
  (Path.parts path).flatMap fun part => [part, part ++ ".toml", part ++ ".json"]

def configOf (args : List String) : Option String :=
  match CommandLine.Command.read? args with
  | some (.check _ _ o) => o.config
  | _ => none

/-- The paths that the settings lead to. -/
def pathsOf (files : Files String) (environment : List (String × String)) (args : List String) :
    List String :=
  match ConnectionParams.load files environment (configOf args) with
  | .ok p => p.database :: p.entities.toList
  | .error _ => []

def main (args : List String) : IO UInt32 := do
  let environment ← readVariables settingNames
  let settings ← readTexts ((Rulebook.defaultFile :: (configOf args).toList).flatMap namesOn)
  let scripts ← readTexts ((pathsOf settings environment args).flatMap namesOn)
  let files := (settings ++ scripts).map fun (name, text) => (name, Content.script (.text text))
  let output := CommandLine.run ⟨files, environment⟩ args
  IO.print output.stdout
  IO.eprint output.stderr
  return output.code.toUInt32
