import Rulebook.Files.Path
import Rulebook.Text.Digits

/-!
# Where a database is

The name of a database is that of a file, stands for memory, or is a URI with the scheme `file`,
whose options say how the database is opened. Parts `..` of a path drop the part before them, be it
there or not.

* `locate_memory`: the name for memory is private to its connection;
* `resolve_plain`: a plain name is the name of a file in the working directory.
-/

namespace Rulebook

inductive Location where
  /-- In memory, for one connection. -/
  | own
  /-- In memory, for all connections that name it. -/
  | shared (name : String)
  /-- In a file that is made if it is missing. -/
  | file (name : String)
  /-- In a file that has to be there. -/
  | existing (name : String)
  /-- In a file that has to be there and is not changed. -/
  | readOnly (name : String)
  deriving DecidableEq

namespace Location

/-! ## Paths -/

/-- The names on the way from the working directory, the last one first. None leads through a file
or out of the working directory. -/
def resolveParts (isFile : String → Bool) : List String → List String → Option (List String)
  | stack, [] => some stack
  | stack, part :: parts =>
    if Path.isIdle part then resolveParts isFile stack parts
    else if part = ".." then
      match stack with
      | [] => none
      | _ :: stack => resolveParts isFile stack parts
    else if Path.nameLimit < part.utf8ByteSize then none
    else
      match stack with
      | [name] => if isFile name then none else resolveParts isFile (part :: stack) parts
      | _ => resolveParts isFile (part :: stack) parts

/-- The file in the working directory that a path names. -/
def resolve? (isFile : String → Bool) (path : String) : Option String :=
  if path.toList.head? = some '/' then none
  else
    match resolveParts isFile [] (Path.parts path) with
    | some [name] => some name
    | _ => none

theorem resolve_plain {isFile : String → Bool} {name : String}
    (hp : Path.parts name = [name]) (hi : Path.isIdle name = false) (hu : name ≠ "..")
    (hl : name.utf8ByteSize ≤ Path.nameLimit) (hs : name.toList.head? ≠ some '/') :
    resolve? isFile name = some name := by
  simp [resolve?, hp, hs, resolveParts, hi, hu, Nat.not_lt.2 hl]

/-! ## URIs -/

def uriScheme : List Char := "file:".toList

/-- Two hexadecimal digits behind a percent sign stand for a byte. What follows a zero byte does not
count. -/
def decode : List Char → List Char
  | '%' :: a :: b :: rest =>
    match Digits.hexNumber? [a, b] with
    | some 0 => []
    | some n => Char.ofNat n :: decode rest
    | none => '%' :: decode (a :: b :: rest)
  | c :: rest => c :: decode rest
  | [] => []

/-- An option of a URI, with an empty value if it has none. -/
def optionOf (piece : List Char) : String × String :=
  (String.ofList (decode (piece.takeWhile (· != '='))),
    String.ofList (decode ((piece.dropWhile (· != '=')).drop 1)))

/-- The parts of a URI: a path and options. -/
structure Uri where
  path : String
  options : List (String × String)

/-- Reads a URI behind its scheme. Of hosts only the local one is known. -/
def readUri (text : List Char) : Except String Uri := do
  let text := text.takeWhile (· != '#')
  let text ← match text with
    | '/' :: '/' :: rest =>
      let host := rest.takeWhile (· != '/')
      if host.isEmpty ∨ host = "localhost".toList then .ok (rest.dropWhile (· != '/'))
      else .error ("invalid uri authority: " ++ String.ofList host)
    | text => .ok text
  let query := (text.dropWhile (· != '?')).drop 1
  let options := ((Text.pieces '&' query).map optionOf).filter fun o => !o.1.isEmpty
  return ⟨String.ofList (decode (text.takeWhile (· != '?'))), options⟩

/-! ## Options -/

/-- What options ask for. -/
structure Access where
  inMemory : Bool
  isShared : Bool
  mustExist : Bool
  isReadOnly : Bool
  system : Option String

def Access.default : Access := ⟨false, false, false, false, none⟩

def systems : List String := ["unix", "unix-dotfile", "unix-excl", "unix-none", "memdb"]

def Access.setMode (a : Access) (mode : String) : Except String Access :=
  match mode with
  | "ro" => .ok { a with inMemory := false, mustExist := true, isReadOnly := true }
  | "rw" => .ok { a with inMemory := false, mustExist := true, isReadOnly := false }
  | "rwc" => .ok { a with inMemory := false, mustExist := false, isReadOnly := false }
  | "memory" => .ok { a with inMemory := true, mustExist := false, isReadOnly := false }
  | _ => .error ("no such access mode: " ++ mode)

def Access.setCache (a : Access) (cache : String) : Except String Access :=
  match cache with
  | "shared" => .ok { a with isShared := true }
  | "private" => .ok { a with isShared := false }
  | _ => .error ("no such cache mode: " ++ cache)

def Access.setOption (a : Access) : String × String → Except String Access
  | ("mode", mode) => a.setMode mode
  | ("cache", cache) => a.setCache cache
  | ("vfs", system) => .ok { a with system := some system }
  | _ => .ok a

def Access.ofOptions (options : List (String × String)) : Except String Access := do
  let a ← options.foldlM Access.setOption Access.default
  match a.system with
  | some system => if systems.contains system then .ok a else .error ("no such vfs: " ++ system)
  | none => .ok a

/-! ## Names -/

def memoryName : String := ":memory:"

def unreachable (name : String) : String := "unable to open database file: " ++ name

/-- The location of a path that is opened in some way; `name` is the name as given. -/
def ofAccess (isFile : String → Bool) (name path : String) (a : Access) : Except String Location :=
  if path = "" then .ok .own
  else if path = memoryName ∨ a.inMemory then .ok (if a.isShared then .shared path else .own)
  else if a.system = some "memdb" then
    .ok (if 1 < path.length ∧ path.toList.head? = some '/' then .shared path else .own)
  else
    match resolve? isFile path with
    | none => .error (unreachable name)
    | some target =>
      if a.isReadOnly then .ok (.readOnly target)
      else if a.mustExist then .ok (.existing target)
      else .ok (.file target)

def nulMessage (before : List Char) : String :=
  "nul byte found in provided data at position: " ++ toString (String.ofList before).utf8ByteSize

/-- Where the database of a name is, or why there is none. -/
def locate (isFile : String → Bool) (name : String) : Except String Location :=
  if name = memoryName then .ok .own
  else
    let before := name.toList.takeWhile (· != '\x00')
    if before.length < name.length then .error (nulMessage before)
    else if uriScheme.isPrefixOf name.toList then do
      let uri ← readUri (name.toList.drop uriScheme.length)
      let access ← Access.ofOptions uri.options
      ofAccess isFile name uri.path access
    else ofAccess isFile name name Access.default

theorem locate_memory (isFile : String → Bool) : locate isFile memoryName = .ok .own := by
  simp [locate]

end Location

end Rulebook
