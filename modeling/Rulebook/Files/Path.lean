import Rulebook.Entries
import Rulebook.Text.Pieces

/-!
# Paths

A path is walked part by part from the working directory, which holds files and no directories.
Empty parts and parts `.` stay where they are and `..` goes up. Above the working directory no name
is known.

* `has_of_place_eq_file`: a path that leads to a file leads to one that is there.
-/

namespace Rulebook

/-- The files of the working directory with what they hold. -/
abbrev Files (α : Type) := Entries α

/-- What a path leads to. -/
inductive Place where
  /-- The working directory. -/
  | here
  /-- A directory above it. -/
  | outside
  | file (name : String)
  | absent
  /-- A file stands where a directory is needed. -/
  | blocked
  | tooLong
  deriving DecidableEq

namespace Path

def parts (path : String) : List String := (Text.pieces '/' path.toList).map String.ofList

/-- Names have at most this many bytes. -/
def nameLimit : Nat := 255

def pathLimit : Nat := 4095

/-- A part that stays in the directory where it is met. -/
def isIdle (part : String) : Bool := part == "" || part == "."

/-- One step of the way. Nothing follows a file, and nothing what is absent. -/
def step (isFile : String → Bool) (place : Place) (part : String) : Place :=
  match place with
  | .here =>
    if isIdle part then .here
    else if part = ".." then .outside
    else if nameLimit < part.utf8ByteSize then .tooLong
    else if isFile part then .file part
    else .absent
  | .outside =>
    if isIdle part ∨ part = ".." then .outside
    else if nameLimit < part.utf8ByteSize then .tooLong
    else .absent
  | .file _ => .blocked
  | place => place

/-- Where a path leads. One that starts with a slash starts outside; the empty one leads nowhere. -/
def place (isFile : String → Bool) (path : String) : Place :=
  if path = "" then .absent
  else if pathLimit < path.utf8ByteSize then .tooLong
  else
    let start := if path.toList.head? = some '/' then Place.outside else Place.here
    (parts path).foldl (step isFile) start

/-- A path without the slashes and parts `.` at its end, unless nothing or `..` is left. -/
def base? (path : String) : Option String :=
  match (parts path).reverse.dropWhile isIdle with
  | [] => none
  | last :: rest => if last = ".." then none else some ("/".intercalate (last :: rest).reverse)

/-- What follows the last point of a name, if something stands before the point. -/
def ending? (name : String) : Option String :=
  let after := (name.toList.reverse.takeWhile (· != '.')).reverse
  if after.length + 1 < name.length then some (String.ofList after) else none

/-! ## Laws -/

theorem has_of_step_eq_file {isFile : String → Bool} {place : Place} {part name : String}
    (h : step isFile place part = .file name) : isFile name = true := by
  unfold step at h
  split at h
  · split at h
    · simp at h
    · split at h
      · simp at h
      · split at h
        · simp at h
        · split at h
          · next hf => simp only [Place.file.injEq] at h; exact h ▸ hf
          · simp at h
  · split at h
    · simp at h
    · split at h <;> simp at h
  · simp at h
  · next hne => exact absurd h (hne name)

theorem has_of_walk_eq_file {isFile : String → Bool} {parts : List String} {start : Place}
    (hs : ∀ name, start = .file name → isFile name = true) {name : String}
    (h : parts.foldl (step isFile) start = .file name) : isFile name = true := by
  induction parts generalizing start with
  | nil => exact hs name h
  | cons part parts ih => exact ih (fun _ => has_of_step_eq_file) h

theorem has_of_place_eq_file {isFile : String → Bool} {path name : String}
    (h : place isFile path = .file name) : isFile name = true := by
  unfold place at h
  split at h
  · simp at h
  · split at h
    · simp at h
    · refine has_of_walk_eq_file (fun n hn => ?_) h
      split at hn <;> simp at hn

end Path

/-- The file that a path leads to. -/
def Files.at? {α : Type} (files : Files α) (path : String) : Option (String × α) :=
  match Path.place (fun name => files.has name) path with
  | .file name => (Entries.find? name files).map fun a => (name, a)
  | _ => none

end Rulebook
