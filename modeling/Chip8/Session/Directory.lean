import Chip8.Console.Notice

/-!
# The working directory

Files and empty directories by name, and what a path leads to. A path is followed name by name from
the working directory. What lies outside of it is not known, except that it is a directory. Lengths
of names and paths are counted in bytes.
-/
namespace Chip8.Session

inductive Node where
  | file (content : List UInt8)
  | directory
  deriving DecidableEq, Repr

abbrev Directory := List (String × Node)

inductive Place where
  | working
  | inside
  | outside
  | file (content : List UInt8)
  deriving DecidableEq, Repr

def longestName : Nat := 255

/-- The length from which on a path is too long. -/
def pathLimit : Nat := 4096

def pathFailure? (path : String) : Option ReadFailure :=
  if '\x00' ∈ path.toList then some .zeroInPath
  else if path = "" then some .notFound
  else if pathLimit ≤ path.utf8ByteSize then some .nameTooLong
  else none

def Directory.enter (directory : Directory) (name : String) : Except ReadFailure Place :=
  match directory.lookup name with
  | some (.file content) => .ok (.file content)
  | some .directory => .ok .inside
  | none => .error .notFound

/-- One name of a path. Empty names and dots stay, two dots lead upwards, a name that is too long
leads nowhere, and no name leads on from a file. -/
def Directory.follow (directory : Directory) (place : Place) (name : String) :
    Except ReadFailure Place :=
  match place with
  | .file _ => .error .notDirectory
  | _ =>
    if name = "" ∨ name = "." then .ok place
    else if name = ".." then .ok (if place = .inside then .working else .outside)
    else if longestName < name.utf8ByteSize then .error .nameTooLong
    else if place = .working then directory.enter name
    else .error .notFound

/-- The place that a path leads to; a path that starts with a slash starts outside. -/
def Directory.resolve (directory : Directory) (path : String) : Except ReadFailure Place :=
  match pathFailure? path with
  | some failure => .error failure
  | none =>
    let start := if path.toList.head? = some '/' then Place.outside else .working
    (path.splitOn "/").foldlM directory.follow start

def Directory.read (directory : Directory) (path : String) : Except ReadFailure (List UInt8) := do
  match ← directory.resolve path with
  | .file content => return content
  | _ => throw .isDirectory

end Chip8.Session
