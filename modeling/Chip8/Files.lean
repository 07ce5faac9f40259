import Chip8.Text.Quoted

namespace Chip8

/-- Why a file cannot be read. -/
inductive FileError where
  | notFound (path : String)
  | notADirectory (path : String)
  | isADirectory (path : String)
  /-- The path or a name in it is longer than any can be. -/
  | nameTooLong (path : String)
  /-- The path holds a null character, which no file name may. -/
  | nullCharacter
deriving DecidableEq, Repr

def FileError.message : FileError → String
  | notFound path => s!"[Errno 2] No such file or directory: {Text.quoted path}"
  | notADirectory path => s!"[Errno 20] Not a directory: {Text.quoted path}"
  | isADirectory path => s!"[Errno 21] Is a directory: {Text.quoted path}"
  | nameTooLong path => s!"[Errno 36] File name too long: {Text.quoted path}"
  | nullCharacter => "embedded null byte"

inductive Entry where
  | file (data : List UInt8)
  | directory
deriving DecidableEq, Repr

/-- The files of a working directory, each with the names that lead to it. -/
structure Files where
  entries : List (List String × Entry) := []

namespace Files

def nameLimit : Nat := 255

def pathLimit : Nat := 4095

def entry? (f : Files) (place : List String) : Option Entry :=
  match f.entries.lookup place with
  | some entry => some entry
  | none => if f.entries.any fun e => place.isPrefixOf e.1 then some .directory else none

/-- Follows the parts of a path. Places outside the working directory are `none`; nothing is found
there by name. -/
def follow (f : Files) (path : String) : Option (List String) → List String → Except FileError Entry
  | _, [] => .ok .directory
  | place, part :: parts =>
    if part = "" ∨ part = "." then follow f path place parts
    else if part = ".." then
      follow f path (place.bind fun p => if p = [] then none else some p.dropLast) parts
    else if nameLimit < part.utf8ByteSize then .error (.nameTooLong path)
    else
      match place.bind fun p => (f.entry? (p ++ [part])).map fun e => (p ++ [part], e) with
      | none => .error (.notFound path)
      | some (_, .file data) => if parts = [] then .ok (.file data) else .error (.notADirectory path)
      | some (p, .directory) => follow f path (some p) parts

def start (path : String) : Option (List String) :=
  if path.startsWith "/" then none else some []

def find (f : Files) (path : String) : Except FileError Entry :=
  if path.contains '\x00' then .error .nullCharacter
  else if path = "" then .error (.notFound path)
  else if pathLimit < path.utf8ByteSize then .error (.nameTooLong path)
  else f.follow path (start path) (path.splitOn "/")

def read (f : Files) (path : String) : Except FileError (List UInt8) :=
  match f.find path with
  | .error e => .error e
  | .ok .directory => .error (.isADirectory path)
  | .ok (.file data) => .ok data

/-- A path without its empty parts and single points; two slashes at its start stay two. -/
def plainPath (path : String) : String :=
  let parts := (path.splitOn "/").filter fun part => part ≠ "" ∧ part ≠ "."
  let root :=
    if path.startsWith "//" ∧ ¬ path.startsWith "///" then "//"
    else if path.startsWith "/" then "/" else ""
  let plain := root ++ "/".intercalate parts
  if plain = "" then "." else plain

/-- Whether a path leads somewhere when it is made plain. A name that is too long leaves that
open. -/
def pathExists (f : Files) (path : String) : Except FileError Bool :=
  match f.find (plainPath path) with
  | .ok _ => .ok true
  | .error (.nameTooLong path) => .error (.nameTooLong path)
  | .error _ => .ok false

end Files

end Chip8
