/-
# NodeSettings.Files -- a tree of files and directories

Files and directories are held by their location, the names on the way from the
root.  A path is walked name by name from the root or from the directory one
stands in: everything that something is looked up in must be a directory, `.`
and `..` are steps like any other, a slash at the end asks for a directory, and
neither a name nor a path may be too long.
-/
import NodeSettings.Disk
import NodeSettings.Text.Ascii

namespace NodeSettings

open Text

set_option autoImplicit false

abbrev Name := Bytes
abbrev Location := List Name

/-- What stands at a location.  A sink is an empty file that keeps nothing. -/
inductive Entry where
  | file (contents : Bytes)
  | directory
  | sink
deriving DecidableEq, Repr

/-- A tree and the directory one stands in.  The root is always there. -/
structure Files where
  entries : List (Location × Entry)
  here : Location

namespace Files

/-! ## Locations -/

def entry? (files : Files) (location : Location) : Option Entry :=
  if location = [] then some .directory else files.entries.lookup location

def put (files : Files) (location : Location) (entry : Entry) : Files :=
  { files with
    entries := (location, entry) :: files.entries.filter fun e => e.1 ≠ location }

def erase (files : Files) (location : Location) : Files :=
  { files with entries := files.entries.filter fun e => e.1 ≠ location }

/-! ## Paths -/

def maxName : Nat := 255
def maxPath : Nat := 4095

/-- The names of a path between its slashes. -/
def names : Bytes → List Name
  | [] => [[]]
  | b :: rest =>
      if b = ascii '/' then [] :: names rest
      else match names rest with
        | [] => [[b]]
        | name :: others => (b :: name) :: others

def dot : Name := [ascii '.']
def dotDot : Name := [ascii '.', ascii '.']

def endsInSlash (path : Bytes) : Bool :=
  path.getLast? = some (ascii '/')

/-- The steps of a path; one that ends in a slash has a last step to `.`. -/
def steps (path : Bytes) : List Name :=
  let named := (names path).filter (· ≠ [])
  if endsInSlash path then named ++ [dot] else named

def origin (files : Files) (path : Bytes) : Location :=
  if path.head? = some (ascii '/') then [] else files.here

/-- One step from a location. -/
def walkStep (files : Files) (location : Location) (name : Name) : Except SystemError Location :=
  match files.entry? location with
  | none => .error .notFound
  | some .directory =>
      if name = dot then .ok location
      else if name = dotDot then .ok location.dropLast
      else if maxName < name.length then .error .nameTooLong
      else .ok (location ++ [name])
  | some _ => .error .notADirectory

def walk (files : Files) : Location → List Name → Except SystemError Location
  | location, [] => .ok location
  | location, name :: rest => do
      let next ← files.walkStep location name
      files.walk next rest

/-- A path the system does not look at. -/
def refused? (path : Bytes) : Option OpenFailure :=
  if path.contains 0 then some .zeroByte
  else if maxPath < path.length then some (.system .nameTooLong)
  else if path = [] then some (.system .notFound)
  else none

/-! ## Operations -/

/-- Open the file at a path for reading. -/
def disk (files : Files) : Disk := fun path =>
  match refused? path with
  | some failure => .error failure
  | none =>
      match files.walk (files.origin path) (steps path) with
      | .error e => .error (.system e)
      | .ok location =>
          match files.entry? location with
          | none => .error (.system .notFound)
          | some .directory => .error .directory
          | some .sink => .ok []
          | some (.file contents) => .ok (Source.ofBytes contents)

/-- The location of a path by which a file is written or removed.  The directory
that its last name stands in has to be there, the name itself need not be; a path
whose last step is no name leads to a directory. -/
def place (files : Files) (path : Bytes) : Except FailureKind Location :=
  match refused? path with
  | some failure => .error failure.kind
  | none =>
      let named := (names path).filter (· ≠ [])
      match files.walk (files.origin path) named with
      | .error e => .error e.kind
      | .ok location =>
          match named.getLast? with
          | none => .error .isADirectory
          | some last => if last = dot ∨ last = dotDot then .error .isADirectory else .ok location

/-- Write a file, new or over the old one. -/
def write (files : Files) (path : Bytes) (contents : Bytes) : Except FailureKind Files := do
  let location ← files.place path
  if endsInSlash path then .error .isADirectory
  else match files.entry? location with
    | some .directory => .error .isADirectory
    | some .sink => .ok files
    | _ => .ok (files.put location (.file contents))

/-- Remove a file. -/
def remove (files : Files) (path : Bytes) : Except FailureKind Files := do
  let location ← files.place path
  match files.entry? location with
  | none => .error .notFound
  | some .directory => .error .isADirectory
  | some _ => if endsInSlash path then .error .notADirectory else .ok (files.erase location)

/-- Make the directories on the way from a location that are not there. -/
def makeAlong (files : Files) : Location → List Name → Except FailureKind Files
  | _, [] => .ok files
  | location, name :: rest => do
      let next ← (files.walkStep location name).mapError SystemError.kind
      match files.entry? next with
      | none => (files.put next .directory).makeAlong next rest
      | some .directory => files.makeAlong next rest
      | some _ => .error (if rest = [] then .alreadyExists else .notADirectory)

/-- Make a directory and all it stands in. -/
def makeDirectory (files : Files) (path : Bytes) : Except FailureKind Files :=
  if path = [] then .ok files
  else match refused? path with
    | some failure => .error failure.kind
    | none => files.makeAlong (files.origin path) ((names path).filter (· ≠ []))

end Files

end NodeSettings
