import Phrasebook.Project.Path
import Phrasebook.Storage.Basic

/-!
# Shelves

A shelf keeps texts under paths and has no directories of its own: a directory is there when a text
is kept below it. Some paths may be closed to writing.
-/

namespace Phrasebook

structure Shelf where
  texts : List (String × String)
  denied : List String
  /-- Directories whose lock is taken. -/
  locked : List String
  deriving DecidableEq, Repr

namespace Shelf

def read? (shelf : Shelf) (path : String) : Option String :=
  (shelf.texts.find? fun entry => Path.same entry.1 path).map (·.2)

/-- Puts a text under a path, in the place of the text that is there. -/
def put (path text : String) : List (String × String) → List (String × String)
  | [] => [(path, text)]
  | (other, old) :: rest =>
    if Path.same other path then (other, text) :: rest else (other, old) :: put path text rest

def read (shelf : Shelf) (path : String) : Except StorageError String :=
  match shelf.read? path with
  | some text => .ok text
  | none => .error (.notFound path)

def write (shelf : Shelf) (path text : String) : Except StorageError Unit × Shelf :=
  if shelf.denied.any (Path.same · path) then (.error (.denied path), shelf)
  else (.ok (), { shelf with texts := put path text shelf.texts })

def copy (shelf : Shelf) (source target : String) : Except StorageError Unit × Shelf :=
  match shelf.read source with
  | .ok text => shelf.write target text
  | .error e => (.error e, shelf)

def lock (shelf : Shelf) (directory : String) : Except StorageError Unit × Shelf :=
  if shelf.locked.contains directory then (.error (.lockHeld directory), shelf)
  else (.ok (), { shelf with locked := directory :: shelf.locked })

/-- A text lies at a path or below it. -/
def holds (shelf : Shelf) (path : String) : Bool :=
  shelf.texts.any fun entry => (Path.below? path entry.1).isSome

/-- What lies below a directory. -/
def filesBelow (shelf : Shelf) (directory : String) : List String :=
  shelf.texts.filterMap fun entry =>
    match Path.below? directory entry.1 with
    | some [] | none => none
    | some rest => some (Path.ofComponents rest)

end Shelf

instance : Storage Shelf where
  holds := Shelf.holds
  read := Shelf.read
  write := Shelf.write
  copy := Shelf.copy
  overwrite shelf path text :=
    match shelf.write path text with
    | (.ok (), shelf) => (.ok (), shelf)
    | (.error _, shelf) => (.error .refused, shelf)
  makeDirectories shelf _ := (.ok (), shelf)
  isDirectory shelf path := !(shelf.filesBelow path).isEmpty
  filesBelow := Shelf.filesBelow
  lock := Shelf.lock
  unlock shelf directory := { shelf with locked := shelf.locked.erase directory }

end Phrasebook
