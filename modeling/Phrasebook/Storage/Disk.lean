import Phrasebook.Project.Path
import Phrasebook.Storage.Basic
import Phrasebook.Text.Encoding

/-!
# Disks

A disk has directories, with files and further directories in them. A path leads from directory to
directory by its components; two points lead back. It starts at the top if a slash stands in front,
else in the working directory. A file may hold bytes that are no text.
-/

namespace Phrasebook

/-- What a file holds. -/
inductive FileContent where
  | text (s : String)
  | bytes (b : List UInt8)
  deriving DecidableEq, Repr

/-- Bytes as a file's content; they count as text if they encode one. -/
def FileContent.ofBytes (b : List UInt8) : FileContent :=
  match Text.readUtf8 b with
  | .ok cs => .text (String.ofList cs)
  | .error _ => .bytes b

inductive DiskEntry where
  | file (content : FileContent)
  | directory
  deriving DecidableEq, Repr

/-- The names that lead from the top to a file or a directory. -/
abbrev Place := List (List Char)

structure Disk where
  entries : List (Place × DiskEntry)
  workingDirectory : Place
  /-- Lock files that are taken. -/
  locked : List Place
  deriving DecidableEq, Repr

namespace Disk

/-- A disk without files. -/
def empty (workingDirectory : Place) : Disk := ⟨[], workingDirectory, []⟩

/-- What is at a place. The directories on the way to something are there too. -/
def entryAt? (disk : Disk) (place : Place) : Option DiskEntry :=
  if place.isEmpty then some .directory
  else
    match disk.entries.find? fun e => e.1 == place with
    | some e => some e.2
    | none =>
      if disk.entries.any fun e => (Path.after? place e.1).isSome then some .directory else none

/-- Puts something at a place. -/
def put (disk : Disk) (place : Place) (entry : DiskEntry) : Disk :=
  { disk with entries := disk.entries.filter (·.1 != place) ++ [(place, entry)] }

/-- Takes something away from a place. -/
def remove (disk : Disk) (place : Place) : Disk :=
  { disk with entries := disk.entries.filter (·.1 != place) }

/-- Follows the components of a path from a place on. -/
def follow (disk : Disk) (place : Place) : List (List Char) → Except StorageCause Place
  | [] => .ok place
  | part :: rest =>
    match disk.entryAt? place with
    | none => .error .missing
    | some (.file _) => .error .notDirectory
    | some .directory =>
      if part == ['.'] then follow disk place rest
      else if part == ['.', '.'] then follow disk place.dropLast rest
      else follow disk (place ++ [part]) rest

/-- Where a path starts, and the components from there on. -/
def departure (disk : Disk) (path : String) : Place × List (List Char) :=
  match Path.components path.toList with
  | ['/'] :: rest => ([], rest)
  | parts => (disk.workingDirectory, parts)

/-- Where a path leads; there may be nothing yet. -/
def resolve (disk : Disk) (path : String) : Except StorageCause Place :=
  let (start, parts) := disk.departure path
  disk.follow start parts

/-- What a path leads to. -/
def find? (disk : Disk) (path : String) : Option DiskEntry :=
  match disk.resolve path with
  | .ok place => disk.entryAt? place
  | .error _ => none

def holds (disk : Disk) (path : String) : Bool := (disk.find? path).isSome

def isDirectory (disk : Disk) (path : String) : Bool := disk.find? path == some .directory

/-- What the file of a path holds. -/
def content (disk : Disk) (path : String) : Except StorageCause FileContent := do
  match disk.entryAt? (← disk.resolve path) with
  | some (.file c) => .ok c
  | some .directory => .error .isDirectory
  | none => .error .missing

def text (disk : Disk) (path : String) : Except StorageCause String := do
  match ← disk.content path with
  | .text s => .ok s
  | .bytes _ => .error .notText

/-- Makes the directories that components lead through, from a place on. -/
def makeAlong (disk : Disk) (place : Place) : List (List Char) → Except StorageCause Disk
  | [] => .ok disk
  | part :: rest =>
    if part == ['.'] then makeAlong disk place rest
    else if part == ['.', '.'] then makeAlong disk place.dropLast rest
    else
      let next := place ++ [part]
      match disk.entryAt? next with
      | some .directory => makeAlong disk next rest
      | some (.file _) => .error (if rest.isEmpty then .occupied else .notDirectory)
      | none => makeAlong (disk.put next .directory) next rest

/-- Makes the directories of a path. -/
def makeDirectories (disk : Disk) (path : String) : Except StorageCause Disk :=
  let (start, parts) := disk.departure path
  disk.makeAlong start parts

/-- Gives the file of a path a content; its directory must be there. -/
def overwrite (disk : Disk) (path : String) (content : FileContent) : Except StorageCause Disk := do
  let place ← disk.resolve path
  match disk.entryAt? place with
  | some .directory => .error .isDirectory
  | some (.file _) => .ok (disk.put place (.file content))
  | none =>
    match disk.entryAt? place.dropLast with
    | some .directory => .ok (disk.put place (.file content))
    | some (.file _) => .error .notDirectory
    | none => .error .missing

/-- The directory in which a file is written. -/
def directoryOf (path : String) : String :=
  let parent := Path.parent path
  if parent.isEmpty then "." else parent

/-- Replaces a file as a whole, after making its directory. -/
def replace (disk : Disk) (path : String) (content : FileContent) :
    Except StorageError Unit × Disk :=
  match disk.makeDirectories (directoryOf path) with
  | .error cause => (.error (.directoryNotMade (directoryOf path) cause), disk)
  | .ok disk =>
    match disk.overwrite path content with
    | .error cause => (.error (.notReplaced path cause), disk)
    | .ok disk => (.ok (), disk)

def copy (disk : Disk) (source target : String) : Except StorageError Unit × Disk :=
  match disk.makeDirectories (Path.parent target) with
  | .error cause => (.error (.directoryNotMade (Path.parent target) cause), disk)
  | .ok disk =>
    match (do disk.overwrite target (← disk.content source)) with
    | .error cause => (.error (.notCopied source target cause), disk)
    | .ok disk => (.ok (), disk)

/-- The files below a directory, seen from there. -/
def filesBelow (disk : Disk) (directory : String) : List String :=
  match disk.resolve directory with
  | .error _ => []
  | .ok place =>
    disk.entries.filterMap fun (other, entry) =>
      match entry, Path.after? place other with
      | .file _, some (part :: rest) => some (Path.ofComponents (part :: rest))
      | _, _ => none

/-- The file in a directory whose lock a run takes. -/
def lockName : String := "i18n-lift.lock"

/-- Takes the lock of a directory. The lock's file is made empty, whoever holds it. -/
def lock (disk : Disk) (directory : String) : Except StorageError Unit × Disk :=
  match disk.makeDirectories directory with
  | .error cause => (.error (.directoryNotMade directory cause), disk)
  | .ok disk =>
    let path := Path.join directory lockName
    match (do return (← disk.overwrite path (.text ""), ← disk.resolve path)) with
    | .error cause => (.error (.lockNotOpened path cause), disk)
    | .ok (disk, place) =>
      if disk.locked.contains place then (.error (.lockHeld path), disk)
      else (.ok (), { disk with locked := place :: disk.locked })

def unlock (disk : Disk) (directory : String) : Disk :=
  match disk.resolve (Path.join directory lockName) with
  | .ok place => { disk with locked := disk.locked.erase place }
  | .error _ => disk

/-- A change that was made, or the disk as it was. -/
def commit (disk : Disk) : Except StorageCause Disk → Except StorageCause Unit × Disk
  | .ok changed => (.ok (), changed)
  | .error cause => (.error cause, disk)

end Disk

instance : Storage Disk where
  holds := Disk.holds
  read disk path := (disk.text path).mapError (.unreadable path)
  write disk path text := disk.replace path (.text text)
  copy := Disk.copy
  overwrite disk path text := disk.commit (disk.overwrite path (.text text))
  makeDirectories disk path := disk.commit (disk.makeDirectories path)
  isDirectory := Disk.isDirectory
  filesBelow := Disk.filesBelow
  lock := Disk.lock
  unlock := Disk.unlock

end Phrasebook
