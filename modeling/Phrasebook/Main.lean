import Phrasebook.Command.Basic
import Phrasebook.Formatting.Script
import Phrasebook.Storage.Disk
import Std.Time

/-!
# The program

The tree below the working directory is read into a disk, the command line is run on it, and what
has changed is written back. Whatever the program decides, it decides on the disk. Directories of
packages and of version control are not looked into.
-/

namespace Phrasebook.Program

/-- Directories that are not looked into. -/
def unread : List String := ["node_modules", ".git"]

/-- Reads a file or a directory into a disk. -/
partial def load (disk : Disk) (place : Place) (entry : IO.FS.DirEntry) : IO Disk := do
  let place := place ++ [entry.fileName.toList]
  if ← entry.path.isDir then
    if unread.contains entry.fileName then return disk
    let mut disk := disk.put place .directory
    for inner in ← entry.path.readDir do
      disk ← load disk place inner
    return disk
  else
    return disk.put place (.file (.ofBytes (← IO.FS.readBinFile entry.path).toList))

/-- Where a place of the disk is. -/
def pathOf (place : Place) : String := "/" ++ Path.ofComponents place

/-- Lock files that another process holds. -/
def heldLocks (disk : Disk) : IO (List Place) :=
  (disk.entries.map (·.1)).filterM fun place => do
    if place.getLast? == some Disk.lockName.toList then
      let handle ← IO.FS.Handle.mk (pathOf place) .append
      let free ← handle.tryLock
      if free then handle.unlock
      return !free
    else return false

/-- Writes what a run has left at a place. -/
def save (place : Place) : DiskEntry → IO Unit
  | .directory => IO.FS.createDirAll (pathOf place)
  | .file content => do
    let fresh := pathOf place ++ ".tmp"
    match content with
    | .text s => IO.FS.writeFile fresh s
    | .bytes b => IO.FS.writeBinFile fresh ⟨b.toArray⟩
    IO.FS.rename fresh (pathOf place)

/-- Writes what a run has changed. -/
def saveChanges (before after : Disk) : IO Unit := do
  for (place, entry) in after.entries do
    if before.entryAt? place != some entry then save place entry

def now : IO Occasion := do
  let time ← Std.Time.DateTime.now
  return ⟨time.format "uuuu-MM-dd'T'HH:mm:ss.SSSSSSSSSxxx", time.format "uuuuMMdd'T'HHmmss"⟩

end Phrasebook.Program

open Phrasebook in
def main (arguments : List String) : IO UInt32 := do
  let directory ← IO.currentDir
  let root := directory.toString
  let top := (Path.components root.toList).drop 1
  let mut disk := Disk.empty top
  for entry in ← directory.readDir do
    disk ← Program.load disk top entry
  disk := { disk with locked := ← Program.heldLocks disk }
  let around : Surroundings := ⟨root, ← Program.now, launchBuiltin⟩
  let departure := runCommandLine around arguments disk
  Program.saveChanges disk departure.storage
  for line in departure.output do IO.println line
  for line in departure.errors do IO.eprintln line
  return departure.status.toUInt32
