import Phrasebook.Project.Path
import Phrasebook.Storage.Basic

/-!
# Backups

Before a file is overwritten, a copy is put aside. The copy's name is the file's path seen from the
project with the stamp of the run after it.
-/

namespace Phrasebook

structure Backups where
  projectRoot : String
  directory : String
  /-- All backups of one run have the same stamp. -/
  stamp : String
  enabled : Bool
  deriving DecidableEq, Repr

namespace Backups

/-- No file is put aside. -/
def none : Backups := ⟨"", "", "", false⟩

/-- A component that names a file or a directory. -/
def isName (part : List Char) : Bool := part != ['/'] && part != ['.'] && part != ['.', '.']

/-- Where the copy of a file goes. -/
def place (b : Backups) (path : String) : String :=
  let inside := (Path.below? b.projectRoot path).getD (Path.components path.toList)
  Path.join b.directory (Path.ofComponents (inside.filter isName) ++ "." ++ b.stamp ++ ".bak")

/-- Puts a copy of a file aside, if there is such a file; says where. -/
def save [Storage σ] (b : Backups) (storage : σ) (path : String) :
    Except StorageError (Option String) × σ :=
  if b.enabled && Storage.holds storage path then
    let target := b.place path
    let (outcome, after) := Storage.copy storage path target
    (outcome.map fun _ => some target, after)
  else (.ok Option.none, storage)

end Backups

end Phrasebook
