/-!
# Storage

Where documents and sources are kept, each under a path. An operation that changes something says
how it went and what the storage is like afterwards, also when it failed.
-/

namespace Phrasebook

/-- Why a directory or a file cannot be used. -/
inductive StorageCause where
  | missing
  | isDirectory
  | notDirectory
  | occupied
  | notText
  | refused
  deriving DecidableEq, Repr

def StorageCause.message : StorageCause → String
  | missing => "No such file or directory (os error 2)"
  | isDirectory => "Is a directory (os error 21)"
  | notDirectory => "Not a directory (os error 20)"
  | occupied => "File exists (os error 17)"
  | notText => "stream did not contain valid UTF-8"
  | refused => "Permission denied (os error 13)"

/-- How an operation failed. -/
inductive StorageError where
  /-- A shelf holds nothing under a path. -/
  | notFound (path : String)
  /-- A shelf refuses what is written to a path. -/
  | denied (path : String)
  | unreadable (path : String) (cause : StorageCause)
  | directoryNotMade (path : String) (cause : StorageCause)
  | temporaryNotMade (directory : String) (cause : StorageCause)
  | notReplaced (path : String) (cause : StorageCause)
  | notCopied (source target : String) (cause : StorageCause)
  | lockNotOpened (path : String) (cause : StorageCause)
  | lockHeld (path : String)
  deriving DecidableEq, Repr

namespace StorageError

/-- What failed. -/
def headline : StorageError → String
  | notFound path => "File not found: " ++ path
  | denied path => "Permission denied: " ++ path
  | unreadable path _ => "Failed to read " ++ path
  | directoryNotMade path _ => "Failed to create directory " ++ path
  | temporaryNotMade directory _ => "Failed to create temp file in " ++ directory
  | notReplaced path _ => "Failed to replace " ++ path
  | notCopied source target _ => "Failed to copy " ++ source ++ " to " ++ target
  | lockNotOpened path _ => "Failed to open lock file " ++ path
  | lockHeld path => "Another i18n-lift run holds " ++ path ++ " (wait for it to finish)"

def cause? : StorageError → Option StorageCause
  | notFound _ | denied _ | lockHeld _ => none
  | unreadable _ c | directoryNotMade _ c | temporaryNotMade _ c | notReplaced _ c
  | notCopied _ _ c | lockNotOpened _ c => some c

/-- What failed, and why. -/
def message (e : StorageError) : String :=
  match e.cause? with
  | some c => e.headline ++ ": " ++ c.message
  | none => e.headline

end StorageError

/-- A place where texts are kept under paths. -/
class Storage (σ : Type) where
  /-- Whether a file or a directory has the path. -/
  holds : σ → (path : String) → Bool
  read : σ → (path : String) → Except StorageError String
  /-- Replaces a file's text as a whole; the directories on the way are made. -/
  write : σ → (path text : String) → Except StorageError Unit × σ
  copy : σ → (source target : String) → Except StorageError Unit × σ
  /-- Gives a file a text in place; its directory has to be there. -/
  overwrite : σ → (path text : String) → Except StorageCause Unit × σ
  makeDirectories : σ → (path : String) → Except StorageCause Unit × σ
  isDirectory : σ → (path : String) → Bool
  /-- The paths of the files below a directory, seen from there. -/
  filesBelow : σ → (directory : String) → List String
  /-- Takes the lock of a directory, so that no other run can take it. -/
  lock : σ → (directory : String) → Except StorageError Unit × σ
  unlock : σ → (directory : String) → σ

end Phrasebook
