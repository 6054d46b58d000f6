import Phrasebook.Notice
import Phrasebook.Run.Error

/-!
# Sessions

What a run works on: the storage, the notices that it has given and the lines that it has printed.
A run that stops leaves what it has done so far.
-/

namespace Phrasebook

structure Session (σ : Type) where
  storage : σ
  notices : List Notice
  printed : List String

/-- A session at its start. -/
def Session.start {σ : Type} (storage : σ) : Session σ := ⟨storage, [], []⟩

/-- A part of a run. -/
abbrev Run (σ α : Type) := ExceptT RunError (StateM (Session σ)) α

namespace Run

variable {σ α : Type}

def storage : Run σ σ := return (← get).storage

def notify (notices : List Notice) : Run σ Unit :=
  modify fun s => { s with notices := s.notices ++ notices }

def print (lines : List String) : Run σ Unit :=
  modify fun s => { s with printed := s.printed ++ lines }

/-- Changes the storage; how it went is the result. -/
def change (operation : σ → α × σ) : Run σ α := do
  let (result, storage) := operation (← get).storage
  modify fun s => { s with storage }
  return result

/-- A result, or the end of the run. -/
def ofExcept {ε : Type} (toError : ε → RunError) : Except ε α → Run σ α
  | .ok a => return a
  | .error e => throw (toError e)

variable [Storage σ]

/-- Holds the lock of a directory while a part runs. The lock is given back however the part ends. -/
def locked (directory : String) (part : Run σ α) : Run σ α :=
  ExceptT.mk fun session =>
    match Storage.lock session.storage directory with
    | (.error e, storage) => (.error (.storage e), { session with storage })
    | (.ok (), storage) =>
      let (result, after) := part.run { session with storage }
      (result, { after with storage := Storage.unlock after.storage directory })

/-- Holds a lock unless nothing is to be written. -/
def lockedUnless (dryRun : Bool) (directory : String) (part : Run σ α) : Run σ α :=
  if dryRun then part else locked directory part

end Run

end Phrasebook
