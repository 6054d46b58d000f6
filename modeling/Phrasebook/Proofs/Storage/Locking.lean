import Phrasebook.Proofs.Storage.Changing

/-!
# Locks

Who gets the lock of a directory has it until the lock is given back, whatever is written meanwhile.
-/

namespace Phrasebook

class ExclusiveStorage (σ : Type) [Storage σ] where
  IsLocked : σ → (directory : String) → Prop
  isLocked_lock : ∀ (storage : σ) (directory : String),
    (Storage.lock storage directory).1 = .ok () →
      IsLocked (Storage.lock storage directory).2 directory
  /-- Nobody else gets the lock. -/
  lock_ne_ok : ∀ (storage : σ) (directory : String), IsLocked storage directory →
    (Storage.lock storage directory).1 ≠ .ok ()
  isLocked_write : ∀ (storage : σ) (path text directory : String), IsLocked storage directory →
    IsLocked (Storage.write storage path text).2 directory
  isLocked_copy : ∀ (storage : σ) (source target directory : String),
    IsLocked storage directory → IsLocked (Storage.copy storage source target).2 directory

/-! ## Disks -/

namespace Disk

/-- Which locks are taken, and from where paths start. -/
def holders (disk : Disk) : List Place × Place := (disk.locked, disk.workingDirectory)

theorem holders_makeAlong {disk made : Disk} {place : Place} {parts : List (List Char)}
    (returned : disk.makeAlong place parts = .ok made) : made.holders = disk.holders := by
  fun_induction Disk.makeAlong disk place parts with
  | case1 =>
    cases returned
    rfl
  | case2 disk place part rest here ih => exact ih returned
  | case3 disk place part rest proper back ih => exact ih returned
  | case4 disk place part rest proper forth next found ih => exact ih returned
  | case5 => cases returned
  | case6 disk place part rest proper forth next nothing ih => exact ih returned

theorem holders_overwrite {disk made : Disk} {path : String} {content : FileContent}
    (returned : disk.overwrite path content = .ok made) : made.holders = disk.holders := by
  unfold overwrite at returned
  obtain ⟨found, -, rest⟩ := bind_eq_ok_iff.mp returned
  split at rest
  next => cases rest
  next =>
    cases rest
    rfl
  next =>
    split at rest
    next =>
      cases rest
      rfl
    next => cases rest
    next => cases rest

theorem holders_replace (disk : Disk) (path : String) (content : FileContent) :
    (disk.replace path content).2.holders = disk.holders := by
  unfold replace
  split
  next => rfl
  next made returned =>
    have same : made.holders = disk.holders := holders_makeAlong returned
    split
    next => exact same
    next written returned => exact (holders_overwrite returned).trans same

theorem holders_copy (disk : Disk) (source target : String) :
    (disk.copy source target).2.holders = disk.holders := by
  unfold copy
  split
  next => rfl
  next made returned =>
    have same : made.holders = disk.holders := holders_makeAlong returned
    split
    next => exact same
    next written returned =>
      obtain ⟨content, -, returned⟩ := bind_eq_ok_iff.mp returned
      exact (holders_overwrite returned).trans same

def IsLocked (disk : Disk) (directory : String) : Prop :=
  disk.place (Path.join directory lockName) ∈ disk.locked

theorem place_of_holders {disk other : Disk} (same : other.holders = disk.holders)
    (path : String) : other.place path = disk.place path := by
  obtain ⟨-, working⟩ := Prod.mk.inj same
  rw [place, place, departure, departure, working]

theorem isLocked_congr {disk other : Disk} (same : other.holders = disk.holders)
    (directory : String) : other.IsLocked directory ↔ disk.IsLocked directory := by
  obtain ⟨locked, -⟩ := Prod.mk.inj same
  rw [IsLocked, IsLocked, locked, place_of_holders same]

/-- What it takes to get a lock: the directory is made, the lock's file is written, and the place
that it leads to is not taken yet. -/
theorem exists_of_lock {disk : Disk} {directory : String}
    (got : (disk.lock directory).1 = .ok ()) : ∃ made written here,
      disk.makeDirectories directory = .ok made ∧
      made.overwrite (Path.join directory lockName) (.text "") = .ok written ∧
      made.resolve (Path.join directory lockName) = .ok here ∧ here ∉ written.locked ∧
      (disk.lock directory).2 = { written with locked := here :: written.locked } := by
  unfold lock at got ⊢
  split at got
  next => cases got
  next made returned =>
    dsimp only at got ⊢
    split at got
    next => cases got
    next written here opened =>
      obtain ⟨other, overwritten, rest⟩ := bind_eq_ok_iff.mp opened
      obtain ⟨found, resolved, pair⟩ := bind_eq_ok_iff.mp rest
      cases pair
      split at got
      next => cases got
      next free =>
        rw [if_neg free]
        exact ⟨made, written, here, returned, overwritten, resolved,
          fun held => free (List.contains_iff_mem.mpr held), rfl⟩

/-- A lock is got if nobody has it, and then it is taken. -/
theorem lock_eq_ok {disk : Disk} {directory : String} (got : (disk.lock directory).1 = .ok ()) :
    ¬ disk.IsLocked directory ∧ (disk.lock directory).2.IsLocked directory := by
  obtain ⟨made, written, here, returned, overwritten, resolved, free, locked⟩ := exists_of_lock got
  have same : made.holders = disk.holders := holders_makeAlong returned
  have leads : here = made.place (Path.join directory lockName) := follow_eq_ok resolved
  have after : written.holders = disk.holders := (holders_overwrite overwritten).trans same
  rw [place_of_holders same] at leads
  subst leads
  constructor
  · exact fun held => free ((Prod.mk.inj after).1 ▸ held)
  · rw [locked]
    show written.place (Path.join directory lockName) ∈ _ :: written.locked
    rw [place_of_holders after]
    exact List.mem_cons_self

instance : ExclusiveStorage Disk where
  IsLocked := IsLocked
  isLocked_lock _ _ got := (lock_eq_ok got).2
  lock_ne_ok _ _ held got := (lock_eq_ok got).1 held
  isLocked_write disk path _ _ := (isLocked_congr (disk.holders_replace path _) _).mpr
  isLocked_copy disk source target _ := (isLocked_congr (disk.holders_copy source target) _).mpr

end Disk

/-! ## Shelves -/

namespace Shelf

theorem locked_write (shelf : Shelf) (path text : String) :
    (shelf.write path text).2.locked = shelf.locked := by
  unfold write
  split <;> rfl

theorem locked_copy (shelf : Shelf) (source target : String) :
    (shelf.copy source target).2.locked = shelf.locked := by
  unfold copy
  split
  · exact locked_write ..
  · rfl

instance : ExclusiveStorage Shelf where
  IsLocked shelf directory := directory ∈ shelf.locked
  isLocked_lock shelf directory got := by
    have got : (shelf.lock directory).1 = .ok () := got
    show directory ∈ (shelf.lock directory).2.locked
    unfold lock at got ⊢
    split
    next held =>
      rw [if_pos held] at got
      cases got
    next => exact List.mem_cons_self
  lock_ne_ok shelf directory held got := by
    have got : (shelf.lock directory).1 = .ok () := got
    have held : shelf.locked.contains directory = true := List.contains_iff_mem.mpr held
    rw [lock, if_pos held] at got
    cases got
  isLocked_write shelf path text directory held := by
    show directory ∈ (shelf.write path text).2.locked
    rwa [locked_write]
  isLocked_copy shelf source target directory held := by
    show directory ∈ (shelf.copy source target).2.locked
    rwa [locked_copy]

end Shelf

end Phrasebook
