import Phrasebook.Proofs.Storage.Locking

/-!
# What was done can be done again

Where a file was written another one can be written, and a lock that was taken and given back can be
taken again, whatever else is written in between.
-/

namespace Phrasebook

class RepeatableStorage (σ : Type) [Storage σ] where
  /-- A file can be written. -/
  IsOpen : σ → (path : String) → Prop
  write_eq_ok : ∀ (storage : σ) (path text : String), IsOpen storage path →
    (Storage.write storage path text).1 = .ok ()
  isOpen_of_write : ∀ (storage : σ) (path text : String),
    (Storage.write storage path text).1 = .ok () →
      IsOpen (Storage.write storage path text).2 path
  isOpen_write : ∀ (storage : σ) (target text path : String), IsOpen storage path →
    IsOpen (Storage.write storage target text).2 path
  isOpen_lock : ∀ (storage : σ) (directory path : String), IsOpen storage path →
    IsOpen (Storage.lock storage directory).2 path
  isOpen_unlock : ∀ (storage : σ) (directory path : String), IsOpen storage path →
    IsOpen (Storage.unlock storage directory) path
  /-- The lock of a directory is taken, by one who can give it back. -/
  IsHeld : σ → (directory : String) → Prop
  lock_unlock : ∀ (storage : σ) (directory : String), IsHeld storage directory →
    (Storage.lock (Storage.unlock storage directory) directory).1 = .ok ()
  isHeld_of_lock : ∀ (storage : σ) (directory : String),
    (Storage.lock storage directory).1 = .ok () →
      IsHeld (Storage.lock storage directory).2 directory
  isHeld_write : ∀ (storage : σ) (path text directory : String), IsHeld storage directory →
    IsHeld (Storage.write storage path text).2 directory
  isHeld_copy : ∀ (storage : σ) (source target directory : String), IsHeld storage directory →
    IsHeld (Storage.copy storage source target).2 directory

/-! ## Disks -/

namespace Disk

/-- Directories that were made need not be made again. -/
theorem makeAlong_again {disk made later : Disk} {place : Place} {parts : List (List Char)}
    (returned : disk.makeAlong place parts = .ok made)
    (kept : ∀ place, made.entryAt? place = some .directory →
      later.entryAt? place = some .directory) :
    later.makeAlong place parts = .ok later := by
  fun_induction Disk.makeAlong disk place parts with
  | case1 => rfl
  | case2 disk place part rest here ih =>
    rw [makeAlong, if_pos here]
    exact ih returned
  | case3 disk place part rest proper back ih =>
    rw [makeAlong, if_neg proper, if_pos back]
    exact ih returned
  | case4 disk place part rest proper forth next found ih =>
    have there := kept _ ((Grown.of_makeAlong [] returned).directories _ found)
    rw [makeAlong, if_neg proper, if_neg forth]
    dsimp only
    rw [there]
    exact ih returned
  | case5 => cases returned
  | case6 disk place part rest proper forth next nothing ih =>
    have new : next ≠ [] := List.append_ne_nil_of_right_ne_nil _ (List.cons_ne_nil _ _)
    have put := disk.entryAt?_put_self new .directory
    have there := kept _ ((Grown.of_makeAlong [] returned).directories _ put)
    rw [makeAlong, if_neg proper, if_neg forth]
    dsimp only
    rw [there]
    exact ih returned

/-- A path leads to a file, and the directories of another path are there. -/
structure Leads (disk : Disk) (directory path : String) : Prop where
  made : disk.makeDirectories directory = .ok disk
  file : ∃ content, disk.resolve path = .ok (disk.place path) ∧
    disk.entryAt? (disk.place path) = some (.file content)

namespace Leads

variable {disk after : Disk} {directory path : String} {target : Place}

/-- Directories stay, and files stay files. -/
theorem grown (leads : disk.Leads directory path) (grown : Grown target disk after) :
    after.Leads directory path where
  made := by
    have made := leads.made
    unfold makeDirectories at made ⊢
    rw [grown.departure_eq]
    exact makeAlong_again made grown.directories
  file := by
    obtain ⟨content, resolved, held⟩ := leads.file
    obtain ⟨other, held⟩ := grown.files _ content held
    unfold resolve at resolved ⊢
    rw [grown.departure_eq, grown.place_eq]
    exact ⟨other, grown.follow resolved, held⟩

theorem congr (leads : disk.Leads directory path) (entries : after.entries = disk.entries)
    (working : after.workingDirectory = disk.workingDirectory) : after.Leads directory path :=
  leads.grown (grown_of_entries entries working [])

/-- A file that was written, with its directories made before. -/
theorem of_overwrite {made : Disk} {content : FileContent}
    (returned : disk.makeDirectories directory = .ok made)
    (written : made.overwrite path content = .ok after) : after.Leads directory path := by
  have grown : Grown [] disk made := Grown.of_makeAlong [] returned
  obtain ⟨put, resolved, file⟩ := overwrite_eq_ok written
  rw [← put.place_eq] at resolved file
  refine ⟨?_, content, resolved, file⟩
  unfold makeDirectories at returned ⊢
  rw [put.departure_eq, grown.departure_eq]
  exact makeAlong_again returned put.directories

theorem exists_overwrite (leads : disk.Leads directory path) (content : FileContent) :
    ∃ written, disk.overwrite path content = .ok written := by
  obtain ⟨old, resolved, held⟩ := leads.file
  refine ⟨disk.put (disk.place path) (.file content), ?_⟩
  rw [overwrite, resolved]
  simp only [ok_bind, held]

end Leads

theorem write_eq_ok {disk : Disk} {path : String} (leads : disk.Leads (directoryOf path) path)
    (content : FileContent) : (disk.replace path content).1 = .ok () := by
  obtain ⟨written, returned⟩ := leads.exists_overwrite content
  unfold replace
  rw [leads.made]
  simp only [returned]

theorem leads_of_write {disk : Disk} {path : String} {content : FileContent}
    (written : (disk.replace path content).1 = .ok ()) :
    (disk.replace path content).2.Leads (directoryOf path) path := by
  unfold replace at written ⊢
  split at written
  next => cases written
  next made returned =>
    split at written
    next => cases written
    next after put =>
      exact .of_overwrite returned put

/-- A lock is taken once, and its file is there. -/
structure IsHeld (disk : Disk) (directory : String) : Prop where
  leads : disk.Leads directory (Path.join directory lockName)
  once : disk.place (Path.join directory lockName) ∉
    disk.locked.erase (disk.place (Path.join directory lockName))

namespace IsHeld

variable {disk after : Disk} {directory : String} {target : Place}

theorem grown (held : disk.IsHeld directory) (grown : Grown target disk after)
    (holders : after.holders = disk.holders) : after.IsHeld directory where
  leads := held.leads.grown grown
  once := by
    rw [grown.place_eq, (Prod.mk.inj holders).1]
    exact held.once

theorem of_lock (got : (disk.lock directory).1 = .ok ()) :
    (disk.lock directory).2.IsHeld directory := by
  obtain ⟨made, written, here, returned, overwritten, resolved, free, locked⟩ := exists_of_lock got
  have grown := (overwrite_eq_ok overwritten).1
  have same : here = written.place (Path.join directory lockName) := by
    rw [grown.place_eq]
    exact follow_eq_ok resolved
  rw [locked]
  refine ⟨(Leads.of_overwrite returned overwritten).congr rfl rfl, ?_⟩
  show written.place (Path.join directory lockName) ∉
    (here :: written.locked).erase (written.place (Path.join directory lockName))
  rwa [← same, List.erase_cons_head]

/-- A lock that is free is got. -/
theorem lock_eq_ok_of_leads (leads : disk.Leads directory (Path.join directory lockName))
    (free : disk.place (Path.join directory lockName) ∉ disk.locked) :
    (disk.lock directory).1 = .ok () := by
  obtain ⟨written, returned⟩ := leads.exists_overwrite (.text "")
  obtain ⟨content, resolved, -⟩ := leads.file
  have free : ¬ written.locked.contains (disk.place (Path.join directory lockName)) = true := by
    rw [(Prod.mk.inj (holders_overwrite returned)).1, List.contains_iff_mem]
    exact free
  rw [lock, leads.made]
  simp only [returned, ok_bind, resolved, pure, Except.pure]
  rw [if_neg free]

/-- The lock is given back and taken again. -/
theorem lock_unlock (held : disk.IsHeld directory) :
    ((disk.unlock directory).lock directory).1 = .ok () := by
  obtain ⟨content, resolved, -⟩ := held.leads.file
  rw [unlock, resolved]
  refine lock_eq_ok_of_leads (held.leads.congr ?_ ?_) held.once <;> rfl

end IsHeld

instance : RepeatableStorage Disk where
  IsOpen disk path := disk.Leads (directoryOf path) path
  write_eq_ok _ _ text leads := write_eq_ok leads (.text text)
  isOpen_of_write _ _ _ := leads_of_write
  isOpen_write disk target text _ leads := leads.grown (disk.grown_replace target (.text text))
  isOpen_lock disk directory _ leads := leads.grown (disk.grown_lock directory)
  isOpen_unlock disk directory _ leads := leads.grown (disk.grown_unlock directory [])
  IsHeld := IsHeld
  lock_unlock _ _ := IsHeld.lock_unlock
  isHeld_of_lock _ _ := .of_lock
  isHeld_write disk path text _ held :=
    held.grown (disk.grown_replace path (.text text)) (disk.holders_replace path _)
  isHeld_copy disk source target _ held :=
    held.grown (disk.grown_copy source target) (disk.holders_copy source target)

end Disk

/-! ## Shelves -/

instance : RepeatableStorage Shelf where
  IsOpen shelf path := shelf.denied.any (Path.same · path) = false
  write_eq_ok shelf path text opened := by
    show (shelf.write path text).1 = _
    rw [Shelf.write, opened]
    rfl
  isOpen_of_write shelf path text written := by
    have written : (shelf.write path text).1 = .ok () := written
    show (shelf.write path text).2.denied.any (Path.same · path) = false
    unfold Shelf.write at written ⊢
    split at written
    next => cases written
    next opened =>
      rw [if_neg opened]
      exact Bool.eq_false_iff.mpr opened
  isOpen_write shelf target text path opened := by
    show (shelf.write target text).2.denied.any (Path.same · path) = false
    unfold Shelf.write
    split <;> exact opened
  isOpen_lock shelf directory path opened := by
    show (shelf.lock directory).2.denied.any (Path.same · path) = false
    unfold Shelf.lock
    split <;> exact opened
  isOpen_unlock _ _ _ opened := opened
  IsHeld shelf directory := directory ∉ shelf.locked.erase directory
  lock_unlock shelf directory held := by
    show (Shelf.lock { shelf with locked := shelf.locked.erase directory } directory).1 = _
    rw [Shelf.lock, if_neg fun taken => held (List.contains_iff_mem.mp taken)]
  isHeld_of_lock shelf directory got := by
    have got : (shelf.lock directory).1 = .ok () := got
    show directory ∉ (shelf.lock directory).2.locked.erase directory
    unfold Shelf.lock at got ⊢
    split at got
    next => cases got
    next free =>
      rw [if_neg free, List.erase_cons_head]
      exact fun member => free (List.contains_iff_mem.mpr member)
  isHeld_write shelf path text directory held := by
    show directory ∉ (shelf.write path text).2.locked.erase directory
    rwa [Shelf.locked_write]
  isHeld_copy shelf source target directory held := by
    show directory ∉ (shelf.copy source target).2.locked.erase directory
    rwa [Shelf.locked_copy]

end Phrasebook
