import Phrasebook.Dictionary.Documents
import Phrasebook.Proofs.Storage.Disk
import Phrasebook.Proofs.Storage.Shelf

/-!
# What changes in a storage

A storage of files tells what the file at each place holds, byte for byte. Every change is known by
the places where files may have changed; all other files are the same, and no files appear
elsewhere. Any write may fail, and one that fails changes no file.
-/

namespace Phrasebook

class FileStorage (σ : Type) [Storage σ] extends LawfulStorage σ where
  /-- What the file at a place holds, if there is one. -/
  fileAt? : σ → Place → Option FileContent
  fileAt?_of_read : ∀ (storage : σ) (path text : String), Storage.read storage path = .ok text →
    fileAt? storage (place storage path) = some (.text text)
  fileAt?_write : ∀ (storage : σ) (path text : String) (other : Place), other ≠ place storage path →
    fileAt? (Storage.write storage path text).2 other = fileAt? storage other
  fileAt?_of_error : ∀ (storage : σ) (path text : String) (e : StorageError) (other : Place),
    (Storage.write storage path text).1 = .error e →
      fileAt? (Storage.write storage path text).2 other = fileAt? storage other
  fileAt?_copy : ∀ (storage : σ) (source target : String) (other : Place),
    other ≠ place storage target →
      fileAt? (Storage.copy storage source target).2 other = fileAt? storage other
  /-- A lock is a file of its own, which taking the lock may change. -/
  fileAt?_lock : ∀ (storage : σ) (directory : String) (other : Place),
    other ≠ place storage (Path.join directory Disk.lockName) →
      fileAt? (Storage.lock storage directory).2 other = fileAt? storage other
  place_lock : ∀ (storage : σ) (directory path : String),
    place (Storage.lock storage directory).2 path = place storage path
  undisturbed_lock : ∀ (storage : σ) (directory path : String),
    place storage path ≠ place storage (Path.join directory Disk.lockName) →
      Undisturbed path storage (Storage.lock storage directory).2
  fileAt?_unlock : ∀ (storage : σ) (directory : String) (other : Place),
    fileAt? (Storage.unlock storage directory) other = fileAt? storage other
  place_unlock : ∀ (storage : σ) (directory path : String),
    place (Storage.unlock storage directory) path = place storage path
  undisturbed_unlock : ∀ (storage : σ) (directory path : String),
    Undisturbed path storage (Storage.unlock storage directory)

/-! ## Disks -/

namespace Disk

def fileAt? (disk : Disk) (place : Place) : Option FileContent :=
  match disk.entryAt? place with
  | some (.file content) => some content
  | _ => none

theorem fileAt?_eq_some_iff (disk : Disk) (place : Place) (content : FileContent) :
    disk.fileAt? place = some content ↔ disk.entryAt? place = some (.file content) := by
  unfold fileAt?
  split
  next found => rw [found, Option.some.injEq, Option.some.injEq, DiskEntry.file.injEq]
  next other =>
    rw [eq_false (by simp : ¬ none = some content), false_iff]
    exact other content

theorem Grown.fileAt?_eq {target : Place} {before after : Disk}
    (grown : Grown target before after) {place : Place} (apart : place ≠ target) :
    after.fileAt? place = before.fileAt? place := by
  apply Option.ext
  intro content
  rw [fileAt?_eq_some_iff, fileAt?_eq_some_iff]
  exact grown.elsewhere place content apart

/-- A disk that grows whatever place is spared grows by directories only. -/
theorem fileAt?_of_grown_all {before after : Disk} (grown : ∀ target, Grown target before after)
    (place : Place) : after.fileAt? place = before.fileAt? place := by
  refine (grown (place ++ [[]])).fileAt?_eq fun same => ?_
  have longer := congrArg List.length same
  rw [List.length_append, List.length_singleton] at longer
  omega

/-- Taking a lock changes its file, whether the lock is got or not. -/
theorem lock_cases (disk : Disk) (directory : String) : ∃ changed,
    Grown (disk.place (Path.join directory lockName)) disk changed ∧
      (disk.lock directory).2.entries = changed.entries ∧
      (disk.lock directory).2.workingDirectory = changed.workingDirectory := by
  unfold lock
  split
  next => exact ⟨disk, .refl _ disk, rfl, rfl⟩
  next made returned =>
    have grown (target : Place) : Grown target disk made := Grown.of_makeAlong target returned
    dsimp only
    split
    next => exact ⟨made, grown _, rfl, rfl⟩
    next written place opened =>
      obtain ⟨other, overwritten, rest⟩ := bind_eq_ok_iff.mp opened
      obtain ⟨there, -, same⟩ := bind_eq_ok_iff.mp rest
      cases same
      obtain ⟨put, -⟩ := overwrite_eq_ok overwritten
      rw [(grown []).place_eq] at put
      refine ⟨written, (grown _).trans put, ?_⟩
      split <;> exact ⟨rfl, rfl⟩

/-- What is locked tells nothing of the files. -/
theorem entryAt?_congr {disk other : Disk} (same : disk.entries = other.entries) (place : Place) :
    disk.entryAt? place = other.entryAt? place := by
  rw [entryAt?, entryAt?, same]

theorem grown_of_entries {disk other : Disk} (entries : other.entries = disk.entries)
    (directory : other.workingDirectory = disk.workingDirectory) (target : Place) :
    Grown target disk other := by
  refine ⟨directory, fun place held => ?_, fun place content held => ?_, fun place content _ => ?_⟩
  · rw [entryAt?_congr entries, held]
  · exact ⟨content, by rw [entryAt?_congr entries, held]⟩
  · rw [entryAt?_congr entries]

theorem grown_lock (disk : Disk) (directory : String) :
    Grown (disk.place (Path.join directory lockName)) disk (disk.lock directory).2 := by
  obtain ⟨changed, grown, entries, working⟩ := disk.lock_cases directory
  exact grown.trans (grown_of_entries entries working _)

theorem grown_unlock (disk : Disk) (directory : String) (target : Place) :
    Grown target disk (disk.unlock directory) := by
  unfold unlock
  split
  · refine grown_of_entries ?_ ?_ target <;> rfl
  · exact .refl target disk

theorem fileAt?_of_read (disk : Disk) (path text : String)
    (read : Storage.read disk path = .ok text) :
    disk.fileAt? (disk.place path) = some (.text text) := by
  obtain ⟨found, resolved, held⟩ := (disk.text_eq_ok_iff path text).mp
    ((disk.read_eq_ok_iff path text).mp read)
  have here : found = disk.place path := follow_eq_ok resolved
  rwa [fileAt?_eq_some_iff, ← here]

instance : FileStorage Disk where
  fileAt? := fileAt?
  fileAt?_of_read := fileAt?_of_read
  fileAt?_write disk path text _ := (disk.grown_replace path (.text text)).fileAt?_eq
  fileAt?_of_error disk path text e other failed := by
    rcases disk.replace_cases path (.text text) with ⟨-, -, grown⟩ | ⟨written, -⟩
    · exact fileAt?_of_grown_all grown other
    · have same : (Storage.write disk path text).1 = .ok () := written
      rw [same] at failed
      cases failed
  fileAt?_copy disk source target _ := (disk.grown_copy source target).fileAt?_eq
  fileAt?_lock disk directory _ := (disk.grown_lock directory).fileAt?_eq
  place_lock disk directory := (disk.grown_lock directory).place_eq
  undisturbed_lock disk directory := undisturbed_of_grown (disk.grown_lock directory)
  fileAt?_unlock disk directory := fileAt?_of_grown_all (disk.grown_unlock directory)
  place_unlock disk directory := (disk.grown_unlock directory []).place_eq
  undisturbed_unlock disk directory path := by
    refine undisturbed_of_grown (disk.grown_unlock directory (disk.place path ++ [[]])) path ?_
    intro same
    have longer := congrArg List.length same
    rw [List.length_append, List.length_singleton] at longer
    omega

end Disk

/-! ## Shelves -/

namespace Shelf

/-- What is kept under the paths with these components. -/
def fileAt? (shelf : Shelf) (place : Place) : Option FileContent :=
  (shelf.texts.find? fun entry => Path.components entry.1.toList == place).map fun entry =>
    .text entry.2

theorem fileAt?_components (shelf : Shelf) (path : String) :
    shelf.fileAt? (Path.components path.toList) = (shelf.read? path).map .text := by
  rw [read?, Option.map_map]
  rfl

theorem fileAt?_write (shelf : Shelf) (target text : String) (other : Place)
    (apart : other ≠ Path.components target.toList) :
    (shelf.write target text).2.fileAt? other = shelf.fileAt? other := by
  unfold write
  split
  · rfl
  · unfold fileAt?
    dsimp only
    induction shelf.texts with
    | nil => simp [put, Ne.symm apart]
    | cons entry rest ih =>
      obtain ⟨path, old⟩ := entry
      rw [put]
      split
      next same =>
        have differs : (Path.components path.toList == other) = false := by
          rw [(same_iff path target).mp same]
          exact beq_eq_false_iff_ne.mpr (Ne.symm apart)
        simp [differs]
      next =>
        rw [List.find?_cons, List.find?_cons]
        split
        · rfl
        · exact ih

instance : FileStorage Shelf where
  fileAt? := fileAt?
  fileAt?_of_read shelf path text read := by
    show shelf.fileAt? (Path.components path.toList) = _
    rw [fileAt?_components, (shelf.read_eq_ok_iff path text).mp read]
    rfl
  fileAt?_write := fileAt?_write
  fileAt?_of_error shelf path text e other failed := by
    show ((shelf.write path text).2).fileAt? other = _
    have failed : (shelf.write path text).1 = .error e := failed
    unfold write at failed ⊢
    split at failed
    next closed => rw [if_pos closed]
    next => cases failed
  fileAt?_copy shelf source target other apart := by
    show (shelf.copy source target).2.fileAt? other = _
    unfold copy
    split
    · exact shelf.fileAt?_write target _ other apart
    · rfl
  fileAt?_lock shelf directory other _ := by
    show (shelf.lock directory).2.fileAt? other = _
    unfold lock
    split <;> rfl
  place_lock _ _ _ := rfl
  undisturbed_lock shelf directory path _ := by
    show Undisturbed path shelf (shelf.lock directory).2
    unfold lock
    split <;> exact ⟨fun _ held => held, fun _ _ held => held⟩
  fileAt?_unlock _ _ _ := rfl
  place_unlock _ _ _ := rfl
  undisturbed_unlock _ _ _ := ⟨fun _ held => held, fun _ _ held => held⟩

end Shelf

/-! ## Changes -/

open LawfulStorage (place)
open FileStorage (fileAt?)

variable {σ : Type} [Storage σ] [FileStorage σ]

/-- Files may have changed in these places, and nowhere else. -/
structure ChangesOnly (places : Place → Prop) (before after : σ) : Prop where
  place_eq : ∀ path, place after path = place before path
  files : ∀ other, ¬ places other → fileAt? after other = fileAt? before other

namespace ChangesOnly

variable {places more : Place → Prop} {a b c : σ}

theorem refl (places : Place → Prop) (storage : σ) : ChangesOnly places storage storage :=
  ⟨fun _ => rfl, fun _ _ => rfl⟩

theorem trans (first : ChangesOnly places a b) (second : ChangesOnly places b c) :
    ChangesOnly places a c where
  place_eq := fun path => (second.place_eq path).trans (first.place_eq path)
  files := fun other spared => (second.files other spared).trans (first.files other spared)

theorem mono (changes : ChangesOnly places a b) (part : ∀ place, places place → more place) :
    ChangesOnly more a b :=
  ⟨changes.place_eq, fun other spared => changes.files other fun inside =>
    spared (part other inside)⟩

end ChangesOnly

variable (storage : σ)

theorem changes_write (path text : String) :
    ChangesOnly (· = place storage path) storage (Storage.write storage path text).2 :=
  ⟨LawfulStorage.place_write storage path text, FileStorage.fileAt?_write storage path text⟩

/-- A file that cannot be written is not changed. -/
theorem changes_write_of_error (path text : String) {e : StorageError}
    (failed : (Storage.write storage path text).1 = .error e) :
    ChangesOnly (fun _ => False) storage (Storage.write storage path text).2 :=
  ⟨LawfulStorage.place_write storage path text,
    fun other _ => FileStorage.fileAt?_of_error storage path text e other failed⟩

theorem changes_lock (directory : String) :
    ChangesOnly (· = place storage (Path.join directory Disk.lockName)) storage
      (Storage.lock storage directory).2 :=
  ⟨FileStorage.place_lock storage directory, FileStorage.fileAt?_lock storage directory⟩

/-- Giving a lock back changes no file. -/
theorem changes_unlock (places : Place → Prop) (directory : String) :
    ChangesOnly places storage (Storage.unlock storage directory) :=
  ⟨FileStorage.place_unlock storage directory,
    fun other _ => FileStorage.fileAt?_unlock storage directory other⟩

theorem changes_save (backups : Backups) (path : String) :
    ChangesOnly (· = place storage (backups.place path)) storage (backups.save storage path).2 := by
  unfold Backups.save
  split
  · exact ⟨LawfulStorage.place_copy storage path (backups.place path),
      FileStorage.fileAt?_copy storage path (backups.place path)⟩
  · exact .refl _ storage

/-- A flush changes the documents that it writes and what is put aside. -/
theorem changes_flush (d : Dictionary) (locales : List String) (backups : Backups) :
    ChangesOnly (fun other => ∃ locale ∈ locales,
      locale ∈ (d.flush storage locales backups).written ∧
        other = place storage (d.documentPath locale) ∨
      other = place storage (backups.place (d.documentPath locale))) storage
      (d.flush storage locales backups).storage := by
  let changes (f : Dictionary.Flush σ) : Prop := ChangesOnly (fun other => ∃ locale ∈ locales,
    locale ∈ f.written ∧ other = place storage (d.documentPath locale) ∨
      other = place storage (backups.place (d.documentPath locale))) storage f.storage
  -- The directory of the documents stays what it is, so each document stays in its place.
  refine (List.foldlRecOn (motive := fun f => f.dictionary.directory = d.directory ∧ changes f)
    locales _ ⟨rfl, .refl _ storage⟩ fun f kept locale listed => ?_).2
  obtain ⟨directory, changes⟩ := kept
  have path : f.dictionary.documentPath locale = d.documentPath locale := by
    rw [Dictionary.documentPath, Dictionary.documentPath, directory]
  unfold Dictionary.Flush.step
  split
  next =>
    dsimp only
    have saved := changes_save f.storage backups (f.dictionary.documentPath locale)
    rw [path, changes.place_eq] at saved
    have saved := changes.trans (saved.mono fun other same => ⟨locale, listed, Or.inr same⟩)
    rw [path]
    split
    next e between failed =>
      rw [failed] at saved
      exact ⟨directory, saved⟩
    next some between put =>
      rw [put] at saved
      have written := changes_write between (d.documentPath locale) (f.dictionary.render locale)
      rw [saved.place_eq] at written
      split
      next after returned =>
        rw [returned] at written
        refine ⟨directory, (saved.mono fun other => ?_).trans (written.mono fun other same =>
          ⟨locale, listed, Or.inl ⟨List.mem_append_right _ (List.mem_singleton.mpr rfl), same⟩⟩)⟩
        rintro ⟨locale, listed, inside⟩
        exact ⟨locale, listed, inside.imp_left fun ⟨done, same⟩ =>
          ⟨List.mem_append_left _ done, same⟩⟩
      next e after returned =>
        have spared := changes_write_of_error between (d.documentPath locale)
          (f.dictionary.render locale) (by rw [returned])
        rw [returned] at spared
        exact ⟨directory, saved.trans (spared.mono fun _ never => never.elim)⟩
  next => exact ⟨directory, changes⟩

end Phrasebook
