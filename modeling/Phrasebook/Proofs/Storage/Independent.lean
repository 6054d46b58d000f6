import Phrasebook.Proofs.Storage.Changing
import Phrasebook.Proofs.Storage.Copies

/-!
# Paths that do not interfere

In some storages each path stands alone: how it is read, written or copied to depends on nothing
that is done under other paths. Files of a project that lie outside its output directory, and the
copies that are put aside of them, all stand under paths of their own.
-/

namespace Phrasebook

/-- Paths with the same components are the same. Reads, writes and copies may fail for any paths. -/
class IndependentStorage (σ : Type) [Storage σ] where
  /-- All there is to a path. -/
  Cell : Type
  cell : σ → Place → Cell
  read_congr : ∀ (a b : σ) (path : String),
    cell a (Path.components path.toList) = cell b (Path.components path.toList) →
      Storage.read a path = Storage.read b path
  holds_of_read : ∀ (storage : σ) (path text : String), Storage.read storage path = .ok text →
    Storage.holds storage path = true
  write_congr : ∀ (a b : σ) (path text : String),
    cell a (Path.components path.toList) = cell b (Path.components path.toList) →
      (Storage.write a path text).1 = (Storage.write b path text).1 ∧
      cell (Storage.write a path text).2 (Path.components path.toList) =
        cell (Storage.write b path text).2 (Path.components path.toList)
  cell_write : ∀ (storage : σ) (path text : String) (other : Place),
    other ≠ Path.components path.toList →
      cell (Storage.write storage path text).2 other = cell storage other
  /-- A file that cannot be written stays as it was. -/
  cell_of_error : ∀ (storage : σ) (path text : String) (e : StorageError) (other : Place),
    (Storage.write storage path text).1 = .error e →
      cell (Storage.write storage path text).2 other = cell storage other
  read_of_write : ∀ (storage : σ) (path text : String),
    (Storage.write storage path text).1 = .ok () →
      Storage.read (Storage.write storage path text).2 path = .ok text
  copy_congr : ∀ (a b : σ) (source target : String),
    cell a (Path.components source.toList) = cell b (Path.components source.toList) →
    cell a (Path.components target.toList) = cell b (Path.components target.toList) →
      (Storage.copy a source target).1 = (Storage.copy b source target).1 ∧
      cell (Storage.copy a source target).2 (Path.components target.toList) =
        cell (Storage.copy b source target).2 (Path.components target.toList)
  cell_copy : ∀ (storage : σ) (source target : String) (other : Place),
    other ≠ Path.components target.toList →
      cell (Storage.copy storage source target).2 other = cell storage other
  read_of_copy : ∀ (storage : σ) (source target : String),
    (Storage.copy storage source target).1 = .ok () →
      Storage.read (Storage.copy storage source target).2 target = Storage.read storage source

/-! ## Shelves -/

namespace Shelf

/-- What is kept under the paths with these components, and whether they are closed. -/
def cell (shelf : Shelf) (place : Place) : Option FileContent × Bool :=
  (shelf.fileAt? place, shelf.denied.any fun path => Path.components path.toList == place)

variable {a b : Shelf} {path : String}

theorem denies_congr
    (same : a.cell (Path.components path.toList) = b.cell (Path.components path.toList)) :
    a.denies path = b.denies path := congrArg Prod.snd same

theorem read_congr
    (same : a.cell (Path.components path.toList) = b.cell (Path.components path.toList)) :
    a.read path = b.read path := by
  have found := congrArg Prod.fst same
  simp only [cell, fileAt?_components] at found
  have found : a.read? path = b.read? path :=
    Option.map_injective (fun _ _ => FileContent.text.inj) found
  rw [read, read, found]

theorem cell_hold_self (shelf : Shelf) (path text : String) :
    (shelf.hold path text).cell (Path.components path.toList) =
      (some (.text text), shelf.denies path) := by
  have read := (read_eq_ok_iff _ _ _).mp (shelf.read_hold path text)
  rw [cell, fileAt?_components, read]
  rfl

theorem write_congr (text : String)
    (same : a.cell (Path.components path.toList) = b.cell (Path.components path.toList)) :
    (Storage.write a path text).1 = (Storage.write b path text).1 ∧
    (Storage.write a path text).2.cell (Path.components path.toList) =
      (Storage.write b path text).2.cell (Path.components path.toList) := by
  have closed := denies_congr same
  cases denied : b.denies path with
  | true =>
    rw [a.write_eq_of_denies (closed.trans denied), b.write_eq_of_denies denied]
    exact ⟨rfl, same⟩
  | false =>
    rw [a.write_eq_hold (closed.trans denied), b.write_eq_hold denied]
    refine ⟨rfl, ?_⟩
    rw [cell_hold_self, cell_hold_self, closed]

theorem cell_write (shelf : Shelf) (path text : String) (other : Place)
    (apart : other ≠ Path.components path.toList) :
    (Storage.write shelf path text).2.cell other = shelf.cell other := by
  have file : (Storage.write shelf path text).2.fileAt? other = shelf.fileAt? other :=
    shelf.fileAt?_write path text other apart
  have closed : (Storage.write shelf path text).2.denied = shelf.denied := by
    show (shelf.write path text).2.denied = _
    unfold write
    split <;> rfl
  rw [cell, cell, file, closed]

instance : IndependentStorage Shelf where
  Cell := Option FileContent × Bool
  cell := cell
  read_congr _ _ _ := read_congr
  holds_of_read := holds_of_read
  write_congr _ _ _ text := write_congr text
  cell_write := cell_write
  cell_of_error shelf path text e other failed := by
    cases denied : shelf.denies path with
    | true => rw [shelf.write_eq_of_denies denied]
    | false =>
      rw [shelf.write_eq_hold denied] at failed
      cases failed
  read_of_write := read_of_write
  copy_congr a b source target origin goal := by
    have read : Storage.read a source = Storage.read b source := read_congr origin
    cases returned : Storage.read b source with
    | ok text =>
      rw [a.copy_of_read (read.trans returned), b.copy_of_read returned]
      exact write_congr text goal
    | error e =>
      rw [a.copy_of_error (read.trans returned), b.copy_of_error returned]
      exact ⟨rfl, goal⟩
  cell_copy shelf source target other apart := by
    cases returned : Storage.read shelf source with
    | ok text =>
      rw [shelf.copy_of_read returned]
      exact shelf.cell_write target text other apart
    | error e => rw [shelf.copy_of_error returned]
  read_of_copy shelf source target copied := by
    cases returned : Storage.read shelf source with
    | ok text =>
      rw [shelf.copy_of_read returned] at copied ⊢
      exact shelf.read_of_write target text copied
    | error e =>
      rw [shelf.copy_of_error returned] at copied
      cases copied

end Shelf

/-! ## Files and their copies -/

namespace Path

/-- A path of names only: it is relative, and leads neither here nor back. -/
def IsPlain (path : String) : Prop :=
  ∀ part ∈ components path.toList, Backups.isName part = true

instance (path : String) : Decidable (IsPlain path) :=
  inferInstanceAs (Decidable (∀ part ∈ components path.toList, Backups.isName part = true))

theorem IsPlain.isName {path : String} (plain : IsPlain path) {part : List Char}
    (member : part ∈ components path.toList) : IsName part := by
  have named := plain part member
  simp only [Backups.isName, Bool.and_eq_true, bne_iff_ne] at named
  obtain ⟨names, proper, same⟩ := components_cases path.toList
  rcases same with same | same | same <;> rw [same] at member
  · exact proper part member
  · exact proper part ((List.mem_cons.mp member).resolve_left named.1.1)
  · exact proper part ((List.mem_cons.mp member).resolve_left named.1.2)

/-- A slash in front is a component of its own. -/
theorem IsPlain.startsWith {path : String} (plain : IsPlain path) :
    path.startsWith "/" = false := by
  rw [String.startsWith_string_eq_false_iff]
  rintro ⟨behind, same⟩
  have same : '/' :: behind = path.toList := same
  obtain ⟨first, rest, split⟩ := List.exists_cons_of_ne_nil (Text.splitBy_ne_nil (· == '/') behind)
  have slash : ['/'] ∈ components path.toList := by
    rw [← same, components_eq, Text.splitBy, split]
    exact List.mem_cons_self
  exact absurd (plain _ slash) (by decide)

theorem IsPlain.components_eq_kept {path : String} (plain : IsPlain path) :
    components path.toList = kept (Text.splitBy (· == '/') path.toList) := by
  unfold IsPlain at plain
  rw [components_eq] at plain ⊢
  unfold ofParts at plain ⊢
  split at plain
  next => exact absurd (plain _ List.mem_cons_self) (by decide)
  next => exact absurd (plain _ List.mem_cons_self) (by decide)
  next => rfl

/-- Plain paths are found below a directory, however that is spelled. -/
theorem IsPlain.components_join {path : String} (plain : IsPlain path) (directory : String) :
    components (join directory path).toList =
      components directory.toList ++ components path.toList := by
  by_cases empty : directory = ""
  · subst empty
    rw [join_empty]
    rfl
  · rw [components_join_of_relative empty plain.startsWith, plain.components_eq_kept]

end Path

namespace Backups

/-- A copy keeps all names of a plain path below the project. -/
theorem kept_join (b : Backups) {file : String} (plain : Path.IsPlain file) :
    b.kept (Path.join b.projectRoot file) = Path.components file.toList := by
  have below := (Path.after?_eq_some_iff (Path.components b.projectRoot.toList)
    (Path.components b.projectRoot.toList ++ Path.components file.toList) _).mpr rfl
  rw [kept, Path.below?, plain.components_join, below, Option.getD_some]
  exact List.filter_eq_self.mpr plain

/-- Copies of different files go to different paths. -/
theorem components_eq_of_place (b : Backups) {file other : String} (plain : Path.IsPlain file)
    (plain' : Path.IsPlain other)
    (same : Path.components (b.place (Path.join b.projectRoot file)).toList =
      Path.components (b.place (Path.join b.projectRoot other)).toList) :
    Path.components file.toList = Path.components other.toList := by
  rw [← b.kept_join plain, ← b.kept_join plain']
  exact b.kept_eq_of_place same

end Backups

end Phrasebook
