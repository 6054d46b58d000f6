import Phrasebook.Proofs.Storage.Changing
import Phrasebook.Proofs.Storage.Paths

/-!
# Steady storage

What a path leads to stays there while something is written, copied or locked elsewhere: it is still
held, and it is read as before, also where reading fails. What a directory lists lies below it.
-/

namespace Phrasebook

/-- What is held under a path stays, and is read as before. -/
def Stands {σ : Type} [Storage σ] (path : String) (before after : σ) : Prop :=
  Storage.holds before path = true →
    Storage.holds after path = true ∧ Storage.read after path = Storage.read before path

namespace Stands

variable {σ : Type} [Storage σ] {path : String} {a b c : σ}

theorem refl (path : String) (storage : σ) : Stands path storage storage := fun held => ⟨held, rfl⟩

theorem trans (first : Stands path a b) (second : Stands path b c) : Stands path a c := by
  intro held
  obtain ⟨held, read⟩ := first held
  obtain ⟨held, again⟩ := second held
  exact ⟨held, again.trans read⟩

end Stands

class SteadyStorage (σ : Type) [Storage σ] extends FileStorage σ where
  stands_write : ∀ (storage : σ) (target text path : String),
    place storage path ≠ place storage target →
      Stands path storage (Storage.write storage target text).2
  stands_copy : ∀ (storage : σ) (source target path : String),
    place storage path ≠ place storage target →
      Stands path storage (Storage.copy storage source target).2
  stands_lock : ∀ (storage : σ) (directory path : String),
    place storage path ≠ place storage (Path.join directory Disk.lockName) →
      Stands path storage (Storage.lock storage directory).2
  /-- Names lead from a directory to what lies below it. -/
  place_join : ∀ (storage : σ) (directory : String) (names : List (List Char)), names ≠ [] →
    (∀ name ∈ names, Path.IsName name ∧ name ≠ ['.', '.']) →
      place storage (Path.join directory (Path.ofComponents names)) =
        place storage directory ++ names
  /-- Every name is one, and only directories have something below them. -/
  IsSound : σ → Prop
  /-- What a directory lists is there, below the directory. -/
  listed : ∀ (storage : σ) (directory : String), IsSound storage →
    Storage.isDirectory storage directory = true →
      ∀ path ∈ Storage.filesBelow storage directory,
        Storage.holds storage (Path.join directory path) = true ∧ ∃ names, names ≠ [] ∧
          place storage (Path.join directory path) = place storage directory ++ names

/-! ## Disks -/

namespace Disk

/-- All names are proper, and what lies below something lies in a directory. -/
def IsSound (disk : Disk) : Prop :=
  ∀ e ∈ disk.entries, (∀ name ∈ e.1, Path.IsName name ∧ name ≠ ['.', '.']) ∧
    ∀ above name below, e.1 = above ++ name :: below → disk.entryAt? above = some .directory

theorem stands_of_grown {target : Place} {before after : Disk} (grown : Grown target before after)
    (path : String) (apart : before.place path ≠ target) : Stands path before after := by
  intro held
  have held : (before.find? path).isSome = true := held
  unfold find? at held
  cases resolved : before.resolve path with
  | error cause =>
    rw [resolved] at held
    cases held
  | ok found =>
    rw [resolved] at held
    have leads : found = before.place path := follow_eq_ok resolved
    -- The same way leads to the same entry.
    have again : after.resolve path = .ok found := by
      unfold resolve at resolved ⊢
      rw [grown.departure_eq]
      exact grown.follow resolved
    have same : after.entryAt? found = before.entryAt? found := by
      obtain ⟨entry, there⟩ := Option.isSome_iff_exists.mp held
      dsimp only at there
      rw [there]
      cases entry with
      | directory => exact grown.directories found there
      | file content => exact (grown.elsewhere found content (leads ▸ apart)).mpr there
    constructor
    · show (after.find? path).isSome = true
      rw [find?, again]
      dsimp only at held ⊢
      rw [same, held]
    · have content : after.content path = before.content path := by
        rw [content, content, resolved, again, ok_bind, ok_bind, same]
      show (after.text path).mapError _ = (before.text path).mapError _
      rw [Disk.text, Disk.text, content]

/-- Names do not lead back. -/
theorem lead_names (start : Place) {names : List (List Char)}
    (proper : ∀ name ∈ names, Path.IsName name ∧ name ≠ ['.', '.']) :
    lead start names = start ++ names := by
  induction names generalizing start with
  | nil => simp [lead]
  | cons name names ih =>
    obtain ⟨⟨⟨-, -, here⟩, back⟩, others⟩ := List.forall_mem_cons.mp proper
    simp [lead, here, back, ih _ others]

theorem lead_append (start : Place) (front back : List (List Char)) :
    lead start (front ++ back) = lead (lead start front) back := by
  fun_induction lead start front with
  | case1 => rfl
  | case2 start part rest here ih => rw [List.cons_append, lead, if_pos here, ih]
  | case3 start part rest here back ih => rw [List.cons_append, lead, if_neg here, if_pos back, ih]
  | case4 start part rest here forth ih =>
    rw [List.cons_append, lead, if_neg here, if_neg forth, ih]

/-- Behind a directory a path starts where the directory's path does. -/
theorem departure_join (disk : Disk) (directory : String) {names : List (List Char)}
    (some : names ≠ []) (proper : ∀ name ∈ names, Path.IsName name) :
    disk.departure (Path.join directory (Path.ofComponents names)) =
      ((disk.departure directory).1, (disk.departure directory).2 ++ names) := by
  have split := Path.components_join directory some proper
  unfold departure
  rw [split]
  cases Path.components directory.toList with
  | nil =>
    obtain ⟨first, rest, rfl⟩ := List.exists_cons_of_ne_nil some
    have whole : first ≠ ['/'] := by
      rintro rfl
      exact (proper _ List.mem_cons_self).2.1 List.mem_cons_self
    simp [whole]
  | cons part rest =>
    rw [List.cons_append]
    split <;> split <;> simp_all

theorem place_join (disk : Disk) (directory : String) {names : List (List Char)}
    (some : names ≠ []) (proper : ∀ name ∈ names, Path.IsName name ∧ name ≠ ['.', '.']) :
    disk.place (Path.join directory (Path.ofComponents names)) = disk.place directory ++ names := by
  rw [place, departure_join disk directory some fun name member => (proper name member).1,
    lead_append, lead_names _ proper]
  rfl

/-- A way goes on from where its first part leads. -/
theorem follow_append {disk : Disk} {start found : Place} {front : List (List Char)}
    (followed : disk.follow start front = .ok found) (back : List (List Char)) :
    disk.follow start (front ++ back) = disk.follow found back := by
  fun_induction follow disk start front with
  | case1 =>
    cases followed
    rfl
  | case2 | case3 => cases followed
  | case4 start part rest here point ih =>
    rw [List.cons_append, follow, here]
    simp only [point, if_true]
    exact ih followed
  | case5 start part rest here proper back ih =>
    rw [List.cons_append, follow, here]
    simp only [proper, back, Bool.false_eq_true, if_false, if_true]
    exact ih followed
  | case6 start part rest here proper forth ih =>
    rw [List.cons_append, follow, here]
    simp only [proper, forth, Bool.false_eq_true, if_false]
    exact ih followed

/-- On a sound disk names lead to everything that is kept under them. -/
theorem IsSound.follow {disk : Disk} (sound : disk.IsSound) {e : Place × DiskEntry}
    (member : e ∈ disk.entries) {start : Place} {names : List (List Char)}
    (there : e.1 = start ++ names) : disk.follow start names = .ok e.1 := by
  induction names generalizing start with
  | nil => rw [Disk.follow, there, List.append_nil]
  | cons name names ih =>
    obtain ⟨proper, above⟩ := sound e member
    have inside : name ∈ e.1 := there ▸ List.mem_append_right _ List.mem_cons_self
    obtain ⟨⟨-, -, here⟩, back⟩ := proper name inside
    rw [Disk.follow, above start name names there]
    simp only [beq_iff_eq, here, back, if_false]
    apply ih
    rw [there, List.append_assoc, List.singleton_append]

theorem entryAt?_isSome {disk : Disk} {e : Place × DiskEntry} (member : e ∈ disk.entries) :
    (disk.entryAt? e.1).isSome = true := by
  unfold entryAt?
  split
  · rfl
  · cases found : disk.entries.find? fun other => other.1 == e.1 with
    | some other => rfl
    | none =>
      have apart := List.find?_eq_none.mp found e member
      simp at apart

theorem listed (disk : Disk) (directory : String) (sound : disk.IsSound)
    (there : disk.isDirectory directory = true) :
    ∀ path ∈ disk.filesBelow directory, disk.holds (Path.join directory path) = true ∧
      ∃ names, names ≠ [] ∧
        disk.place (Path.join directory path) = disk.place directory ++ names := by
  intro path member
  unfold isDirectory find? at there
  unfold filesBelow at member
  cases resolved : disk.resolve directory with
  | error cause =>
    rw [resolved] at there
    cases there
  | ok found =>
    rw [resolved] at member
    obtain ⟨⟨other, entry⟩, kept, listed⟩ := List.mem_filterMap.mp member
    dsimp only at listed
    split at listed
    next content name names below =>
      cases listed
      have below : other = found ++ name :: names := (Path.after?_eq_some_iff _ _ _).mp below
      obtain ⟨proper, -⟩ := sound _ kept
      have names_proper : ∀ part ∈ name :: names, Path.IsName part ∧ part ≠ ['.', '.'] := by
        intro part inside
        exact proper part (below ▸ List.mem_append_right _ inside)
      have some : name :: names ≠ [] := List.cons_ne_nil _ _
      constructor
      · have leads : disk.resolve (Path.join directory (Path.ofComponents (name :: names))) =
            .ok other := by
          unfold resolve at resolved ⊢
          rw [departure_join disk directory some fun part inside => (names_proper part inside).1]
          dsimp only at resolved ⊢
          rw [follow_append resolved]
          exact sound.follow kept below
        rw [holds, find?, leads]
        exact entryAt?_isSome kept
      · exact ⟨_, some, place_join disk directory some names_proper⟩
    next => cases listed

instance : SteadyStorage Disk where
  stands_write disk target text :=
    stands_of_grown (disk.grown_replace target (.text text))
  stands_copy disk source target := stands_of_grown (disk.grown_copy source target)
  stands_lock disk directory := stands_of_grown (disk.grown_lock directory)
  place_join disk directory _ := place_join disk directory
  IsSound := IsSound
  listed := listed

end Disk

/-! ## Shelves -/

namespace Shelf

/-- A text that is put somewhere takes the place of another one under the same path, or is new. -/
theorem map_fst_put (target text : String) (texts : List (String × String)) :
    (put target text texts).map Prod.fst = texts.map Prod.fst ∨
      (put target text texts).map Prod.fst = texts.map Prod.fst ++ [target] := by
  induction texts with
  | nil => exact Or.inr rfl
  | cons entry rest ih =>
    obtain ⟨other, old⟩ := entry
    rw [put]
    split
    · exact Or.inl rfl
    · simp only [List.map_cons, List.cons_append, List.cons.injEq, true_and]
      exact ih

theorem holds_write {shelf : Shelf} {path : String} (held : shelf.holds path = true)
    (target text : String) : (shelf.write target text).2.holds path = true := by
  unfold write
  split
  · exact held
  · have held : Storage.holds shelf path = true := held
    show Storage.holds ({ shelf with texts := put target text shelf.texts } : Shelf) path = true
    rw [holds_eq] at held ⊢
    dsimp only
    rcases map_fst_put target text shelf.texts with same | more
    · rw [same, held]
    · rw [more, List.any_append, held, Bool.true_or]

theorem stands_write (shelf : Shelf) (target text path : String)
    (apart : Path.components path.toList ≠ Path.components target.toList) :
    Stands path shelf (shelf.write target text).2 :=
  fun held => ⟨holds_write held target text, shelf.read_write_of_ne target text path apart⟩

theorem stands_copy (shelf : Shelf) (source target path : String)
    (apart : Path.components path.toList ≠ Path.components target.toList) :
    Stands path shelf (shelf.copy source target).2 := by
  unfold copy
  split
  · exact stands_write shelf target _ path apart
  · exact .refl path shelf

theorem listed (shelf : Shelf) (directory path : String)
    (member : path ∈ shelf.filesBelow directory) :
    shelf.holds (Path.join directory path) = true ∧ ∃ names, names ≠ [] ∧
      Path.components (Path.join directory path).toList =
        Path.components directory.toList ++ names := by
  obtain ⟨entry, kept, listed⟩ := List.mem_filterMap.mp member
  split at listed
  next => cases listed
  next => cases listed
  next names some below =>
    cases listed
    have below : Path.components entry.1.toList = Path.components directory.toList ++ names :=
      (Path.after?_eq_some_iff _ _ _).mp below
    have joined : Path.components (Path.join directory (Path.ofComponents names)).toList =
        Path.components directory.toList ++ names := by
      by_cases top : Path.components directory.toList = []
      · have empty : directory = "" := by
          by_contra some
          exact Path.components_ne_nil (fun none => some (String.toList_inj.mp none)) top
        rw [top, List.nil_append] at below
        rw [top, List.nil_append, empty, Path.join_empty, ← below, Path.components_ofComponents]
      · exact Path.components_join directory some (Path.isName_of_append rfl below top)
    refine ⟨?_, names, some, joined⟩
    rw [holds, List.any_eq_true]
    refine ⟨entry, kept, ?_⟩
    have here := Path.after?_append (Path.components entry.1.toList) []
    rw [List.append_nil] at here
    rw [Path.below?, joined, ← below, here]
    rfl

instance : SteadyStorage Shelf where
  stands_write := stands_write
  stands_copy := stands_copy
  stands_lock shelf directory path _ := by
    show Stands path shelf (shelf.lock directory).2
    unfold lock
    split <;> exact fun held => ⟨held, rfl⟩
  place_join _ directory _ some proper :=
    Path.components_join directory some fun name member => (proper name member).1
  IsSound _ := True
  listed shelf directory _ _ := shelf.listed directory

end Shelf

/-! ## Paths that nothing is done to -/

open LawfulStorage (place)

/-- Nothing was done to the place that a path leads to. -/
structure Untouched {σ : Type} [Storage σ] (path : String) (before after : σ) : Prop where
  stands : Stands path before after
  undisturbed : Undisturbed path before after

namespace Untouched

theorem refl {σ : Type} [Storage σ] (path : String) (storage : σ) :
    Untouched path storage storage := ⟨.refl path storage, .refl path storage⟩

theorem trans {σ : Type} [Storage σ] {path : String} {a b c : σ} (first : Untouched path a b)
    (second : Untouched path b c) : Untouched path a c :=
  ⟨first.stands.trans second.stands, first.undisturbed.trans second.undisturbed⟩

variable {σ : Type} [Storage σ] [SteadyStorage σ] {storage : σ} {path : String}

theorem write {target : String} (apart : place storage path ≠ place storage target)
    (text : String) : Untouched path storage (Storage.write storage target text).2 :=
  ⟨SteadyStorage.stands_write storage target text path apart,
    LawfulStorage.undisturbed_write storage target text path apart⟩

theorem lock {directory : String}
    (apart : place storage path ≠ place storage (Path.join directory Disk.lockName)) :
    Untouched path storage (Storage.lock storage directory).2 :=
  ⟨SteadyStorage.stands_lock storage directory path apart,
    FileStorage.undisturbed_lock storage directory path apart⟩

/-- What is put aside touches only the place of the copy. -/
theorem save {backups : Backups} {source : String}
    (apart : place storage path ≠ place storage (backups.place source)) :
    Untouched path storage (backups.save storage source).2 := by
  unfold Backups.save
  split
  · exact ⟨SteadyStorage.stands_copy storage source _ path apart,
      LawfulStorage.undisturbed_copy storage source _ path apart⟩
  · exact .refl path storage

end Untouched

/-- A path that can be told: something is there, or nothing is and the path is direct. -/
def Path.Reaches {σ : Type} [Storage σ] (storage : σ) (path : String) : Prop :=
  Storage.holds storage path = true ∨ IsDirect path

/-- Where nothing was done, what can be read later could be read before. -/
theorem Path.Reaches.read_eq {σ : Type} [Storage σ] {path : String} {before after : σ}
    (reaches : Path.Reaches before path) (untouched : Untouched path before after) {text : String}
    (read : Storage.read after path = .ok text) : Storage.read before path = .ok text := by
  rcases reaches with held | direct
  · rw [← (untouched.stands held).2, read]
  · exact untouched.undisturbed.appeared direct text read

end Phrasebook
