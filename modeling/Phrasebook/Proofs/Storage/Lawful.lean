import Phrasebook.Proofs.Text.Parts
import Phrasebook.Storage.Backups

/-!
# Lawful storage

Every path leads to a place, whatever is kept there. What is written or copied to one place does not
disturb what is read from another one, and what was written can be read.
-/

namespace Phrasebook

/-- A path does not lead back to the directory that a directory lies in. -/
def Path.IsDirect (path : String) : Prop := ['.', '.'] ∉ components path.toList

instance (path : String) : Decidable (Path.IsDirect path) :=
  inferInstanceAs (Decidable (['.', '.'] ∉ Path.components path.toList))

/-- What was read from a path is read from it still. Under a direct path nothing appears, either; a
path that leads back from a directory may come to lead anywhere once the directory is made. -/
structure Undisturbed [Storage σ] (path : String) (before after : σ) : Prop where
  kept : ∀ text, Storage.read before path = .ok text → Storage.read after path = .ok text
  appeared : Path.IsDirect path → ∀ text, Storage.read after path = .ok text →
    Storage.read before path = .ok text

namespace Undisturbed

variable {σ : Type} [Storage σ] {path : String} {a b c : σ}

theorem refl (path : String) (storage : σ) : Undisturbed path storage storage :=
  ⟨fun _ same => same, fun _ _ same => same⟩

theorem trans (first : Undisturbed path a b) (second : Undisturbed path b c) :
    Undisturbed path a c :=
  ⟨fun text held => second.kept text (first.kept text held),
    fun direct text held => first.appeared direct text (second.appeared direct text held)⟩

end Undisturbed

class LawfulStorage (σ : Type) [Storage σ] where
  /-- The place that a path leads to. -/
  place : σ → (path : String) → List (List Char)
  place_write : ∀ (storage : σ) (target text path : String),
    place (Storage.write storage target text).2 path = place storage path
  place_copy : ∀ (storage : σ) (source target path : String),
    place (Storage.copy storage source target).2 path = place storage path
  /-- A file's name is the last name of its place. -/
  place_of_fileName? : ∀ (storage : σ) (path : String) (name : List Char),
    Path.fileName? path = some name → (place storage path).getLast? = some name
  undisturbed_write : ∀ (storage : σ) (target text path : String),
    place storage path ≠ place storage target →
      Undisturbed path storage (Storage.write storage target text).2
  undisturbed_copy : ∀ (storage : σ) (source target path : String),
    place storage path ≠ place storage target →
      Undisturbed path storage (Storage.copy storage source target).2
  /-- A file that cannot be written stays as it was. -/
  undisturbed_of_error : ∀ (storage : σ) (path text : String) (e : StorageError),
    (Storage.write storage path text).1 = .error e →
      Undisturbed path storage (Storage.write storage path text).2
  read_of_write : ∀ (storage : σ) (path text : String),
    (Storage.write storage path text).1 = .ok () →
      Storage.read (Storage.write storage path text).2 path = .ok text
  holds_of_read : ∀ (storage : σ) (path text : String), Storage.read storage path = .ok text →
    Storage.holds storage path = true

/-! ## Names of files -/

namespace Path

theorem after?_append (directory rest : List (List Char)) :
    after? directory (directory ++ rest) = some rest := by
  induction directory with
  | nil => cases rest <;> rfl
  | cons part directory ih => simp [after?, ih]

/-- A file's name is the last component of its path, unless that only leads elsewhere. -/
theorem fileName?_eq_some_iff (path : String) (name : List Char) : fileName? path = some name ↔
    (components path.toList).getLast? = some name ∧
      name ≠ ['.', '.'] ∧ name ≠ ['.'] ∧ name ≠ ['/'] := by
  unfold fileName?
  split
  next last found =>
    split
    next leads =>
      simp only [Bool.or_eq_true, beq_iff_eq] at leads
      rw [found]
      constructor
      · nofun
      · rintro ⟨⟨rfl⟩, back, here, top⟩
        rcases leads with (same | same) | same
        · exact absurd same back
        · exact absurd same here
        · exact absurd same top
    next proper =>
      simp only [Bool.or_eq_true, beq_iff_eq, not_or] at proper
      rw [found]
      constructor
      · rintro ⟨rfl⟩
        exact ⟨rfl, proper.1.1, proper.1.2, proper.2⟩
      · rintro ⟨⟨rfl⟩, -⟩
        rfl
  next none => simp [none]

/-- The name of a file is what stands behind the last slash. -/
theorem getLast?_components {path name : List Char}
    (last : (Text.splitBy (· == '/') path).getLast? = some name) (some : name ≠ [])
    (proper : name ≠ ['.']) : (components path).getLast? = Option.some name := by
  have passes : (!name.isEmpty && name != ['.']) = true := by
    simp [some, proper]
  -- The last part stays last when empty parts and points are dropped.
  have kept (parts : List (List Char)) (last : parts.getLast? = Option.some name) :
      (parts.filter fun p => !p.isEmpty && p != ['.']).getLast? = Option.some name := by
    obtain ⟨init, rfl⟩ := List.getLast?_eq_some_iff.mp last
    rw [List.filter_append, List.filter_cons, if_pos passes]
    simp
  unfold components
  dsimp only
  split
  next split =>
    rw [List.getLast?_cons, kept _ last]
    rfl
  next rest split =>
    have behind : rest.getLast? = Option.some name := by
      rw [split, List.getLast?_cons] at last
      cases here : rest.getLast? with
      | none =>
        rw [here] at last
        exact absurd (Option.some.inj last).symm proper
      | some other =>
        rw [here] at last
        exact last
    rw [List.getLast?_cons, kept _ behind]
    rfl
  next => exact kept _ last

/-- A file's name ends as its path does. -/
theorem fileName?_append (path : String) (front ending : List Char)
    (split : path.toList = front ++ ending) (whole : '/' ∉ ending) (long : 2 < ending.length) :
    ∃ part, fileName? path = some (part ++ ending) := by
  have within : ∀ c ∈ ending, (c == '/') = false := fun c member =>
    beq_eq_false_iff_ne.mpr fun same => whole (same ▸ member)
  obtain ⟨part, last⟩ := Text.getLast?_splitBy (· == '/') front ending within
  have size : 2 < (part ++ ending).length := by
    rw [List.length_append]
    omega
  have differs (short : List Char) (small : short.length ≤ 2) : part ++ ending ≠ short := by
    intro same
    rw [same] at size
    omega
  have found := getLast?_components last (differs [] (by decide)) (differs ['.'] (by decide))
  exact ⟨part, (fileName?_eq_some_iff path _).mpr ⟨split ▸ found, differs _ (by decide),
    differs _ (by decide), differs _ (by decide)⟩⟩

theorem join_append (directory path : String) :
    ∃ front, (join directory path).toList = front ++ path.toList := by
  unfold join
  split
  · exact ⟨[], rfl⟩
  · split
    · exact ⟨directory.toList, String.toList_append ..⟩
    · exact ⟨(directory ++ "/").toList, String.toList_append ..⟩

/-- A file's name ends as the path that is joined to a directory. -/
theorem fileName?_join (directory front ending : String) (whole : '/' ∉ ending.toList)
    (long : 2 < ending.toList.length) :
    ∃ part, fileName? (join directory (front ++ ending)) = some (part ++ ending.toList) := by
  obtain ⟨before, split⟩ := join_append directory (front ++ ending)
  rw [String.toList_append, ← List.append_assoc] at split
  exact fileName?_append _ _ _ split whole long

end Path

namespace LawfulStorage

variable {σ : Type} [Storage σ] [LawfulStorage σ]

/-- A document is in the place of no file whose name ends otherwise. -/
theorem place_document_ne (storage : σ) (directory locale other front ending : String)
    (whole : '/' ∉ ending.toList) (long : 2 < ending.toList.length)
    (differs : ending.toList.getLast? ≠ some 'n') :
    place storage (Path.join directory (locale ++ ".json")) ≠
      place storage (Path.join other (front ++ ending)) := by
  obtain ⟨document, named⟩ := Path.fileName?_join directory locale ".json" (by decide) (by decide)
  obtain ⟨file, named'⟩ := Path.fileName?_join other front ending whole long
  have last := place_of_fileName? storage _ _ named
  have last' := place_of_fileName? storage _ _ named'
  intro same
  rw [same, last'] at last
  have names := congrArg List.getLast? (Option.some.inj last)
  have some : ending.toList.getLast? ≠ none := fun none => by
    rw [List.getLast?_eq_none_iff.mp none] at long
    exact absurd long (by decide)
  obtain ⟨c, here⟩ := Option.ne_none_iff_exists'.mp some
  rw [List.getLast?_append, List.getLast?_append, here] at names
  exact differs (here.trans names)

/-- A copy that is put aside does not take the place of a document. -/
theorem place_ne (storage : σ) (directory locale : String) (backups : Backups) (path : String) :
    place storage (Path.join directory (locale ++ ".json")) ≠
      place storage (backups.place path) :=
  place_document_ne storage directory locale _ _ ".bak" (by decide) (by decide) (by decide)

end LawfulStorage

end Phrasebook
