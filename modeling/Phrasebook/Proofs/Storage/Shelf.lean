import Phrasebook.Proofs.Storage.Lawful
import Phrasebook.Storage.Shelf

/-!
# Shelves are lawful

On a shelf a path leads to its own components.
-/

namespace Phrasebook.Shelf

theorem same_iff (a b : String) :
    Path.same a b = true ↔ Path.components a.toList = Path.components b.toList := beq_iff_eq

theorem read_eq_ok_iff (shelf : Shelf) (path text : String) :
    shelf.read path = .ok text ↔ shelf.read? path = some text := by
  unfold read
  split <;> simp_all

/-- A text is found under the paths with the components that it was put under. -/
theorem find?_put (texts : List (String × String)) (target text path : String) :
    ((put target text texts).find? fun entry => Path.same entry.1 path).map (·.2) =
      if Path.same target path then some text
      else (texts.find? fun entry => Path.same entry.1 path).map (·.2) := by
  induction texts with
  | nil => by_cases here : Path.same target path = true <;> simp [put, here]
  | cons entry rest ih =>
    obtain ⟨other, old⟩ := entry
    rw [put]
    by_cases first : Path.same other target = true
    · -- Both paths are the same for any third one.
      have both : Path.same other path = Path.same target path := by
        rw [Path.same, Path.same, (same_iff other target).mp first]
      rw [if_pos first, List.find?_cons, List.find?_cons, both]
      by_cases here : Path.same target path = true <;> simp [here]
    · rw [if_neg first, List.find?_cons, List.find?_cons]
      by_cases there : Path.same other path = true
      · have apart : ¬ Path.same target path = true := by
          rw [same_iff] at first there ⊢
          exact fun here => first (there.trans here.symm)
        simp [there, apart]
      · simp only [there]
        exact ih

theorem read_write_of_ne (shelf : Shelf) (target text path : String)
    (apart : Path.components path.toList ≠ Path.components target.toList) :
    (shelf.write target text).2.read path = shelf.read path := by
  have elsewhere : ¬ Path.same target path = true := by
    rw [same_iff]
    exact Ne.symm apart
  unfold write
  split
  · rfl
  · rw [read, read, read?, read?, find?_put, if_neg elsewhere]

theorem undisturbed_write (shelf : Shelf) (target text path : String)
    (apart : Path.components path.toList ≠ Path.components target.toList) :
    Undisturbed path shelf (shelf.write target text).2 := by
  have same := shelf.read_write_of_ne target text path apart
  exact ⟨fun other held => same.trans held, fun _ other held => same.symm.trans held⟩

theorem undisturbed_copy (shelf : Shelf) (source target path : String)
    (apart : Path.components path.toList ≠ Path.components target.toList) :
    Undisturbed path shelf (shelf.copy source target).2 := by
  unfold copy
  split
  · exact undisturbed_write shelf target _ path apart
  · exact .refl path shelf

theorem undisturbed_of_error (shelf : Shelf) (path text : String) (e : StorageError)
    (failed : (shelf.write path text).1 = .error e) :
    Undisturbed path shelf (shelf.write path text).2 := by
  unfold write at failed ⊢
  split at failed
  next closed => rw [if_pos closed]; exact .refl path shelf
  next => cases failed

theorem write_denied {shelf : Shelf} {path : String}
    (denied : shelf.denied.any (Path.same · path) = true) (text : String) :
    Storage.write shelf path text = (.error (.denied path), shelf) :=
  if_pos denied

/-- Where nothing is closed, everything can be written. -/
theorem write_of_open {shelf : Shelf} (opened : shelf.denied = []) (path text : String) :
    (Storage.write shelf path text).1 = .ok () ∧
      (Storage.write shelf path text).2.denied = [] := by
  have free : ¬ shelf.denied.any (Path.same · path) = true := by simp [opened]
  have written : Storage.write shelf path text =
      (.ok (), { shelf with texts := put path text shelf.texts }) := if_neg free
  rw [written]
  exact ⟨rfl, opened⟩

/-- What a shelf holds is told by the paths of its texts. -/
theorem holds_eq (shelf : Shelf) (path : String) : Storage.holds shelf path =
    (shelf.texts.map Prod.fst).any fun other => (Path.below? path other).isSome := by
  rw [List.any_map]
  rfl

theorem filesBelow_eq (shelf : Shelf) (directory : String) : Storage.filesBelow shelf directory =
    (shelf.texts.map Prod.fst).filterMap fun path =>
      match Path.below? directory path with
      | some [] | none => none
      | some rest => some (Path.ofComponents rest) := by
  rw [List.filterMap_map]
  rfl

theorem read_of_write (shelf : Shelf) (path text : String)
    (written : (shelf.write path text).1 = .ok ()) :
    (shelf.write path text).2.read path = .ok text := by
  have here : Path.same path path = true := (same_iff path path).mpr rfl
  unfold write at written ⊢
  split at written
  next => cases written
  next free => rw [if_neg free, read_eq_ok_iff, read?, find?_put, if_pos here]

theorem holds_of_read (shelf : Shelf) (path text : String) (held : shelf.read path = .ok text) :
    shelf.holds path = true := by
  rw [read_eq_ok_iff, read?, Option.map_eq_some_iff] at held
  obtain ⟨entry, found, -⟩ := held
  have same := List.find?_some found
  rw [same_iff] at same
  have below : Path.below? path entry.1 = some [] := by
    rw [Path.below?, same]
    simpa using Path.after?_append (Path.components path.toList) []
  rw [holds, List.any_eq_true]
  exact ⟨entry, List.mem_of_find?_eq_some found, by rw [below]; rfl⟩

instance : LawfulStorage Shelf where
  place _ path := Path.components path.toList
  place_write _ _ _ _ := rfl
  place_copy _ _ _ _ := rfl
  place_of_fileName? _ path name named := ((Path.fileName?_eq_some_iff path name).mp named).1
  undisturbed_write := undisturbed_write
  undisturbed_copy := undisturbed_copy
  undisturbed_of_error := undisturbed_of_error
  read_of_write := read_of_write
  holds_of_read := holds_of_read

/-! ## Texts that are put on a shelf -/

variable (shelf : Shelf)

/-- The shelf with a text put under a path. -/
def hold (path text : String) : Shelf := { shelf with texts := put path text shelf.texts }

def denies (path : String) : Bool := shelf.denied.any (Path.same · path)

@[simp] theorem denies_hold (target text path : String) :
    (shelf.hold target text).denies path = shelf.denies path := rfl

theorem write_eq_of_denies {path : String} (denied : shelf.denies path = true) (text : String) :
    Storage.write shelf path text = (.error (.denied path), shelf) := if_pos denied

theorem write_eq_hold {path : String} (free : shelf.denies path = false) (text : String) :
    Storage.write shelf path text = (.ok (), shelf.hold path text) :=
  if_neg (Bool.not_eq_true _ ▸ free)

/-- A copy is written as any text is. -/
theorem copy_of_read {source text : String} (read : Storage.read shelf source = .ok text)
    (target : String) : Storage.copy shelf source target = Storage.write shelf target text := by
  have read : shelf.read source = .ok text := read
  show shelf.copy source target = shelf.write target text
  rw [copy, read]

theorem copy_of_error {source : String} {e : StorageError}
    (failed : Storage.read shelf source = .error e) (target : String) :
    Storage.copy shelf source target = (.error e, shelf) := by
  have failed : shelf.read source = .error e := failed
  show shelf.copy source target = _
  rw [copy, failed]

theorem read_hold (path text : String) : Storage.read (shelf.hold path text) path = .ok text := by
  have here : Path.same path path = true := (same_iff path path).mpr rfl
  show (shelf.hold path text).read path = _
  rw [read_eq_ok_iff, read?, hold, find?_put, if_pos here]

theorem read_hold_of_ne (target text : String) {path : String}
    (apart : Path.components path.toList ≠ Path.components target.toList) :
    Storage.read (shelf.hold target text) path = Storage.read shelf path := by
  have elsewhere : ¬ Path.same target path = true := by
    rw [same_iff]
    exact Ne.symm apart
  show (shelf.hold target text).read path = shelf.read path
  rw [read, read, read?, read?, hold, find?_put, if_neg elsewhere]

theorem subset_put (target text : String) (texts : List (String × String)) :
    texts.map Prod.fst ⊆ (put target text texts).map Prod.fst := by
  induction texts with
  | nil => exact List.nil_subset _
  | cons entry rest ih =>
    rw [put]
    split
    · exact List.Subset.refl _
    · exact List.cons_subset_cons _ ih

/-- Nothing vanishes from a shelf. -/
theorem holds_hold (target text : String) {path : String}
    (here : Storage.holds shelf path = true) :
    Storage.holds (shelf.hold target text) path = true := by
  rw [holds_eq, List.any_eq_true] at here ⊢
  obtain ⟨other, listed, below⟩ := here
  exact ⟨other, subset_put target text shelf.texts listed, below⟩

end Phrasebook.Shelf
