import Phrasebook.Proofs.Outcome
import Phrasebook.Proofs.Storage.Lawful
import Phrasebook.Storage.Disk

/-!
# Disks are lawful

On a disk a path leads to a place by its names alone, as long as there are the directories that it
leads through. A write makes directories where nothing was, and puts a file at one place.
-/

namespace Phrasebook.Disk

/-! ## What is at a place -/

/-- What is at the other places after something was put at one of them: what was there, and the
directories on the way. -/
theorem entryAt?_put_of_ne (disk : Disk) (target : Place) (entry : DiskEntry) {place : Place}
    (differs : place ≠ target) : (disk.put target entry).entryAt? place =
      (disk.entryAt? place).or
        (if (Path.after? place target).isSome then some .directory else none) := by
  have elsewhere : (target == place) = false := by simpa using Ne.symm differs
  have found : (disk.entries.filter (·.1 != target) ++ [(target, entry)]).find?
      (fun e => e.1 == place) = disk.entries.find? (fun e => e.1 == place) := by
    rw [List.find?_append, List.find?_filter]
    have same : (fun e : Place × DiskEntry =>
        decide ((e.1 != target) = true ∧ (e.1 == place) = true)) = fun e => e.1 == place := by
      funext e
      by_cases here : e.1 = place
      · simp [here, differs]
      · simp [here]
    rw [same, List.find?_cons, elsewhere]
    simp
  unfold entryAt?
  by_cases top : place.isEmpty = true
  · simp [top]
  · simp only [top, put, found, Bool.false_eq_true, ↓reduceIte]
    cases disk.entries.find? (fun e => e.1 == place) with
    | some e => rfl
    | none =>
      dsimp only
      by_cases below : (Path.after? place target).isSome = true
      · simp only [List.any_append, List.any_cons, below, Bool.true_or, Bool.or_true, ↓reduceIte]
        split <;> rfl
      · -- What was at the target before was not below the place, either.
        have same : (fun e : Place × DiskEntry => e.1 != target && (Path.after? place e.1).isSome) =
            fun e => (Path.after? place e.1).isSome := by
          funext e
          by_cases here : e.1 = target
          · simp [here, below]
          · simp [here]
        have others : ((disk.entries.filter (·.1 != target) ++ [(target, entry)]).any fun e =>
            (Path.after? place e.1).isSome) =
              disk.entries.any fun e => (Path.after? place e.1).isSome := by
          rw [List.any_append, List.any_filter, same]
          simp [below]
        simp only [others, if_neg below, Option.or_none]

theorem entryAt?_put_self (disk : Disk) {target : Place} (proper : target ≠ [])
    (entry : DiskEntry) : (disk.put target entry).entryAt? target = some entry := by
  have none : (disk.entries.filter (·.1 != target)).find? (fun e => e.1 == target) = none := by
    rw [List.find?_eq_none]
    intro e member
    simpa using (List.mem_filter.mp member).2
  have some : target.isEmpty = false := by simpa using proper
  simp [entryAt?, put, some, List.find?_append, none]

/-- Above a file there are directories, or other files. -/
theorem entryAt?_above (disk : Disk) {place rest : Place} {content : FileContent}
    (below : disk.entryAt? (place ++ rest) = some (.file content)) :
    disk.entryAt? place = some .directory ∨ ∃ other, disk.entryAt? place = some (.file other) := by
  obtain ⟨e, member, here⟩ : ∃ e ∈ disk.entries, e.1 = place ++ rest := by
    unfold entryAt? at below
    split at below
    next => cases below
    next =>
      split at below
      next e found =>
        exact ⟨e, List.mem_of_find?_eq_some found, by simpa using List.find?_some found⟩
      next => split at below <;> cases below
  have inside : (disk.entries.any fun e => (Path.after? place e.1).isSome) = true :=
    List.any_eq_true.mpr ⟨e, member, by rw [here, Path.after?_append]; rfl⟩
  unfold entryAt?
  split
  · exact Or.inl rfl
  · split
    next e found =>
      cases e.2 with
      | directory => exact Or.inl rfl
      | file other => exact Or.inr ⟨other, rfl⟩
    next => exact Or.inl rfl

/-! ## Growing -/

/-- A disk grows: directories stay, files stay what they are but at one place, and no other files
appear. -/
structure Grown (target : Place) (before after : Disk) : Prop where
  workingDirectory_eq : after.workingDirectory = before.workingDirectory
  directories : ∀ place, before.entryAt? place = some .directory →
    after.entryAt? place = some .directory
  files : ∀ place content, before.entryAt? place = some (.file content) →
    ∃ other, after.entryAt? place = some (.file other)
  elsewhere : ∀ place content, place ≠ target →
    (after.entryAt? place = some (.file content) ↔ before.entryAt? place = some (.file content))

namespace Grown

variable {target : Place} {a b c : Disk}

theorem refl (target : Place) (disk : Disk) : Grown target disk disk :=
  ⟨rfl, fun _ same => same, fun _ content same => ⟨content, same⟩, fun _ _ _ => Iff.rfl⟩

theorem trans (first : Grown target a b) (second : Grown target b c) : Grown target a c where
  workingDirectory_eq := second.workingDirectory_eq.trans first.workingDirectory_eq
  directories := fun place held => second.directories place (first.directories place held)
  files := fun place content held => by
    obtain ⟨other, held⟩ := first.files place content held
    exact second.files place other held
  elsewhere := fun place content differs =>
    (second.elsewhere place content differs).trans (first.elsewhere place content differs)

/-- A directory is made where nothing is. -/
theorem put_directory (target : Place) {disk : Disk} {made : Place}
    (nothing : disk.entryAt? made = none) : Grown target disk (disk.put made .directory) := by
  have proper : made ≠ [] := by
    rintro rfl
    cases nothing
  refine ⟨rfl, fun place held => ?_, fun place content held => ?_, fun place content _ => ?_⟩
  · by_cases here : place = made
    · rw [here, entryAt?_put_self disk proper]
    · rw [entryAt?_put_of_ne disk made _ here, held]
      rfl
  · by_cases here : place = made
    · rw [here, nothing] at held
      cases held
    · rw [entryAt?_put_of_ne disk made _ here, held]
      exact ⟨content, rfl⟩
  · by_cases here : place = made
    · rw [here, entryAt?_put_self disk proper, nothing]
      simp
    · rw [entryAt?_put_of_ne disk made _ here]
      cases disk.entryAt? place with
      | some entry => rfl
      | none => split <;> simp

/-- A file is put where no directory is. -/
theorem put_file {disk : Disk} {target : Place}
    (free : disk.entryAt? target ≠ some .directory) (content : FileContent) :
    Grown target disk (disk.put target (.file content)) := by
  have proper : target ≠ [] := by
    rintro rfl
    exact free rfl
  refine ⟨rfl, fun place held => ?_, fun place other held => ?_, fun place other differs => ?_⟩
  · have differs : place ≠ target := by
      rintro rfl
      exact free held
    rw [entryAt?_put_of_ne disk target _ differs, held]
    rfl
  · by_cases here : place = target
    · exact ⟨content, by rw [here, entryAt?_put_self disk proper]⟩
    · rw [entryAt?_put_of_ne disk target _ here, held]
      exact ⟨other, rfl⟩
  · rw [entryAt?_put_of_ne disk target _ differs]
    cases disk.entryAt? place with
    | some entry => rfl
    | none => split <;> simp

theorem of_makeAlong (target : Place) {disk made : Disk} {place : Place} {parts : List (List Char)}
    (returned : disk.makeAlong place parts = .ok made) : Grown target disk made := by
  fun_induction Disk.makeAlong disk place parts with
  | case1 => cases returned; exact refl target made
  | case2 disk place part rest here ih => exact ih returned
  | case3 disk place part rest proper back ih => exact ih returned
  | case4 disk place part rest proper forth next found ih => exact ih returned
  | case5 disk place part rest proper forth next content found => cases returned
  | case6 disk place part rest proper forth next nothing ih =>
    exact (put_directory target nothing).trans (ih returned)

end Grown

/-! ## Paths -/

/-- Where components lead from a place on, if there are the directories. -/
def lead : Place → List (List Char) → Place
  | place, [] => place
  | place, part :: rest =>
    if part == ['.'] then lead place rest
    else if part == ['.', '.'] then lead place.dropLast rest
    else lead (place ++ [part]) rest

/-- The place that a path leads to. -/
def place (disk : Disk) (path : String) : Place :=
  lead (disk.departure path).1 (disk.departure path).2

theorem follow_eq_ok {disk : Disk} {start found : Place} {parts : List (List Char)}
    (followed : disk.follow start parts = .ok found) : found = lead start parts := by
  fun_induction follow disk start parts with
  | case1 => cases followed; rfl
  | case2 | case3 => cases followed
  | case4 start part rest here point ih => rw [lead, if_pos point, ih followed]
  | case5 start part rest here proper back ih =>
    rw [lead, if_neg proper, if_pos back, ih followed]
  | case6 start part rest here proper forth ih =>
    rw [lead, if_neg proper, if_neg forth, ih followed]

/-- Components that do not lead back lead to somewhere below. -/
theorem exists_lead (start : Place) {parts : List (List Char)} (direct : ['.', '.'] ∉ parts) :
    ∃ rest, lead start parts = start ++ rest := by
  induction parts generalizing start with
  | nil => exact ⟨[], (List.append_nil start).symm⟩
  | cons part parts ih =>
    obtain ⟨first, others⟩ := not_or.mp (mt List.mem_cons.mpr direct)
    rw [lead]
    split
    · exact ih start others
    · split
      next back => exact absurd (eq_of_beq back).symm first
      next =>
        obtain ⟨rest, below⟩ := ih (start ++ [part]) others
        exact ⟨part :: rest, by rw [below, List.append_assoc, List.singleton_append]⟩

/-- A place ends with the last component, if that is a name. -/
theorem getLast?_lead (start : Place) {parts : List (List Char)} {name : List Char}
    (last : parts.getLast? = some name) (proper : name ≠ ['.']) (forth : name ≠ ['.', '.']) :
    (lead start parts).getLast? = some name := by
  obtain ⟨init, rfl⟩ := List.getLast?_eq_some_iff.mp last
  clear last
  induction init generalizing start with
  | nil => simp [lead, proper, forth]
  | cons part init ih =>
    rw [List.cons_append, lead]
    split
    · exact ih start
    · split
      · exact ih start.dropLast
      · exact ih (start ++ [part])

namespace Grown

variable {target : Place} {before after : Disk} (grown : Grown target before after)

include grown

theorem place_eq (path : String) : after.place path = before.place path := by
  rw [place, place, departure, departure, grown.workingDirectory_eq]

theorem departure_eq (path : String) : after.departure path = before.departure path := by
  rw [departure, departure, grown.workingDirectory_eq]

theorem follow {start found : Place} {parts : List (List Char)}
    (followed : before.follow start parts = .ok found) :
    after.follow start parts = .ok found := by
  fun_induction Disk.follow before start parts with
  | case1 => cases followed; rfl
  | case2 | case3 => cases followed
  | case4 start part rest here point ih =>
    rw [Disk.follow, grown.directories start here]
    simp only [point, ↓reduceIte]
    exact ih followed
  | case5 start part rest here proper back ih =>
    rw [Disk.follow, grown.directories start here]
    simp only [proper, back, ↓reduceIte, Bool.false_eq_true]
    exact ih followed
  | case6 start part rest here proper forth ih =>
    rw [Disk.follow, grown.directories start here]
    simp only [proper, forth, ↓reduceIte, Bool.false_eq_true]
    exact ih followed

/-- A direct way to a file that was there before led to it before. -/
theorem follow_back {start found : Place} {parts : List (List Char)}
    (direct : ['.', '.'] ∉ parts) {content : FileContent}
    (file : before.entryAt? found = some (.file content))
    (followed : after.follow start parts = .ok found) :
    before.follow start parts = .ok found := by
  have leads := follow_eq_ok followed
  induction parts generalizing start with
  | nil => exact followed
  | cons part parts ih =>
    obtain ⟨rest, below⟩ := exists_lead start direct
    obtain ⟨first, others⟩ := not_or.mp (mt List.mem_cons.mpr direct)
    have forth : ¬ (part == ['.', '.']) = true := fun back => first (eq_of_beq back).symm
    rw [Disk.follow] at followed
    split at followed
    next => cases followed
    next => cases followed
    next there =>
      have here : before.entryAt? start = some .directory := by
        rw [leads, below] at file
        rcases before.entryAt?_above file with directory | ⟨other, held⟩
        · exact directory
        · obtain ⟨later, held⟩ := grown.files start other held
          rw [there] at held
          cases held
      rw [Disk.follow, here]
      rw [lead] at leads
      simp only [forth, Bool.false_eq_true, ↓reduceIte] at followed leads ⊢
      split at followed
      next point =>
        rw [if_pos point] at leads ⊢
        exact ih others followed leads
      next proper =>
        rw [if_neg proper] at leads ⊢
        exact ih others followed leads

end Grown

/-! ## Reading and writing -/

theorem text_eq_ok_iff (disk : Disk) (path text : String) : disk.text path = .ok text ↔
    ∃ found, disk.resolve path = .ok found ∧ disk.entryAt? found = some (.file (.text text)) := by
  unfold Disk.text content
  cases disk.resolve path with
  | error cause => simp [bind, Except.bind]
  | ok found =>
    simp only [ok_bind, Except.ok.injEq, exists_eq_left']
    cases disk.entryAt? found with
    | none => simp [bind, Except.bind]
    | some entry =>
      cases entry with
      | directory => simp [bind, Except.bind]
      | file c => cases c <;> simp [bind, Except.bind]

theorem read_eq_ok_iff (disk : Disk) (path text : String) :
    Storage.read disk path = .ok text ↔ disk.text path = .ok text := by
  show (disk.text path).mapError _ = _ ↔ _
  cases disk.text path <;> simp [Except.mapError]

/-- Files elsewhere can be read as before while a disk grows. -/
theorem undisturbed_of_grown {target : Place} {before after : Disk}
    (grown : Grown target before after) (path : String) (apart : before.place path ≠ target) :
    Undisturbed path before after := by
  constructor
  · intro text held
    rw [read_eq_ok_iff, text_eq_ok_iff] at held ⊢
    obtain ⟨found, resolved, file⟩ := held
    have leads : found = before.place path := follow_eq_ok resolved
    refine ⟨found, ?_, (grown.elsewhere found _ (leads ▸ apart)).mpr file⟩
    unfold resolve at resolved ⊢
    rw [grown.departure_eq]
    exact grown.follow resolved
  · intro direct text held
    rw [read_eq_ok_iff, text_eq_ok_iff] at held ⊢
    obtain ⟨found, resolved, file⟩ := held
    have leads : found = after.place path := follow_eq_ok resolved
    rw [grown.place_eq] at leads
    have file := (grown.elsewhere found _ (leads ▸ apart)).mp file
    refine ⟨found, ?_, file⟩
    unfold resolve at resolved ⊢
    rw [grown.departure_eq] at resolved
    have proper : ['.', '.'] ∉ (before.departure path).2 := by
      unfold departure
      split
      next rest split => exact fun member => direct (split ▸ List.mem_cons_of_mem _ member)
      next => exact direct
    exact grown.follow_back proper file resolved

/-- A file that was written is at the place of its path, and can be read. -/
theorem overwrite_eq_ok {disk made : Disk} {path : String} {content : FileContent}
    (returned : disk.overwrite path content = .ok made) :
    Grown (disk.place path) disk made ∧ made.resolve path = .ok (disk.place path) ∧
      made.entryAt? (disk.place path) = some (.file content) := by
  unfold overwrite at returned
  obtain ⟨found, resolved, rest⟩ := bind_eq_ok_iff.mp returned
  have leads : found = disk.place path := follow_eq_ok resolved
  have put : disk.entryAt? found ≠ some .directory ∧ made = disk.put found (.file content) := by
    split at rest
    next => cases rest
    next c held =>
      cases rest
      exact ⟨by rw [held]; nofun, rfl⟩
    next none =>
      split at rest
      next => cases rest; exact ⟨by rw [none]; nofun, rfl⟩
      next => cases rest
      next => cases rest
  obtain ⟨free, rfl⟩ := put
  have grown := Grown.put_file free content
  rw [← leads]
  refine ⟨grown, ?_, entryAt?_put_self disk (fun top => free (by rw [top]; rfl)) _⟩
  unfold resolve at resolved ⊢
  rw [grown.departure_eq]
  exact grown.follow resolved

/-- What became of a disk that a file was written to: with its directories made, the file is there,
or nothing else happened. -/
theorem replace_cases (disk : Disk) (path : String) (content : FileContent) :
    (∃ e, (disk.replace path content).1 = .error e ∧
      ∀ target, Grown target disk (disk.replace path content).2) ∨
    (disk.replace path content).1 = .ok () ∧
      Grown (disk.place path) disk (disk.replace path content).2 ∧
      (disk.replace path content).2.resolve path = .ok (disk.place path) ∧
      (disk.replace path content).2.entryAt? (disk.place path) = some (.file content) := by
  unfold replace
  split
  next cause failed => exact Or.inl ⟨_, rfl, fun target => .refl target disk⟩
  next made returned =>
    have grown (target : Place) : Grown target disk made := Grown.of_makeAlong target returned
    split
    next cause failed => exact Or.inl ⟨_, rfl, grown⟩
    next written returned =>
      obtain ⟨put, resolved, file⟩ := overwrite_eq_ok returned
      rw [(grown []).place_eq] at put resolved file
      exact Or.inr ⟨rfl, (grown _).trans put, resolved, file⟩

theorem grown_copy (disk : Disk) (source target : String) :
    Grown (disk.place target) disk (disk.copy source target).2 := by
  unfold copy
  split
  next => exact .refl _ disk
  next made returned =>
    have grown (target : Place) : Grown target disk made := Grown.of_makeAlong target returned
    split
    next => exact grown _
    next written returned =>
      obtain ⟨content, -, returned⟩ := bind_eq_ok_iff.mp returned
      obtain ⟨put, -⟩ := overwrite_eq_ok returned
      rw [(grown []).place_eq] at put
      exact (grown _).trans put

theorem grown_replace (disk : Disk) (path : String) (content : FileContent) :
    Grown (disk.place path) disk (disk.replace path content).2 := by
  rcases disk.replace_cases path content with ⟨-, -, grown⟩ | ⟨-, grown, -⟩
  · exact grown _
  · exact grown

theorem getLast?_place (disk : Disk) (path : String) (name : List Char)
    (named : Path.fileName? path = some name) : (disk.place path).getLast? = some name := by
  obtain ⟨last, back, here, top⟩ := (Path.fileName?_eq_some_iff path name).mp named
  refine getLast?_lead _ ?_ here back
  unfold departure
  split
  next rest split =>
    rw [split, List.getLast?_cons] at last
    cases behind : rest.getLast? with
    | none =>
      rw [behind] at last
      exact absurd (Option.some.inj last).symm top
    | some other =>
      rw [behind] at last
      exact last
  next => exact last

theorem undisturbed_of_error (disk : Disk) (path text : String) (e : StorageError)
    (failed : (disk.replace path (.text text)).1 = .error e) :
    Undisturbed path disk (disk.replace path (.text text)).2 := by
  rcases disk.replace_cases path (.text text) with ⟨-, -, grown⟩ | ⟨written, -⟩
  · -- No file was put anywhere, so not at the path's own place either.
    refine undisturbed_of_grown (grown (disk.place path ++ [[]])) path fun same => ?_
    have longer := congrArg List.length same
    rw [List.length_append, List.length_singleton] at longer
    omega
  · rw [written] at failed
    cases failed

theorem read_of_write (disk : Disk) (path text : String)
    (written : (disk.replace path (.text text)).1 = .ok ()) :
    Storage.read (disk.replace path (.text text)).2 path = .ok text := by
  rcases disk.replace_cases path (.text text) with ⟨e, failed, -⟩ | ⟨-, -, resolved, file⟩
  · rw [failed] at written
    cases written
  · rw [read_eq_ok_iff, text_eq_ok_iff]
    exact ⟨_, resolved, file⟩

theorem holds_of_read (disk : Disk) (path text : String)
    (held : Storage.read disk path = .ok text) : disk.holds path = true := by
  rw [read_eq_ok_iff, text_eq_ok_iff] at held
  obtain ⟨found, resolved, file⟩ := held
  rw [holds, find?, resolved]
  dsimp only
  rw [file]
  rfl

instance : LawfulStorage Disk where
  place := place
  place_write disk target text path := (disk.grown_replace target (.text text)).place_eq path
  place_copy disk source target path := (disk.grown_copy source target).place_eq path
  place_of_fileName? := getLast?_place
  undisturbed_write disk target text path apart :=
    undisturbed_of_grown (disk.grown_replace target (.text text)) path apart
  undisturbed_copy disk source target path apart :=
    undisturbed_of_grown (disk.grown_copy source target) path apart
  undisturbed_of_error := undisturbed_of_error
  read_of_write := read_of_write
  holds_of_read := holds_of_read

end Phrasebook.Disk
