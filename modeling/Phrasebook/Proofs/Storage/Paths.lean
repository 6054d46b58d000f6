import Phrasebook.Proofs.Text.Parts
import Phrasebook.Storage.Backups

/-!
# Paths that are joined

A path inside a directory has the directory's components in front of its own. A copy that is put
aside has the names of its file, inside the directory of the backups.
-/

namespace Phrasebook.Path

/-- A component that is neither a slash nor a point. -/
def IsName (part : List Char) : Prop := part ≠ [] ∧ '/' ∉ part ∧ part ≠ ['.']

instance (part : List Char) : Decidable (IsName part) :=
  inferInstanceAs (Decidable (part ≠ [] ∧ '/' ∉ part ∧ part ≠ ['.']))

/-- What follows a directory's components. -/
theorem after?_eq_some_iff (directory path rest : List (List Char)) :
    after? directory path = some rest ↔ path = directory ++ rest := by
  induction directory generalizing path with
  | nil => simp [after?]
  | cons part directory ih =>
    cases path with
    | nil => simp [after?]
    | cons first path =>
      rw [after?]
      by_cases same : part = first
      · simp [same, ih]
      · simp [same, Ne.symm same]

/-- The parts that count behind the first one. -/
def kept (parts : List (List Char)) : List (List Char) :=
  parts.filter fun part => !part.isEmpty && part != ['.']

/-- What counts as a component among the parts between slashes. -/
def ofParts (parts : List (List Char)) : List (List Char) :=
  match parts with
  | [] :: _ :: _ => ['/'] :: kept parts
  | ['.'] :: rest => ['.'] :: kept rest
  | _ => kept parts

theorem components_eq (path : List Char) :
    components path = ofParts (Text.splitBy (· == '/') path) := rfl

@[simp] theorem kept_append (front back : List (List Char)) :
    kept (front ++ back) = kept front ++ kept back := List.filter_append ..

theorem kept_of_names {names : List (List Char)} (proper : ∀ name ∈ names, IsName name) :
    kept names = names := by
  apply List.filter_eq_self.mpr
  intro name member
  obtain ⟨some, -, other⟩ := proper name member
  simp [some, other]

theorem ofParts_cons {first : List Char} (some : first ≠ []) (other : first ≠ ['.'])
    (rest : List (List Char)) : ofParts (first :: rest) = first :: kept rest := by
  unfold ofParts
  split
  next same => exact absurd (List.cons.inj same).1 some
  next same => exact absurd (List.cons.inj same).1 other
  next => simp [kept, some, other]

/-- Only the first part is told apart from the others. -/
theorem ofParts_append {front : List (List Char)} (some : front ≠ []) (more : front ≠ [[]])
    (back : List (List Char)) : ofParts (front ++ back) = ofParts front ++ kept back := by
  obtain ⟨first, rest, rfl⟩ := List.exists_cons_of_ne_nil some
  by_cases empty : first = []
  · -- An empty part in front is a slash if anything stands behind it.
    subst empty
    cases rest with
    | nil => exact absurd rfl more
    | cons second rest => exact congrArg (['/'] :: ·) (kept_append ([] :: second :: rest) back)
  · by_cases point : first = ['.']
    · simp [ofParts, point]
    · rw [List.cons_append, ofParts_cons empty point, ofParts_cons empty point, kept_append,
        List.cons_append]

theorem ofParts_ne_nil {parts : List (List Char)} (some : parts ≠ []) (more : parts ≠ [[]]) :
    ofParts parts ≠ [] := by
  obtain ⟨first, rest, rfl⟩ := List.exists_cons_of_ne_nil some
  by_cases empty : first = []
  · subst empty
    cases rest with
    | nil => exact absurd rfl more
    | cons second rest => exact List.cons_ne_nil _ _
  · by_cases point : first = ['.']
    · subst point
      exact List.cons_ne_nil _ _
    · rw [ofParts_cons empty point]
      exact List.cons_ne_nil _ _

theorem splitBy_intercalate {names : List (List Char)} (some : names ≠ [])
    (proper : ∀ name ∈ names, IsName name) :
    Text.splitBy (· == '/') (['/'].intercalate names) = names := by
  induction names with
  | nil => exact absurd rfl some
  | cons name names ih =>
    obtain ⟨⟨-, whole, -⟩, others⟩ := List.forall_mem_cons.mp proper
    have single : ∀ c ∈ name, (c == '/') = false := by
      intro c member
      exact beq_eq_false_iff_ne.mpr fun same => whole (same ▸ member)
    cases names with
    | nil => rw [List.intercalate_singleton, Text.splitBy_of_forall single]
    | cons next names =>
      rw [List.intercalate_cons_cons, List.append_assoc, List.singleton_append,
        Text.splitBy_append_cons (by rfl), Text.splitBy_of_forall single,
        ih (List.cons_ne_nil _ _) others, List.singleton_append]

theorem splitBy_ne_single {path : List Char} (some : path ≠ []) :
    Text.splitBy (· == '/') path ≠ [[]] := by
  intro single
  have whole := Text.intercalate_splitBy (· == '/') '/' path fun _ _ same => eq_of_beq same
  rw [single, List.intercalate_singleton] at whole
  exact some whole.symm

theorem components_ne_nil {path : List Char} (some : path ≠ []) : components path ≠ [] :=
  ofParts_ne_nil (Text.splitBy_ne_nil _ _) (splitBy_ne_single some)

/-- A text that is joined to a directory by a slash. -/
theorem components_append_slash (directory path : List Char) (some : directory ≠ []) :
    components (directory ++ '/' :: path) =
      components directory ++ kept (Text.splitBy (· == '/') path) := by
  rw [components_eq, components_eq, Text.splitBy_append_cons (by rfl),
    ofParts_append (Text.splitBy_ne_nil _ _) (splitBy_ne_single some)]

theorem components_slash_append (directory path : List Char) :
    components (directory ++ '/' :: path) =
      components (directory ++ ['/']) ++ kept (Text.splitBy (· == '/') path) := by
  cases directory with
  | nil =>
    obtain ⟨first, rest, split⟩ :=
      List.exists_cons_of_ne_nil (Text.splitBy_ne_nil (· == '/') path)
    simp [components_eq, Text.splitBy, split, ofParts, kept]
  | cons c directory =>
    have some : c :: directory ≠ [] := List.cons_ne_nil _ _
    rw [components_append_slash _ path some, components_append_slash _ [] some]
    simp [Text.splitBy, kept]

@[simp] theorem join_empty (path : String) : join "" path = path := by
  unfold join
  split
  · rfl
  · rw [if_pos (by rfl), String.empty_append]

theorem startsWith_ofComponents {names : List (List Char)} (some : names ≠ [])
    (proper : ∀ name ∈ names, IsName name) : (ofComponents names).startsWith "/" = false := by
  obtain ⟨first, rest, rfl⟩ := List.exists_cons_of_ne_nil some
  obtain ⟨nonempty, whole, -⟩ := proper first List.mem_cons_self
  obtain ⟨c, name, rfl⟩ := List.exists_cons_of_ne_nil nonempty
  rw [String.startsWith_string_eq_false_iff, ofComponents, String.toList_ofList]
  rintro ⟨behind, same⟩
  have first : c = '/' := by
    cases rest <;> simp_all
  exact whole (first ▸ List.mem_cons_self)

theorem components_of_names {names : List (List Char)} (some : names ≠ [])
    (proper : ∀ name ∈ names, IsName name) : components (ofComponents names).toList = names := by
  have split := splitBy_intercalate some proper
  obtain ⟨first, rest, rfl⟩ := List.exists_cons_of_ne_nil some
  obtain ⟨⟨nonempty, -, other⟩, others⟩ := List.forall_mem_cons.mp proper
  rw [components_eq, ofComponents, String.toList_ofList, split, ofParts_cons nonempty other,
    kept_of_names others]

/-- What is joined to a directory follows the components of the directory, however that is
spelled. -/
theorem components_join_of_relative {directory path : String} (some : directory ≠ "")
    (relative : path.startsWith "/" = false) :
    components (join directory path).toList =
      components directory.toList ++ kept (Text.splitBy (· == '/') path.toList) := by
  have nonempty : directory.toList ≠ [] := fun none => some (String.toList_inj.mp none)
  rw [join, relative, if_neg Bool.false_ne_true]
  split
  next slash =>
    have slash : directory.endsWith "/" = true := by
      simpa [String.isEmpty_iff, some] using slash
    rw [String.endsWith_eq_endsWith_toSlice, String.Slice.endsWith_string_iff] at slash
    obtain ⟨front, same⟩ := slash
    rw [String.copy_toSlice] at same
    have same : front ++ ['/'] = directory.toList := same
    rw [String.toList_append, ← same, List.append_assoc, List.singleton_append,
      components_slash_append]
  next =>
    have slash : "/".toList = ['/'] := by rfl
    rw [String.toList_append, String.toList_append, slash, List.append_assoc,
      List.singleton_append, components_append_slash _ _ nonempty]

/-- Names stay apart when they are joined, and follow the components of a directory. -/
theorem components_join (directory : String) {names : List (List Char)} (some : names ≠ [])
    (proper : ∀ name ∈ names, IsName name) :
    components (join directory (ofComponents names)).toList =
      components directory.toList ++ names := by
  by_cases empty : directory = ""
  · rw [empty, join_empty]
    exact components_of_names some proper
  · have text : (ofComponents names).toList = ['/'].intercalate names := String.toList_ofList
    rw [components_join_of_relative empty (startsWith_ofComponents some proper), text,
      splitBy_intercalate some proper, kept_of_names proper]

/-! ## What components are -/

theorem isName_of_mem_kept {path name : List Char}
    (member : name ∈ kept (Text.splitBy (· == '/') path)) : IsName name := by
  obtain ⟨inside, passes⟩ := List.mem_filter.mp member
  simp only [Bool.and_eq_true, Bool.not_eq_true', List.isEmpty_eq_false_iff, bne_iff_ne] at passes
  refine ⟨passes.1, fun slash => ?_, passes.2⟩
  have plain := Text.forall_mem_splitBy _ path name inside '/' slash
  cases plain

/-- Only the first component need not be a name. -/
theorem components_cases (path : List Char) : ∃ names, (∀ name ∈ names, IsName name) ∧
    (components path = names ∨ components path = ['/'] :: names ∨
      components path = ['.'] :: names) := by
  have proper : ∀ name ∈ kept (Text.splitBy (· == '/') path), IsName name :=
    fun _ => isName_of_mem_kept
  rw [components_eq]
  unfold ofParts
  split
  next => exact ⟨_, proper, Or.inr (Or.inl rfl)⟩
  next rest split =>
    rw [split] at proper
    refine ⟨kept rest, fun name member => proper name ?_, Or.inr (Or.inr rfl)⟩
    exact List.mem_filter.mpr ⟨List.mem_cons_of_mem _ (List.mem_filter.mp member).1,
      (List.mem_filter.mp member).2⟩
  next => exact ⟨_, proper, Or.inl rfl⟩

/-- What lies inside a directory has names below it. -/
theorem isName_of_append {path directory names : List (List Char)} {text : List Char}
    (here : components text = path) (below : path = directory ++ names) (some : directory ≠ []) :
    ∀ name ∈ names, IsName name := by
  obtain ⟨part, directory, rfl⟩ := List.exists_cons_of_ne_nil some
  obtain ⟨parts, proper, same⟩ := components_cases text
  rw [below, List.cons_append] at here
  intro name member
  have inside : name ∈ directory ++ names := List.mem_append_right _ member
  rcases same with same | same | same <;> rw [here] at same
  · exact proper name (same ▸ List.mem_cons_of_mem part inside)
  · exact proper name ((List.cons.inj same).2 ▸ inside)
  · exact proper name ((List.cons.inj same).2 ▸ inside)

/-- The components of a path are those of the path that they make up. -/
theorem components_ofComponents (path : List Char) :
    components (ofComponents (components path)).toList = components path := by
  obtain ⟨names, proper, same⟩ := components_cases path
  by_cases none : names = []
  · subst none
    rcases same with same | same | same <;> rw [same] <;> rfl
  · obtain ⟨first, rest, more⟩ := List.exists_cons_of_ne_nil none
    have joined (part : List Char) : (ofComponents (part :: names)).toList =
        part ++ '/' :: ['/'].intercalate names := by
      rw [ofComponents, String.toList_ofList, more, List.intercalate_cons_cons, List.append_assoc,
        List.singleton_append]
    have split := splitBy_intercalate none proper
    rcases same with same | same | same <;> rw [same]
    · exact components_of_names none proper
    · have split : Text.splitBy (· == '/') ('/' :: ['/'].intercalate names) = [] :: names := by
        rw [Text.splitBy, split]
        rfl
      rw [joined, List.singleton_append, ← List.nil_append ('/' :: _), components_slash_append,
        split]
      exact congrArg (['/'] :: ·) (kept_of_names proper)
    · rw [joined, components_append_slash _ _ (List.cons_ne_nil _ _), split, kept_of_names proper]
      rfl

/-- Names with an ending behind the last one. -/
def extend (names : List (List Char)) (ending : List Char) : List (List Char) :=
  names.dropLast ++ [names.getLast?.getD [] ++ ending]

theorem intercalate_concat (mark : List Char) (init : List (List Char)) (last ending : List Char) :
    mark.intercalate (init ++ [last ++ ending]) = mark.intercalate (init ++ [last]) ++ ending := by
  induction init with
  | nil => simp
  | cons first init ih =>
    obtain ⟨next, rest, split⟩ := List.exists_cons_of_ne_nil
      (List.append_ne_nil_of_right_ne_nil init (List.cons_ne_nil last []))
    obtain ⟨next', rest', split'⟩ := List.exists_cons_of_ne_nil
      (List.append_ne_nil_of_right_ne_nil init (List.cons_ne_nil (last ++ ending) []))
    rw [List.cons_append, List.cons_append, split, split', List.intercalate_cons_cons,
      List.intercalate_cons_cons, ← split, ← split', ih]
    simp only [List.append_assoc]

theorem ofComponents_extend (names : List (List Char)) (ending : List Char) :
    ofComponents (extend names ending) = ofComponents names ++ String.ofList ending := by
  rw [ofComponents, ofComponents, ← String.ofList_append]
  congr 1
  cases here : names.getLast? with
  | none =>
    rw [List.getLast?_eq_none_iff] at here
    simp [extend, here]
  | some last =>
    obtain ⟨init, rfl⟩ := List.getLast?_eq_some_iff.mp here
    rw [extend, here, List.dropLast_concat, Option.getD_some, intercalate_concat]

theorem isName_extend {names : List (List Char)} {ending : List Char}
    (proper : ∀ name ∈ names, IsName name ∧ name ≠ ['.', '.']) (plain : '/' ∉ ending)
    (long : 2 < ending.length) :
    ∀ name ∈ extend names ending, IsName name ∧ name ≠ ['.', '.'] := by
  intro name member
  rcases List.mem_append.mp member with init | last
  · exact proper name (List.dropLast_subset _ init)
  · rw [List.mem_singleton.mp last]
    have size : 2 < (names.getLast?.getD [] ++ ending).length := by
      rw [List.length_append]
      omega
    have whole : '/' ∉ names.getLast?.getD [] ++ ending := by
      intro slash
      rcases List.mem_append.mp slash with front | back
      · cases here : names.getLast? with
        | none =>
          rw [here] at front
          cases front
        | some last =>
          rw [here] at front
          exact (proper last (List.mem_of_getLast? here)).1.2.1 front
      · exact plain back
    -- A name is told from points by its length.
    refine ⟨⟨?_, whole, ?_⟩, ?_⟩ <;> intro short <;> rw [short] at size <;> simp at size

end Phrasebook.Path

namespace Phrasebook.Backups

/-- The names of a file that its copy keeps. -/
def kept (b : Backups) (path : String) : List (List Char) :=
  ((Path.below? b.projectRoot path).getD (Path.components path.toList)).filter isName

/-- What stands behind the last one. -/
def ending (b : Backups) : List Char := ("." ++ b.stamp ++ ".bak").toList

theorem place_eq (b : Backups) (path : String) :
    b.place path = Path.join b.directory (Path.ofComponents (Path.extend (b.kept path) b.ending)) := by
  rw [Path.ofComponents_extend, ending, String.ofList_toList, place]
  simp only [String.append_assoc]
  rfl

theorem isName_kept (b : Backups) (path : String) :
    ∀ name ∈ b.kept path, Path.IsName name ∧ name ≠ ['.', '.'] := by
  intro name member
  obtain ⟨inside, passes⟩ := List.mem_filter.mp member
  simp only [isName, Bool.and_eq_true, bne_iff_ne] at passes
  obtain ⟨⟨slash, here⟩, back⟩ := passes
  have component : name ∈ Path.components path.toList := by
    cases below : Path.below? b.projectRoot path with
    | none =>
      rw [below] at inside
      exact inside
    | some rest =>
      rw [below] at inside
      rw [(Path.after?_eq_some_iff _ _ _).mp below]
      exact List.mem_append_right _ inside
  obtain ⟨names, proper, same⟩ := Path.components_cases path.toList
  refine ⟨?_, back⟩
  rcases same with same | same | same <;> rw [same] at component
  · exact proper name component
  · exact proper name ((List.mem_cons.mp component).resolve_left slash)
  · exact proper name ((List.mem_cons.mp component).resolve_left here)

theorem isName_extend (b : Backups) (plain : '/' ∉ b.stamp.toList) (path : String) :
    ∀ name ∈ Path.extend (b.kept path) b.ending, Path.IsName name ∧ name ≠ ['.', '.'] := by
  have bak : ".bak".toList = ['.', 'b', 'a', 'k'] := by rfl
  have point : ".".toList = ['.'] := by rfl
  apply Path.isName_extend (b.isName_kept path)
  · simp [ending, String.toList_append, bak, point, plain]
  · simp only [ending, String.toList_append, bak, point, List.length_append, List.length_cons,
      List.length_nil]
    omega

end Phrasebook.Backups
