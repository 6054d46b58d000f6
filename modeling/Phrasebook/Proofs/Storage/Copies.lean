import Phrasebook.Proofs.Storage.Paths

/-!
# Copies of documents

Whatever the stamp of a run is, slashes included, copies of different documents of one directory are
put aside under different paths: a copy keeps the names of its document and has the same ending as
all the others.
-/

namespace Phrasebook

/-! ## Paths with an ending -/

namespace Text

theorem splitBy_append_of_forall {test : Char → Bool} {front : List Char}
    (whole : ∀ c ∈ front, test c = false) {back first : List Char} {more : List (List Char)}
    (split : splitBy test back = first :: more) :
    splitBy test (front ++ back) = (front ++ first) :: more := by
  induction front with
  | nil => exact split
  | cons c front ih =>
    rw [List.forall_mem_cons] at whole
    rw [List.cons_append, splitBy, ih whole.2]
    simp [whole.1]

end Text

namespace Path

theorem isName_not_slash {name : List Char} (proper : IsName name) :
    ∀ c ∈ name, (c == '/') = false :=
  fun _ member => beq_eq_false_iff_ne.mpr fun same => proper.2.1 (same ▸ member)

/-- An ending goes on from the last name. -/
theorem splitBy_intercalate_append {init : List (List Char)} {last ending mark : List Char}
    {tail : List (List Char)} (proper : ∀ name ∈ init ++ [last], IsName name)
    (split : Text.splitBy (· == '/') ending = mark :: tail) :
    Text.splitBy (· == '/') (['/'].intercalate (init ++ [last]) ++ ending) =
      init ++ (last ++ mark) :: tail := by
  induction init with
  | nil =>
    have whole := isName_not_slash (proper last (List.mem_singleton_self last))
    rw [List.nil_append, List.intercalate_singleton, List.nil_append]
    exact Text.splitBy_append_of_forall whole split
  | cons name init ih =>
    rw [List.cons_append, List.forall_mem_cons] at proper
    obtain ⟨next, rest, more⟩ := List.exists_cons_of_ne_nil
      (List.append_ne_nil_of_right_ne_nil init (List.cons_ne_nil last []))
    rw [List.cons_append, more, List.intercalate_cons_cons, ← more, List.append_assoc,
      List.append_assoc, List.singleton_append, Text.splitBy_append_cons (by rfl),
      Text.splitBy_of_forall (isName_not_slash proper.1), ih proper.2, List.singleton_append,
      List.cons_append]

/-- What follows a directory does not depend on how the directory is spelled. Only a point in front
is told apart from other parts. -/
theorem exists_components_join (directory : String) :
    ∃ (front : List (List Char)) (head : List Char → List (List Char)),
      (∀ part, part ≠ [] → part ≠ ['.'] → head part = [part]) ∧
      (∀ part, ∀ name ∈ head part, name = part) ∧
      ∀ (path : String) (first : List Char) (rest : List (List Char)),
        Text.splitBy (· == '/') path.toList = first :: rest → first ≠ [] →
          components (join directory path).toList = front ++ (head first ++ kept rest) := by
  have relative {path : String} {first : List Char} {rest : List (List Char)}
      (split : Text.splitBy (· == '/') path.toList = first :: rest) (some : first ≠ []) :
      path.startsWith "/" = false := by
    rw [String.startsWith_string_eq_false_iff]
    rintro ⟨behind, same⟩
    have same : '/' :: behind = path.toList := same
    rw [← same, Text.splitBy] at split
    exact some (List.cons.inj split).1.symm
  have single (part name : List Char) (member : name ∈ kept [part]) : name = part :=
    List.mem_singleton.mp (List.mem_filter.mp member).1
  have whole (part : List Char) (some : part ≠ []) (other : part ≠ ['.']) : kept [part] = [part] := by
    simp [kept, some, other]
  by_cases empty : directory = ""
  · refine ⟨[], fun part => [part], fun _ _ _ => rfl, fun part name => List.mem_singleton.mp,
      fun path first rest split some => ?_⟩
    rw [empty, join_empty, components_eq, split, List.nil_append, List.singleton_append]
    by_cases point : first = ['.']
    · subst point
      rfl
    · exact ofParts_cons some point rest
  · refine ⟨components directory.toList, fun part => kept [part], whole, single,
      fun path first rest split some => ?_⟩
    rw [components_join_of_relative empty (relative split some), split, ← kept_append,
      List.singleton_append]

end Path

/-! ## Copies -/

namespace Backups

/-- A copy has the names of its file between what stands in front of all copies and what stands
behind all of them. -/
theorem exists_components_place (b : Backups) :
    ∃ (front tail bare : List (List Char)) (mark : List Char), (∀ name ∈ bare, name = mark) ∧
      (∀ path, b.kept path = [] →
        Path.components (b.place path).toList = front ++ (bare ++ tail)) ∧
      ∀ path init last, b.kept path = init ++ [last] →
        Path.components (b.place path).toList = front ++ (init ++ [last ++ mark] ++ tail) := by
  obtain ⟨front, head, whole, same, joined⟩ := Path.exists_components_join b.directory
  obtain ⟨mark, tail, split⟩ :=
    List.exists_cons_of_ne_nil (Text.splitBy_ne_nil (· == '/') b.ending)
  have point : mark ≠ [] := by
    rintro rfl
    have starts : b.ending = '.' :: (b.stamp ++ ".bak").toList := by
      rw [ending, String.toList_append, String.toList_append, String.toList_append]
      rfl
    rw [starts, Text.splitBy] at split
    obtain ⟨first, more, parts⟩ := List.exists_cons_of_ne_nil
      (Text.splitBy_ne_nil (· == '/') (b.stamp ++ ".bak").toList)
    rw [parts] at split
    exact absurd (List.cons.inj split).1 (by simp)
  have text (path : String) :
      b.place path = Path.join b.directory (Path.ofComponents (b.kept path) ++
        String.ofList b.ending) := by
    rw [place_eq, Path.ofComponents_extend]
  refine ⟨front, Path.kept tail, head mark, mark, same mark, fun path none => ?_,
    fun path init last names => ?_⟩
  · rw [text, none]
    refine joined _ _ _ ?_ point
    simpa [Path.ofComponents] using split
  · have proper : ∀ name ∈ init ++ [last], Path.IsName name :=
      fun name member => (b.isName_kept path name (names ▸ member)).1
    have parts := Path.splitBy_intercalate_append proper split
    have last_proper : Path.IsName last := proper last (by simp)
    -- The last name is longer than a point once the ending goes on from it.
    have longer : (last ++ mark) ≠ [] ∧ (last ++ mark) ≠ ['.'] := by
      refine ⟨by simp [point], fun short => ?_⟩
      have size := congrArg List.length short
      have := List.length_pos_iff.mpr last_proper.1
      have := List.length_pos_iff.mpr point
      rw [List.length_append, List.length_singleton] at size
      omega
    rw [text, names]
    cases init with
    | nil =>
      rw [joined _ (last ++ mark) tail (by simpa [Path.ofComponents] using parts) longer.1,
        whole _ longer.1 longer.2, List.nil_append]
    | cons first init =>
      obtain ⟨⟨some, -, other⟩, others⟩ := List.forall_mem_cons.mp proper
      rw [joined _ first (init ++ (last ++ mark) :: tail)
        (by simpa [Path.ofComponents] using parts) some, whole _ some other, Path.kept_append,
        Path.kept_of_names fun name member => others name (List.mem_append_left _ member)]
      simp [Path.kept, longer.1, longer.2]

/-- A copy's path tells the names of the file. -/
theorem kept_eq_of_place (b : Backups) {path other : String}
    (same : Path.components (b.place path).toList = Path.components (b.place other).toList) :
    b.kept path = b.kept other := by
  obtain ⟨front, tail, bare, mark, single, empty, named⟩ := b.exists_components_place
  -- What stands behind all copies is no name with something in front of it.
  have longer {file : String} {init : List (List Char)} {last : List Char}
      (names : b.kept file = init ++ [last]) : bare ≠ init ++ [last ++ mark] := by
    intro same
    have short := congrArg List.length (single (last ++ mark) (by rw [same]; simp))
    have := List.length_pos_iff.mpr (b.isName_kept file last (by rw [names]; simp)).1.1
    rw [List.length_append] at short
    omega
  rcases List.eq_nil_or_concat (b.kept path) with here | ⟨init, last, here⟩ <;>
    rcases List.eq_nil_or_concat (b.kept other) with there | ⟨init', last', there⟩
  · rw [here, there]
  · rw [List.concat_eq_append] at there
    rw [empty _ here, named _ _ _ there] at same
    exact absurd (List.append_cancel_right (List.append_cancel_left same)) (longer there)
  · rw [List.concat_eq_append] at here
    rw [named _ _ _ here, empty _ there] at same
    exact absurd (List.append_cancel_right (List.append_cancel_left same)).symm (longer here)
  · rw [List.concat_eq_append] at here there
    rw [named _ _ _ here, named _ _ _ there] at same
    obtain ⟨inits, lasts⟩ := List.append_inj' (List.append_cancel_right
      (List.append_cancel_left same)) rfl
    rw [here, there, inits, List.append_cancel_right (List.cons.inj lasts).1]

/-- All copies lie in one directory. -/
theorem prefix_place (b : Backups) (path : String) :
    Path.components b.directory.toList <+: Path.components (b.place path).toList := by
  by_cases empty : b.directory = ""
  · rw [empty]
    exact List.nil_prefix
  · have relative : (Path.ofComponents (b.kept path) ++ String.ofList b.ending).startsWith "/" =
        false := by
      have point : b.ending = '.' :: (b.stamp ++ ".bak").toList := by
        rw [ending, String.append_assoc, String.toList_append]
        rfl
      rw [String.startsWith_string_eq_false_iff]
      rintro ⟨behind, same⟩
      have same : '/' :: behind = _ := same
      simp only [String.toList_append, Path.ofComponents, String.toList_ofList] at same
      cases names : b.kept path with
      | nil =>
        rw [names, point] at same
        cases same
      | cons first rest =>
        have proper := (b.isName_kept path first (names ▸ List.mem_cons_self)).1
        obtain ⟨c, name, rfl⟩ := List.exists_cons_of_ne_nil proper.1
        have first : '/' = c := by
          rw [names] at same
          cases rest <;> exact (List.cons.inj same).1
        exact proper.2.1 (first ▸ List.mem_cons_self)
    rw [place_eq, Path.ofComponents_extend, Path.components_join_of_relative empty relative]
    exact List.prefix_append _ _

/-- A document keeps the names of its directory that are not those of the project, and its own,
unless the project is the document. -/
theorem kept_document (b : Backups) (directory : String) : ∃ init, ∀ name,
    Path.IsName name → name ≠ ['.', '.'] →
      b.kept (Path.join directory (String.ofList name)) = init ++ [name] ∨
        Path.components b.projectRoot.toList = Path.components directory.toList ++ [name] ∧
          b.kept (Path.join directory (String.ofList name)) = [] := by
  refine ⟨((Path.after? (Path.components b.projectRoot.toList)
    (Path.components directory.toList)).getD (Path.components directory.toList)).filter isName,
    fun name proper back => ?_⟩
  have joined : Path.components (Path.join directory (String.ofList name)).toList =
      Path.components directory.toList ++ [name] := by
    have single : String.ofList name = Path.ofComponents [name] := by
      rw [Path.ofComponents, List.intercalate_singleton]
    rw [single]
    exact Path.components_join directory (List.cons_ne_nil _ _) (by simpa using proper)
  have counts : isName name = true := by
    obtain ⟨some, whole, point⟩ := proper
    have slash : name ≠ ['/'] := by
      rintro rfl
      exact whole (List.mem_singleton_self _)
    simp [isName, slash, point, back]
  rw [kept, Path.below?, joined]
  generalize Path.components b.projectRoot.toList = root
  generalize Path.components directory.toList = parts
  cases below : Path.after? root (parts ++ [name]) with
  | none =>
    -- Then the directory does not lie in the project, either.
    have apart : Path.after? root parts = Option.none := by
      cases inside : Path.after? root parts with
      | none => rfl
      | some rest =>
        rw [Path.after?_eq_some_iff] at inside
        have inside' := (Path.after?_eq_some_iff root (parts ++ [name]) (rest ++ [name])).mpr
          (by rw [inside, List.append_assoc])
        cases inside'.symm.trans below
    left
    rw [apart, Option.getD_none, Option.getD_none, List.filter_append]
    simp [counts]
  | some rest =>
    rw [Path.after?_eq_some_iff] at below
    rcases List.eq_nil_or_concat rest with rfl | ⟨rest, last, rfl⟩
    · right
      exact ⟨by simpa using below.symm, rfl⟩
    · left
      rw [List.concat_eq_append, ← List.append_assoc] at below
      obtain ⟨rfl, same⟩ := List.append_inj' below rfl
      cases same
      rw [(Path.after?_eq_some_iff root (root ++ rest) rest).mpr rfl, Option.getD_some,
        Option.getD_some, List.concat_eq_append, List.filter_append]
      simp [counts]

/-- Copies of different documents of a directory go to different paths. -/
theorem components_place_ne (b : Backups) (directory : String) {name other : List Char}
    (proper : Path.IsName name ∧ name ≠ ['.', '.'])
    (proper' : Path.IsName other ∧ other ≠ ['.', '.']) (differ : name ≠ other) :
    Path.components (b.place (Path.join directory (String.ofList name))).toList ≠
      Path.components (b.place (Path.join directory (String.ofList other))).toList := by
  obtain ⟨init, kept⟩ := b.kept_document directory
  intro same
  have names := b.kept_eq_of_place same
  rcases kept name proper.1 proper.2 with here | ⟨root, here⟩ <;>
    rcases kept other proper'.1 proper'.2 with there | ⟨root', there⟩ <;> rw [here, there] at names
  · exact differ (List.cons.inj (List.append_cancel_left names)).1
  · exact absurd names (List.append_ne_nil_of_right_ne_nil _ (List.cons_ne_nil _ _))
  · exact absurd names.symm (List.append_ne_nil_of_right_ne_nil _ (List.cons_ne_nil _ _))
  · rw [root] at root'
    exact differ (List.cons.inj (List.append_cancel_left root')).1

end Backups

end Phrasebook
