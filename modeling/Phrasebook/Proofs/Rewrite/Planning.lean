import Phrasebook.Proofs.Rewrite.Locating

/-!
# What a plan contains

A plan holds edits of entries that can be applied, each at a start of its own and in the order of
starts, and some edit at the start that each such entry asks for: an entry that finds its token
claimed already leaves no trace.
-/

namespace Phrasebook

open Text (Edit)

/-! ## Edits by start -/

/-- An edit that is put among others joins them. -/
theorem perm_insertEdit? (edit : Edit) (edits inserted : List Edit)
    (done : insertEdit? edit edits = some inserted) : (edit :: edits).Perm inserted := by
  induction edits generalizing inserted with
  | nil =>
    cases done
    exact .refl _
  | cons other rest ih =>
    rw [insertEdit?] at done
    split at done
    next =>
      cases done
      exact .refl _
    next =>
      split at done
      next => cases done
      next =>
        obtain ⟨tail, later, rfl⟩ := Option.map_eq_some_iff.mp done
        exact (List.Perm.swap other edit rest).trans ((ih tail later).cons other)

theorem mem_insertEdit? (edit : Edit) (edits inserted : List Edit)
    (done : insertEdit? edit edits = some inserted) (x : Edit) :
    x ∈ inserted ↔ x = edit ∨ x ∈ edits := by
  rw [← (perm_insertEdit? edit edits inserted done).mem_iff, List.mem_cons]

theorem sorted_insertEdit? (edit : Edit) (edits inserted : List Edit)
    (sorted : edits.Pairwise fun a b => a.start < b.start)
    (done : insertEdit? edit edits = some inserted) :
    inserted.Pairwise fun a b => a.start < b.start := by
  induction edits generalizing inserted with
  | nil =>
    cases done
    simp
  | cons other rest ih =>
    obtain ⟨first, others⟩ := List.pairwise_cons.mp sorted
    rw [insertEdit?] at done
    split at done
    next earlier =>
      cases done
      refine List.pairwise_cons.mpr ⟨fun x member => ?_, sorted⟩
      rcases List.mem_cons.mp member with rfl | later
      · exact earlier
      · exact Nat.lt_trans earlier (first x later)
    next notEarlier =>
      split at done
      next => cases done
      next differs =>
        -- The new edit starts behind `other`, as does everything that was there before.
        obtain ⟨tail, later, rfl⟩ := Option.map_eq_some_iff.mp done
        refine List.pairwise_cons.mpr ⟨fun x member => ?_, ih tail others later⟩
        rcases (mem_insertEdit? edit rest tail later x).mp member with rfl | old
        · omega
        · exact first x old

/-- An edit is turned away only if its start is taken. -/
theorem insertEdit?_eq_none (edit : Edit) (edits : List Edit)
    (refused : insertEdit? edit edits = none) : ∃ taken ∈ edits, taken.start = edit.start := by
  induction edits with
  | nil => cases refused
  | cons other rest ih =>
    rw [insertEdit?] at refused
    split at refused
    next => cases refused
    next =>
      split at refused
      next same => exact ⟨other, List.mem_cons_self, same.symm⟩
      next =>
        obtain ⟨taken, member, same⟩ := ih (Option.map_eq_none_iff.mp refused)
        exact ⟨taken, List.mem_cons_of_mem _ member, same⟩

/-! ## Names, each once -/

theorem nodup_eraseDups : (names : List String) → names.eraseDups.Nodup
  | [] => List.nodup_nil
  | name :: rest => by
    rw [List.eraseDups_cons, List.nodup_cons]
    exact ⟨fun again => by simp at again, nodup_eraseDups _⟩
termination_by names => names.length
decreasing_by exact Nat.lt_succ_of_le (List.length_filter_le _ _)

/-! ## Plans -/

/-- A plan covers entries if it holds edits of theirs, with their namespaces, and only these, by
start, and leaves no start free that one of them asks for. -/
structure Plan.Covers (scene : RewriteScene) (entries : List Entry) (plan : Plan) : Prop where
  sorted : plan.edits.Pairwise fun a b => a.start < b.start
  planned : ∀ edit ∈ plan.edits, ∃ e ∈ entries, scene.edit? e = .ok edit ∧
    e.spaceName ∈ plan.spaceNames
  claimed : ∀ e ∈ entries, ∀ edit, scene.edit? e = .ok edit →
    ∃ taken ∈ plan.edits, taken.start = edit.start
  named : ∀ name ∈ plan.spaceNames, ∃ e ∈ entries, e.spaceName = name ∧
    ∃ edit ∈ plan.edits, scene.edit? e = .ok edit

namespace Plan

variable {scene : RewriteScene}

theorem covers_empty : Plan.empty.Covers scene [] where
  sorted := .nil
  planned := fun _ member => absurd member List.not_mem_nil
  claimed := fun _ member => absurd member List.not_mem_nil
  named := fun _ member => absurd member List.not_mem_nil

/-- A plan that makes no use of one more entry covers it if the entry's start, if any, is taken. -/
private theorem Covers.snoc {entries : List Entry} {plan : Plan}
    (covers : plan.Covers scene entries) (e : Entry) (skips : List Skip)
    (taken : ∀ edit, scene.edit? e = .ok edit → ∃ taken ∈ plan.edits, taken.start = edit.start) :
    Covers scene (entries ++ [e]) { plan with skips } where
  sorted := covers.sorted
  planned := fun edit member => by
    obtain ⟨source, known, found⟩ := covers.planned edit member
    exact ⟨source, List.mem_append_left _ known, found⟩
  claimed := fun x member edit found => by
    rcases List.mem_append.mp member with old | new
    · exact covers.claimed x old edit found
    · rw [List.mem_singleton] at new
      exact taken edit (new ▸ found)
  named := fun name member => by
    obtain ⟨source, known, found⟩ := covers.named name member
    exact ⟨source, List.mem_append_left _ known, found⟩

/-- Planning one more entry. -/
theorem Covers.add {entries : List Entry} {plan : Plan} (covers : plan.Covers scene entries)
    (e : Entry) : (plan.add scene e).Covers scene (entries ++ [e]) := by
  unfold Plan.add
  split
  next reason failed => exact covers.snoc e _ fun edit found => by rw [failed] at found; cases found
  next edit found =>
    split
    next edits done =>
      -- The entry's edit joins the others, so its start is taken from now on.
      have member := mem_insertEdit? edit plan.edits edits done
      exact {
        sorted := sorted_insertEdit? edit plan.edits edits covers.sorted done
        planned := fun x planned => by
          rcases (member x).mp planned with rfl | old
          · exact ⟨e, by simp, found, by simp⟩
          · obtain ⟨source, known, made, name⟩ := covers.planned x old
            exact ⟨source, List.mem_append_left _ known, made, List.mem_append_left _ name⟩
        claimed := fun x known other made => by
          rcases List.mem_append.mp known with old | new
          · obtain ⟨taken, inside, same⟩ := covers.claimed x old other made
            exact ⟨taken, (member taken).mpr (Or.inr inside), same⟩
          · rw [List.mem_singleton] at new
            subst new
            rw [found] at made
            cases made
            exact ⟨edit, (member edit).mpr (Or.inl rfl), rfl⟩
        named := fun name known => by
          rcases List.mem_append.mp known with old | new
          · obtain ⟨source, inside, same, other, planned, made⟩ := covers.named name old
            exact ⟨source, List.mem_append_left _ inside, same, other,
              (member other).mpr (Or.inr planned), made⟩
          · rw [List.mem_singleton] at new
            exact ⟨e, by simp, new.symm, edit, (member edit).mpr (Or.inl rfl), found⟩ }
    next refused =>
      -- The plan stays as it is, and the start that the entry asks for is among its edits.
      have taken := insertEdit?_eq_none edit plan.edits refused
      exact covers.snoc e plan.skips fun other made => by
        rw [found] at made
        cases made
        exact taken

/-- Planning entries one after the other. -/
theorem Covers.foldl {entries : List Entry} {plan : Plan} (covers : plan.Covers scene entries)
    (more : List Entry) : (more.foldl (Plan.add scene) plan).Covers scene (entries ++ more) := by
  induction more generalizing entries plan with
  | nil => simpa using covers
  | cons e more ih =>
    have rest := ih (covers.add e)
    rwa [List.append_assoc] at rest

/-- Entries are planned from the last position on. -/
theorem sorted_entries (entries : List Entry) :
    (entries.mergeSort fun a b =>
      !a.candidate.position.before b.candidate.position).Pairwise fun a b =>
        a.candidate.position.before b.candidate.position = false :=
  Text.sorted_mergeSort
    (fun a b : Entry => a.candidate.position.before b.candidate.position)
    (fun _ _ _ => Text.Position.not_before_trans) (fun _ _ => Text.Position.not_before_total _ _)
    entries

/-- The plan for entries covers them, in whatever order they come. -/
theorem covers_ofEntries (scene : RewriteScene) (entries : List Entry) :
    (Plan.ofEntries scene entries).Covers scene entries := by
  -- The order of the entries decides who comes first, not what is covered.
  let ordered := entries.mergeSort fun a b => !a.candidate.position.before b.candidate.position
  have covers : (Plan.ofEntries scene entries).Covers scene ordered := covers_empty.foldl ordered
  have same (e : Entry) : e ∈ ordered ↔ e ∈ entries := List.mem_mergeSort
  exact {
    sorted := covers.sorted
    planned := fun edit member => by
      obtain ⟨e, known, found⟩ := covers.planned edit member
      exact ⟨e, (same e).mp known, found⟩
    claimed := fun e known => covers.claimed e ((same e).mpr known)
    named := fun name member => by
      obtain ⟨e, known, found⟩ := covers.named name member
      exact ⟨e, (same e).mp known, found⟩ }

theorem ofEntries_singleton (scene : RewriteScene) (e : Entry) :
    Plan.ofEntries scene [e] = Plan.empty.add scene e := by
  rw [Plan.ofEntries, List.mergeSort_singleton, List.foldl_cons, List.foldl_nil]

/-- Nothing is planned exactly if no entry can be applied. -/
theorem ofEntries_edits_eq_nil_iff (scene : RewriteScene) (entries : List Entry) :
    (Plan.ofEntries scene entries).edits = [] ↔
      ∀ e ∈ entries, ∀ edit, scene.edit? e ≠ .ok edit := by
  have covers := covers_ofEntries scene entries
  constructor
  · intro none e member edit found
    obtain ⟨taken, inside, -⟩ := covers.claimed e member edit found
    rw [none] at inside
    cases inside
  · intro unable
    rw [List.eq_nil_iff_forall_not_mem]
    intro edit member
    obtain ⟨e, known, found, -⟩ := covers.planned edit member
    exact unable e known edit found

theorem mem_orderedSpaceNames (plan : Plan) (name : String) :
    name ∈ plan.orderedSpaceNames ↔ name ∈ plan.spaceNames := by
  rw [Plan.orderedSpaceNames, List.mem_mergeSort, List.mem_eraseDups]

theorem nodup_orderedSpaceNames (plan : Plan) : plan.orderedSpaceNames.Nodup :=
  (List.mergeSort_perm _ _).nodup_iff.mpr (nodup_eraseDups _)

theorem orderedSpaceNames_singleton (edits : List Edit) (name : String) (skips : List Skip) :
    Plan.orderedSpaceNames ⟨edits, [name], skips⟩ = [name] := by
  have once : [name].eraseDups = [name] := rfl
  rw [Plan.orderedSpaceNames, once, List.mergeSort_singleton]

end Plan

end Phrasebook
