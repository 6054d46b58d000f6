import Phrasebook.Proofs.Key.Derivation
import Phrasebook.Run.Extraction

/-!
# What the search of a file brings

A file brings entries for candidates that were found in it, in order and each at most once. Their
keys hold their texts in the dictionary that is reached, which has lost nothing.
-/

namespace Phrasebook

namespace Tally

/-- The entries of a tally are those of given candidates, with keys that hold their texts in a
dictionary that has grown. -/
structure Keeps (d : Dictionary) (candidates : List Candidate) (t : Tally) : Prop where
  grows : d.Grows t.dictionary
  chosen : (t.entries.map Entry.candidate).Sublist candidates
  held : ∀ e ∈ t.entries, t.dictionary.leaf? d.sourceLocale e.key = some e.candidate.text

variable {d : Dictionary} {candidates : List Candidate} {t : Tally}

theorem keeps_start (d : Dictionary) : (start d).Keeps d [] where
  grows := .refl d
  chosen := .slnil
  held := fun _ member => absurd member List.not_mem_nil

/-- The candidates may be some of more. -/
theorem Keeps.mono (kept : t.Keeps d candidates) {more : List Candidate}
    (part : candidates.Sublist more) : t.Keeps d more :=
  { kept with chosen := kept.chosen.trans part }

/-- A report says nothing of entries and keys. -/
theorem Keeps.withReport (kept : t.Keeps d candidates) (report : ExtractionReport) :
    ({ t with report } : Tally).Keeps d candidates :=
  ⟨kept.grows, kept.chosen, kept.held⟩

/-- Candidates that are turned down bring no entries. -/
theorem Keeps.foldl_rejected (kept : t.Keeps d candidates)
    (rejection? : Candidate → Option Rejection) (found : List Candidate) :
    (found.foldl (fun t c => (rejection? c).elim t (t.addRejected c)) t).Keeps d candidates := by
  induction found generalizing t with
  | nil => exact kept
  | cons c found ih =>
    have step : ((rejection? c).elim t (t.addRejected c)).Keeps d candidates := by
      cases rejection? c with
      | none => exact kept
      | some reason => exact ⟨kept.grows, kept.chosen, kept.held⟩
    exact ih step

/-- A candidate that gets a key brings an entry, and earlier keys keep their texts. -/
theorem Keeps.addAccepted (kept : t.Keeps d candidates) (rules : ExtractionRules)
    (withinRoot : String) (c : Candidate) :
    (t.addAccepted rules withinRoot c).Keeps d (candidates ++ [c]) := by
  let call : KeyCall := ⟨rules.keys, withinRoot, c⟩
  unfold Tally.addAccepted
  split
  next found derived =>
    obtain ⟨n, place⟩ := call.derive_found t.dictionary found derived
    have candidate : found.entry.candidate = c :=
      call.candidate_of_derive t.dictionary found derived
    refine {
      grows := kept.grows.trans place.grows
      chosen := ?_
      held := fun e member => ?_ }
    · simp only [addDerived, List.map_append, List.map_cons, List.map_nil, candidate]
      exact kept.chosen.append_right [c]
    · rcases List.mem_append.mp member with old | new
      · exact place.grows.leaf?_eq (kept.held e old)
      · rw [List.mem_singleton] at new
        rw [new, candidate, ← kept.grows.sourceLocale_eq]
        exact place.leaf?_eq
  next failure _ => exact ⟨kept.grows, kept.chosen.trans (List.sublist_append_left _ _), kept.held⟩

theorem Keeps.foldl_accepted (kept : t.Keeps d candidates) (rules : ExtractionRules)
    (withinRoot : String) (more : List Candidate) :
    (more.foldl (Tally.addAccepted rules withinRoot) t).Keeps d (candidates ++ more) := by
  induction more generalizing t candidates with
  | nil => simpa using kept
  | cons c more ih =>
    rw [List.foldl_cons, List.append_cons]
    exact ih (kept.addAccepted rules withinRoot c)

/-- A file that was searched brings entries for its candidates. -/
theorem keeps_addFound (d : Dictionary) (rules : ExtractionRules) (file : SourceFile)
    (found : List Occurrence) :
    ((start d).addFound rules file found).Keeps d (found.filterMap Occurrence.candidate?) := by
  unfold addFound
  have accepted : ((found.filterMap Occurrence.candidate?).filter fun c =>
      (rules.acceptance.candidateRejection? c).isNone).Sublist
        (found.filterMap Occurrence.candidate?) := List.filter_sublist
  refine Keeps.withReport (Keeps.mono ?_ accepted) _
  exact (((keeps_start d).withReport _).foldl_rejected _ _).foldl_accepted rules file.withinRoot _

/-! ## All files -/

/-- A tally has come about by calls for keys: its entries hold their texts, and those that are new
wait for propagation. -/
structure Derives (rules : KeyRules) (d : Dictionary) (t : Tally) : Prop where
  calls : ∃ calls : List KeyCall, (∀ call ∈ calls, call.rules = rules ∧
      ∃ e ∈ t.entries, ∃ n, e.key = Key.suffixed call.base n) ∧
    t.dictionary = KeyCall.run calls d
  held : ∀ e ∈ t.entries, t.dictionary.leaf? d.sourceLocale e.key = some e.candidate.text
  pending : t.dictionary.pending =
    d.pending ++ (t.entries.filter fun e => e.status = .new).map Entry.key

theorem derives_start (rules : KeyRules) (d : Dictionary) : Derives rules d (start d) where
  calls := ⟨[], List.forall_mem_nil _, rfl⟩
  held := List.forall_mem_nil _
  pending := (List.append_nil _).symm

namespace Derives

variable {rules : KeyRules}

/-- Reports and notices say nothing of keys. -/
theorem congr (derives : Derives rules d t) {other : Tally}
    (dictionary : other.dictionary = t.dictionary) (entries : other.entries = t.entries) :
    Derives rules d other where
  calls := dictionary ▸ entries ▸ derives.calls
  held := dictionary ▸ entries ▸ derives.held
  pending := dictionary ▸ entries ▸ derives.pending

theorem grows (derives : Derives rules d t) : d.Grows t.dictionary := by
  obtain ⟨calls, -, same⟩ := derives.calls
  exact same ▸ KeyCall.grows_run calls d

theorem addAccepted {rules : ExtractionRules} (derives : Derives rules.keys d t)
    (withinRoot : String) (c : Candidate) :
    Derives rules.keys d (t.addAccepted rules withinRoot c) := by
  let call : KeyCall := ⟨rules.keys, withinRoot, c⟩
  have source := derives.grows.sourceLocale_eq
  unfold Tally.addAccepted
  split
  next found derived =>
    obtain ⟨n, place⟩ := call.derive_found t.dictionary found derived
    have candidate : found.entry.candidate = c :=
      call.candidate_of_derive t.dictionary found derived
    refine ⟨?_, fun e member => ?_, ?_⟩
    · obtain ⟨calls, same, run⟩ := derives.calls
      refine ⟨calls ++ [call], List.forall_mem_append.mpr ⟨fun other member => ?_,
        List.forall_mem_singleton.mpr ⟨rfl, found.entry, List.mem_append_right _
          (List.mem_singleton.mpr rfl), n, place.key_eq⟩⟩, ?_⟩
      · obtain ⟨ruled, e, listed, named⟩ := same other member
        exact ⟨ruled, e, List.mem_append_left _ listed, named⟩
      have after : KeyCall.after t.dictionary call = found.dictionary := by
        rw [KeyCall.after]
        split
        next other returned => cases derived.symm.trans returned; rfl
        next failure returned => cases derived.symm.trans returned
      rw [KeyCall.run, List.foldl_append, List.foldl_cons, List.foldl_nil, ← KeyCall.run, ← run,
        after]
      rfl
    · rcases List.mem_append.mp member with old | new
      · exact place.grows.leaf?_eq (derives.held e old)
      · rw [List.mem_singleton] at new
        rw [new, candidate, ← source]
        exact place.leaf?_eq
    · simp only [addDerived, List.filter_append, List.map_append, ← List.append_assoc]
      rw [← derives.pending]
      rcases place.result with ⟨-, same⟩ | ⟨-, same⟩
      · obtain ⟨key, status, -, dictionary⟩ := Derivation.mk.inj same
        rw [dictionary, Dictionary.pending_withNew, ← key]
        simp [status]
      · obtain ⟨-, status, -, dictionary⟩ := Derivation.mk.inj same
        rw [dictionary]
        simp [status]
  next failure _ => exact derives.congr rfl rfl

theorem addFound {rules : ExtractionRules} (derives : Derives rules.keys d t) (file : SourceFile)
    (found : List Occurrence) : Derives rules.keys d (t.addFound rules file found) := by
  unfold Tally.addFound
  refine congr (List.foldlRecOn (motive := Derives rules.keys d) _ _ ?_
    fun now derives c _ => derives.addAccepted file.withinRoot c) rfl rfl
  refine List.foldlRecOn (motive := Derives rules.keys d) _ _ (derives.congr rfl rfl)
    fun now derives c _ => ?_
  cases rules.acceptance.candidateRejection? c with
  | none => exact derives
  | some reason => exact derives.congr rfl rfl

theorem add {rules : ExtractionRules} (derives : Derives rules.keys d t) (file : SourceFile)
    (search : FileSearch) : Derives rules.keys d (t.add rules file search) := by
  cases search with
  | found occurrences => exact derives.addFound file occurrences
  | failed | notProcessed => exact derives.congr rfl rfl

end Derives

end Tally

/-- The files of a project are searched one after another. -/
theorem Project.derives_tally {σ : Type} [Storage σ] (rules : ExtractionRules) (cancelled : Bool)
    (storage : σ) (files : List SourceFile) (d : Dictionary) :
    Tally.Derives rules.keys d (tally rules cancelled storage files d) :=
  List.foldlRecOn (motive := Tally.Derives rules.keys d) files _ (Tally.derives_start _ d)
    fun _ derives file _ => derives.add file _

end Phrasebook
