import Phrasebook.Proofs.Rewrite.Asking
import Phrasebook.Proofs.Rewrite.Prologues
import Phrasebook.Proofs.Text.Weaving

/-!
# Planned edits can be made

Whatever entries are applied to a source, their edits fit and are compatible: a lookup takes the
place of a whole token, no token is claimed twice, an import goes behind an import or a directive,
and accessors go behind a brace that stands in front of all lookups. So a rewrite fails only where
its source, or what becomes of it, cannot be read.
-/

namespace Phrasebook

open Syntax (Tree)
open Text (Edit byteLength isBoundary)

/-! ## Candidates that do not overlap -/

namespace Candidate

theorem StandsAt.unique {source : List Char} {c : Candidate} {offset offset' : Nat}
    (stands : c.StandsAt source offset) (stands' : c.StandsAt source offset') : offset = offset' :=
  Text.position_injective stands.boundary stands'.boundary
    (stands.position_eq.symm.trans stands'.position_eq)

/-- The tokens of two candidates do not overlap. -/
def Apart (source : List Char) (c c' : Candidate) : Prop :=
  ∀ offset offset', c.StandsAt source offset → c'.StandsAt source offset' →
    offset + byteLength c.raw.toList ≤ offset' ∨ offset' + byteLength c'.raw.toList ≤ offset

instance (source : List Char) : Std.Symm (Apart source) where
  symm _ _ apart offset offset' stands stands' := (apart offset' offset stands' stands).symm

theorem ReadFrom.apart {source : List Char} {c c' : Candidate} {text text' : Tree}
    {offset offset' : Nat} (first : c.ReadFrom source text offset)
    (second : c'.ReadFrom source text' offset') (apart : text.Apart text') : c.Apart source c' := by
  intro place place' stands stands'
  rw [stands.unique first.toStandsAt, stands'.unique second.toStandsAt]
  have := first.start_le
  have := first.le_stop
  have := second.start_le
  have := second.le_stop
  rcases apart with earlier | later <;> omega

end Candidate

namespace Search

/-- Candidates that are read from texts do not overlap if the texts do not. -/
structure ApartIn (source : List Char) (found : List Occurrence) (texts : List Tree) : Prop
    extends FoundIn source found texts where
  apart : texts.Pairwise Tree.Apart →
    (found.filterMap Occurrence.candidate?).Pairwise (Candidate.Apart source)

theorem Yields.apartIn {source : List Char} {found : List Occurrence} {text : Tree}
    (yields : Yields source found text) : ApartIn source found [text] := by
  refine ⟨yields.foundIn, fun _ => ?_⟩
  rcases yields with rfl | ⟨c, offset, rfl, reads⟩
  · exact .nil
  · exact List.pairwise_singleton _ c

theorem ApartIn.append {source : List Char} {found others : List Occurrence}
    {texts more : List Tree} (first : ApartIn source found texts)
    (second : ApartIn source others more) : ApartIn source (found ++ others) (texts ++ more) where
  toFoundIn := first.toFoundIn.append second.toFoundIn
  apart := fun apart => by
    obtain ⟨left, right, across⟩ := List.pairwise_append.mp apart
    rw [List.filterMap_append, List.pairwise_append]
    refine ⟨first.apart left, second.apart right, fun c member c' member' => ?_⟩
    rw [mem_candidates_iff] at member member'
    obtain ⟨text, inside, offset, reads⟩ := first.read c member
    obtain ⟨text', inside', offset', reads'⟩ := second.read c' member'
    exact reads.apart reads' (across text inside text' inside')

theorem apartIn_readings (search : Search) : search.HoldsOfReadings (ApartIn search.source) where
  nothing := fun texts => ⟨foundIn_readings.nothing texts, fun _ => .nil⟩
  both := fun _ _ _ _ first second => first.append second
  strings := fun span value children => (ofString_yields span value children).apartIn
  attributes := fun name span children => (ofAttribute_yields name span children).apartIn
  texts := fun span children => (ofMarkupText_yields span children).apartIn
  lookups := fun span arguments texts =>
    ⟨foundIn_readings.lookups span arguments texts, fun _ => .nil⟩

end Search

/-- Tokens of a source whose texts do not overlap do not overlap either. -/
theorem occurrencesIn_apart (rules : SearchRules) (file : String) (source : List Char) (tree : Tree)
    (apart : tree.texts.Pairwise Tree.Apart) :
    ((occurrencesIn rules file source tree).filterMap Occurrence.candidate?).Pairwise
      (Candidate.Apart source) := by
  have visited := Search.holds_visit (Search.apartIn_readings ⟨rules, file, source⟩) false tree
  have perm := occurrencesIn_perm rules file source tree
  exact ((perm.filterMap _).pairwise_iff fun both => symm both).mpr (visited.apart apart)

/-! ## Modules that can be edited -/

/-- An import or a directive. -/
def ModuleHead.isPart (item : Tree) : Bool := isDirective item || (importStop? item).isSome

/-- What edits rely on. Items end behind their starts, and texts do not overlap. The body of the
component starts with a brace, and no import or directive overlaps a text that reaches into it. -/
structure Syntax.Tree.IsEditable (source : List Char) (tree : Tree) : Prop where
  ordered : ∀ item ∈ tree.children, item.start ≤ item.stop
  apart : tree.texts.Pairwise Tree.Apart
  opens : ∀ c ∈ Component.ofModule? tree,
    ∃ front rest, front ++ '{' :: rest = source ∧ byteLength front = c.bodyStart
  outside : ∀ c ∈ Component.ofModule? tree, ∀ item ∈ tree.children,
    ModuleHead.isPart item = true → ∀ text ∈ tree.texts,
      text.start < c.bodyStop → c.bodyStart < text.stop → item.Apart text

/-- An import goes behind an import or a directive of the module. -/
theorem ModuleHead.exists_part_of_insertion? {tree : Tree} {offset : Nat}
    (place : (ofModule tree).insertion? = some offset) :
    ∃ item ∈ tree.children, isPart item = true ∧ item.stop = offset := by
  rw [insertion?, Option.or_eq_some_iff] at place
  rcases place with last | ⟨-, directives⟩
  · obtain ⟨item, member, ends⟩ := List.mem_filterMap.mp (List.mem_of_getLast? last)
    refine ⟨item, member, by simp [isPart, ends], ?_⟩
    unfold importStop? at ends
    split at ends
    next => exact Option.some.inj ends
    next => cases ends
  · obtain ⟨front, last, rest, parts, ends, directives⟩ := directivesStop?_spec directives
    exact ⟨last, by simp [parts], by simp [isPart, directives last (by simp)], ends⟩

/-- What cannot be read is reported with a place. -/
theorem unreadable_of_readSource {file : String} {source : List Char} {failure : Failure}
    (failed : readSource file source = .error failure) :
    ∃ line column reason, failure = .unreadable file line column reason := by
  unfold readSource at failed
  split at failed
  next => cases failed
  next =>
    cases failed
    exact ⟨_, _, _, rfl⟩

theorem Text.le_byteLength_of_isBoundary {text : List Char} {n : Nat}
    (boundary : isBoundary text n = true) : n ≤ byteLength text := by
  obtain ⟨front, rest, rfl, rfl⟩ := (isBoundary_iff _ _).mp boundary
  rw [byteLength_append]
  exact Nat.le_add_right _ _

/-- An insertion at a boundary fits. -/
theorem Text.Edit.fits_insert {text : List Char} {offset : Nat} (code : String)
    (boundary : isBoundary text offset = true) : (Edit.insert offset code).Fits text :=
  ⟨Nat.le_refl offset, Text.le_byteLength_of_isBoundary boundary, boundary, boundary⟩

/-- A lookup fits in the place of its token. -/
theorem Entry.AppliedBy.fits {rules : RewriteRules} {file : String} {source : List Char}
    {tree : Tree} {d : Dictionary} {e : Entry} {edit : Edit}
    (applied : e.AppliedBy rules file source tree d edit) : edit.Fits source := by
  obtain ⟨c, -, stands, stop, -⟩ := applied.token
  obtain ⟨front, rest, cut, length, -⟩ := (Text.slice?_eq_some_iff _ _ _ _).mp stands.slice_eq
  have boundary : isBoundary source edit.stop = true :=
    (Text.isBoundary_iff _ _).mpr ⟨front ++ c.raw.toList, rest, by rw [← cut, List.append_assoc],
      by rw [Text.byteLength_append, length, stop]⟩
  exact ⟨by omega, Text.le_byteLength_of_isBoundary boundary, stands.boundary, boundary⟩

namespace Rewrite.MadeOf

variable {rules : RewriteRules} {file : String} {source : List Char} {tree : Tree}
  {entries : List Entry} {d : Dictionary} {r : Rewrite} {lookups imports accessors : List Edit}

/-- Lookups stand in the places of different tokens. -/
theorem lookups_apart
    (made : r.MadeOf rules file source tree entries d lookups imports accessors)
    (editable : tree.IsEditable source) :
    lookups.Pairwise fun a b => a.stop ≤ b.start ∨ b.stop ≤ a.start := by
  refine made.sorted.imp_of_mem fun {a b} first second before => ?_
  obtain ⟨e, -, applied⟩ := made.applied a first
  obtain ⟨e', -, applied'⟩ := made.applied b second
  obtain ⟨c, found, stands, stop, -⟩ := applied.token
  obtain ⟨c', found', stands', stop', -⟩ := applied'.token
  have differ : c ≠ c' := by
    rintro rfl
    exact absurd (stands.unique stands') (Nat.ne_of_lt before)
  rw [stop, stop']
  exact (occurrencesIn_apart rules.search file source tree editable.apart).forall
    ((Search.mem_candidates_iff _ c).mpr found) ((Search.mem_candidates_iff _ c').mpr found') differ
    _ _ stands stands'

/-- An import does not stand inside the token of a lookup. -/
theorem import_apart (made : r.MadeOf rules file source tree entries d lookups imports accessors)
    (editable : tree.IsEditable source) {a b : Edit} (lookup : a ∈ lookups) (added : b ∈ imports) :
    b.start ≤ a.start ∨ a.stop ≤ b.start := by
  obtain ⟨component, -, imported⟩ := made.imported b added
  obtain ⟨e, -, applied⟩ := made.applied a lookup
  obtain ⟨c, found, stands, stop, -⟩ := applied.token
  obtain ⟨home, known, behind, inner⟩ := applied.within
  have nonempty := applied.nonempty
  cases place : (ModuleHead.ofModule tree).insertion? with
  | none =>
    rw [imported.start_eq_zero place]
    exact .inl (Nat.zero_le _)
  | some offset =>
    rw [imported.start_eq place]
    obtain ⟨item, member, part, rfl⟩ := ModuleHead.exists_part_of_insertion? place
    have := editable.ordered item member
    -- The token is part of a text of the module, which the item does not overlap.
    obtain ⟨text, inside, start, reads⟩ :=
      (occurrencesIn_foundIn rules.search file source tree).read c found
    obtain rfl := stands.unique reads.toStandsAt
    have := reads.start_le
    have := reads.le_stop
    rcases editable.outside home known item member part text inside (by omega) (by omega) with
      earlier | later <;> omega

/-- What a rewrite inserts is an import or an accessor, and none of them stands inside a token. -/
theorem inserted (made : r.MadeOf rules file source tree entries d lookups imports accessors)
    (editable : tree.IsEditable source) {b : Edit} (member : b ∈ imports ∨ b ∈ accessors) :
    b.stop = b.start ∧ ∀ a ∈ lookups, b.start ≤ a.start ∨ a.stop ≤ b.start := by
  rcases member with added | added
  · obtain ⟨component, -, imported⟩ := made.imported b added
    exact ⟨imported.isInsertion, fun a lookup => made.import_apart editable lookup added⟩
  · obtain ⟨component, found, e, -, -, rfl⟩ := made.declared b added
    refine ⟨rfl, fun a lookup => .inl ?_⟩
    obtain ⟨e', -, applied⟩ := made.applied a lookup
    obtain ⟨home, known, behind, -⟩ := applied.within
    cases found.symm.trans known
    exact behind

theorem apart (made : r.MadeOf rules file source tree entries d lookups imports accessors)
    (editable : tree.IsEditable source) :
    r.edits.Pairwise fun a b => a.stop ≤ b.start ∨ b.stop ≤ a.start := by
  have insertions : ∀ b ∈ imports ++ accessors, b.stop = b.start ∧
      ∀ a ∈ lookups, b.start ≤ a.start ∨ a.stop ≤ b.start :=
    fun b member => made.inserted editable (List.mem_append.mp member)
  rw [made.edits_eq, List.append_assoc, List.pairwise_append]
  refine ⟨made.lookups_apart editable, List.pairwise_of_forall_mem_list fun a first b second => ?_,
    fun a lookup b added => ?_⟩
  · have := (insertions a first).1
    have := (insertions b second).1
    omega
  · have stop := (insertions b added).1
    have := (insertions b added).2 a lookup
    omega

theorem fits (made : r.MadeOf rules file source tree entries d lookups imports accessors)
    (editable : tree.IsEditable source)
    (stops : ∀ item ∈ tree.children, isBoundary source item.stop = true) :
    ∀ e ∈ r.edits, e.Fits source := by
  intro e member
  rw [made.edits_eq, List.mem_append, List.mem_append] at member
  rcases member with (lookup | added) | added
  · obtain ⟨entry, -, applied⟩ := made.applied e lookup
    exact applied.fits
  · obtain ⟨component, -, imported⟩ := made.imported e added
    unfold Component.ImportedBy at imported
    split at imported
    next offset place =>
      obtain ⟨item, inside, -, rfl⟩ := ModuleHead.exists_part_of_insertion? place
      rw [imported]
      exact Edit.fits_insert _ (stops item inside)
    next =>
      rw [imported]
      exact Edit.fits_insert _ ((Text.isBoundary_iff _ _).mpr ⟨[], source, rfl, rfl⟩)
  · obtain ⟨component, found, entry, -, -, rfl⟩ := made.declared e added
    obtain ⟨front, rest, cut, length⟩ := editable.opens component found
    -- The brace takes one byte.
    have brace : byteLength ['{'] = 1 := by decide
    exact Edit.fits_insert _ ((Text.isBoundary_iff _ _).mpr ⟨front ++ ['{'], rest,
      by rw [← cut, List.append_assoc]; rfl, by rw [Text.byteLength_append, length, brace]⟩)

end Rewrite.MadeOf

theorem Guarded.exists_editable : ∃ tree, readSource "a.ts" Guarded.source = .ok tree ∧
    tree.IsEditable Guarded.source := by
  have reading : (readSource "a.ts" source).toOption.map (fun (tree : Tree) =>
      (decide (∀ item ∈ tree.children, item.start ≤ item.stop),
        decide (tree.texts.Pairwise Tree.Apart), Component.ofModule? tree,
        tree.children.all fun item => !ModuleHead.isPart item || tree.texts.all fun text =>
          decide (text.start < 56 → 44 < text.stop → item.Apart text))) =
      some (true, true, some component, true) := by
    decide +kernel
  obtain ⟨tree, read, same⟩ := exists_of_map_toOption reading
  simp only [Prod.mk.injEq, decide_eq_true_eq, List.all_eq_true, Bool.or_eq_true,
    Bool.not_eq_true'] at same
  obtain ⟨ordered, apart, found, outside⟩ := same
  refine ⟨tree, read, ordered, apart, fun c known => ?_, fun c known item member part => ?_⟩
  · cases found.symm.trans known
    exact ⟨source.take 44, source.drop 45, by decide, by decide +kernel⟩
  · cases found.symm.trans known
    rcases outside item member with other | texts
    · exact absurd part (by simp [other])
    · exact texts

namespace RewriteRules

/-- Edits that can be made fail only if the result cannot be read. -/
theorem make_ne_storage {bare : Rewrite} {source content : List Char}
    (spliced : Text.splice source bare.edits = .ok content) (path reason : String) :
    make bare source ≠ .error (.storage path reason) := by
  intro failed
  unfold make at failed
  rw [spliced] at failed
  split at failed
  next =>
    cases reread : readSource bare.file content with
    | error failure =>
      obtain ⟨_, _, _, rfl⟩ := unreadable_of_readSource reread
      simp only [reread] at failed
      cases failed
    | ok again =>
      simp only [reread] at failed
      cases failed
  next => cases failed

/-- The edits planned for any entries of a source without a mark in front can be made together, if
the parser stays at boundaries and the module can be edited. So no rewrite of it fails because of
its edits: only reading fails. -/
theorem rewrite_plan_accepted (rules : RewriteRules) (file : String) (source : List Char)
    (entries : List Entry) (d : Dictionary) (unmarked : source.head? ≠ some '\uFEFF')
    (within : Syntax.readsWithin (dialectOf file) source = true)
    (editable : ∀ tree, readSource file source = .ok tree → tree.IsEditable source) :
    (∀ tree, readSource file source = .ok tree → ∃ content, Text.splice source
      (rules.edits (rules.scene file source tree d) tree
        (rules.planFor file source tree entries d)).edits = .ok content) ∧
    ∀ path reason, rules.rewrite file source entries d ≠ .error (.storage path reason) := by
  have accepted : ∀ tree, readSource file source = .ok tree → ∃ content, Text.splice source
      (rules.edits (rules.scene file source tree d) tree
        (rules.planFor file source tree entries d)).edits = .ok content := by
    intro tree read
    obtain ⟨imports, accessors, made⟩ := rules.edits_madeOf file source tree d entries
      (rules.planFor file source tree entries d) (Plan.covers_ofEntries _ entries)
    have stops (item : Tree) (member : item ∈ tree.children) : isBoundary source item.stop = true :=
      Syntax.withoutMark_of_unmarked unmarked ▸ Syntax.stop_of_holds within
        (readModule_of_readSource read) ((Tree.Holds.refl tree).child member)
    have fits := made.fits (editable tree read) stops
    exact (Text.exists_splice_iff _ _).mpr ⟨fits, (made.apart (editable tree read)).imp_of_mem
      fun {a b} first second => (a.compatible_iff b (fits a first).1 (fits b second).1).mpr⟩
  refine ⟨accepted, fun path reason failed => ?_⟩
  unfold rewrite at failed
  cases read : readSource file source with
  | error failure =>
    obtain ⟨_, _, _, rfl⟩ := unreadable_of_readSource read
    rw [read] at failed
    cases failed
  | ok tree =>
    obtain ⟨content, spliced⟩ := accepted tree read
    rw [read, ok_bind] at failed
    exact make_ne_storage spliced path reason failed

/-- So it is with a module that has directives, an import and a component with a directive. -/
theorem rewrite_plan_accepted_guarded :
    Guarded.source.head? ≠ some '\uFEFF' ∧
    Syntax.readsWithin (dialectOf "a.ts") Guarded.source = true ∧
    (∀ tree, readSource "a.ts" Guarded.source = .ok tree → tree.IsEditable Guarded.source) ∧
    ∃ tree content, readSource "a.ts" Guarded.source = .ok tree ∧
      Text.splice Guarded.source (Twofold.rules.edits
        (Twofold.rules.scene "a.ts" Guarded.source tree Twofold.dictionary) tree
        (Twofold.rules.planFor "a.ts" Guarded.source tree [Guarded.entry, Guarded.entry]
          Twofold.dictionary)).edits = .ok content := by
  have unmarked : Guarded.source.head? ≠ some '\uFEFF' := by decide
  have reads : Syntax.readsWithin (dialectOf "a.ts") Guarded.source = true := by decide +kernel
  obtain ⟨tree, read, editable⟩ := Guarded.exists_editable
  have only : ∀ tree', readSource "a.ts" Guarded.source = .ok tree' →
      tree'.IsEditable Guarded.source := by
    intro tree' read'
    obtain rfl := Except.ok.inj (read.symm.trans read')
    exact editable
  obtain ⟨content, spliced⟩ := (Twofold.rules.rewrite_plan_accepted "a.ts" Guarded.source
    [Guarded.entry, Guarded.entry] Twofold.dictionary unmarked reads only).1 tree read
  exact ⟨unmarked, reads, only, tree, content, read, spliced⟩

end RewriteRules

end Phrasebook
