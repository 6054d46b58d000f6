import Phrasebook.Proofs.Candidate.Lookups
import Phrasebook.Proofs.Candidate.Sites
import Phrasebook.Proofs.Rewrite.Recorded
import Phrasebook.Proofs.Rewrite.Unchanged
import Phrasebook.Rewrite.Component
import Phrasebook.Rewrite.Offsets

/-!
# Positions that are asked for

Without a mark of the byte order in front, a scan and a rewrite ask only for positions that exist.
Spans count from behind the mark, so that with one the position of a lookup may be asked for inside
a character, while those of candidates are checked before.

A component is made of a block of its module: the body of a function that the module exports.
-/

namespace Phrasebook

open Syntax (Tree Span Kind Step Site)
open Text (Edit byteLength isBoundary)

/-! ## The body of a component -/

namespace Component

variable {t : Tree} {c : Component}

/-- A component is made of the body of a function. -/
def IsOf (c : Component) (body : Tree) : Prop :=
  ∃ name isAsync, body.kind = .block ∧ ofBody? name isAsync body = some c

theorem IsOf.bodyStart_eq {body : Tree} (made : c.IsOf body) : c.bodyStart = body.start := by
  obtain ⟨name, isAsync, -, made⟩ := made
  rw [ofBody?] at made
  split at made
  · cases made
    rfl
  · cases made

theorem IsOf.firstStatement_eq {body : Tree} (made : c.IsOf body) :
    c.firstStatement = body.children.head?.map Tree.start := by
  obtain ⟨name, isAsync, -, made⟩ := made
  rw [ofBody?] at made
  split at made
  · cases made
    rfl
  · cases made

theorem mem_of_body? {body : Tree} (found : body? t = some body) :
    body ∈ t.children ∧ body.kind = .block := by
  unfold body? at found
  split at found
  next last ends =>
    split at found
    next block =>
      cases found
      exact ⟨List.mem_of_getLast? ends, block⟩
    next => cases found
  next => cases found

theorem isOf_of_body? {name : String} {isAsync : Bool}
    (found : (body? t).bind (ofBody? name isAsync) = some c) : ∃ body ∈ t.children, c.IsOf body := by
  obtain ⟨body, ends, made⟩ := Option.bind_eq_some_iff.mp found
  obtain ⟨member, block⟩ := mem_of_body? ends
  exact ⟨body, member, name, isAsync, block, made⟩

theorem isOf_of_function? (found : ofFunction? t = some c) : ∃ body ∈ t.children, c.IsOf body := by
  unfold ofFunction? at found
  split at found
  next => exact isOf_of_body? found
  next => cases found

theorem isOf_of_declarator? (found : ofDeclarator? t = some c) :
    ∃ value ∈ t.children, ∃ body ∈ value.children, c.IsOf body := by
  unfold ofDeclarator? at found
  split at found
  next name span inner value parts =>
    refine ⟨value, by rw [parts]; simp, ?_⟩
    split at found
    next => exact isOf_of_body? found
    next => exact isOf_of_body? found
    next => cases found
  next => cases found

/-- A module holds the body of its component. -/
theorem exists_body (found : ofModule? t = some c) : ∃ body, t.Holds body ∧ c.IsOf body := by
  obtain ⟨item, member, found⟩ := List.exists_of_findSome?_eq_some found
  have held := (Tree.Holds.refl t).child member
  unfold ofItem? at found
  split at found
  next span declaration =>
    have declared : t.Holds declaration := held.child List.mem_cons_self
    split at found
    next =>
      obtain ⟨declarator, member, found⟩ := List.exists_of_findSome?_eq_some found
      obtain ⟨value, part, body, inner, made⟩ := isOf_of_declarator? found
      exact ⟨body, ((declared.child member).child part).child inner, made⟩
    next =>
      obtain ⟨body, inner, made⟩ := isOf_of_function? found
      exact ⟨body, declared.child inner, made⟩
  next span declaration =>
    have declared : t.Holds declaration := held.child List.mem_cons_self
    obtain ⟨body, inner, made⟩ := isOf_of_function? found
    exact ⟨body, declared.child inner, made⟩
  next => cases found

end Component

/-! ## The parser -/

namespace Syntax

/-- The spans of a module, or the place of a fault, stand at boundaries of the text behind its
mark. -/
def readsWithin (dialect : Dialect) (text : List Char) : Bool :=
  match readModule dialect text with
  | .ok tree => tree.sites.all fun p =>
    isBoundary (withoutMark text) p.node.start && isBoundary (withoutMark text) p.node.stop
  | .error fault => isBoundary (withoutMark text) fault.offset

theorem withoutMark_of_unmarked {text : List Char} (unmarked : text.head? ≠ some '\uFEFF') :
    withoutMark text = text := by
  unfold withoutMark
  split
  next => exact absurd rfl unmarked
  next => rfl

theorem start_of_holds {dialect : Dialect} {text : List Char} {tree node : Tree}
    (within : readsWithin dialect text = true) (read : readModule dialect text = .ok tree)
    (holds : tree.Holds node) : isBoundary (withoutMark text) node.start = true := by
  obtain ⟨p, member, rfl⟩ := holds
  rw [readsWithin, read] at within
  exact (Bool.and_eq_true_iff.mp (List.all_eq_true.mp within p member)).1

theorem stop_of_holds {dialect : Dialect} {text : List Char} {tree node : Tree}
    (within : readsWithin dialect text = true) (read : readModule dialect text = .ok tree)
    (holds : tree.Holds node) : isBoundary (withoutMark text) node.stop = true := by
  obtain ⟨p, member, rfl⟩ := holds
  rw [readsWithin, read] at within
  exact (Bool.and_eq_true_iff.mp (List.all_eq_true.mp within p member)).2

end Syntax

theorem readModule_of_readSource {file : String} {source : List Char} {tree : Tree}
    (read : readSource file source = .ok tree) :
    Syntax.readModule (dialectOf file) source = .ok tree := by
  unfold readSource at read
  split at read
  next _ found =>
    cases read
    exact found
  next => cases read

/-! ## Searching -/

namespace Search

variable (search : Search)

theorem position_of_shown {offset : Nat} {raw text : List Char} {token : TokenKind}
    {attributeName : Option String} {o : Occurrence}
    (member : o ∈ search.found offset raw text token attributeName) :
    o.position = Text.position search.source offset := by
  unfold found at member
  split at member
  next => exact absurd member List.not_mem_nil
  next =>
    cases List.mem_singleton.mp member
    rfl

/-- A stretch that can be cut out has boundaries between its characters. -/
theorem boundary_of_slice {span : Span} {raw : List Char} (cut : search.slice? span = some raw)
    {front rest : List Char} (parts : front ++ rest = raw) :
    isBoundary search.source (span.start + byteLength front) = true := by
  obtain ⟨before, after, same, length, -⟩ := (Text.slice?_eq_some_iff _ _ _ _).mp cut
  refine (Text.isBoundary_iff _ _).mpr ⟨before ++ front, rest ++ after, ?_, ?_⟩
  · rw [← same, ← parts]
    simp only [List.append_assoc]
  · rw [Text.byteLength_append, length]

theorem boundary_of_start {span : Span} {raw : List Char} (cut : search.slice? span = some raw) :
    isBoundary search.source span.start = true :=
  search.boundary_of_slice cut (List.nil_append raw)

/-- A candidate is found where the token of its node starts, and this is between two characters,
whatever the spans of the tree are. -/
theorem found_of_candidate {suppressed : Bool} {t : Tree} {c : Candidate}
    (member : .candidate c ∈ search.atNode suppressed t) :
    (∃ raw text token attributeName,
      .candidate c ∈ search.found (search.tokenStart t) raw text token attributeName) ∧
    isBoundary search.source (search.tokenStart t) = true := by
  unfold atNode at member
  split at member
  next value span children =>
    split at member
    · exact absurd member List.not_mem_nil
    · unfold ofString at member
      split at member
      next value quote rest cut =>
        split at member
        · exact ⟨⟨_, _, _, _, member⟩, search.boundary_of_start cut⟩
        · exact absurd member List.not_mem_nil
      next => exact absurd member List.not_mem_nil
  next span children =>
    split at member
    · exact absurd member List.not_mem_nil
    · unfold ofMarkupText at member
      split at member
      next raw cut =>
        obtain ⟨blanks, parts⟩ : ∃ blanks, blanks ++ Text.trimStart raw = raw :=
          List.dropWhile_suffix _
        have leading : byteLength raw - byteLength (Text.trimStart raw) = byteLength blanks := by
          have sum := congrArg byteLength parts
          rw [Text.byteLength_append] at sum
          omega
        rw [tokenStart, cut]
        refine ⟨⟨_, _, _, _, member⟩, ?_⟩
        dsimp only
        rw [leading]
        exact search.boundary_of_slice cut parts
      next => exact absurd member List.not_mem_nil
  next name inner span children rest =>
    split at member
    · exact absurd member List.not_mem_nil
    · unfold ofAttribute at member
      split at member
      next raw cut => exact ⟨⟨_, _, _, _, member⟩, search.boundary_of_start cut⟩
      next => exact absurd member List.not_mem_nil
  next span children =>
    split at member
    · exact absurd member (by simp [ofLookup])
    · exact absurd member List.not_mem_nil
  next => exact absurd member List.not_mem_nil

/-- A lookup is found where its call starts. -/
theorem found_of_lookup {suppressed : Bool} {t : Tree} {key : Option String}
    {position : Text.Position} (member : .lookup key position ∈ search.atNode suppressed t) :
    position = Text.position search.source t.start ∧ search.tokenStart t = t.start := by
  have found : Occurrence.lookup key position ∈
      (search.atNode suppressed t).filter (·.candidate?.isNone) :=
    List.mem_filter.mpr ⟨member, rfl⟩
  rw [lookups_atNode] at found
  split at found
  next asks =>
    refine ⟨(Occurrence.lookup.inj (List.mem_singleton.mp found)).2, ?_⟩
    obtain ⟨kind, span, children⟩ := t
    cases kind
    case call => rfl
    all_goals cases asks
  next => exact absurd found List.not_mem_nil

/-- What is found at a node is found at the position that is asked for there. -/
theorem position_atNode {suppressed : Bool} {t : Tree} {o : Occurrence}
    (member : o ∈ search.atNode suppressed t) :
    o.position = Text.position search.source (search.tokenStart t) := by
  cases o with
  | candidate c =>
    obtain ⟨⟨raw, text, token, attributeName, found⟩, -⟩ := search.found_of_candidate member
    exact search.position_of_shown found
  | lookup key position =>
    obtain ⟨placed, start⟩ := search.found_of_lookup member
    rw [start]
    exact placed

/-- A search asks for the position of everything that it finds, and for no other. -/
theorem positions_visit (t : Tree) : (search.visit false t).map Occurrence.position =
    (search.asked t).map fun a => Text.position a.text a.offset := by
  rw [visit_eq, asked, List.map_flatMap, List.map_flatMap]
  congr 1
  funext p
  rw [askedAt, List.map_map]
  refine List.map_congr_left fun o member => ?_
  unfold atSite at member
  split at member
  · exact absurd member List.not_mem_nil
  · exact search.position_atNode member

/-- Where the spans of a tree stand at boundaries, a search asks for positions that exist. -/
theorem isSound_of_asked {t : Tree}
    (spans : ∀ node, t.Holds node → isBoundary search.source node.start = true) {a : Asked}
    (member : a ∈ search.asked t) : a.isSound = true := by
  obtain ⟨p, site, member⟩ := List.mem_flatMap.mp member
  obtain ⟨o, found, rfl⟩ := List.mem_map.mp member
  unfold atSite at found
  split at found
  · exact absurd found List.not_mem_nil
  · cases o with
    | candidate c => exact (search.found_of_candidate found).2
    | lookup key position =>
      rw [Asked.isSound, (search.found_of_lookup found).2]
      exact spans p.node ⟨p, site, rfl⟩

end Search

/-! ## Reading -/

/-- A fault of a text without a mark is reported at a position that exists. -/
theorem askedByReading_isSound {file : String} {text : List Char}
    (unmarked : text.head? ≠ some '\uFEFF')
    (within : Syntax.readsWithin (dialectOf file) text = true) {a : Asked}
    (member : a ∈ askedByReading file text) : a.isSound = true := by
  unfold askedByReading at member
  split at member
  next => exact absurd member List.not_mem_nil
  next fault read =>
    cases List.mem_singleton.mp member
    rw [Syntax.readsWithin, read, Syntax.withoutMark_of_unmarked unmarked] at within
    dsimp only at within
    obtain ⟨front, rest, parts, length⟩ := (Text.isBoundary_iff _ _).mp within
    have le : fault.offset ≤ byteLength text := by
      rw [← parts, Text.byteLength_append, length]
      exact Nat.le_add_right _ _
    rw [Asked.isSound, Nat.min_eq_left le, within]

/-! ## Rewriting -/

/-- Edits that add no character in front leave the first one. -/
theorem Text.Spliced.head?_ne {text result : List Char} {edits : List Edit} {c : Char}
    (made : Spliced 0 text edits result) (other : text.head? ≠ some c)
    (inner : ∀ e ∈ edits, 0 < e.start ∨ ∃ first, e.code.toList.head? = some first ∧ first ≠ c) :
    result.head? ≠ some c := by
  cases made with
  | done => exact other
  | @edit _ gap range rest result e edits start stop made =>
    cases gap with
    | cons first gap => exact other
    | nil =>
      rcases inner e List.mem_cons_self with later | ⟨first, code, ne⟩
      · rw [start] at later
        exact absurd later (Nat.lt_irrefl 0)
      · rw [List.nil_append, List.head?_append, code]
        simpa using ne

/-- The brace of a component's body and its first statement start between two characters. -/
theorem Component.askedByIndent_isSound {tree : Tree} {source : List Char} (c : Component)
    (spans : ∀ node, tree.Holds node → isBoundary source node.start = true)
    (found : ofModule? tree = some c) {a : Asked} (member : a ∈ c.askedByIndent source) :
    a.isSound = true := by
  obtain ⟨body, held, made⟩ := exists_body found
  obtain ⟨offset, listed, rfl⟩ := List.mem_map.mp member
  rcases List.mem_append.mp listed with first | brace
  · rw [Option.mem_toList, made.firstStatement_eq] at first
    obtain ⟨statement, head, rfl⟩ := Option.map_eq_some_iff.mp first
    exact spans statement (held.child (List.mem_of_head? head))
  · rw [List.mem_singleton.mp brace, made.bodyStart_eq]
    exact spans body held

namespace RewriteRules

section

variable (rules : RewriteRules) (file : String) (source : List Char) (tree : Tree)
  (entries : List Entry) (d : Dictionary)

/-- No edit puts a mark in front. -/
theorem edits_unmarked {e : Edit} (member : e ∈ (rules.edits (rules.scene file source tree d) tree
      (rules.planFor file source tree entries d)).edits) :
    0 < e.start ∨ ∃ first, e.code.toList.head? = some first ∧ first ≠ '\uFEFF' := by
  obtain ⟨imports, accessors, made⟩ := rules.edits_madeOf file source tree d entries
    (rules.planFor file source tree entries d) (Plan.covers_ofEntries _ entries)
  rw [made.edits_eq] at member
  rcases List.mem_append.mp member with front | accessor
  · rcases List.mem_append.mp front with lookup | import_
    · -- A lookup stands in the component, behind its brace.
      obtain ⟨entry, -, applied⟩ := made.applied e lookup
      obtain ⟨component, -, behind, -⟩ := applied.within
      exact Or.inl (Nat.zero_lt_of_lt behind)
    · right
      obtain ⟨component, -, imported⟩ := made.imported e import_
      unfold Component.ImportedBy at imported
      split at imported
      next offset place =>
        refine ⟨'\n', ?_, by decide⟩
        rw [imported, Edit.insert, String.toList_append]
        rfl
      next place =>
        refine ⟨'i', ?_, by decide⟩
        rw [imported, Edit.insert, importStatement]
        simp only [String.toList_append]
        rfl
  · obtain ⟨component, -, entry, -, -, rfl⟩ := made.declared e accessor
    exact Or.inl (Nat.succ_pos _)

theorem patched_unmarked {content : List Char} (unmarked : source.head? ≠ some '\uFEFF')
    (patched : rules.patched? file source tree entries d = some content) :
    content.head? ≠ some '\uFEFF' := by
  unfold patched? at patched
  dsimp only at patched
  split at patched
  next =>
    have spliced := toOption_eq_some_iff.mp patched
    obtain ⟨ordered, perm, -, made⟩ := Text.splice_spliced _ _ _ spliced
    exact made.head?_ne unmarked fun e member =>
      rules.edits_unmarked file source tree entries d (perm.mem_iff.mp member)
  next => cases patched

/-- The text that is read again is the content that is handed back. -/
theorem patched_eq {tree : Tree} {r : Rewrite} {content : List Char}
    (read : readSource file source = .ok tree)
    (returned : rules.rewrite file source entries d = .ok r)
    (patched : rules.patched? file source tree entries d = some content) :
    r.content = String.ofList content := by
  obtain ⟨tree', read', made⟩ := (rewrite_eq_ok_iff ..).mp returned
  obtain rfl : tree = tree' := Except.ok.inj (read.symm.trans read')
  unfold patched? at patched
  dsimp only at patched
  split at patched
  next changed =>
    rcases make_cases _ _ _ made with ⟨none, -⟩ | ⟨-, content', again, spliced, -, rfl⟩
    · rw [Rewrite.isChanged, show (rules.edits _ _ (rules.planFor ..)).edits = [] from none] at changed
      cases changed
    · obtain rfl : content' = content :=
        Except.ok.inj (spliced.symm.trans (toOption_eq_some_iff.mp patched))
      rfl
  next => cases patched

/-- A rewrite asks only for positions that exist, if its source has no mark in front and the parser
stays at boundaries. With a mark, too, the positions of candidates exist. -/
theorem asked_isSound :
    (∀ p c, .candidate c ∈ Search.atSite ⟨rules.search, file, source⟩ p →
      ∀ a ∈ Search.askedAt ⟨rules.search, file, source⟩ p, a.isSound = true) ∧
    (source.head? ≠ some '\uFEFF' → Syntax.readsWithin (dialectOf file) source = true →
      (∀ tree, readSource file source = .ok tree →
        ∀ content ∈ rules.patched? file source tree entries d,
          Syntax.readsWithin (dialectOf file) content = true) →
      ∀ a ∈ rules.asked file source entries d, a.isSound = true) := by
  constructor
  · intro p c found a member
    obtain ⟨o, -, rfl⟩ := List.mem_map.mp member
    unfold Search.atSite at found
    split at found
    · exact absurd found List.not_mem_nil
    · exact (Search.found_of_candidate _ found).2
  · intro unmarked within again a member
    rcases List.mem_append.mp member with read | member
    · exact askedByReading_isSound unmarked within read
    · split at member
      · exact absurd member List.not_mem_nil
      next tree read =>
        have parsed := readModule_of_readSource read
        have spans (node : Tree) (held : tree.Holds node) : isBoundary source node.start = true :=
          Syntax.withoutMark_of_unmarked unmarked ▸ Syntax.start_of_holds within parsed held
        rcases List.mem_append.mp member with first | reread
        · rcases List.mem_append.mp first with searched | indented
          · exact Search.isSound_of_asked _ spans searched
          · split at indented
            · exact absurd indented List.not_mem_nil
            next =>
              obtain ⟨component, found, asked⟩ := List.mem_flatMap.mp indented
              rw [Option.mem_toList] at found
              exact component.askedByIndent_isSound spans found asked
        · obtain ⟨content, patched, member⟩ := List.mem_flatMap.mp reread
          rw [Option.mem_toList] at patched
          exact askedByReading_isSound
            (rules.patched_unmarked file source tree entries d unmarked patched)
            (again tree read content patched) member

end

/-- So it is with the sample: both modules are read at boundaries. -/
theorem asked_isSound_sample :
    Sample.source.head? ≠ some '\uFEFF' ∧
    Syntax.readsWithin (dialectOf "a.ts") Sample.source = true ∧
    ∀ a ∈ (ofSettings Sample.settings).asked "a.ts" Sample.source [Sample.inner, Sample.outer]
      Sample.tally.dictionary, a.isSound = true := by
  have unmarked : Sample.source.head? ≠ some '\uFEFF' := by decide
  have reads : Syntax.readsWithin (dialectOf "a.ts") Sample.source = true := by decide +kernel
  refine ⟨unmarked, reads, ((ofSettings Sample.settings).asked_isSound "a.ts" Sample.source
    [Sample.inner, Sample.outer] Sample.tally.dictionary).2 unmarked reads ?_⟩
  intro tree read content patched
  have same := patched_eq _ _ _ _ _ read Sample.rewrite_source patched
  have again : Syntax.readsWithin (dialectOf "a.ts") Sample.rewritten.content.toList = true := by
    decide +kernel
  rwa [same, String.toList_ofList] at again

/-! Spans count from behind a mark, so that the call in `;t('x')` behind one is asked for inside the
mark. -/

namespace Marked

def source : List Char := '\uFEFF' :: ";t('x')".toList

end Marked

/-- A search asks for a position that does not exist, though the parser stays at boundaries. -/
theorem asked_unsound : Syntax.readsWithin (dialectOf "a.ts") Marked.source = true ∧
    ∃ tree, readSource "a.ts" Marked.source = .ok tree ∧
      ∃ a ∈ Search.asked ⟨.ofSettings .standard, "a.ts", Marked.source⟩ tree,
        a.offset = 1 ∧ a.isSound = false := by
  refine ⟨by decide +kernel, ?_⟩
  have asking : (readSource "a.ts" Marked.source).toOption.map (fun tree =>
      (Search.asked ⟨.ofSettings .standard, "a.ts", Marked.source⟩ tree).map fun a =>
        (a.offset, a.isSound)) = some [(1, false)] := by
    decide +kernel
  obtain ⟨tree, read, asked⟩ := exists_of_map_toOption asking
  obtain ⟨a, member, same⟩ := List.mem_map.mp (asked ▸ List.mem_singleton_self _)
  exact ⟨tree, read, a, member, Prod.mk.inj same⟩

end RewriteRules

end Phrasebook
