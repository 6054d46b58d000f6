import Mathlib.Data.List.Nodup
import Phrasebook.Proofs.Candidate.Reading
import Phrasebook.Proofs.Text.Positions

/-!
# Candidates stand in their source

The token of every candidate that a search finds is what the source holds at the candidate's
position, whatever tree is searched: a stretch that cannot be cut out yields no candidate. Where the
texts of the tree do not overlap, no two candidates share a position.
-/

namespace Phrasebook

open Syntax (Tree Span)
open Text (byteLength isBoundary)

/-- The source holds the token of a candidate from a byte offset on, and the candidate's position is
that of the offset. -/
structure Candidate.StandsAt (source : List Char) (c : Candidate) (offset : Nat) : Prop where
  position_eq : c.position = Text.position source offset
  slice_eq : Text.slice? source offset (offset + byteLength c.raw.toList) = some c.raw.toList
  raw_ne : c.raw.toList ≠ []

theorem Candidate.StandsAt.boundary {source : List Char} {c : Candidate} {offset : Nat}
    (stands : c.StandsAt source offset) : isBoundary source offset = true := by
  obtain ⟨front, rest, cut, length, -⟩ := (Text.slice?_eq_some_iff _ _ _ _).mp stands.slice_eq
  exact (Text.isBoundary_iff _ _).mpr ⟨front, _, cut, length⟩

/-! ## Texts of a tree -/

/-- The stretches of two nodes do not overlap. -/
def Syntax.Tree.Apart (a b : Tree) : Prop := a.stop ≤ b.start ∨ b.stop ≤ a.start

instance (a b : Tree) : Decidable (a.Apart b) := inferInstanceAs (Decidable (_ ∨ _))

/-- A candidate is read from a text: it stands within the text's stretch, and only the value of an
attribute may start with a line feed, if its stretch does. -/
structure Candidate.ReadFrom (source : List Char) (c : Candidate) (text : Tree) (offset : Nat) :
    Prop extends c.StandsAt source offset where
  start_le : text.start ≤ offset
  le_stop : offset + byteLength c.raw.toList ≤ text.stop
  feed : c.raw.toList.head? = some '\n' → text.kind = .attributeText ∧
    Text.slice? source text.start text.stop = some c.raw.toList

/-- Candidates that are read from texts that do not overlap have different positions. -/
theorem Candidate.ReadFrom.position_ne {source : List Char} {c c' : Candidate} {text text' : Tree}
    {offset offset' : Nat} (first : c.ReadFrom source text offset)
    (second : c'.ReadFrom source text' offset') (apart : text.Apart text') :
    c.position ≠ c'.position := by
  intro same
  rw [first.position_eq, second.position_eq] at same
  have equal := Text.position_injective first.boundary second.boundary same
  have size : byteLength c.raw.toList ≠ 0 := fun none =>
    first.raw_ne ((Text.byteLength_eq_zero _).mp none)
  have size' : byteLength c'.raw.toList ≠ 0 := fun none =>
    second.raw_ne ((Text.byteLength_eq_zero _).mp none)
  have := first.start_le
  have := first.le_stop
  have := second.start_le
  have := second.le_stop
  rcases apart with earlier | later <;> omega

namespace Search

variable {search : Search}

/-! ## Readings -/

/-- Where a reading yields anything, it yields one candidate, which is read from the node. -/
def Yields (source : List Char) (found : List Occurrence) (text : Tree) : Prop :=
  found = [] ∨ ∃ c offset, found = [.candidate c] ∧ c.ReadFrom source text offset

theorem found_yields {offset : Nat} {raw text : List Char} {token : TokenKind}
    {attributeName : Option String} (node : Tree) (visible : text ≠ [] → raw ≠ [])
    (cut : Text.slice? search.source offset (offset + byteLength raw) = some raw)
    (start_le : node.start ≤ offset) (le_stop : offset + byteLength raw ≤ node.stop)
    (feed : raw.head? = some '\n' → node.kind = .attributeText ∧
      Text.slice? search.source node.start node.stop = some raw) :
    Yields search.source (search.found offset raw text token attributeName) node := by
  unfold found
  split
  next => exact Or.inl rfl
  next shown =>
    rw [List.isEmpty_iff] at shown
    refine Or.inr ⟨_, offset, rfl, ⟨rfl, ?_, ?_⟩, start_le, ?_, fun first => ?_⟩
    · simpa using cut
    · simpa using visible shown
    · simpa using le_stop
    · simpa using feed (by simpa using first)

theorem trimEnd_isPrefix (text : List Char) : Text.trimEnd text <+: text := by
  have suffix : text.reverse.dropWhile Unicode.isBlank <:+ text.reverse := List.dropWhile_suffix _
  simpa [Text.trimEnd] using suffix.reverse

/-- A text without the blanks around it does not start with a line feed. -/
theorem head?_trim_ne (text : List Char) :
    (Text.trimEnd (Text.trimStart text)).head? ≠ some '\n' := by
  intro first
  obtain ⟨rest, shown⟩ := List.head?_eq_some_iff.mp first
  obtain ⟨more, body⟩ := trimEnd_isPrefix (Text.trimStart text)
  rw [shown] at body
  have visible := List.head?_dropWhile_not Unicode.isBlank text
  rw [Text.trimStart] at body
  rw [← body] at visible
  change Unicode.isBlank '\n' = false at visible
  exact absurd visible (by decide)

theorem ofString_yields (span : Span) (value : Option String) (children : List Tree) :
    Yields search.source (search.ofString span value)
      (.node (.stringLiteral value) span children) := by
  unfold ofString
  split
  next value quote rest cut =>
    split
    next quoted =>
      obtain ⟨front, tail, same, length, stop⟩ := (Text.slice?_eq_some_iff _ _ _ _).mp cut
      refine found_yields _ (fun _ => by simp) ?_ (Nat.le_refl _) (Nat.le_of_eq stop.symm)
        fun feed => ?_
      · exact (Text.slice?_eq_some_iff _ _ _ _).mpr ⟨front, tail, same, length, rfl⟩
      · cases feed
        exact absurd quoted (by decide)
    next => exact Or.inl rfl
  next => exact Or.inl rfl

theorem ofAttribute_yields (name : String) (span : Span) (children : List Tree) :
    Yields search.source (search.ofAttribute name span) (.node .attributeText span children) := by
  unfold ofAttribute
  split
  next raw cut =>
    obtain ⟨front, tail, same, length, stop⟩ := (Text.slice?_eq_some_iff _ _ _ _).mp cut
    refine found_yields _ (fun shown => ?_) ?_ (Nat.le_refl _) (Nat.le_of_eq stop.symm)
      fun _ => ⟨rfl, cut⟩
    · rintro rfl
      exact shown (by decide)
    · exact (Text.slice?_eq_some_iff _ _ _ _).mpr ⟨front, tail, same, length, rfl⟩
  next => exact Or.inl rfl

theorem ofMarkupText_yields (span : Span) (children : List Tree) :
    Yields search.source (search.ofMarkupText span) (.node .markupText span children) := by
  unfold ofMarkupText
  split
  next raw cut =>
    obtain ⟨front, tail, same, length, stop⟩ := (Text.slice?_eq_some_iff _ _ _ _).mp cut
    -- The token starts as many bytes into the stretch as the blanks before it take.
    obtain ⟨blanks, split⟩ : ∃ blanks, blanks ++ Text.trimStart raw = raw :=
      List.dropWhile_suffix _
    obtain ⟨more, body⟩ := trimEnd_isPrefix (Text.trimStart raw)
    have sum := congrArg byteLength split
    have size := congrArg byteLength body
    rw [Text.byteLength_append] at sum size
    have leading : byteLength raw - byteLength (Text.trimStart raw) = byteLength blanks := by omega
    refine found_yields _ (fun shown none => ?_) ?_ (Nat.le_add_right _ _) ?_
      fun feed => absurd feed (head?_trim_ne raw)
    · rw [none] at shown
      exact shown (by decide)
    · refine (Text.slice?_eq_some_iff _ _ _ _).mpr ⟨front ++ blanks, more ++ tail, ?_, ?_, rfl⟩
      · calc front ++ blanks ++ (Text.trimEnd (Text.trimStart raw) ++ (more ++ tail))
            = front ++ (blanks ++ (Text.trimEnd (Text.trimStart raw) ++ more) ++ tail) := by
              simp only [List.append_assoc]
          _ = search.source := by rw [body, split, same]
      · rw [Text.byteLength_append, length, leading]
    · change span.start + _ + _ ≤ span.stop
      omega
  next => exact Or.inl rfl

/-! ## What is found -/

/-- The candidates among what was found. -/
theorem mem_candidates_iff (found : List Occurrence) (c : Candidate) :
    c ∈ found.filterMap Occurrence.candidate? ↔ .candidate c ∈ found := by
  rw [List.mem_filterMap]
  constructor
  · rintro ⟨o, member, plain⟩
    cases o <;> cases plain
    exact member
  · intro member
    exact ⟨.candidate c, member, rfl⟩

/-- Candidates are read from texts, and no two share a position if the texts do not overlap. -/
structure FoundIn (source : List Char) (found : List Occurrence) (texts : List Tree) : Prop where
  read : ∀ c, .candidate c ∈ found → ∃ text ∈ texts, ∃ offset, c.ReadFrom source text offset
  distinct : texts.Pairwise Tree.Apart →
    ((found.filterMap Occurrence.candidate?).map Candidate.position).Nodup

theorem Yields.foundIn {source : List Char} {found : List Occurrence} {text : Tree}
    (yields : Yields source found text) : FoundIn source found [text] := by
  rcases yields with rfl | ⟨c, offset, rfl, reads⟩
  · exact ⟨fun c member => absurd member List.not_mem_nil, fun _ => List.nodup_nil⟩
  · refine ⟨fun c' member => ?_, fun _ => List.nodup_singleton c.position⟩
    cases List.mem_singleton.mp member
    exact ⟨text, List.mem_singleton_self text, offset, reads⟩

theorem FoundIn.append {source : List Char} {found others : List Occurrence}
    {texts more : List Tree} (first : FoundIn source found texts)
    (second : FoundIn source others more) : FoundIn source (found ++ others) (texts ++ more) where
  read := fun c member => by
    rcases List.mem_append.mp member with here | there
    · obtain ⟨text, inside, reads⟩ := first.read c here
      exact ⟨text, List.mem_append_left _ inside, reads⟩
    · obtain ⟨text, inside, reads⟩ := second.read c there
      exact ⟨text, List.mem_append_right _ inside, reads⟩
  distinct := fun apart => by
    obtain ⟨left, right, across⟩ := List.pairwise_append.mp apart
    rw [List.filterMap_append, List.map_append, List.nodup_append]
    refine ⟨first.distinct left, second.distinct right, fun p here q there same => ?_⟩
    obtain ⟨c, member, rfl⟩ := List.mem_map.mp here
    obtain ⟨c', member', rfl⟩ := List.mem_map.mp there
    rw [mem_candidates_iff] at member member'
    obtain ⟨text, inside, offset, reads⟩ := first.read c member
    obtain ⟨text', inside', offset', reads'⟩ := second.read c' member'
    exact reads.position_ne reads' (across text inside text' inside') same

theorem foundIn_readings : search.HoldsOfReadings (FoundIn search.source) where
  nothing := fun _ => ⟨fun _ member => absurd member List.not_mem_nil, fun _ => List.nodup_nil⟩
  both := fun _ _ _ _ first second => first.append second
  strings := fun span value children => (ofString_yields span value children).foundIn
  attributes := fun name span children => (ofAttribute_yields name span children).foundIn
  texts := fun span children => (ofMarkupText_yields span children).foundIn
  lookups := fun _ _ _ =>
    ⟨fun _ member => (nomatch List.mem_singleton.mp member), fun _ => List.nodup_nil⟩

end Search

section

variable (rules : SearchRules) (file : String) (source : List Char) (tree : Tree)

/-- The candidates of a source are read from the texts of its tree. -/
theorem occurrencesIn_foundIn :
    Search.FoundIn source (occurrencesIn rules file source tree) tree.texts := by
  have readings : (Search.mk rules file source).HoldsOfReadings (Search.FoundIn source) :=
    Search.foundIn_readings
  have visited := Search.holds_visit readings false tree
  have perm := occurrencesIn_perm rules file source tree
  exact {
    read := fun c member => visited.read c (perm.mem_iff.mp member)
    distinct := fun apart =>
      ((perm.filterMap _).map _).nodup_iff.mpr (visited.distinct apart) }

/-- A tree whose texts can be told apart: they do not overlap, and the values of attributes start
with a quote. -/
structure Syntax.Tree.Legible (source : List Char) (tree : Tree) : Prop where
  apart : tree.texts.Pairwise Tree.Apart
  quoted : ∀ text ∈ tree.texts, text.kind = .attributeText →
    ∀ raw ∈ Text.slice? source text.start text.stop, raw.head? = some '"' ∨ raw.head? = some '\''

/-- The position of a candidate that is read from a legible tree has an offset, where the candidate
stands. -/
theorem Candidate.ReadFrom.offset?_eq {source : List Char} {tree : Tree}
    (legible : tree.Legible source) {c : Candidate} {text : Tree} {offset : Nat}
    (member : text ∈ tree.texts) (reads : c.ReadFrom source text offset) :
    Text.offset? source c.position = some offset := by
  obtain ⟨front, rest, cut, length, -⟩ := (Text.slice?_eq_some_iff _ _ _ _).mp reads.slice_eq
  obtain ⟨first, others, raw⟩ := List.exists_cons_of_ne_nil reads.raw_ne
  have plain : first ≠ '\n' := by
    rintro rfl
    obtain ⟨value, whole⟩ := reads.feed (by rw [raw]; rfl)
    have quoted := legible.quoted text member value _ whole
    rw [raw, List.head?_cons] at quoted
    exact absurd quoted (by decide)
  rw [raw, List.cons_append] at cut
  rw [reads.position_eq, ← cut, ← length]
  exact Text.offset?_append front (others ++ rest) first plain

/-- Whatever tree of a source is searched, the candidates found stand in the source. -/
theorem occurrencesIn_standing (c : Candidate)
    (member : .candidate c ∈ occurrencesIn rules file source tree) :
    ∃ offset, c.StandsAt source offset := by
  obtain ⟨text, -, offset, reads⟩ := (occurrencesIn_foundIn rules file source tree).read c member
  exact ⟨offset, reads.toStandsAt⟩

end

end Phrasebook
