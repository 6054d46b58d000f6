import Phrasebook.Proofs.Candidate.Standing
import Phrasebook.Rewrite.Plan

/-!
# Where an entry finds its token

The tokens of a source stand in the order of their positions, and a position has one offset. So an
entry that can be applied has one token: that at the recorded position or, if none that fits stands
there and the entry is looked up nowhere, the leftmost one on the recorded line that fits.
-/

namespace Phrasebook

open Text (Edit byteLength)

/-! ## Tokens -/

theorem mem_tokensOf (source : List Char) (found : List Occurrence) (t : Token) :
    t ∈ tokensOf source found ↔ ∃ c, .candidate c ∈ found ∧
      Text.offset? source c.position = some t.offset ∧
      t = ⟨t.offset, c.position, c.raw, c.token⟩ := by
  rw [tokensOf, List.mem_filterMap]
  simp only [Search.mem_candidates_iff, Option.map_eq_some_iff]
  constructor
  · rintro ⟨c, member, offset, placed, rfl⟩
    exact ⟨c, member, placed, rfl⟩
  · rintro ⟨c, member, placed, same⟩
    exact ⟨c, member, t.offset, placed, same.symm⟩

/-- What a rewrite reads of an occurrence. -/
def Occurrence.seen? : Occurrence → Option (Text.Position × String × TokenKind)
  | candidate c => some (c.position, c.raw, c.token)
  | lookup .. => none

theorem tokensOf_eq (source : List Char) (found : List Occurrence) :
    tokensOf source found = (found.filterMap Occurrence.seen?).filterMap fun (p, raw, kind) =>
      (Text.offset? source p).map fun offset => ⟨offset, p, raw, kind⟩ := by
  rw [tokensOf, List.filterMap_filterMap, List.filterMap_filterMap]
  congr 1
  funext o
  cases o <;> rfl

theorem Token.fits_iff (t : Token) (c : Candidate) :
    t.fits c = true ↔ t.position.line = c.position.line ∧ t.kind = c.token ∧ t.raw = c.raw := by
  simp only [Token.fits, Bool.and_eq_true, beq_iff_eq, decide_eq_true_eq, and_assoc]

theorem locate_eq_exact_iff (tokens : List Token) (c : Candidate) (offset : Nat) :
    locate tokens c = .exact offset ↔ ∃ t, (tokens.filter (·.fits c)).find?
      (fun t => t.position.column == c.position.column) = some t ∧ t.offset = offset := by
  simp only [locate]
  split
  next t found => simp [found]
  next none => split <;> simp [none]

theorem locate_eq_moved_iff (tokens : List Token) (c : Candidate) (offset : Nat) :
    locate tokens c = .moved offset ↔ (tokens.filter (·.fits c)).find?
      (fun t => t.position.column == c.position.column) = none ∧
      ∃ t, (tokens.filter (·.fits c)).head? = some t ∧ t.offset = offset := by
  simp only [locate]
  split
  next t found => simp [found]
  next none =>
    split
    next t rest first =>
      rw [first] at none ⊢
      simp only [none, Located.moved.injEq, List.head?_cons, Option.some.injEq, true_and,
        exists_eq_left']
    next empty =>
      simp only [empty, reduceCtorEq, List.head?_nil, false_and, exists_false, and_false]

/-- A token that is located is one of the tokens, and fits. -/
theorem locate_fits (tokens : List Token) (c : Candidate) (offset : Nat)
    (located : locate tokens c = .exact offset ∨ locate tokens c = .moved offset) :
    ∃ t ∈ tokens, t.fits c = true ∧ t.offset = offset := by
  rcases located with recorded | moved
  · obtain ⟨t, found, same⟩ := (locate_eq_exact_iff _ _ _).mp recorded
    obtain ⟨member, fits⟩ := List.mem_filter.mp (List.mem_of_find?_eq_some found)
    exact ⟨t, member, fits, same⟩
  · obtain ⟨-, t, first, same⟩ := (locate_eq_moved_iff _ _ _).mp moved
    obtain ⟨member, fits⟩ := List.mem_filter.mp (List.mem_of_head? first)
    exact ⟨t, member, fits, same⟩

/-! ## Entries that can be applied -/

namespace RewriteScene

variable (scene : RewriteScene) (e : Entry)

theorem start?_eq_ok_iff (offset : Nat) :
    scene.start? e = .ok offset ↔ locate scene.tokens e.candidate = .exact offset ∨
      locate scene.tokens e.candidate = .moved offset ∧ scene.holdsLookup e = false := by
  unfold start?
  cases locate scene.tokens e.candidate with
  | exact found => simp
  | moved found => cases scene.holdsLookup e <;> simp
  | missing => simp

theorem start?_fits (offset : Nat) (started : scene.start? e = .ok offset) :
    ∃ t ∈ scene.tokens, t.fits e.candidate = true ∧ t.offset = offset := by
  rcases (scene.start?_eq_ok_iff e offset).mp started with recorded | ⟨moved, -⟩
  · exact locate_fits _ _ _ (Or.inl recorded)
  · exact locate_fits _ _ _ (Or.inr moved)

theorem inScope_iff (offset : Nat) :
    scene.inScope offset = true ↔
      ∃ c, scene.component = some c ∧ c.bodyStart < offset ∧ offset < c.bodyStop := by
  simp only [inScope, Option.any_eq_true, Bool.and_eq_true, decide_eq_true_eq]

/-- The edit of an entry: its key has a text, its token starts within the component, and the token
is replaced by what the entry says. -/
theorem edit?_eq_ok_iff (edit : Edit) :
    scene.edit? e = .ok edit ↔ ∃ start, (scene.text? e.key).isSome = true ∧
      scene.start? e = .ok start ∧ scene.inScope start = true ∧
      edit = ⟨start, start + byteLength e.candidate.raw.toList, e.replacement⟩ := by
  unfold edit?
  cases scene.text? e.key with
  | none => simp
  | some text =>
    cases scene.start? e with
    | error reason => simp [bind, Except.bind]
    | ok start =>
      cases within : scene.inScope start with
      | false => simp [bind, Except.bind, within]
      | true =>
        simp only [Option.isNone_some, Bool.false_eq_true, ↓reduceIte, bind, Except.bind, within,
          pure, Except.pure, Except.ok.injEq, Option.isSome_some, true_and]
        constructor
        · rintro rfl
          exact ⟨start, rfl, within, rfl⟩
        · rintro ⟨_, rfl, -, rfl⟩
          rfl

end RewriteScene

/-! ## The token of an entry -/

/-- Tokens in the order of their positions, at offsets that their positions decide. -/
structure RewriteScene.Ordered (scene : RewriteScene) : Prop where
  sorted : scene.tokens.Pairwise fun t u => u.position.before t.position = false
  placed : ∀ t ∈ scene.tokens, ∀ u ∈ scene.tokens, t.position = u.position → t.offset = u.offset

/-- A token is that of an entry: it fits, it starts within the component, the entry's key has a
text, and the token stands where the entry was recorded or, if none that fits stands there and the
source holds no lookup of the entry, leftmost among those that fit. -/
structure RewriteScene.TokenOf (scene : RewriteScene) (e : Entry) (t : Token) : Prop where
  member : t ∈ scene.tokens
  fits : t.fits e.candidate = true
  keyed : (scene.text? e.key).isSome = true
  within : scene.inScope t.offset = true
  chosen : t.position = e.candidate.position ∨ scene.holdsLookup e = false ∧
    ∀ u ∈ scene.tokens, u.fits e.candidate = true →
      u.position ≠ e.candidate.position ∧ t.position.column ≤ u.position.column

theorem Token.position_eq_iff (t : Token) (c : Candidate) (fits : t.fits c = true) :
    t.position = c.position ↔ t.position.column = c.position.column := by
  have line := ((t.fits_iff c).mp fits).1
  exact ⟨congrArg _, Text.Position.ext line⟩

/-- The tokens of a source stand in order. -/
theorem tokensOf_sorted (source : List Char) (found : List Occurrence)
    (sorted : found.Pairwise fun a b => b.position.before a.position = false) :
    (tokensOf source found).Pairwise fun t u => u.position.before t.position = false := by
  rw [tokensOf, List.filterMap_filterMap, List.pairwise_filterMap]
  refine sorted.imp fun {a b} ordered t first u second => ?_
  simp only [Option.bind_eq_some_iff, Option.map_eq_some_iff] at first second
  obtain ⟨c, plain, offset, -, rfl⟩ := first
  obtain ⟨c', plain', offset', -, rfl⟩ := second
  cases a <;> cases plain
  cases b <;> cases plain'
  exact ordered

theorem tokensOf_placed (source : List Char) (found : List Occurrence) :
    ∀ t ∈ tokensOf source found, ∀ u ∈ tokensOf source found, t.position = u.position →
      t.offset = u.offset := by
  intro t first u second same
  obtain ⟨c, -, placed, known⟩ := (mem_tokensOf _ _ _).mp first
  obtain ⟨c', -, placed', known'⟩ := (mem_tokensOf _ _ _).mp second
  rw [known, known'] at same
  dsimp only at same
  rw [same, placed'] at placed
  exact (Option.some.inj placed).symm

theorem tokensOf_position (source : List Char) (found : List Occurrence) :
    ∀ t ∈ tokensOf source found, Text.position source t.offset = t.position := by
  intro t member
  obtain ⟨c, -, placed, known⟩ := (mem_tokensOf _ _ _).mp member
  rw [Text.position_of_offset? placed, known]

theorem tokensOf_offset (source : List Char) (found : List Occurrence) :
    ∀ t ∈ tokensOf source found, ∀ u ∈ tokensOf source found, t.offset = u.offset →
      t.position = u.position := by
  intro t first u second same
  rw [← tokensOf_position source found t first, same, tokensOf_position source found u second]

/-- A search yields what it finds in order. -/
theorem occurrencesIn_sorted (rules : SearchRules) (file : String) (source : List Char)
    (tree : Syntax.Tree) : (occurrencesIn rules file source tree).Pairwise fun a b =>
      b.position.before a.position = false :=
  Text.sorted_mergeSort (fun a b : Occurrence => b.position.before a.position)
    (fun _ _ _ first second => Text.Position.not_before_trans second first)
    (fun _ _ => Text.Position.not_before_total _ _) _

namespace RewriteScene

variable {scene : RewriteScene}

/-- The first of the tokens that fit is the leftmost one. -/
theorem Ordered.head_leftmost (ordered : scene.Ordered) (c : Candidate) (t : Token)
    (first : (scene.tokens.filter (·.fits c)).head? = some t) (u : Token)
    (member : u ∈ scene.tokens) (fits : u.fits c = true) :
    t.position.column ≤ u.position.column := by
  obtain ⟨rest, split⟩ := List.head?_eq_some_iff.mp first
  have inside : u ∈ t :: rest := split ▸ List.mem_filter.mpr ⟨member, fits⟩
  have sorted : (t :: rest).Pairwise fun t u => u.position.before t.position = false :=
    split ▸ ordered.sorted.filter _
  have fitting : t.fits c = true := (List.mem_filter.mp (List.mem_of_head? first)).2
  rcases List.mem_cons.mp inside with rfl | later
  · exact Nat.le_refl _
  · have after := (List.pairwise_cons.mp sorted).1 u later
    have line := ((t.fits_iff c).mp fitting).1
    have line' := ((u.fits_iff c).mp fits).1
    rw [← Bool.not_eq_true, Text.Position.before_iff] at after
    omega

/-- A token that fits and stands at the recorded position is the one that is located. -/
theorem Ordered.locate_of_standing (ordered : scene.Ordered) (c : Candidate) (t : Token)
    (member : t ∈ scene.tokens) (fits : t.fits c = true) (here : t.position = c.position) :
    locate scene.tokens c = .exact t.offset := by
  have fitting : t ∈ scene.tokens.filter (·.fits c) := List.mem_filter.mpr ⟨member, fits⟩
  have column := (t.position_eq_iff c fits).mp here
  -- Some token is found at the recorded column; it stands where `t` does, so it has its offset.
  cases found : (scene.tokens.filter (·.fits c)).find?
      fun t => t.position.column == c.position.column with
  | none => exact absurd (beq_iff_eq.mpr column) (List.find?_eq_none.mp found t fitting)
  | some u =>
    obtain ⟨member', fits'⟩ := List.mem_filter.mp (List.mem_of_find?_eq_some found)
    have column' : u.position.column = c.position.column := by
      simpa using List.find?_some found
    have same := (u.position_eq_iff c fits').mpr column'
    exact (locate_eq_exact_iff _ _ _).mpr
      ⟨u, found, ordered.placed u member' t member (same.trans here.symm)⟩

/-- An entry's token is where the entry is applied. -/
theorem Ordered.start?_of_tokenOf (ordered : scene.Ordered) {e : Entry} {t : Token}
    (token : scene.TokenOf e t) : scene.start? e = .ok t.offset := by
  have fitting : t ∈ scene.tokens.filter (·.fits e.candidate) :=
    List.mem_filter.mpr ⟨token.member, token.fits⟩
  rw [start?_eq_ok_iff]
  rcases token.chosen with here | ⟨absent, leftmost⟩
  · exact Or.inl (ordered.locate_of_standing e.candidate t token.member token.fits here)
  · -- None is, and the first token that fits is as far left as `t`, so it is at its place.
    refine Or.inr ⟨(locate_eq_moved_iff _ _ _).mpr ⟨?_, ?_⟩, absent⟩
    · refine List.find?_eq_none.mpr fun u inside column => ?_
      obtain ⟨member, fits⟩ := List.mem_filter.mp inside
      exact (leftmost u member fits).1
        ((u.position_eq_iff e.candidate fits).mpr (beq_iff_eq.mp column))
    · cases first : (scene.tokens.filter (·.fits e.candidate)).head? with
      | none =>
        rw [List.head?_eq_none_iff] at first
        rw [first] at fitting
        cases fitting
      | some u =>
        obtain ⟨member, fits⟩ := List.mem_filter.mp (List.mem_of_head? first)
        have left := ordered.head_leftmost e.candidate u first t token.member token.fits
        have right := (leftmost u member fits).2
        refine ⟨u, rfl, ordered.placed u member t token.member ?_⟩
        exact Text.Position.ext
          (((u.fits_iff _).mp fits).1.trans ((t.fits_iff _).mp token.fits).1.symm)
          (Nat.le_antisymm left right)

/-- Where an entry is applied its token stands. -/
theorem Ordered.exists_tokenOf (ordered : scene.Ordered) {e : Entry} {edit : Edit}
    (found : scene.edit? e = .ok edit) : ∃ t, scene.TokenOf e t ∧ t.offset = edit.start := by
  obtain ⟨start, keyed, started, inside, rfl⟩ := (scene.edit?_eq_ok_iff e edit).mp found
  rcases (scene.start?_eq_ok_iff e start).mp started with recorded | ⟨moved, absent⟩
  · obtain ⟨t, there, rfl⟩ := (locate_eq_exact_iff _ _ _).mp recorded
    obtain ⟨member, fits⟩ := List.mem_filter.mp (List.mem_of_find?_eq_some there)
    have column : t.position.column = e.candidate.position.column := by
      simpa using List.find?_some there
    exact ⟨t, ⟨member, fits, keyed, inside, Or.inl ((t.position_eq_iff _ fits).mpr column)⟩, rfl⟩
  · obtain ⟨none, t, first, rfl⟩ := (locate_eq_moved_iff _ _ _).mp moved
    obtain ⟨member, fits⟩ := List.mem_filter.mp (List.mem_of_head? first)
    refine ⟨t, ⟨member, fits, keyed, inside, Or.inr ⟨absent, fun u known fitting => ⟨fun same => ?_,
      ordered.head_leftmost e.candidate t first u known fitting⟩⟩⟩, rfl⟩
    exact List.find?_eq_none.mp none u (List.mem_filter.mpr ⟨known, fitting⟩)
      (beq_iff_eq.mpr ((u.position_eq_iff _ fitting).mp same))

/-- The entries that can be applied are those that have a token. -/
theorem Ordered.edit?_isOk_iff (ordered : scene.Ordered) (e : Entry) :
    (∃ edit, scene.edit? e = .ok edit) ↔ ∃ t, scene.TokenOf e t := by
  constructor
  · rintro ⟨edit, found⟩
    obtain ⟨t, token, -⟩ := ordered.exists_tokenOf found
    exact ⟨t, token⟩
  · rintro ⟨t, token⟩
    exact ⟨_, (scene.edit?_eq_ok_iff e _).mpr
      ⟨t.offset, token.keyed, ordered.start?_of_tokenOf token, token.within, rfl⟩⟩

end RewriteScene

end Phrasebook
