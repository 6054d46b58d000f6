import Phrasebook.Proofs.Rewrite.Claiming

/-!
# Who gets a token that still stands

A token that stands where an entry was recorded is that entry's, but another entry may be moved to
it: one that was recorded further right on the line, lost its own token and is looked up nowhere. As
entries that stand later are planned first, such an entry gets the token.
-/

namespace Phrasebook

open Text (Edit byteLength)

/-- An entry that is moved to a token from further right on its line: its own token is gone, the
token is leftmost among those that fit, and the source holds no lookup of the entry. -/
structure RewriteScene.MovedTo (scene : RewriteScene) (e : Entry) (t : Token) : Prop where
  line : e.candidate.position.line = t.position.line
  right : t.position.column < e.candidate.position.column
  gone : ∀ u ∈ scene.tokens, u.fits e.candidate = true →
    u.position ≠ e.candidate.position ∧ t.position.column ≤ u.position.column
  absent : scene.holdsLookup e = false

/-- A rewrite gives a token to an entry, the last recorded of those that ask for it. -/
structure Rewrite.Gives (rules : RewriteRules) (file : String) (source : List Char)
    (tree : Syntax.Tree) (d : Dictionary) (r : Rewrite) (entries : List Entry) (t : Token)
    (winner : Entry) : Prop where
  asks : (rules.scene file source tree d).Asks winner t.offset
  applied : ∃ edit ∈ r.edits, edit.start = t.offset ∧
    winner.AppliedBy rules file source tree d edit
  last : ∀ other ∈ entries, (rules.scene file source tree d).Asks other t.offset →
    other = winner ∨ other.candidate.position.before winner.candidate.position = true

namespace RewriteScene

variable {scene : RewriteScene}

/-- An entry asks for the start of its token. -/
theorem Ordered.edit?_of_tokenOf (ordered : scene.Ordered) {e : Entry} {t : Token}
    (token : scene.TokenOf e t) :
    scene.edit? e =
      .ok ⟨t.offset, t.offset + byteLength e.candidate.raw.toList, e.replacement⟩ :=
  (scene.edit?_eq_ok_iff e _).mpr
    ⟨t.offset, token.keyed, ordered.start?_of_tokenOf token, token.within, rfl⟩

/-- Whoever asks for the start of a token that stands where an entry was recorded, from no earlier
place than that, is recorded there too or moved. -/
theorem Ordered.moved_of_asks (ordered : scene.Ordered)
    (placed : ∀ t ∈ scene.tokens, ∀ u ∈ scene.tokens, t.offset = u.offset → t.position = u.position)
    {winner e : Entry} {t : Token} (token : scene.TokenOf e t)
    (here : t.position = e.candidate.position) (asks : scene.Asks winner t.offset)
    (after : winner.candidate.position.before e.candidate.position = false) :
    winner.candidate.position = e.candidate.position ∨ scene.MovedTo winner t := by
  obtain ⟨edit, found, start⟩ := asks
  obtain ⟨u, claimed, offset⟩ := ordered.exists_tokenOf found
  have same : u.position = t.position :=
    placed u claimed.member t token.member (offset.trans start)
  rcases claimed.chosen with recorded | ⟨absent, leftmost⟩
  · exact Or.inl (recorded.symm.trans (same.trans here))
  · by_cases there : winner.candidate.position = e.candidate.position
    · exact Or.inl there
    · have line := ((u.fits_iff _).mp claimed.fits).1
      rw [same] at line leftmost
      have further := Text.Position.before_of_ne after there
      rw [← here, Text.Position.before_iff] at further
      exact Or.inr ⟨line.symm, by omega, leftmost, absent⟩

end RewriteScene

namespace RewriteRules

variable (rules : RewriteRules) (file : String) (source : List Char) (d : Dictionary)

/-- A token that stands where an entry was recorded goes to that entry, unless another one that lost
its own token is moved to it from further right. The entry's edit is made exactly if whoever gets
the token has the same one. -/
theorem rewrite_standing_token (entries : List Entry)
    (distinct : (entries.map fun e => e.candidate.position).Nodup) (r : Rewrite)
    (returned : rules.rewrite file source entries d = .ok r) :
    ∃ tree, readSource file source = .ok tree ∧
      ∀ e ∈ entries, ∀ t, (rules.scene file source tree d).TokenOf e t →
        t.position = e.candidate.position →
        ∃ winner ∈ entries, r.Gives rules file source tree d entries t winner ∧
          (winner = e ∨ (rules.scene file source tree d).MovedTo winner t) ∧
          (⟨t.offset, t.offset + byteLength e.candidate.raw.toList, e.replacement⟩ ∈ r.edits ↔
            (rules.scene file source tree d).edit? winner =
              (rules.scene file source tree d).edit? e) := by
  obtain ⟨tree, read, reports⟩ := rules.rewrite_reports file source d entries r returned
  let scene := rules.scene file source tree d
  let plan := Plan.ofEntries scene entries
  have ordered : scene.Ordered := rules.scene_ordered file source tree d
  obtain ⟨imports, accessors, made⟩ :=
    rules.edits_madeOf file source tree d entries plan (Plan.covers_ofEntries scene entries)
  obtain ⟨applied, skipped, late, ledger⟩ := Plan.exists_ledger scene entries
  have placed := tokensOf_offset source (occurrencesIn rules.search file source tree)
  refine ⟨tree, read, fun e member t token here => ?_⟩
  have own := ordered.edit?_of_tokenOf token
  obtain ⟨winner, known, asks, last⟩ :=
    ledger.exists_winner e member t.offset ⟨_, own, rfl⟩
  have inside : winner ∈ entries := (ledger.mem_entries winner).mpr (Or.inl known)
  obtain ⟨edit, found, start⟩ := asks
  have done : edit ∈ plan.edits := ledger.mem_edits known found
  have applies := rules.appliedBy_of_edit? file source tree d winner edit found
  have alone (other : Entry) (there : other ∈ entries)
      (equal : winner.candidate.position = other.candidate.position) : winner = other :=
    List.inj_on_of_nodup_map distinct inside there equal
  refine ⟨winner, inside, {
    asks := ⟨edit, found, start⟩
    applied := ⟨edit, mem_edits reports done, start, applies⟩
    last := fun other there asks => ?_ }, ?_, ?_⟩
  · by_cases equal : winner.candidate.position = other.candidate.position
    · exact Or.inl (alone other there equal).symm
    · exact Or.inr (Text.Position.before_of_ne (last other there asks) equal)
  · have claimed := ordered.moved_of_asks placed token here ⟨edit, found, start⟩
      (last e member ⟨_, own, rfl⟩)
    exact claimed.imp_left (alone e member)
  · constructor
    · intro inserted
      have applies' := rules.appliedBy_of_edit? file source tree d e _ own
      have lookup := made.mem_lookups _ (reports.edits_eq ▸ inserted) applies'.nonempty
      -- The edit is that of some entry applied; its start leaves the winner only.
      obtain ⟨x, known', found'⟩ := ledger.exists_applied _ lookup
      cases ledger.eq_of_asks known' known ⟨_, found', rfl⟩ ⟨edit, found, start⟩
      exact found'.trans own.symm
    · intro equal
      exact mem_edits reports (ledger.mem_edits known (equal.trans own))

end RewriteRules

/-! The entry whose text has gone has a key of its own. -/

namespace Twofold

def stranger : Entry := { gone with key := "x.j" }

def twoKeys : Dictionary where
  directory := ""
  sourceLocale := "en"
  placeholderPrefix := ""
  messages := [("en", [("x", .object [("j", .string "a"), ("k", .string "a")])])]
  styles := []
  pending := []
  dirty := []

def taken : Rewrite :=
  { first with
    content := "import \x7b u \x7d from 'n';\nexport function A()\x7blet tX=[\n\"a\",\ntX('j')]\x7d"
    edits := editsOf "tX('j')" }

theorem rewrite_stranger :
    rules.rewrite "a.ts" source [stranger, entry] twoKeys = .ok taken := by
  have written := rewrite_of_plan twoKeys [stranger, entry] "tX('j')" taken.content.toList ?_ ?_ ?_
  · rwa [String.ofList_toList] at written
  · have planned (scene : RewriteScene) : Plan.ofEntries scene [stranger, entry] =
        (Plan.empty.add scene stranger).add scene entry := by
      rw [Plan.ofEntries, List.mergeSort_of_pairwise (by decide)]
      rfl
    rw [planned]
    decide +kernel
  · decide +kernel
  · decide +kernel

end Twofold

namespace RewriteRules

theorem rewrite_standing_token_twofold :
    ([Twofold.stranger, Twofold.entry].map fun e => e.candidate.position).Nodup ∧
    Twofold.rules.rewrite "a.ts" Twofold.source [Twofold.stranger, Twofold.entry] Twofold.twoKeys =
      .ok Twofold.taken ∧
    ∃ tree, readSource "a.ts" Twofold.source = .ok tree ∧
      ∀ e ∈ [Twofold.stranger, Twofold.entry], ∀ t,
        (Twofold.rules.scene "a.ts" Twofold.source tree Twofold.twoKeys).TokenOf e t →
        t.position = e.candidate.position →
        ∃ winner ∈ [Twofold.stranger, Twofold.entry],
          Twofold.taken.Gives Twofold.rules "a.ts" Twofold.source tree Twofold.twoKeys
            [Twofold.stranger, Twofold.entry] t winner ∧
          (winner = e ∨
            (Twofold.rules.scene "a.ts" Twofold.source tree Twofold.twoKeys).MovedTo winner t) ∧
          (⟨t.offset, t.offset + byteLength e.candidate.raw.toList, e.replacement⟩ ∈
              Twofold.taken.edits ↔
            (Twofold.rules.scene "a.ts" Twofold.source tree Twofold.twoKeys).edit? winner =
              (Twofold.rules.scene "a.ts" Twofold.source tree Twofold.twoKeys).edit? e) :=
  ⟨by decide, Twofold.rewrite_stranger,
    rewrite_standing_token _ _ _ _ _ (by decide) _ Twofold.rewrite_stranger⟩

/-- A token that stands where its entry was recorded goes to another entry, which has lost its own
token. -/
theorem rewrite_takes_standing_token :
    ([Twofold.stranger, Twofold.entry].map fun e => e.candidate.position).Nodup ∧
    Twofold.rules.rewrite "a.ts" Twofold.source [Twofold.stranger, Twofold.entry] Twofold.twoKeys =
      .ok Twofold.taken ∧
    ∃ tree t, readSource "a.ts" Twofold.source = .ok tree ∧
      (Twofold.rules.scene "a.ts" Twofold.source tree Twofold.twoKeys).TokenOf Twofold.entry t ∧
      t.position = Twofold.entry.candidate.position ∧
      ⟨t.offset, t.offset + byteLength Twofold.entry.candidate.raw.toList,
        Twofold.entry.replacement⟩ ∉ Twofold.taken.edits := by
  obtain ⟨tree, read, -, looked⟩ := Twofold.exists_scene Twofold.twoKeys
  refine ⟨by decide, Twofold.rewrite_stranger, tree, ⟨34, ⟨3, 1⟩, "\"a\"", .stringLiteral⟩, read,
    ?_, rfl, by decide +kernel⟩
  rw [looked]
  exact {
    member := by decide
    fits := by decide
    keyed := by decide +kernel
    within := by decide
    chosen := Or.inl rfl }

end RewriteRules

end Phrasebook
