import Phrasebook.Proofs.Rewrite.Claiming
import Phrasebook.Proofs.Run.Tallying

/-!
# Rewriting the source that was searched

The entries that the search of a source brings find their tokens in that source again: a position
that was computed from an offset leads back to the offset. So each is applied, or out of scope, and
their order plays no part.
-/

namespace Phrasebook

open Syntax (Tree)
open Text (Edit byteLength)

/-! ## The order of entries -/

/-- Entries of different positions are planned in one order, however they are listed. -/
theorem Plan.ofEntries_perm (scene : RewriteScene) (entries others : List Entry)
    (perm : others.Perm entries) (distinct : (entries.map fun e => e.candidate.position).Nodup) :
    Plan.ofEntries scene others = Plan.ofEntries scene entries := by
  let le (a b : Entry) : Bool := !a.candidate.position.before b.candidate.position
  have same : others.mergeSort le = entries.mergeSort le := by
    refine List.Perm.eq_of_pairwise (fun a b first second after before => ?_)
      (sorted_entries others)
      (sorted_entries entries) (((List.mergeSort_perm others le).trans perm).trans
        (List.mergeSort_perm entries le).symm)
    -- Entries of which neither comes before the other have one position.
    have equal : a.candidate.position = b.candidate.position := by
      rw [Text.Position.before_eq_false_iff] at after before
      exact Text.Position.ext (by omega) (by omega)
    exact List.inj_on_of_nodup_map distinct (perm.mem_iff.mp (List.mem_mergeSort.mp first))
      (List.mem_mergeSort.mp second) equal
  exact congrArg (List.foldl (Plan.add scene) Plan.empty) same

/-! ## Entries whose tokens stand -/

namespace RewriteScene

variable {scene : RewriteScene}

/-- A token stands where an entry was recorded, and the entry's key has a text. -/
structure StandingFor (scene : RewriteScene) (e : Entry) (t : Token) : Prop where
  member : t ∈ scene.tokens
  fits : t.fits e.candidate = true
  keyed : (scene.text? e.key).isSome = true
  here : t.position = e.candidate.position

/-- An entry whose token stands is applied to it, or out of scope. -/
theorem Ordered.edit?_of_standing (ordered : scene.Ordered) {e : Entry} {t : Token}
    (standing : scene.StandingFor e t) :
    scene.edit? e = if scene.inScope t.offset then
        .ok ⟨t.offset, t.offset + byteLength e.candidate.raw.toList, e.replacement⟩
      else .error .outOfScope := by
  have located :=
    ordered.locate_of_standing e.candidate t standing.member standing.fits standing.here
  have started : scene.start? e = .ok t.offset := by simp only [start?, located]
  have keyed : (scene.text? e.key).isNone = false := by simpa using standing.keyed
  simp only [edit?, keyed, Bool.false_eq_true, ↓reduceIte, started]
  rfl

/-- Entries whose tokens stand ask for different starts if they were recorded at different
positions. -/
theorem Ordered.pairwise_apart (ordered : scene.Ordered)
    (placed : ∀ t ∈ scene.tokens, ∀ u ∈ scene.tokens, t.offset = u.offset → t.position = u.position)
    (entries : List Entry) (standing : ∀ e ∈ entries, ∃ t, scene.StandingFor e t)
    (distinct : (entries.map fun e => e.candidate.position).Nodup) :
    entries.Pairwise scene.Apart := by
  refine (List.pairwise_map.mp distinct).imp_of_mem ?_
  intro a b first second differ start asks other
  have starts {e : Entry} {t : Token} (stands : scene.StandingFor e t) (asks : scene.Asks e start) :
      t.offset = start := by
    obtain ⟨edit, found, rfl⟩ := asks
    rw [ordered.edit?_of_standing stands] at found
    split at found
    next =>
      cases found
      rfl
    next => cases found
  obtain ⟨t, there⟩ := standing a first
  obtain ⟨u, there'⟩ := standing b second
  have same := placed t there.member u there'.member
    ((starts there asks).trans (starts there' other).symm)
  exact differ (there.here.symm.trans (same.trans there'.here))

end RewriteScene

/-! ## Searching and rewriting one source -/

/-- Searches and rewrites look for the same texts. -/
theorem ExtractionRules.search_eq (extraction : ExtractionRules) (s : Settings)
    (compiled : ofSettings s = .ok extraction) : extraction.search = .ofSettings s := by
  unfold ofSettings at compiled
  cases accepts : AcceptanceRules.ofSettings s with
  | error e =>
    rw [accepts] at compiled
    cases compiled
  | ok acceptance =>
    rw [accepts] at compiled
    cases compiled
    rfl

/-- What a rewrite does with an entry whose token stands at an offset: it applies it, if the token
starts between the braces of the module's component, and skips it as out of scope otherwise. -/
structure Rewrite.Settles (file : String) (tree : Tree) (r : Rewrite) (e : Entry) (offset : Nat) :
    Prop where
  inside : ∀ component, Component.ofModule? tree = some component →
    component.bodyStart < offset → offset < component.bodyStop →
    ⟨offset, offset + byteLength e.candidate.raw.toList, e.replacement⟩ ∈ r.edits
  outside : (∀ component, Component.ofModule? tree = some component →
      ¬ (component.bodyStart < offset ∧ offset < component.bodyStop)) →
    .ofEntry file e .outOfScope ∈ r.skips

/-- A rewrite is complete: every entry has its token and is applied to it or skipped as out of
scope, nothing is skipped for another reason, and in any other order the entries yield the same. -/
structure Rewrite.CompleteFor (rules : RewriteRules) (file : String) (source : List Char)
    (tree : Tree) (d : Dictionary) (entries : List Entry) (r : Rewrite) : Prop where
  settled : ∀ e ∈ entries, ∃ offset, e.candidate.StandsAt source offset ∧
    r.Settles file tree e offset
  reasons : ∀ skip ∈ r.skips, skip.reason = .outOfScope
  counted : r.applied + r.skips.length = entries.length
  reordered : ∀ others : List Entry, others.Perm entries →
    rules.rewrite file source others d = .ok r

namespace RewriteRules

section

variable (rules : RewriteRules) (file : String) (source : List Char) (tree : Tree) (d : Dictionary)

/-- A rewrite does not depend on the order of entries that were recorded at different positions. -/
theorem rewrite_perm (entries others : List Entry) (perm : others.Perm entries)
    (distinct : (entries.map fun e => e.candidate.position).Nodup) :
    rules.rewrite file source others d = rules.rewrite file source entries d := by
  simp only [rewrite, Plan.ofEntries_perm _ entries others perm distinct]

/-- A candidate of a legible source has a token there. -/
theorem exists_standingFor (legible : tree.Legible source) (e : Entry)
    (member : .candidate e.candidate ∈ occurrencesIn rules.search file source tree)
    (keyed : (d.leaf? rules.sourceLocale e.key).isSome = true) :
    ∃ t, (rules.scene file source tree d).StandingFor e t ∧
      e.candidate.StandsAt source t.offset := by
  obtain ⟨text, inside, offset, reads⟩ :=
    (occurrencesIn_foundIn rules.search file source tree).read e.candidate member
  have placed := reads.offset?_eq legible inside
  let t : Token := ⟨offset, e.candidate.position, e.candidate.raw, e.candidate.token⟩
  refine ⟨t, {
    member := (mem_tokensOf _ _ t).mpr ⟨e.candidate, member, placed, rfl⟩
    fits := (t.fits_iff e.candidate).mpr ⟨rfl, rfl, rfl⟩
    keyed
    here := rfl }, reads.toStandsAt⟩

/-- Entries whose tokens all stand, at positions of their own, are applied or out of scope, in
whatever order they come. -/
theorem complete_of_standing (entries : List Entry) (read : readSource file source = .ok tree)
    (standing : ∀ e ∈ entries, ∃ t, (rules.scene file source tree d).StandingFor e t ∧
      e.candidate.StandsAt source t.offset)
    (distinct : (entries.map fun e => e.candidate.position).Nodup) (r : Rewrite)
    (returned : rules.rewrite file source entries d = .ok r) :
    r.CompleteFor rules file source tree d entries := by
  let scene := rules.scene file source tree d
  have ordered : scene.Ordered := rules.scene_ordered file source tree d
  have apart : entries.Pairwise scene.Apart := by
    refine ordered.pairwise_apart (tokensOf_offset source _) entries (fun e member => ?_) distinct
    obtain ⟨t, stands, -⟩ := standing e member
    exact ⟨t, stands⟩
  have complete := Plan.complete_of_apart apart
  obtain ⟨tree', read', reports⟩ := rules.rewrite_reports file source d entries r returned
  cases read.symm.trans read'
  exact {
    settled := fun e member => by
      obtain ⟨t, stands, place⟩ := standing e member
      have decided := ordered.edit?_of_standing stands
      refine ⟨t.offset, place, ⟨fun component found low high => ?_, fun outside => ?_⟩⟩
      · rw [if_pos ((scene.inScope_iff _).mpr ⟨component, found, low, high⟩)] at decided
        exact mem_edits reports (complete.applied e member _ decided)
      · rw [if_neg fun within => ?_] at decided
        · rw [reports.skips_eq]
          exact complete.skipped e member _ decided
        · obtain ⟨component, found, bounds⟩ := (scene.inScope_iff _).mp within
          exact outside component found bounds
    reasons := fun skip member => by
      rw [reports.skips_eq] at member
      obtain ⟨e, known, failed⟩ := complete.reasons skip member
      obtain ⟨t, stands, -⟩ := standing e known
      rw [ordered.edit?_of_standing stands] at failed
      split at failed
      next => cases failed
      next => exact (Except.error.inj failed).symm
    counted := by
      rw [reports.applied_eq, reports.skips_eq]
      exact complete.counted
    reordered := fun others perm => by
      rw [rules.rewrite_perm file source d entries others perm distinct]
      exact returned }

end

/-- The entries that the search of a source brings are applied to that source, or out of scope, in
whatever order they come. -/
theorem rewrite_searched (s : Settings) (extraction : ExtractionRules)
    (compiled : ExtractionRules.ofSettings s = .ok extraction) (d : Dictionary)
    (native : d.sourceLocale = s.sourceLocale) (file : SourceFile) (source : List Char)
    (tree : Tree) (read : readSource file.relative source = .ok tree)
    (legible : tree.Legible source) (tally : Tally)
    (searched : tally = (Tally.start d).addFound extraction file
      (occurrencesIn extraction.search file.relative source tree))
    (entries : List Entry) (brought : entries.Perm tally.entries) (r : Rewrite)
    (returned : (RewriteRules.ofSettings s).rewrite file.relative source entries tally.dictionary =
      .ok r) :
    r.CompleteFor (RewriteRules.ofSettings s) file.relative source tree tally.dictionary
      entries := by
  let rules := RewriteRules.ofSettings s
  have found := occurrencesIn_foundIn rules.search file.relative source tree
  have kept : tally.Keeps d ((occurrencesIn rules.search file.relative source tree).filterMap
      Occurrence.candidate?) := by
    rw [searched, extraction.search_eq s compiled]
    exact Tally.keeps_addFound d extraction file _
  -- Every entry is that of a candidate found, at a position that no other candidate has.
  have distinct : (entries.map fun e => e.candidate.position).Nodup := by
    have chosen := (found.distinct legible.apart).sublist (kept.chosen.map Candidate.position)
    rw [List.map_map] at chosen
    exact (brought.map _).nodup_iff.mpr chosen
  refine rules.complete_of_standing file.relative source tree tally.dictionary entries read
    (fun e member => ?_) distinct r returned
  have known := brought.mem_iff.mp member
  have inside := kept.chosen.subset (List.mem_map_of_mem known)
  refine rules.exists_standingFor file.relative source tree tally.dictionary legible e
    ((Search.mem_candidates_iff _ _).mp inside) ?_
  change (tally.dictionary.leaf? s.sourceLocale e.key).isSome = true
  rw [← native, kept.held e known]
  rfl

end RewriteRules

/-! A text that stands outside the component and inside it. -/

namespace Sample

def settings : Settings := { Settings.standard with binding := ⟨"u", "n", "v", "m"⟩ }

def extraction : ExtractionRules :=
  ⟨.ofSettings settings, ⟨2, 120, [], 4, 20⟩, .ofSettings settings⟩

def file : SourceFile := ⟨"a.ts", "x/k.ts", "a.ts"⟩

/-- The module: `import{u}from'n';let g="A b"`, then `export function A(){let tX=["A b"]}` on a line
of its own. -/
def source : List Char :=
  ['i', 'm', 'p', 'o', 'r', 't', '{', 'u', '}', 'f', 'r', 'o', 'm', '\'', 'n', '\'', ';', 'l', 'e',
    't', ' ', 'g', '=', '"', 'A', ' ', 'b', '"', '\n', 'e', 'x', 'p', 'o', 'r', 't', ' ', 'f', 'u',
    'n', 'c', 't', 'i', 'o', 'n', ' ', 'A', '(', ')', '{', 'l', 'e', 't', ' ', 't', 'X', '=', '[',
    '"', 'A', ' ', 'b', '"', ']', '}']

def candidate (position : Text.Position) : Candidate :=
  ⟨"A b", "\"A b\"", "a.ts", position, .stringLiteral, none,
    "import\x7bu\x7dfrom'n';let g=\"A b\"\nexport function A()\x7blet tX=[\"A b\"]\x7d"⟩

def found : List Occurrence := [.candidate (candidate ⟨1, 24⟩), .candidate (candidate ⟨2, 29⟩)]

def outer : Entry := ⟨candidate ⟨1, 24⟩, "x.k.a_b", "x", .new⟩

def inner : Entry := ⟨candidate ⟨2, 29⟩, "x.k.a_b", "x", .reused⟩

/-- What the search of the module brings to an empty dictionary. -/
def tally : Tally := (Tally.start (.empty "" settings)).addFound extraction file found

def rewritten : Rewrite where
  file := "a.ts"
  content :=
    "import\x7bu\x7dfrom'n';let g=\"A b\"\nexport function A()\x7blet tX=[tX('k.a_b')]\x7d"
  edits := [⟨57, 62, "tX('k.a_b')"⟩]
  applied := 1
  skips := [.ofEntry "a.ts" outer .outOfScope]
  importAdded := false
  accessorsAdded := []

def scene : RewriteScene where
  file := "a.ts"
  source := source
  tokens := [⟨23, ⟨1, 24⟩, "\"A b\"", .stringLiteral⟩, ⟨57, ⟨2, 29⟩, "\"A b\"", .stringLiteral⟩]
  component := some ⟨"A", false, 48, 64, some 49, ["tX"]⟩
  text? := tally.dictionary.leaf? "en"

theorem tally_entries : tally.entries = [outer, inner] := by decide +kernel

/-- The module can be read, and its texts told apart. -/
theorem exists_tree :
    ∃ tree, readSource "a.ts" source = .ok tree ∧ tree.Legible source ∧
      occurrencesIn extraction.search "a.ts" source tree = found := by
  have reading : (readSource "a.ts" source).toOption.map (fun tree =>
      (Search.visit ⟨extraction.search, "a.ts", source⟩ false tree,
        decide (tree.texts.Pairwise Tree.Apart),
        tree.texts.all fun text => text.kind != .attributeText)) = some (found, true, true) := by
    decide +kernel
  cases result : readSource "a.ts" source with
  | error failure =>
    rw [result] at reading
    cases reading
  | ok tree =>
    rw [result] at reading
    simp only [Except.toOption, Option.map_some, Option.some.injEq, Prod.mk.injEq,
      decide_eq_true_eq] at reading
    obtain ⟨visited, apart, plain⟩ := reading
    refine ⟨tree, rfl, ⟨apart, fun text member value => ?_⟩, ?_⟩
    · have other := List.all_eq_true.mp plain text member
      rw [value] at other
      cases other
    · rw [occurrencesIn, visited, List.mergeSort_of_pairwise (by decide)]

theorem rewrite_source :
    (RewriteRules.ofSettings settings).rewrite "a.ts" source [inner, outer] tally.dictionary =
      .ok rewritten := by
  refine (RewriteRules.ofSettings settings).rewrite_eq_lookup "a.ts" source tally.dictionary
    [inner, outer] scene ⟨"A", false, 48, 64, some 49, ["tX"]⟩ ⟨some 17, none, ["u"]⟩
    [(⟨1, 24⟩, "\"A b\"", .stringLiteral), (⟨2, 29⟩, "\"A b\"", .stringLiteral)]
    ⟨57, 62, "tX('k.a_b')"⟩ "x" [.ofEntry "a.ts" outer .outOfScope] rewritten.content rfl
    (by decide +kernel) (by decide +kernel) ?_ (by decide) (by decide +kernel) (by decide +kernel)
    (by decide +kernel) (by decide +kernel)
  rw [Plan.ofEntries, List.mergeSort_of_pairwise (by decide)]
  decide +kernel

end Sample

namespace RewriteRules

theorem rewrite_searched_sample :
    ExtractionRules.ofSettings Sample.settings = .ok Sample.extraction ∧
    (Dictionary.empty "" Sample.settings).sourceLocale = Sample.settings.sourceLocale ∧
    [Sample.inner, Sample.outer].Perm Sample.tally.entries ∧
    (RewriteRules.ofSettings Sample.settings).rewrite "a.ts" Sample.source
      [Sample.inner, Sample.outer] Sample.tally.dictionary = .ok Sample.rewritten ∧
    ∃ tree, readSource "a.ts" Sample.source = .ok tree ∧ tree.Legible Sample.source ∧
      Sample.tally = (Tally.start (.empty "" Sample.settings)).addFound Sample.extraction
        Sample.file (occurrencesIn Sample.extraction.search "a.ts" Sample.source tree) ∧
      Sample.rewritten.CompleteFor (RewriteRules.ofSettings Sample.settings) "a.ts" Sample.source
        tree Sample.tally.dictionary [Sample.inner, Sample.outer] := by
  have compiled : ExtractionRules.ofSettings Sample.settings = .ok Sample.extraction := rfl
  have brought : [Sample.inner, Sample.outer].Perm Sample.tally.entries := by
    rw [Sample.tally_entries]
    exact .swap _ _ _
  obtain ⟨tree, read, legible, found⟩ := Sample.exists_tree
  have searched : Sample.tally = (Tally.start (.empty "" Sample.settings)).addFound
      Sample.extraction Sample.file
      (occurrencesIn Sample.extraction.search "a.ts" Sample.source tree) := by
    rw [found]
    rfl
  exact ⟨compiled, rfl, brought, Sample.rewrite_source, tree, read, legible, searched,
    rewrite_searched Sample.settings Sample.extraction compiled (.empty "" Sample.settings) rfl
      Sample.file Sample.source tree read legible Sample.tally searched _ brought _
      Sample.rewrite_source⟩

end RewriteRules

end Phrasebook
