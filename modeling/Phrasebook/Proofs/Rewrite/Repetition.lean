import Phrasebook.Proofs.Rewrite.Recorded
import Phrasebook.Proofs.Text.Parts

/-!
# Applying the same entries again

A rewrite can be read again, so the same entries can be applied to it. Nothing changes then exactly
if no entry has a token in the result. An entry that was applied is looked up in the result, and so
a token that merely moved is left alone; but an import or an accessor moves what follows it down,
and a text that was left in the source may come to stand where an entry was recorded.
-/

namespace Phrasebook

open Syntax (Tree)
open Text (Edit Spliced)

/-! ## Texts that occur -/

theorem Entry.lookupCall_isInfix (e : Entry) : e.lookupCall.toList <:+: e.replacement.toList := by
  unfold Entry.replacement
  cases e.candidate.token with
  | stringLiteral => exact List.infix_rfl
  | markupText | markupAttribute =>
    simp only [String.toList_append]
    exact ⟨_, _, rfl⟩

namespace RewriteRules

variable (rules : RewriteRules) (file : String) (source : List Char) (tree : Tree) (d : Dictionary)

/-! ## Rewrites that change nothing -/

/-- A rewrite that leaves a source as it is, and says so. -/
structure Idle (content : String) (r : Rewrite) : Prop where
  content_eq : r.content = content
  edits_eq : r.edits = []
  importAdded_eq : r.importAdded = false
  accessorsAdded_eq : r.accessorsAdded = []

theorem edits_idle (scene : RewriteScene) (plan : Plan) (none : plan.edits = []) :
    Idle (String.ofList scene.source) (rules.edits scene tree plan) := by
  unfold edits
  cases scene.component with
  | none => exact ⟨rfl, none, rfl, rfl⟩
  | some component =>
    simp only [none, List.isEmpty_nil, ↓reduceIte]
    exact ⟨rfl, rfl, rfl, rfl⟩

/-- Without a token for any entry nothing is planned. -/
theorem plan_eq_nil_iff (entries : List Entry) :
    (Plan.ofEntries (rules.scene file source tree d) entries).edits = [] ↔
      ∀ e ∈ entries, ∀ t, ¬ (rules.scene file source tree d).TokenOf e t := by
  have found := (rules.scene_ordered file source tree d).edit?_isOk_iff
  simp only [Plan.ofEntries_edits_eq_nil_iff, ← not_exists, found]

/-- A source that can be read stays as it is exactly if no entry has a token in it. -/
theorem rewrite_idle_iff (entries : List Entry) (read : readSource file source = .ok tree) :
    (∃ r, rules.rewrite file source entries d = .ok r ∧ Idle (String.ofList source) r) ↔
      ∀ e ∈ entries, ∀ t, ¬ (rules.scene file source tree d).TokenOf e t := by
  rw [← plan_eq_nil_iff]
  constructor
  · rintro ⟨r, returned, idle⟩
    obtain ⟨tree', read', made⟩ := (rules.rewrite_eq_ok_iff file source d entries r).mp returned
    cases read.symm.trans read'
    obtain ⟨same, -⟩ := make_spliced source _ r (by simp [scene]) made
    rw [idle.edits_eq] at same
    -- Whatever completes a plan stands behind its edits, so the plan has none either.
    rcases rules.edits_cases tree (rules.scene file source tree d)
      (Plan.ofEntries (rules.scene file source tree d) entries) with bare | ⟨_, -, -, completed⟩
    · rw [← bare, ← same]
    · rw [completed, List.append_assoc] at same
      exact (List.append_eq_nil_iff.mp same.symm).1
  · intro none
    have idle := rules.edits_idle tree (rules.scene file source tree d) _ none
    refine ⟨_, (rules.rewrite_eq_ok_iff file source d entries _).mpr ⟨tree, read, ?_⟩, idle⟩
    simp [make, Rewrite.isChanged, idle.edits_eq]

/-- Edits that are made yield a source that can be read. -/
theorem make_readable (bare r : Rewrite) (unchanged : bare.content.toList = source)
    (read : readSource bare.file source = .ok tree) (returned : make bare source = .ok r) :
    ∃ tree, readSource bare.file r.content.toList = .ok tree := by
  rcases make_cases source bare r returned with ⟨-, rfl⟩ | ⟨-, content, tree, -, again, rfl⟩
  · exact ⟨tree, by rw [unchanged, read]⟩
  · exact ⟨tree, by simpa using again⟩

/-- The lookup of an applied entry stands in the result. -/
theorem holdsLookup_of_applied (entries : List Entry) (r : Rewrite)
    (returned : rules.rewrite file source entries d = .ok r) (e : Entry) (edit : Edit)
    (made : edit ∈ r.edits) (applied : e.AppliedBy rules file source tree d edit) (again : Tree) :
    (rules.scene file r.content.toList again d).holdsLookup e = true := by
  obtain ⟨tree', -, completed⟩ := (rules.rewrite_eq_ok_iff file source d entries r).mp returned
  obtain ⟨same, -, ordered, perm, -, spliced⟩ :=
    make_spliced source _ r (by simp [RewriteRules.scene]) completed
  have inside := spliced.code_isInfix edit (perm.mem_iff.mpr (same ▸ made))
  have code : edit.code = e.replacement := by
    rw [applied.code, Entry.replacement]
    cases e.candidate.token <;> rfl
  rw [RewriteScene.holdsLookup, Text.contains_iff]
  exact e.lookupCall_isInfix.trans (code ▸ inside)

end RewriteRules

/-! The import that the first run adds moves the other text to the line of the entry. -/

namespace Twofold

def sceneAgain : RewriteScene where
  file := "a.ts"
  source := first.content.toList
  tokens := [⟨52, ⟨3, 1⟩, "\"a\"", .stringLiteral⟩]
  component := some ⟨"A", false, 42, 66, some 43, ["tX"]⟩
  text? := dictionary.leaf? "en"

def second : Rewrite where
  file := "a.ts"
  content := "import \x7b u \x7d from 'n';\nexport function A()\x7blet tX=[\ntX('k'),\ntX('k')]\x7d"
  edits := [⟨52, 55, "tX('k')"⟩]
  applied := 1
  skips := []
  importAdded := false
  accessorsAdded := []

theorem rewrite_first :
    rules.rewrite "a.ts" first.content.toList [entry] dictionary = .ok second := by
  refine rules.rewrite_eq_lookup "a.ts" first.content.toList dictionary [entry] sceneAgain
    ⟨"A", false, 42, 66, some 43, ["tX"]⟩ ⟨some 22, none, ["u"]⟩
    [(⟨3, 1⟩, "\"a\"", .stringLiteral)] ⟨52, 55, "tX('k')"⟩ "x" [] second.content rfl
    (by decide +kernel) (by decide +kernel) ?_ (by decide) (by decide +kernel) (by decide +kernel)
    (by decide +kernel) (by decide +kernel)
  rw [Plan.ofEntries_singleton]
  decide +kernel

end Twofold

namespace RewriteRules

variable (rules : RewriteRules) (file : String) (source : List Char) (d : Dictionary)

/-- Applying the same entries to the result succeeds, and it changes nothing exactly if no entry has
a token there. An entry that was applied has a token there only where it was recorded. -/
theorem rewrite_again_idle_iff (entries : List Entry) (r : Rewrite)
    (returned : rules.rewrite file source entries d = .ok r) :
    ∃ tree again, readSource file source = .ok tree ∧
      readSource file r.content.toList = .ok again ∧
      ((∃ second, rules.rewrite file r.content.toList entries d = .ok second ∧
          Idle r.content second) ↔
        ∀ e ∈ entries, ∀ t, ¬ (rules.scene file r.content.toList again d).TokenOf e t) ∧
      ∀ edit ∈ r.edits, ∀ e, e.AppliedBy rules file source tree d edit →
        ∀ t, (rules.scene file r.content.toList again d).TokenOf e t →
          t.position = e.candidate.position := by
  obtain ⟨tree, read, made⟩ := (rules.rewrite_eq_ok_iff file source d entries r).mp returned
  obtain ⟨again, reread⟩ : ∃ again, readSource file r.content.toList = .ok again := by
    have readable :=
      make_readable source tree _ r (by simp [scene]) (by simpa [scene] using read) made
    simpa [scene] using readable
  refine ⟨tree, again, read, reread, ?_, fun edit made e applied t token => ?_⟩
  · have idle := rules.rewrite_idle_iff file r.content.toList again d entries reread
    rwa [String.ofList_toList] at idle
  · -- With its lookup in the source the entry takes no token that moved.
    have held := rules.holdsLookup_of_applied file source tree d entries r returned e edit made
      applied again
    rcases token.chosen with here | ⟨absent, -⟩
    · exact here
    · rw [held] at absent
      cases absent

theorem rewrite_again_idle_iff_twofold :
    Twofold.rules.rewrite "a.ts" Twofold.source [Twofold.entry] Twofold.dictionary =
      .ok Twofold.first ∧
    ∃ tree again, readSource "a.ts" Twofold.source = .ok tree ∧
      readSource "a.ts" Twofold.first.content.toList = .ok again ∧
      ((∃ second, Twofold.rules.rewrite "a.ts" Twofold.first.content.toList [Twofold.entry]
            Twofold.dictionary = .ok second ∧ Idle Twofold.first.content second) ↔
        ∀ e ∈ [Twofold.entry], ∀ t, ¬ (Twofold.rules.scene "a.ts" Twofold.first.content.toList again
          Twofold.dictionary).TokenOf e t) ∧
      ∀ edit ∈ Twofold.first.edits, ∀ e,
        e.AppliedBy Twofold.rules "a.ts" Twofold.source tree Twofold.dictionary edit →
        ∀ t, (Twofold.rules.scene "a.ts" Twofold.first.content.toList again
          Twofold.dictionary).TokenOf e t → t.position = e.candidate.position :=
  ⟨Twofold.rewrite_source, rewrite_again_idle_iff _ _ _ _ _ _ Twofold.rewrite_source⟩

/-- An entry that is applied a second time may replace another text. -/
theorem rewrite_again_changes :
    Twofold.rules.rewrite "a.ts" Twofold.source [Twofold.entry] Twofold.dictionary =
      .ok Twofold.first ∧
    Twofold.rules.rewrite "a.ts" Twofold.first.content.toList [Twofold.entry] Twofold.dictionary =
      .ok Twofold.second ∧
    Twofold.second.content ≠ Twofold.first.content ∧
    ¬ ∃ second, Twofold.rules.rewrite "a.ts" Twofold.first.content.toList [Twofold.entry]
      Twofold.dictionary = .ok second ∧ Idle Twofold.first.content second := by
  refine ⟨Twofold.rewrite_source, Twofold.rewrite_first, by decide +kernel, ?_⟩
  rintro ⟨second, again, idle⟩
  cases Twofold.rewrite_first.symm.trans again
  exact absurd idle.edits_eq (by decide)

end RewriteRules

end Phrasebook
