import Phrasebook.Proofs.Candidate.Shown

/-!
# Lookups that stand already

A call whose callee is a name, or names joined by points, is a lookup if the name is that of a
translation function. Each lookup is found once, unless a part that is left out holds it, and no
text below it is a candidate. A call that may be passed over is no such call.
-/

namespace Phrasebook

open Syntax (Tree Kind Step Site)

namespace SearchRules

variable {rules : SearchRules}

/-- A lookup hides the texts below it. -/
theorem hides_of_looksUp {step : Step} (asks : rules.looksUp step.parent = true) :
    rules.hides step = true := by
  obtain ⟨⟨kind, span, children⟩, index⟩ := step
  cases kind
  case call =>
    rw [hides]
    cases called : children.head?.bind calleeName? with
    | none =>
      rw [not_looksUp called] at asks
      cases asks
    | some name =>
      rw [looksUp_eq called, Bool.and_eq_true] at asks
      rw [isNamedCall_eq called, asks.2, Bool.or_true]
  all_goals cases asks

end SearchRules

namespace Search

variable (search : Search)

/-- The lookup that a call is. -/
def lookupOf (t : Tree) : Occurrence :=
  .lookup (lookupKey? (t.children.drop 1)) (Text.position search.source t.start)

/-- The sites of the lookups that no part that is left out holds. -/
def lookupSites (rules : SearchRules) (t : Tree) : List Site :=
  t.sites.filter fun p => rules.looksUp p.node && !p.steps.any rules.drops

/-- Occurrences that are read from texts are no lookups. -/
theorem lookups_texts (c : Option Candidate) :
    (c.toList.map Occurrence.candidate).filter (·.candidate?.isNone) = [] := by
  cases c <;> rfl

/-- Of the lookups, a node on its own yields the one that it is. -/
theorem lookups_atNode (suppressed : Bool) (t : Tree) :
    (search.atNode suppressed t).filter (·.candidate?.isNone) =
      if search.rules.looksUp t then [search.lookupOf t] else [] := by
  unfold atNode
  split
  next value span children =>
    split
    · rfl
    · rw [search.ofString_eq span value children, lookups_texts]
      rfl
  next span children =>
    split
    · rfl
    · rw [search.ofMarkupText_eq span children, lookups_texts]
      rfl
  next name inner span children rest =>
    split
    · rfl
    next counts =>
      have allowed : name ∈ search.rules.attributes ∧ name ∉ search.rules.excludedAttributes := by
        simp only [Bool.or_eq_true, Bool.not_eq_true', not_or, Bool.not_eq_true,
          Bool.not_eq_false] at counts
        simpa [and_comm] using And.intro counts.1.1 counts.2
      rw [search.ofAttribute_eq span inner children rest allowed, lookups_texts]
      rfl
  next span children =>
    split
    next asks =>
      rfl
    next => rfl
  next strings texts attributes calls =>
    rw [SearchRules.looksUp]
    · rfl
    · exact calls

theorem lookups_visit (t : Tree) :
    (search.visit false t).filter (·.candidate?.isNone) =
      (lookupSites search.rules t).map fun p => search.lookupOf p.node := by
  rw [visit_eq, List.filter_flatMap, lookupSites]
  induction t.sites with
  | nil => rfl
  | cons p rest ih =>
    rw [List.flatMap_cons, ih, List.filter_cons, atSite]
    cases p.steps.any search.rules.drops with
    | true =>
      rw [Bool.not_true, Bool.and_false]
      rfl
    | false =>
      rw [if_neg Bool.false_ne_true, lookups_atNode, Bool.not_false, Bool.and_true]
      cases search.rules.looksUp p.node <;> rfl

end Search

/-- The lookups of a source are, each once and with its first argument if that is a plain string,
the calls of translation functions that no part that is left out holds. The candidates are texts
that no such call holds. -/
theorem occurrencesIn_lookups (rules : SearchRules) (file : String) (source : List Char)
    (tree : Tree) :
    let found := occurrencesIn rules file source tree
    (found.filter (·.candidate?.isNone)).Perm ((Search.lookupSites rules tree).map fun p =>
      .lookup (lookupKey? (p.node.children.drop 1)) (Text.position source p.node.start)) ∧
    ∃ texts : List Site, texts.Sublist tree.sites ∧
      (∀ p ∈ texts, ∀ step ∈ p.steps, rules.looksUp step.parent = false) ∧
      (found.filterMap Occurrence.candidate?).Perm
        (texts.filterMap fun p => Search.candidate? ⟨rules, file, source⟩ p.node) := by
  intro found
  have sorted := occurrencesIn_perm rules file source tree
  constructor
  · have lookups := sorted.filter (·.candidate?.isNone)
    rw [Search.lookups_visit] at lookups
    exact lookups
  · refine ⟨Search.shownSites rules tree, List.filter_sublist, ?_, ?_⟩
    · intro p shown step member
      have open_ := (List.mem_filter.mp shown).2
      rw [Bool.not_eq_true', List.any_eq_false] at open_
      exact eq_false_of_ne_true fun asks => open_ step member (SearchRules.hides_of_looksUp asks)
    · have candidates := sorted.filterMap Occurrence.candidate?
      rw [Search.candidates_visit] at candidates
      exact candidates

/-! A call that may be passed over is no lookup, and its key is taken for a text. -/

namespace Passable

/-- The module: `export const a=t?.("A b")`. -/
def source : List Char := "export const a=t?.(\"A b\")".toList

def rules : SearchRules := .ofSettings .standard

def candidate : Candidate where
  text := "A b"
  raw := "\"A b\""
  file := "a.ts"
  position := ⟨1, 20⟩
  token := .stringLiteral
  attributeName := none
  surroundings := "export const a=t?.(\"A b\")"

end Passable

/-- The key of a lookup becomes a candidate, and the lookup is not found. -/
theorem occurrences_misses_lookup :
    occurrences Passable.rules "a.ts" Passable.source = .ok [.candidate Passable.candidate] := by
  have reading : (readSource "a.ts" Passable.source).toOption.map
      (Search.visit ⟨Passable.rules, "a.ts", Passable.source⟩ false) =
        some [.candidate Passable.candidate] := by
    decide +kernel
  obtain ⟨tree, read, visited⟩ := exists_of_map_toOption reading
  rw [occurrences, read, Except.map, occurrencesIn, visited, List.mergeSort_singleton]

end Phrasebook
