import Mathlib.Data.List.Perm.Basic
import Phrasebook.Proofs.Candidate.Sites
import Phrasebook.Proofs.Outcome
import Phrasebook.Proofs.Rewrite.Locating

/-!
# Which texts are candidates

The candidates of a source are the texts of its tree that no part without shown texts holds, each
once and in the order of positions. A text is a string literal, text between tags, or the plain
value of an attribute that holds visible text, if its stretch can be cut out of the source.
-/

namespace Phrasebook

open Syntax (Tree Span Kind Step Site)
open Text (byteLength)

/-! ## Texts -/

namespace Search

variable (search : Search)

/-- The candidate that is shown at an offset, if it shows anything. -/
def shown? (offset : Nat) (raw text : List Char) (token : TokenKind)
    (attributeName : Option String) : Option Candidate := do
  guard (text ≠ [])
  let position := Text.position search.source offset
  return {
    text := String.ofList text
    raw := String.ofList raw
    file := search.file
    position
    token
    attributeName
    surroundings := String.ofList (Text.window search.source position.line surroundingLines) }

/-- The candidate that a node is on its own: a literal whose stretch starts with a quote, text
between tags that is not blank, or an attribute with a plain value, if it holds visible text and is
not left out. -/
def candidate? : Tree → Option Candidate
  | .node (.stringLiteral value) span _ => do
    let value ← value
    let raw ← search.slice? span
    guard (raw.head? = some '"' ∨ raw.head? = some '\'')
    search.shown? span.start raw (Text.squeeze value.toList) .stringLiteral none
  | .node .markupText span _ => do
    let raw ← search.slice? span
    let body := Text.trim raw
    guard (body ≠ [])
    let leading := byteLength raw - byteLength (Text.trimStart raw)
    search.shown? (span.start + leading) body (Text.squeeze (Text.Entity.decode body)) .markupText
      none
  | .node (.attribute name) _ (.node .attributeText span _ :: _) => do
    guard (name ∈ search.rules.attributes ∧ name ∉ search.rules.excludedAttributes)
    let raw ← search.slice? span
    let inner := (Text.slice? raw 1 (byteLength raw - 1)).getD []
    search.shown? span.start raw (Text.squeeze (Text.Entity.decode inner)) .markupAttribute
      (some name)
  | _ => none

end Search

/-! ## Parts without shown texts -/

namespace SearchRules

variable (rules : SearchRules)

/-- Steps into parts whose texts are never shown. Texts and plain values have no parts of their own,
and an attribute has only its value. -/
def hides : Step → Bool
  | ⟨.node kind span children, index⟩ =>
    match kind with
    | .importDeclaration _ | .exportNames | .exportAll => true
    | .type | .moduleName | .moduleReference | .enumMemberName | .propertyName _ => true
    | .throwStatement | .importCall => true
    | .expressionStatement => isDirective (.node kind span children)
    | .call => rules.isNamedCall (.node kind span children)
    | .new => isErrorMade children
    | .comparison | .caseTest | .computedKey => true
    | .attribute name =>
      name ∈ rules.excludedAttributes || children.head?.any (·.kind == .attributeText) || index != 0
    | .element tag => isSilentElement tag && index != 0
    | .stringLiteral _ | .markupText => true
    | _ => false

/-- The name in front of the arguments, whatever is asserted of it and wherever the call may be
passed over. An object that has no name has an empty one. -/
def spokenName? : Tree → Option String
  | .node (.name text) _ _ => some text
  | .node (.member property) _ [object] =>
    some ((spokenName? object).getD "" ++ "." ++ property)
  | .node .paren _ (inner :: _) | .node .chain _ (inner :: _) | .node .nonNull _ (inner :: _)
  | .node .typed _ (inner :: _) => spokenName? inner
  | _ => none

/-- Steps into parts that are left open here: calls that a lookup or a silent function is only
spoken by, names of an interface's members, and keys that are picked from `super`. -/
def leavesOpen : Step → Bool
  | ⟨.node kind _ children, _⟩ =>
    match kind with
    | .call | .optionalCall =>
      (children.head?.bind spokenName?).any fun name => rules.isSilent name || rules.isLookup name
    | .interface | .superIndex => true
    | _ => false

end SearchRules

namespace Search

variable (search : Search)

/-- The steps that are not followed, or behind which only lookups count, are those that hide. -/
theorem hides_eq (rules : SearchRules) (step : Step) :
    rules.hides step = (rules.drops step || step.mutes) := by
  obtain ⟨⟨kind, span, children⟩, index⟩ := step
  cases kind
  case expressionStatement =>
    show _ = ((false || isDirective _ || false) || false)
    simp only [SearchRules.hides, Bool.false_or, Bool.or_false]
  case call => exact (Bool.or_false _).symm
  case new => exact (Bool.or_false _).symm
  case element tag => exact (Bool.or_false _).symm
  all_goals try rfl
  -- An attribute is left.
  next name =>
    show _ = ((false || false || (_ || _ || _)) || false)
    simp only [SearchRules.hides, Bool.false_or, Bool.or_false]
    rw [Bool.or_right_comm, List.contains_eq_mem]

/-! ## Readings -/

theorem found_eq (offset : Nat) (raw text : List Char) (token : TokenKind)
    (attributeName : Option String) :
    search.found offset raw text token attributeName =
      (search.shown? offset raw text token attributeName).toList.map .candidate := by
  rw [found, shown?]
  cases text with
  | nil => rfl
  | cons c rest => simp [guard]

theorem ofString_eq (span : Span) (value : Option String) (children : List Tree) :
    search.ofString span value =
      (search.candidate? (.node (.stringLiteral value) span children)).toList.map .candidate := by
  dsimp only [candidate?]
  unfold ofString
  cases value with
  | none => rfl
  | some value =>
    cases search.slice? span with
    | none => rfl
    | some raw =>
      cases raw with
      | nil => rfl
      | cons quote rest =>
        dsimp only
        rw [found_eq]
        by_cases quoted : quote = '"' ∨ quote = '\''
        · simp [guard, quoted]
        · simp [guard, quoted]

theorem ofMarkupText_eq (span : Span) (children : List Tree) :
    search.ofMarkupText span =
      (search.candidate? (.node .markupText span children)).toList.map .candidate := by
  dsimp only [candidate?]
  unfold ofMarkupText
  cases search.slice? span with
  | none => rfl
  | some raw =>
    dsimp only
    rw [found_eq, ← Text.trim]
    by_cases blank : Text.trim raw = []
    · have void : Text.squeeze (Text.Entity.decode []) = [] := by decide
      simp only [Option.bind_eq_bind, Option.bind_some, shown?, blank, void, guard]
      rfl
    · simp [guard, blank]

theorem ofAttribute_eq {name : String} (span inner : Span) (children rest : List Tree)
    (allowed : name ∈ search.rules.attributes ∧ name ∉ search.rules.excludedAttributes) :
    search.ofAttribute name span = (search.candidate? (.node (.attribute name) inner
      (.node .attributeText span children :: rest))).toList.map .candidate := by
  dsimp only [candidate?]
  unfold ofAttribute
  cases search.slice? span with
  | none => simp
  | some raw =>
    dsimp only
    rw [found_eq]
    simp [guard, allowed]

/-- The candidates that are read from a node on its own. -/
theorem candidates_atNode (t : Tree) :
    (search.atNode false t).filterMap Occurrence.candidate? = (search.candidate? t).toList := by
  have whole (c : Option Candidate) :
      (c.toList.map Occurrence.candidate).filterMap Occurrence.candidate? = c.toList := by
    cases c <;> rfl
  unfold atNode
  split
  next value span children =>
    rw [if_neg Bool.false_ne_true, search.ofString_eq span value children, whole]
  next span children =>
    rw [if_neg Bool.false_ne_true, search.ofMarkupText_eq span children, whole]
  next name inner span children rest =>
    rw [Bool.or_false]
    split
    next out =>
      have refused : ¬(name ∈ search.rules.attributes ∧ name ∉ search.rules.excludedAttributes) := by
        rintro ⟨allowed, known⟩
        simp [allowed, known] at out
      dsimp only [candidate?]
      rw [guard, if_neg refused]
      rfl
    next counts =>
      have allowed : name ∈ search.rules.attributes ∧ name ∉ search.rules.excludedAttributes := by
        simpa [and_comm] using counts
      rw [search.ofAttribute_eq span inner children rest allowed, whole]
  next span children =>
    split
    next => rfl
    next => rfl
  next strings texts attributes calls =>
    -- Both sides fall through to their last branch, which asks that no earlier one matches.
    rw [candidate?]
    · rfl
    · exact strings
    · exact texts
    · exact attributes

/-- Behind a step that leaves only lookups no candidate is read. -/
theorem candidates_atNode_muted (t : Tree) :
    (search.atNode true t).filterMap Occurrence.candidate? = [] := by
  unfold atNode
  split
  next => rfl
  next => rfl
  next =>
    rw [Bool.or_true]
    rfl
  next =>
    split
    next => rfl
    next => rfl
  next => rfl

theorem candidates_atSite (p : Site) :
    (search.atSite p).filterMap Occurrence.candidate? =
      if p.steps.any search.rules.hides then [] else (search.candidate? p.node).toList := by
  have split : p.steps.any search.rules.hides =
      (p.steps.any search.rules.drops || p.steps.any Step.mutes) := by
    rw [Bool.eq_iff_iff]
    simp only [List.any_eq_true, hides_eq, Bool.or_eq_true, and_or_left, exists_or]
  rw [split, atSite]
  cases p.steps.any search.rules.drops with
  | true => rfl
  | false =>
    rw [if_neg Bool.false_ne_true, Bool.false_or]
    cases p.steps.any Step.mutes with
    | true => exact search.candidates_atNode_muted p.node
    | false => exact search.candidates_atNode p.node

/-- The sites whose texts are shown. -/
def shownSites (rules : SearchRules) (t : Tree) : List Site :=
  t.sites.filter fun p => !p.steps.any rules.hides

/-- The candidates that a search finds are the texts at the sites that no step hides. -/
theorem candidates_visit (t : Tree) :
    (search.visit false t).filterMap Occurrence.candidate? =
      (shownSites search.rules t).filterMap fun p => search.candidate? p.node := by
  rw [visit_eq, List.filterMap_flatMap, shownSites, List.filterMap_filter,
    List.filterMap_eq_flatMap_toList]
  congr 1
  funext p
  rw [candidates_atSite]
  cases p.steps.any search.rules.hides <;> rfl

end Search

/-! ## Candidates -/

/-- The candidates of a source are, each once and in the order of positions, the texts of its tree
in no part without shown texts; of those in parts that are left open there may be some. -/
theorem occurrencesIn_candidates (rules : SearchRules) (file : String) (source : List Char)
    (tree : Tree) :
    let found := (occurrencesIn rules file source tree).filterMap Occurrence.candidate?
    let text? (p : Site) : Option Candidate := Search.candidate? ⟨rules, file, source⟩ p.node
    let shown := Search.shownSites rules tree
    found.Pairwise (fun a b => b.position.before a.position = false) ∧
    ∃ more, more.Sublist ((shown.filter (·.steps.any rules.leavesOpen)).filterMap text?) ∧
      found.Perm ((shown.filter (!·.steps.any rules.leavesOpen)).filterMap text? ++ more) := by
  intro found text? shown
  constructor
  · refine (occurrencesIn_sorted rules file source tree).filterMap Occurrence.candidate? ?_
    intro o o' ordered c read c' read'
    cases o <;> cases read
    cases o' <;> cases read'
    exact ordered
  · refine ⟨_, List.Sublist.refl _, ?_⟩
    have all : found.Perm (shown.filterMap text?) := by
      have sorted := occurrencesIn_perm rules file source tree
      exact (Search.candidates_visit ⟨rules, file, source⟩ tree) ▸ sorted.filterMap _
    rw [← List.filterMap_append]
    have parted := List.filter_append_perm (fun p : Site => p.steps.any rules.leavesOpen) shown
    exact all.trans ((parted.symm.trans List.perm_append_comm).filterMap text?)

/-! The tags of elements are compared without regard to letter case, so the component `Code` hides
its text too. -/

namespace Capitalized

def source : List Char := "export const a=<Code>Hi</Code>".toList

def rules : SearchRules := .ofSettings .standard

def candidate : Candidate where
  text := "Hi"
  raw := "Hi"
  file := "a.tsx"
  position := ⟨1, 22⟩
  token := .markupText
  attributeName := none
  surroundings := "export const a=<Code>Hi</Code>"

end Capitalized

/-- A text is no candidate though nothing but a component, and what declares it, is above it. -/
theorem occurrencesIn_omits_component :
    ∃ tree, readSource "a.tsx" Capitalized.source = .ok tree ∧
      (∃ p ∈ tree.sites, Search.candidate? ⟨Capitalized.rules, "a.tsx", Capitalized.source⟩ p.node =
          some Capitalized.candidate ∧
        p.steps.map (·.parent.kind) = [.element (some "Code"), .declarator, .variables,
          .exportDeclaration, .module]) ∧
      (occurrencesIn Capitalized.rules "a.tsx" Capitalized.source tree).filterMap
        Occurrence.candidate? = [] := by
  have reading : (readSource "a.tsx" Capitalized.source).toOption.map (fun tree =>
      (Search.visit ⟨Capitalized.rules, "a.tsx", Capitalized.source⟩ false tree,
        tree.sites.filterMap fun p =>
          (Search.candidate? ⟨Capitalized.rules, "a.tsx", Capitalized.source⟩ p.node).map
            (·, p.steps.map (·.parent.kind)))) =
      some ([], [(Capitalized.candidate, [.element (some "Code"), .declarator, .variables,
        .exportDeclaration, .module])]) := by
    decide +kernel
  obtain ⟨tree, read, found⟩ := exists_of_map_toOption reading
  obtain ⟨visited, texts⟩ := Prod.mk.inj found
  refine ⟨tree, read, ?_, ?_⟩
  · obtain ⟨p, member, reads⟩ := List.mem_filterMap.mp (texts ▸ List.mem_singleton_self _)
    obtain ⟨c, shown, same⟩ := Option.map_eq_some_iff.mp reads
    obtain ⟨rfl, kinds⟩ := Prod.mk.inj same
    exact ⟨p, member, shown, kinds⟩
  · rw [occurrencesIn, visited, List.mergeSort_nil]
    rfl

end Phrasebook
