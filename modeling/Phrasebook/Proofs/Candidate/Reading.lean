import Phrasebook.Candidate.Search

/-!
# Searching text by text

All that a search finds is read from single nodes of a tree. So what holds of every reading, and
carries over to what is found side by side, holds of the whole search, together with the texts of
the tree: the nodes that candidates are read from.
-/

namespace Phrasebook

namespace Syntax

/-- Nodes of these kinds hold texts. -/
def Kind.isText : Kind → Bool
  | .stringLiteral _ | .markupText | .attributeText => true
  | _ => false

mutual

/-- The texts of a tree, in reading order. -/
def Tree.texts : Tree → List Tree
  | .node kind span children =>
    (if kind.isText then [.node kind span children] else []) ++ textsOf children

/-- The texts of trees that stand side by side. -/
def textsOf : List Tree → List Tree
  | [] => []
  | t :: rest => t.texts ++ textsOf rest

end

end Syntax

open Syntax (Tree Span)

namespace Search

variable (search : Search)

/-- A property of what is found in stretches with given texts that holds of everything that is read
from a single node, and of all that is found side by side. -/
structure HoldsOfReadings (P : List Occurrence → List Tree → Prop) : Prop where
  nothing : ∀ texts, P [] texts
  both : ∀ found others texts more, P found texts → P others more →
    P (found ++ others) (texts ++ more)
  strings : ∀ span value children,
    P (search.ofString span value) [.node (.stringLiteral value) span children]
  attributes : ∀ name span children,
    P (search.ofAttribute name span) [.node .attributeText span children]
  texts : ∀ span children, P (search.ofMarkupText span) [.node .markupText span children]
  lookups : ∀ span arguments texts, P (search.ofLookup span arguments) texts

variable {search} {P : List Occurrence → List Tree → Prop}

namespace HoldsOfReadings

/-- Further texts do no harm, in front or behind. -/
theorem of_front (readings : search.HoldsOfReadings P) {found : List Occurrence}
    {texts : List Tree} (holds : P found texts) (more : List Tree) : P found (texts ++ more) := by
  simpa using readings.both found [] texts more holds (readings.nothing more)

theorem of_back (readings : search.HoldsOfReadings P) {found : List Occurrence}
    {texts : List Tree} (holds : P found texts) (more : List Tree) : P found (more ++ texts) :=
  readings.both [] found more texts (readings.nothing more) holds

end HoldsOfReadings

mutual

theorem holds_visit (readings : search.HoldsOfReadings P) (suppressed : Bool) (t : Tree) :
    P (search.visit suppressed t) t.texts := by
  obtain ⟨kind, span, children⟩ := t
  have all (suppressed : Bool) :
      P (search.visitAll suppressed children) (Syntax.Tree.node kind span children).texts :=
    readings.of_back (holds_visitAll readings suppressed children) _
  -- A node is left out, is read itself, or passes the search on to its children.
  unfold visit
  split
  next => exact readings.nothing _
  next =>
    split
    next =>
      split
      · exact readings.nothing _
      · exact readings.of_front (readings.strings span _ children) _
    next =>
      split
      · exact readings.nothing _
      · exact readings.of_front (readings.texts span children) _
    next => exact all true
    next => exact all true
    next => exact all true
    next =>
      split
      · exact readings.nothing _
      · exact all suppressed
    next =>
      split
      · exact readings.of_back (holds_visitFirst readings suppressed children) _
      · exact all suppressed
    next =>
      split
      · exact readings.nothing _
      · exact readings.of_back (holds_visitAttribute readings suppressed _ children) _
    next =>
      split
      next =>
        split
        · exact readings.nothing _
        · split
          · exact readings.lookups span _ _
          · exact all suppressed
      next => exact all suppressed
    next => exact all suppressed

theorem holds_visitAll (readings : search.HoldsOfReadings P) (suppressed : Bool)
    (trees : List Tree) : P (search.visitAll suppressed trees) (Syntax.textsOf trees) := by
  cases trees with
  | nil => exact readings.nothing _
  | cons t rest =>
    exact readings.both _ _ _ _ (holds_visit readings suppressed t)
      (holds_visitAll readings suppressed rest)

theorem holds_visitFirst (readings : search.HoldsOfReadings P) (suppressed : Bool)
    (trees : List Tree) : P (search.visitFirst suppressed trees) (Syntax.textsOf trees) := by
  cases trees with
  | nil => exact readings.nothing _
  | cons t rest => exact readings.of_front (holds_visit readings suppressed t) _

theorem holds_visitAttribute (readings : search.HoldsOfReadings P) (suppressed : Bool)
    (name : String) (trees : List Tree) :
    P (search.visitAttribute suppressed name trees) (Syntax.textsOf trees) := by
  cases trees with
  | nil => exact readings.nothing _
  | cons t rest =>
    have value := holds_visit readings suppressed t
    refine readings.of_front ?_ _
    unfold visitAttribute
    split
    next => exact readings.nothing _
    next span children tail same =>
      obtain ⟨rfl, rfl⟩ := List.cons.inj same
      split
      · exact readings.nothing _
      · exact readings.of_front (readings.attributes name span children) _
    next other tail plain same =>
      obtain ⟨rfl, rfl⟩ := List.cons.inj same
      exact value

end

end Search

/-- Putting what is found in order leaves nothing out and adds nothing. -/
theorem occurrencesIn_perm (rules : SearchRules) (file : String) (source : List Char)
    (tree : Tree) : (occurrencesIn rules file source tree).Perm
      (Search.visit ⟨rules, file, source⟩ false tree) :=
  List.mergeSort_perm _ _

/-- What a search visits in order, it yields. -/
theorem occurrences_of_visit {rules : SearchRules} {file : String} {source : List Char}
    {found : List Occurrence}
    (reading : (readSource file source).toOption.map
      (fun tree => Search.visit ⟨rules, file, source⟩ false tree) = some found)
    (ordered : found.Pairwise fun a b => (!b.position.before a.position) = true) :
    occurrences rules file source = .ok found := by
  cases read : readSource file source with
  | error failure =>
    rw [read] at reading
    cases reading
  | ok tree =>
    rw [read] at reading
    cases reading
    rw [occurrences, read, Except.map, occurrencesIn, List.mergeSort_of_pairwise ordered]

end Phrasebook
