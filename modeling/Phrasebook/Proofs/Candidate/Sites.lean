import Phrasebook.Candidate.Offsets

/-!
# Searching site by site

A search finds what is found at the sites of the tree one by one. Behind a step that is not
followed nothing is found.
-/

namespace Phrasebook

namespace Syntax

mutual

/-- The steps that lead to a tree lead to all its sites. -/
theorem suffix_of_mem_sitesBelow (steps : List Step) (t : Tree) {p : Site}
    (member : p ∈ t.sitesBelow steps) : steps <:+ p.steps := by
  obtain ⟨kind, span, children⟩ := t
  rw [Tree.sitesBelow] at member
  rcases List.mem_cons.mp member with rfl | below
  · exact List.suffix_rfl
  · obtain ⟨i, -, through⟩ := suffix_of_mem_sitesOf steps _ 0 children below
    exact (List.suffix_cons _ _).trans through

theorem suffix_of_mem_sitesOf (steps : List Step) (parent : Tree) (index : Nat) (trees : List Tree)
    {p : Site} (member : p ∈ sitesOf steps parent index trees) :
    ∃ i, index ≤ i ∧ ⟨parent, i⟩ :: steps <:+ p.steps := by
  cases trees with
  | nil => exact absurd member List.not_mem_nil
  | cons t rest =>
    rw [sitesOf] at member
    rcases List.mem_append.mp member with here | later
    · exact ⟨index, Nat.le_refl index, suffix_of_mem_sitesBelow _ t here⟩
    · obtain ⟨i, le, through⟩ := suffix_of_mem_sitesOf steps parent (index + 1) rest later
      exact ⟨i, Nat.le_of_succ_le le, through⟩

end

/-- A tree holds a node at one of its sites. -/
def Tree.Holds (t node : Tree) : Prop := ∃ p ∈ t.sites, p.node = node

theorem Tree.mem_sitesBelow_self (steps : List Step) (t : Tree) :
    ⟨steps, t⟩ ∈ t.sitesBelow steps := by
  obtain ⟨kind, span, children⟩ := t
  rw [sitesBelow]
  exact List.mem_cons_self

theorem exists_mem_sitesOf (steps : List Step) (parent : Tree) (index : Nat) {trees : List Tree}
    {t : Tree} (member : t ∈ trees) : ∃ p ∈ sitesOf steps parent index trees, p.node = t := by
  induction trees generalizing index with
  | nil => exact absurd member List.not_mem_nil
  | cons first rest ih =>
    rw [sitesOf]
    rcases List.mem_cons.mp member with rfl | later
    · exact ⟨_, List.mem_append_left _ (t.mem_sitesBelow_self _), rfl⟩
    · obtain ⟨p, found, same⟩ := ih (index + 1) later
      exact ⟨p, List.mem_append_right _ found, same⟩

mutual

/-- The children of a node have sites where the node has one. -/
theorem exists_child_sitesBelow (steps : List Step) (t : Tree) {p : Site} {child : Tree}
    (member : p ∈ t.sitesBelow steps) (below : child ∈ p.node.children) :
    ∃ q ∈ t.sitesBelow steps, q.node = child := by
  obtain ⟨kind, span, children⟩ := t
  rw [Tree.sitesBelow] at member ⊢
  rcases List.mem_cons.mp member with rfl | inner
  · obtain ⟨q, found, same⟩ := exists_mem_sitesOf steps (.node kind span children) 0 below
    exact ⟨q, List.mem_cons_of_mem _ found, same⟩
  · obtain ⟨q, found, same⟩ := exists_child_sitesOf steps _ 0 children inner below
    exact ⟨q, List.mem_cons_of_mem _ found, same⟩

theorem exists_child_sitesOf (steps : List Step) (parent : Tree) (index : Nat) (trees : List Tree)
    {p : Site} {child : Tree} (member : p ∈ sitesOf steps parent index trees)
    (below : child ∈ p.node.children) :
    ∃ q ∈ sitesOf steps parent index trees, q.node = child := by
  cases trees with
  | nil => exact absurd member List.not_mem_nil
  | cons t rest =>
    rw [sitesOf] at member ⊢
    rcases List.mem_append.mp member with here | later
    · obtain ⟨q, found, same⟩ := exists_child_sitesBelow _ t here below
      exact ⟨q, List.mem_append_left _ found, same⟩
    · obtain ⟨q, found, same⟩ := exists_child_sitesOf steps parent (index + 1) rest later below
      exact ⟨q, List.mem_append_right _ found, same⟩

end

namespace Tree.Holds

variable {t node part : Tree}

theorem refl (t : Tree) : t.Holds t := ⟨_, t.mem_sitesBelow_self [], rfl⟩

theorem child (holds : t.Holds node) (below : part ∈ node.children) : t.Holds part := by
  obtain ⟨p, member, rfl⟩ := holds
  exact exists_child_sitesBelow [] t member below

end Tree.Holds

end Syntax

open Syntax (Tree Span Kind Step Site)

/-! ## Steps that are not followed -/

namespace SearchRules

variable {rules : SearchRules}

theorem drops_of_silent {t : Tree} (silent : (isSilentKind t.kind || isDirective t) = true)
    (index : Nat) : rules.drops ⟨t, index⟩ = true := by
  rw [drops, silent, Bool.true_or]

theorem drops_of_cuts {step : Step} (cut : rules.cuts step = true) : rules.drops step = true := by
  rw [drops, cut, Bool.or_true]

theorem drops_eq {t : Tree} (heard : ¬(isSilentKind t.kind || isDirective t) = true)
    (index : Nat) : rules.drops ⟨t, index⟩ = rules.cuts ⟨t, index⟩ := by
  rw [drops, eq_false_of_ne_true heard, Bool.false_or]

variable {span : Span} {children : List Tree}

theorem isNamedCall_eq {name : String} (called : children.head?.bind calleeName? = some name)
    (kind : Kind) :
    rules.isNamedCall (.node kind span children) = (rules.isSilent name || rules.isLookup name) := by
  rw [isNamedCall, Tree.children, called, Option.any_some]

theorem not_isNamedCall (unnamed : children.head?.bind calleeName? = none) (kind : Kind) :
    rules.isNamedCall (.node kind span children) = false := by
  rw [isNamedCall, Tree.children, unnamed, Option.any_none]

theorem looksUp_eq {name : String} (called : children.head?.bind calleeName? = some name) :
    rules.looksUp (.node .call span children) = (!rules.isSilent name && rules.isLookup name) := by
  rw [looksUp, called, Option.any_some]

theorem not_looksUp (unnamed : children.head?.bind calleeName? = none) :
    rules.looksUp (.node .call span children) = false := by
  rw [looksUp, unnamed, Option.any_none]

end SearchRules

namespace Search

variable {search : Search}

/-- Nothing is found behind a step that is not followed. -/
theorem atSite_dropped {p : Site} {steps : List Step} (through : steps <:+ p.steps)
    (dropped : steps.any search.rules.drops = true) : search.atSite p = [] := by
  obtain ⟨step, member, drops⟩ := List.any_eq_true.mp dropped
  exact if_pos (List.any_eq_true.mpr ⟨step, through.mem member, drops⟩)

theorem flatMap_sitesOf_dropped {steps : List Step} {parent : Tree} {index : Nat}
    (dropped : ∀ i, index ≤ i → search.rules.drops ⟨parent, i⟩ = true) (trees : List Tree) :
    (Syntax.sitesOf steps parent index trees).flatMap search.atSite = [] := by
  refine List.flatMap_eq_nil_iff.mpr fun p member => ?_
  obtain ⟨i, le, through⟩ := Syntax.suffix_of_mem_sitesOf steps parent index trees member
  exact atSite_dropped through (List.any_eq_true.mpr ⟨_, List.mem_cons_self, dropped i le⟩)

/-- A node of a part that is left out is not read itself. -/
theorem atNode_of_silent {t : Tree} (suppressed : Bool)
    (silent : (isSilentKind t.kind || isDirective t) = true) : search.atNode suppressed t = [] := by
  obtain ⟨kind, span, children⟩ := t
  rcases Bool.or_eq_true_iff.mp silent with out | directive
  · rw [Tree.kind] at out
    cases kind
    all_goals first | rfl | cases out
  · cases kind
    all_goals first | rfl | cases directive

theorem atNode_attribute {name : String} {span : Span} {value : Tree} {rest : List Tree}
    (suppressed : Bool) (spoken : value.kind ≠ .attributeText) :
    search.atNode suppressed (.node (.attribute name) span (value :: rest)) = [] := by
  rw [atNode]
  · nofun
  · nofun
  · rintro _ _ _ _ _ ⟨⟩
    exact spoken rfl
  · nofun

theorem atNode_attribute_excluded {name : String} {span : Span} {children : List Tree}
    (suppressed : Bool) (excluded : search.rules.excludedAttributes.contains name = true) :
    search.atNode suppressed (.node (.attribute name) span children) = [] := by
  cases children with
  | nil => rfl
  | cons value rest =>
    by_cases plain : value.kind = .attributeText
    · obtain ⟨kind, inner, parts⟩ := value
      cases plain
      rw [atNode, excluded]
      rfl
    · exact atNode_attribute suppressed plain

theorem visitAttribute_spoken {name : String} {value : Tree} {rest : List Tree}
    (suppressed : Bool) (spoken : value.kind ≠ .attributeText) :
    search.visitAttribute suppressed name (value :: rest) = search.visit suppressed value := by
  rw [visitAttribute]
  rintro _ _ rfl
  exact spoken rfl

variable (search)

/-- What a search finds in a tree, it finds site by site, behind steps that are followed. -/
def ReadsSites (t : Tree) : Prop := ∀ steps : List Step, steps.any search.rules.drops = false →
  search.visit (steps.any Step.mutes) t = (t.sitesBelow steps).flatMap search.atSite

/-! Children. -/

section

variable {search} {steps : List Step} (followed : steps.any search.rules.drops = false)
  {parent : Tree}

include followed

theorem visitAll_eq (index : Nat) {trees : List Tree} (below : ∀ t ∈ trees, search.ReadsSites t)
    (opened : ∀ i, search.rules.drops ⟨parent, i⟩ = false) :
    search.visitAll (Step.mutes ⟨parent, 0⟩ || steps.any Step.mutes) trees =
      (Syntax.sitesOf steps parent index trees).flatMap search.atSite := by
  induction trees generalizing index with
  | nil => rfl
  | cons t rest ih =>
    have first := below t List.mem_cons_self (⟨parent, index⟩ :: steps)
      (by rw [List.any_cons, opened, followed]; rfl)
    rw [visitAll, Syntax.sitesOf, List.flatMap_append, ← first, List.any_cons,
      ← ih (index + 1) fun t later => below t (List.mem_cons_of_mem _ later)]
    rfl

theorem visitFirst_eq (parent : Tree) {trees : List Tree} (below : ∀ t ∈ trees, search.ReadsSites t)
    (first : search.rules.drops ⟨parent, 0⟩ = false)
    (others : ∀ i, 1 ≤ i → search.rules.drops ⟨parent, i⟩ = true) :
    search.visitFirst (Step.mutes ⟨parent, 0⟩ || steps.any Step.mutes) trees =
      (Syntax.sitesOf steps parent 0 trees).flatMap search.atSite := by
  cases trees with
  | nil => rfl
  | cons t rest =>
    have visited := below t List.mem_cons_self (⟨parent, 0⟩ :: steps)
      (by rw [List.any_cons, first, followed]; rfl)
    rw [Syntax.sitesOf, List.flatMap_append, flatMap_sitesOf_dropped others, ← visited,
      List.append_nil]
    rfl

end

/-! Nodes. From most of them no step is followed, or all are. -/

section

variable {search} {steps : List Step} (followed : steps.any search.rules.drops = false)
  {kind : Kind} {span : Span} {children : List Tree}

include followed

theorem flatMap_sitesBelow : ((Syntax.Tree.node kind span children).sitesBelow steps).flatMap
    search.atSite = search.atNode (steps.any Step.mutes) (.node kind span children) ++
      (Syntax.sitesOf steps (.node kind span children) 0 children).flatMap search.atSite := by
  have here : search.atSite ⟨steps, .node kind span children⟩ =
      search.atNode (steps.any Step.mutes) (.node kind span children) :=
    if_neg (by rw [followed]; exact Bool.false_ne_true)
  rw [Tree.sitesBelow, List.flatMap_cons, here]

theorem flatMap_sitesBelow_dropped
    (dropped : ∀ i, search.rules.drops ⟨.node kind span children, i⟩ = true) :
    ((Syntax.Tree.node kind span children).sitesBelow steps).flatMap search.atSite =
      search.atNode (steps.any Step.mutes) (.node kind span children) := by
  rw [flatMap_sitesBelow followed, flatMap_sitesOf_dropped fun i _ => dropped i, List.append_nil]

theorem flatMap_sitesBelow_opened (below : ∀ t ∈ children, search.ReadsSites t)
    (opened : ∀ i, search.rules.drops ⟨.node kind span children, i⟩ = false)
    (quiet : search.atNode (steps.any Step.mutes) (.node kind span children) = []) :
    ((Syntax.Tree.node kind span children).sitesBelow steps).flatMap search.atSite =
      search.visitAll (Step.mutes ⟨.node kind span children, 0⟩ || steps.any Step.mutes)
        children := by
  rw [flatMap_sitesBelow followed, quiet, List.nil_append, visitAll_eq followed 0 below opened]

/-- Some calls are left out, some are lookups, and the others have parts that count. -/
theorem visitCall_eq (below : ∀ t ∈ children, search.ReadsSites t) :
    search.visit (steps.any Step.mutes) (.node .call span children) =
      ((Syntax.Tree.node .call span children).sitesBelow steps).flatMap search.atSite := by
  have heard : ¬(isSilentKind .call || isDirective (.node .call span children)) = true :=
    Bool.false_ne_true
  have drops (i : Nat) : search.rules.drops ⟨.node .call span children, i⟩ =
      search.rules.isNamedCall (.node .call span children) :=
    SearchRules.drops_eq (t := .node .call span children) heard i
  rw [visit, if_neg heard]
  cases called : children.head?.bind calleeName? with
  | none =>
    rw [flatMap_sitesBelow_opened followed below
      (fun i => (drops i).trans (SearchRules.not_isNamedCall called _))
      (by rw [atNode, SearchRules.not_looksUp called]; rfl)]
    rfl
  | some name =>
    have named (i : Nat) := (drops i).trans (SearchRules.isNamedCall_eq called _)
    have asks := @SearchRules.looksUp_eq search.rules span children name called
    dsimp only
    -- A silent call drops its parts, a lookup is read itself, and only the others are searched.
    cases silent : search.rules.isSilent name with
    | true =>
      rw [silent] at asks named
      rw [flatMap_sitesBelow_dropped followed fun i => (named i).trans (Bool.true_or _), atNode,
        asks]
      rfl
    | false =>
      rw [silent] at asks named
      cases lookup : search.rules.isLookup name with
      | true =>
        rw [lookup] at asks named
        rw [flatMap_sitesBelow_dropped followed named, atNode, asks]
        rfl
      | false =>
        rw [lookup] at asks named
        rw [flatMap_sitesBelow_opened followed below named (by rw [atNode, asks]; rfl)]
        rfl

/-- An attribute counts with its value, and is read with it if the value is plain. -/
theorem visitAttribute_eq {name : String} (below : ∀ t ∈ children, search.ReadsSites t) :
    search.visit (steps.any Step.mutes) (.node (.attribute name) span children) =
      ((Syntax.Tree.node (.attribute name) span children).sitesBelow steps).flatMap search.atSite := by
  have heard : ¬(isSilentKind (.attribute name) ||
      isDirective (.node (.attribute name) span children)) = true :=
    Bool.false_ne_true
  have drops (i : Nat) : search.rules.drops ⟨.node (.attribute name) span children, i⟩ =
      search.rules.cuts ⟨.node (.attribute name) span children, i⟩ :=
    SearchRules.drops_eq (t := .node (.attribute name) span children) heard i
  rw [visit, if_neg heard]
  cases excluded : search.rules.excludedAttributes.contains name with
  | true =>
    rw [flatMap_sitesBelow_dropped followed fun i => (drops i).trans
      (by rw [SearchRules.cuts, excluded, Bool.true_or, Bool.true_or])]
    exact (atNode_attribute_excluded _ excluded).symm
  | false =>
    rw [if_neg Bool.false_ne_true]
    cases children with
    | nil =>
      rw [flatMap_sitesBelow followed]
      rfl
    | cons value rest =>
      -- A plain value is read with its attribute, so the sites below it are cut off.
      by_cases plain : value.kind = .attributeText
      · obtain ⟨kind, span, inner⟩ := value
        cases plain
        rw [flatMap_sitesBelow_dropped followed fun i => (drops i).trans
          (by rw [SearchRules.cuts]; exact Bool.or_true _), atNode, excluded, Bool.false_or]
        rfl
      · rw [visitAttribute_spoken _ plain, flatMap_sitesBelow followed,
          atNode_attribute _ plain, List.nil_append]
        refine visitFirst_eq followed (.node (.attribute name) span (value :: rest)) below ?_ ?_
        · rw [drops, SearchRules.cuts, excluded, List.head?_cons, Option.any_some,
            beq_false_of_ne plain]
          rfl
        · intro i later
          rw [drops, SearchRules.cuts, bne_iff_ne.mpr (Nat.ne_of_gt later)]
          simp

end

/-- A node is read with what its children give. -/
theorem readsPlaces_node (kind : Kind) (span : Span) (children : List Tree)
    (below : ∀ t ∈ children, search.ReadsSites t) :
    search.ReadsSites (.node kind span children) := by
  intro steps followed
  by_cases call : kind = .call
  · rw [call]
    exact visitCall_eq followed below
  by_cases part : ∃ name, kind = .attribute name
  · obtain ⟨name, rfl⟩ := part
    exact visitAttribute_eq followed below
  unfold visit
  split
  next silent =>
    rw [flatMap_sitesBelow_dropped followed (SearchRules.drops_of_silent silent)]
    exact (atNode_of_silent (t := .node kind span children) _ silent).symm
  next heard =>
    have drops := @SearchRules.drops_eq search.rules (.node kind span children) heard
    split
    next =>
      rw [flatMap_sitesBelow_dropped followed fun _ => SearchRules.drops_of_cuts rfl]
      rfl
    next =>
      rw [flatMap_sitesBelow_dropped followed fun _ => SearchRules.drops_of_cuts rfl]
      rfl
    next => exact (flatMap_sitesBelow_opened followed below drops rfl).symm
    next => exact (flatMap_sitesBelow_opened followed below drops rfl).symm
    next => exact (flatMap_sitesBelow_opened followed below drops rfl).symm
    next =>
      split
      next made =>
        have cut (i : Nat) : search.rules.cuts ⟨.node .new span children, i⟩ = true := made
        rw [flatMap_sitesBelow_dropped followed fun i => SearchRules.drops_of_cuts (cut i)]
        rfl
      next plain =>
        exact (flatMap_sitesBelow_opened followed below
          (fun i => (drops i).trans (eq_false_of_ne_true plain)) rfl).symm
    next tag =>
      split
      next silent =>
        rw [flatMap_sitesBelow followed]
        refine visitFirst_eq followed (.node (.element tag) span children) below ?_ ?_
        · rw [drops, SearchRules.cuts, bne_self_eq_false, Bool.and_false]
        · intro index later
          refine SearchRules.drops_of_cuts ?_
          rw [SearchRules.cuts, silent, Bool.true_and, bne_iff_ne]
          exact Nat.ne_of_gt later
      next shown =>
        refine (flatMap_sitesBelow_opened followed below (fun i => (drops i).trans ?_) rfl).symm
        rw [SearchRules.cuts, eq_false_of_ne_true shown, Bool.false_and]
    next name => exact absurd ⟨name, rfl⟩ part
    next => exact absurd rfl call
    next others =>
      -- The other nodes are nothing on their own, and all that stands below them counts.
      have quiet : search.atNode (steps.any Step.mutes) (.node kind span children) = [] := by
        unfold atNode
        split
        all_goals simp_all
      have uncut (i : Nat) : search.rules.cuts ⟨.node kind span children, i⟩ = false := by
        unfold SearchRules.cuts
        split
        all_goals simp_all
      have sounds : Step.mutes ⟨.node kind span children, 0⟩ = false := by
        unfold Step.mutes
        split
        all_goals simp_all [Tree.kind]
      rw [flatMap_sitesBelow_opened followed below (fun i => (drops i).trans (uncut i)) quiet,
        sounds, Bool.false_or]

mutual

theorem readsPlaces (t : Tree) : search.ReadsSites t := by
  obtain ⟨kind, span, children⟩ := t
  exact readsPlaces_node search kind span children (readsPlaces_of_mem children)

theorem readsPlaces_of_mem (trees : List Tree) : ∀ t ∈ trees, search.ReadsSites t := by
  cases trees with
  | nil => exact fun _ member => absurd member List.not_mem_nil
  | cons first rest => exact List.forall_mem_cons.mpr ⟨readsPlaces first, readsPlaces_of_mem rest⟩

end

/-- What a search finds is what is found at the sites of the tree, in their order. -/
theorem visit_eq (t : Tree) : search.visit false t = t.sites.flatMap search.atSite :=
  readsPlaces search t [] rfl

end Search

end Phrasebook
