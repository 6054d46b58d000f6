import Mathlib.Data.List.Pairwise
import Phrasebook.Proofs.Outcome
import Phrasebook.Proofs.Rewrite.Binding
import Phrasebook.Syntax.Module

/-!
# What stands first stays first

The import of a rewrite goes behind the directives of the module, so that these, and a line that
names an interpreter, stay in front. Accessors go right behind the brace of the component's body: if
any are added, they stand in front of the body's directives.
-/

namespace Phrasebook

open Syntax (Tree)
open Text (Edit Spliced byteLength)

/-! ## Heads -/

/-- The items of a module follow each other, behind a line that names an interpreter, and the body
of a component stands within its item. -/
structure Syntax.Tree.IsLaidOut (source : List Char) (tree : Tree) : Prop where
  spans : ∀ item ∈ tree.children, item.start ≤ item.stop
  ordered : tree.children.Pairwise fun a b => a.stop ≤ b.start
  behind : ∀ item ∈ tree.children, (Syntax.skipInterpreter 0 source).1 ≤ item.start
  within : ∀ item ∈ tree.children, ∀ c ∈ Component.ofItem? item,
    item.start ≤ c.bodyStart ∧ c.bodyStop ≤ item.stop

namespace ModuleHead

/-- The directives of a list of statements are the first ones, up to the one that ends last. -/
theorem directivesStop?_spec {statements : List Tree} {stop : Nat}
    (found : directivesStop? statements = some stop) :
    ∃ front last rest, statements = front ++ last :: rest ∧ last.stop = stop ∧
      ∀ t ∈ front ++ [last], isDirective t = true := by
  induction statements generalizing stop with
  | nil => cases found
  | cons t rest ih =>
    unfold directivesStop? at found
    split at found
    next span value inner children more same =>
      obtain ⟨rfl, rfl⟩ := List.cons.inj same
      cases later : directivesStop? rest with
      | none =>
        rw [later, Option.none_or, Option.some.injEq] at found
        exact ⟨[], _, rest, rfl, found, by simp [isDirective]⟩
      | some stop' =>
        rw [later, Option.some_or, Option.some.injEq] at found
        subst found
        obtain ⟨front, last, behind, parts, ends, directives⟩ := ih later
        refine ⟨_ :: front, last, behind, by rw [parts]; rfl, ends, ?_⟩
        exact List.forall_mem_cons.mpr ⟨rfl, directives⟩
    next => cases found

variable {source : List Char} {tree : Tree}

/-- An item that is no directive starts behind the directives. -/
theorem directivesStop_le (laidOut : tree.IsLaidOut source) {stop : Nat}
    (found : directivesStop? tree.children = some stop) {item : Tree}
    (member : item ∈ tree.children) (other : isDirective item = false) : stop ≤ item.start := by
  obtain ⟨front, last, rest, parts, rfl, directives⟩ := directivesStop?_spec found
  have ordered := laidOut.ordered
  rw [parts] at member ordered
  have later : item ∈ rest := by
    rcases List.mem_append.mp member with early | late
    · exact absurd (directives item (List.mem_append_left _ early)) (by simp [other])
    · rcases List.mem_cons.mp late with rfl | later
      · exact absurd (directives item (by simp)) (by simp [other])
      · exact later
  exact (List.pairwise_cons.mp (List.pairwise_append.mp ordered).2.1).1 item later

/-- An import goes behind an import of the module, or behind its directives. -/
theorem import_or_directives {offset : Nat} (place : (ofModule tree).insertion? = some offset) :
    (∃ item ∈ tree.children, isDirective item = false ∧ Component.ofItem? item = none ∧
      item.stop = offset) ∨ directivesStop? tree.children = some offset := by
  rw [insertion?] at place
  cases last : (ofModule tree).lastImportStop with
  | none =>
    rw [last, Option.none_or] at place
    exact Or.inr place
  | some stop =>
    rw [last, Option.some_or, Option.some.injEq] at place
    obtain ⟨item, member, ends⟩ := List.mem_filterMap.mp (List.mem_of_getLast? last)
    refine Or.inl ⟨item, member, ?_⟩
    unfold importStop? at ends
    split at ends
    next names span children =>
      cases ends
      exact ⟨rfl, rfl, place⟩
    next => cases ends

/-- An import goes behind an item of the module, if something stands before it. -/
theorem exists_item_of_insertion? {offset : Nat}
    (place : (ofModule tree).insertion? = some offset) :
    ∃ item ∈ tree.children, item.stop = offset := by
  rcases import_or_directives place with ⟨item, member, -, -, ends⟩ | directives
  · exact ⟨item, member, ends⟩
  · obtain ⟨front, last, rest, parts, ends, -⟩ := directivesStop?_spec directives
    exact ⟨last, by simp [parts], ends⟩

theorem exists_insertion?_of_directives {stop : Nat}
    (found : (ofModule tree).directivesStop = some stop) :
    ∃ offset, (ofModule tree).insertion? = some offset := by
  rw [insertion?, found]
  cases (ofModule tree).lastImportStop with
  | none => exact ⟨stop, rfl⟩
  | some offset => exact ⟨offset, rfl⟩

/-- Directives stand in front of an import that is added. -/
theorem directivesStop_le_insertion (laidOut : tree.IsLaidOut source) {stop offset : Nat}
    (found : (ofModule tree).directivesStop = some stop)
    (place : (ofModule tree).insertion? = some offset) : stop ≤ offset := by
  rcases import_or_directives place with ⟨item, member, other, -, rfl⟩ | same
  · exact Nat.le_trans (directivesStop_le laidOut found member other) (laidOut.spans item member)
  · exact Nat.le_of_eq (Option.some.inj (found.symm.trans same))

end ModuleHead

/-- A component does not start within the directives of its module. -/
theorem Component.directivesStop_le {source : List Char} {tree : Tree}
    (laidOut : tree.IsLaidOut source) {stop : Nat}
    (found : (ModuleHead.ofModule tree).directivesStop = some stop) {c : Component}
    (component : ofModule? tree = some c) : stop ≤ c.bodyStart := by
  obtain ⟨item, member, made⟩ := List.exists_of_findSome?_eq_some component
  have other : isDirective item = false := by
    obtain ⟨kind, span, children⟩ := item
    cases kind
    case expressionStatement => cases made
    all_goals rfl
  exact Nat.le_trans (ModuleHead.directivesStop_le laidOut found member other)
    (laidOut.within item member c made).1

/-- An import that is added stands outside the body of the component. -/
theorem Component.insertion_outside {source : List Char} {tree : Tree}
    (laidOut : tree.IsLaidOut source) {c : Component} (component : ofModule? tree = some c)
    {offset : Nat} (place : (ModuleHead.ofModule tree).insertion? = some offset) :
    offset ≤ c.bodyStart ∨ c.bodyStop ≤ offset := by
  rcases ModuleHead.import_or_directives place with ⟨item, member, -, none, rfl⟩ | directives
  · obtain ⟨home, inside, made⟩ := List.exists_of_findSome?_eq_some component
    have within := laidOut.within home inside c made
    have apart : item.stop ≤ home.start ∨ home.stop ≤ item.start := by
      have ne : item ≠ home := by
        rintro rfl
        rw [none] at made
        cases made
      have : Std.Symm Tree.Apart := ⟨fun _ _ => Or.symm⟩
      have all : tree.children.Pairwise Tree.Apart := laidOut.ordered.imp Or.inl
      exact all.forall member inside ne
    have := laidOut.spans item member
    omega
  · exact Or.inl (directivesStop_le laidOut directives component)

namespace Component.ImportedBy

variable {b : Binding} {tree : Tree} {c : Component} {e : Edit} (imported : c.ImportedBy b tree e)

include imported

theorem start_eq {offset : Nat} (place : (ModuleHead.ofModule tree).insertion? = some offset) :
    e.start = offset := by
  unfold ImportedBy at imported
  rw [place] at imported
  rw [imported]
  rfl

theorem start_eq_zero (place : (ModuleHead.ofModule tree).insertion? = none) : e.start = 0 := by
  unfold ImportedBy at imported
  rw [place] at imported
  rw [imported]
  rfl

end Component.ImportedBy

/-! ## Rewrites -/

/-- A rewrite is made of lookups in the component, an import and accessors, in the order in which
they are made. -/
structure Rewrite.ComposedOf (rules : RewriteRules) (source : List Char) (tree : Tree)
    (c : Component) (r : Rewrite) (lookups imports accessors ordered : List Edit) : Prop where
  component : Component.ofModule? tree = some c
  perm : ordered.Perm (lookups ++ imports ++ accessors)
  apart : ordered.Pairwise fun a b => a.stop ≤ b.start
  spliced : Spliced 0 source ordered r.content.toList
  single : imports.length ≤ 1
  inside : ∀ e ∈ lookups, c.bodyStart < e.start ∧ e.start < e.stop ∧ e ∈ r.edits
  imported : ∀ e ∈ imports, r.importAdded = true ∧ c.ImportedBy rules.binding tree e
  declared : ∀ e ∈ accessors, e.start = c.bodyStart + 1 ∧ e.stop = c.bodyStart + 1 ∧ e.code ≠ ""
  accessors_eq_nil : accessors = [] ↔ r.accessorsAdded = []

namespace Rewrite.ComposedOf

variable {rules : RewriteRules} {source : List Char} {tree : Tree} {c : Component} {r : Rewrite}
  {lookups imports accessors ordered : List Edit}

theorem mem_cases (made : r.ComposedOf rules source tree c lookups imports accessors ordered)
    {e : Edit} (member : e ∈ ordered) : e ∈ lookups ∨ e ∈ imports ∨ e ∈ accessors := by
  have listed := made.perm.mem_iff.mp member
  rw [List.mem_append, List.mem_append, or_assoc] at listed
  exact listed

theorem forward (made : r.ComposedOf rules source tree c lookups imports accessors ordered) :
    ∀ e ∈ ordered, e.start ≤ e.stop := by
  intro e member
  rcases made.mem_cases member with lookup | added | declared
  · exact Nat.le_of_lt (made.inside e lookup).2.1
  · exact Nat.le_of_eq (made.imported e added).2.isInsertion.symm
  · have := made.declared e declared
    omega

/-- What stands in front of the component and of an added import stays in front. -/
theorem keeps_front (made : r.ComposedOf rules source tree c lookups imports accessors ordered)
    {front rest : List Char} (parts : front ++ rest = source)
    (before : byteLength front ≤ c.bodyStart + 1)
    (ahead : ∀ e ∈ imports, byteLength front ≤ e.start) :
    ∃ more, r.content.toList = front ++ more := by
  have spliced := made.spliced
  rw [← parts] at spliced
  obtain ⟨more, same, -⟩ := spliced.keeps_front fun e member => by
    rw [Nat.zero_add]
    rcases made.mem_cases member with lookup | added | declared
    · have := (made.inside e lookup).1
      omega
    · exact ahead e added
    · rw [(made.declared e declared).1]
      exact before
  exact ⟨more, same⟩

/-- At most one edit is made in front of the component's brace, and that one is the import. -/
theorem before_brace (made : r.ComposedOf rules source tree c lookups imports accessors ordered)
    {before after : List Edit} (parts : ordered = before ++ after)
    (early : ∀ e ∈ before, e.start < c.bodyStart + 1) :
    before.length ≤ 1 ∧ ∀ e ∈ before, e ∈ imports := by
  have added : ∀ e ∈ before, e ∈ imports := by
    intro e member
    have first := early e member
    rcases made.mem_cases (parts ▸ List.mem_append_left _ member) with lookup | added | declared
    · have := (made.inside e lookup).1
      omega
    · exact added
    · have := (made.declared e declared).1
      omega
  refine ⟨?_, added⟩
  -- The edits are counted in either order: only the import can stand in front of the brace.
  let isEarly (e : Edit) : Bool := decide (e.start < c.bodyStart + 1)
  have counted := (made.perm.filter isEarly).length_eq
  have lookupsLate : lookups.filter isEarly = [] := by
    refine List.filter_eq_nil_iff.mpr fun e member => ?_
    have := (made.inside e member).1
    simp only [isEarly, decide_eq_true_eq]
    omega
  have accessorsLate : accessors.filter isEarly = [] := by
    refine List.filter_eq_nil_iff.mpr fun e member => ?_
    simp [isEarly, (made.declared e member).1]
  have front : before.filter isEarly = before :=
    List.filter_eq_self.mpr fun e member => decide_eq_true (early e member)
  rw [parts, List.filter_append, List.filter_append, List.filter_append, front, lookupsLate,
    accessorsLate, List.nil_append, List.append_nil, List.length_append] at counted
  have := List.length_filter_le isEarly imports
  have := made.single
  omega

/-- Of the edits behind the component's brace the accessors come first. -/
theorem behind_brace (made : r.ComposedOf rules source tree c lookups imports accessors ordered)
    {before after : List Edit} (parts : ordered = before ++ after)
    (early : ∀ e ∈ before, e.start < c.bodyStart + 1)
    (late : ∀ e ∈ after, c.bodyStart + 1 ≤ e.start)
    (outside : ∀ e ∈ imports, e.start ≤ c.bodyStart ∨ c.bodyStop ≤ e.start)
    (braces : c.bodyStart + 1 < c.bodyStop) :
    ∃ first others, after = first ++ others ∧ (∀ e, e ∈ first ↔ e ∈ accessors) ∧
      ∀ e ∈ others, e ∈ lookups ∨ e ∈ imports ∧ c.bodyStop ≤ e.start := by
  -- An accessor is told from the other edits behind the brace by where it stops.
  have stops : ∀ e ∈ after, e.stop = c.bodyStart + 1 ↔ e ∈ accessors := by
    intro e member
    have start := late e member
    refine ⟨fun stop => ?_, fun declared => (made.declared e declared).2.1⟩
    rcases made.mem_cases (parts ▸ List.mem_append_right _ member) with lookup | added | declared
    · have := (made.inside e lookup).2.1
      omega
    · have same : e.stop = e.start := (made.imported e added).2.isInsertion
      have := outside e added
      omega
    · exact declared
  let isDeclared (e : Edit) : Bool := decide (e.stop = c.bodyStart + 1)
  have whole : after = after.takeWhile isDeclared ++ after.dropWhile isDeclared :=
    List.takeWhile_append_dropWhile.symm
  have apart : after.Pairwise fun a b => a.stop ≤ b.start :=
    (List.pairwise_append.mp (parts ▸ made.apart)).2.1
  have rest : ∀ e ∈ after.dropWhile isDeclared, e ∉ accessors := by
    intro e member declared
    cases split : after.dropWhile isDeclared with
    | nil => simp [split] at member
    | cons next later =>
      have other : isDeclared next = false := by
        have := List.head?_dropWhile_not isDeclared after
        simpa [split] using this
      have inAfter : next ∈ after := by
        rw [whole, split]
        simp
      have wide : c.bodyStart + 1 < next.stop := by
        have := late next inAfter
        have := decide_eq_false_iff_not.mp other
        have fits := made.forward next (parts ▸ List.mem_append_right _ inAfter)
        omega
      rw [split] at member whole
      rcases List.mem_cons.mp member with rfl | later'
      · have := (made.declared e declared).2.1
        omega
      · rw [whole] at apart
        have := (List.pairwise_cons.mp (List.pairwise_append.mp apart).2.1).1 e later'
        have := (made.declared e declared).1
        omega
  refine ⟨_, _, whole, fun e => ⟨fun member => ?_, fun declared => ?_⟩, fun e member => ?_⟩
  · have stop := List.all_eq_true.mp List.all_takeWhile e member
    exact (stops e ((List.takeWhile_sublist _).subset member)).mp (of_decide_eq_true stop)
  · have listed : e ∈ before ++ after := by
      rw [← parts]
      exact made.perm.mem_iff.mpr (List.mem_append_right _ declared)
    rcases List.mem_append.mp listed with front | member
    · have := early e front
      have := (made.declared e declared).1
      omega
    · rw [whole] at member
      exact (List.mem_append.mp member).resolve_right fun other => rest e other declared
  · have inAfter := (List.dropWhile_sublist _).subset member
    rcases made.mem_cases (parts ▸ List.mem_append_right _ inAfter) with lookup | added | declared
    · exact Or.inl lookup
    · have := outside e added
      have := late e inAfter
      exact Or.inr ⟨added, by omega⟩
    · exact absurd declared (rest e member)

/-- What stands behind the brace of the component stays there, behind the accessors that are
added. -/
theorem opens_body (made : r.ComposedOf rules source tree c lookups imports accessors ordered)
    {front head rest : List Char} (parts : front ++ (head ++ rest) = source)
    (brace : byteLength front = c.bodyStart + 1) (inner : byteLength (front ++ head) < c.bodyStop)
    (outside : ∀ e ∈ imports, e.start ≤ c.bodyStart ∨ c.bodyStop ≤ e.start)
    (free : ∀ e ∈ lookups, byteLength (front ++ head) ≤ e.start) :
    ∃ before front' declared more, before.length ≤ 1 ∧ (∀ e ∈ before, e ∈ imports) ∧
      Spliced 0 front before front' ∧
      r.content.toList = front' ++ (declared ++ (head ++ more)) ∧
      (declared = [] ↔ r.accessorsAdded = []) := by
  rw [Text.byteLength_append] at inner free
  have spliced := made.spliced
  rw [← parts] at spliced
  -- The content is cut at the brace: in front of it stands at most the import, right behind it the
  -- accessors, and the lookups come later.
  obtain ⟨before, after, front', last, sorted, content, head', behind, early⟩ :=
    spliced.cut fun e member starts => by
      rcases made.mem_cases member with lookup | added | declared
      · have := (made.inside e lookup).1
        omega
      · exact (made.imported e added).2.isInsertion ▸ Nat.le_of_lt starts
      · have := (made.declared e declared).1
        omega
  have late := behind.le_start
  simp only [Nat.zero_add, brace] at early late behind
  obtain ⟨single, added⟩ := made.before_brace sorted early
  obtain ⟨first, others, rfl, listed, rest⟩ :=
    made.behind_brace sorted early late outside (by omega)
  obtain ⟨opened, rfl, tail⟩ := behind.insertions fun e member =>
    have declared := made.declared e ((listed e).mp member)
    ⟨declared.1, declared.2.1⟩
  obtain ⟨more, rfl, -⟩ := tail.keeps_front fun e member => by
    rcases rest e member with lookup | ⟨-, beyond⟩
    · have := free e lookup
      omega
    · omega
  refine ⟨before, front', first.flatMap (·.code.toList), more, single, added, head', content, ?_⟩
  rw [← made.accessors_eq_nil]
  simp only [List.flatMap_eq_nil_iff, String.toList_eq_nil_iff]
  constructor
  · intro blank
    refine List.eq_nil_iff_forall_not_mem.mpr fun e declared => ?_
    exact (made.declared e declared).2.2 (blank e ((listed e).mpr declared))
  · rintro rfl e member
    exact absurd ((listed e).mp member) List.not_mem_nil

end Rewrite.ComposedOf

namespace RewriteRules

variable (rules : RewriteRules) (file : String) (source : List Char) (entries : List Entry)
  (d : Dictionary) {r : Rewrite} {tree : Tree}

/-- A rewrite leaves its source as it is, or is composed of edits. -/
theorem rewrite_composed (returned : rules.rewrite file source entries d = .ok r)
    (read : readSource file source = .ok tree) :
    r.content.toList = source ∧ r.accessorsAdded = [] ∨ ∃ c lookups imports accessors ordered,
      r.ComposedOf rules source tree c lookups imports accessors ordered := by
  obtain ⟨tree', read', made⟩ := (rules.rewrite_eq_ok_iff file source d entries r).mp returned
  obtain rfl : tree = tree' := Except.ok.inj (read.symm.trans read')
  let scene := rules.scene file source tree d
  let plan := Plan.ofEntries scene entries
  obtain ⟨same, idle, ordered, perm, apart, spliced⟩ :=
    make_spliced source (rules.edits scene tree plan) r (by simp [scene, RewriteRules.scene]) made
  have covers : plan.Covers scene entries := Plan.covers_ofEntries scene entries
  -- An import and accessors are only added for lookups, so without these nothing is edited.
  by_cases nonempty : plan.edits = []
  · left
    have bare : (rules.edits scene tree plan).edits = [] ∧
        (rules.edits scene tree plan).accessorsAdded = [] ∧
        (rules.edits scene tree plan).content.toList = source := by
      unfold edits
      split <;> simp [nonempty, scene, RewriteRules.scene]
    rw [idle bare.1]
    exact ⟨bare.2.2, bare.2.1⟩
  · right
    obtain ⟨first, inside⟩ := List.exists_mem_of_ne_nil _ nonempty
    have applies (edit : Edit) (member : edit ∈ plan.edits) :
        ∃ e : Entry, e.AppliedBy rules file source tree d edit := by
      obtain ⟨e, -, edited, -⟩ := covers.planned edit member
      exact ⟨e, rules.appliedBy_of_edit? file source tree d e edit edited⟩
    obtain ⟨e, applied⟩ := applies first inside
    obtain ⟨c, found, -⟩ := applied.within
    have completed := rules.edits_completed tree scene plan c found nonempty
    dsimp only at completed
    have reported : r.importAdded = (rules.edits scene tree plan).importAdded ∧
        r.accessorsAdded = (rules.edits scene tree plan).accessorsAdded := by
      rcases make_cases source _ r made with ⟨-, rfl⟩ | ⟨-, _, _, -, -, rfl⟩
      · exact ⟨rfl, rfl⟩
      · exact ⟨rfl, rfl⟩
    rw [completed] at perm same reported
    refine ⟨c, _, _, _, ordered, {
      component := found
      perm, apart, spliced
      single := Option.length_toList_le
      inside := fun e member => ?_
      imported := fun e member => ?_
      declared := fun e member => ?_
      accessors_eq_nil := ?_ }⟩
    · obtain ⟨entry, applied⟩ := applies e member
      obtain ⟨c', found', behind, -⟩ := applied.within
      cases found.symm.trans found'
      refine ⟨behind, applied.nonempty, ?_⟩
      rw [same]
      exact List.mem_append_left _ (List.mem_append_left _ member)
    · have missing := Option.mem_toList.mp member
      refine ⟨?_, importedBy_of_importEdit? tree rules.binding c e missing⟩
      rw [reported.1]
      exact Option.isSome_iff_exists.mpr ⟨e, missing⟩
    · obtain ⟨name, -, rfl⟩ := List.mem_map.mp member
      refine ⟨rfl, rfl, fun none => ?_⟩
      have chars := congrArg String.toList none
      simp [Component.accessorEdit, Edit.insert] at chars
    · rw [reported.2, List.map_eq_nil_iff, List.map_eq_nil_iff]

end RewriteRules

/-- What a rewrite leaves first. -/
structure Rewrite.KeepsHeads (source : List Char) (tree : Tree) (r : Rewrite) : Prop where
  /-- A line that names an interpreter, with all that stands before the first item, unless an import
  goes to the very start. -/
  interpreter : (r.importAdded = true → (ModuleHead.ofModule tree).insertion?.isSome = true) →
    ∀ front, front <+: source → (byteLength front ≤ (Syntax.skipInterpreter 0 source).1 ∨
      ∀ item ∈ tree.children, byteLength front ≤ item.start) → front <+: r.content.toList
  /-- The directives of the module, with what stands before them and between them. -/
  directives : ∀ stop, (ModuleHead.ofModule tree).directivesStop = some stop →
    ∀ front, front <+: source → byteLength front ≤ stop → front <+: r.content.toList
  /-- What stands behind the brace of the component, up to the first token that is replaced: only
  accessors come in between. In front of the brace only an import is added. -/
  body : ∀ c, Component.ofModule? tree = some c → ∀ front head,
    front ++ head <+: source → byteLength front = c.bodyStart + 1 →
      byteLength (front ++ head) < c.bodyStop →
      (∀ e ∈ r.edits, e.start < e.stop →
        e.start < byteLength front ∨ byteLength (front ++ head) ≤ e.start) →
      ∃ imports front' declared, imports.length ≤ 1 ∧
        (∀ e ∈ imports, r.importAdded = true ∧ e.stop = e.start ∧ e.start ≤ c.bodyStart) ∧
        Spliced 0 front imports front' ∧ front' ++ (declared ++ head) <+: r.content.toList ∧
        (declared = [] ↔ r.accessorsAdded = [])

namespace Rewrite.KeepsHeads

variable {source : List Char} {tree : Tree} {r : Rewrite}

/-- A source that is left as it is keeps its heads. -/
theorem of_same (same : r.content.toList = source) (none : r.accessorsAdded = []) :
    r.KeepsHeads source tree where
  interpreter := fun _ _ part _ => same ▸ part
  directives := fun _ _ _ part _ => same ▸ part
  body := fun _ _ front _ part _ _ _ => ⟨[], front, [], Nat.zero_le _, by simp, .done 0 front,
    by rwa [same], by simp [none]⟩

/-- A rewrite that is composed of edits keeps the heads of a module that is laid out. -/
theorem of_composed {rules : RewriteRules} {c : Component}
    {lookups imports accessors ordered : List Edit}
    (made : r.ComposedOf rules source tree c lookups imports accessors ordered)
    (laidOut : tree.IsLaidOut source) : r.KeepsHeads source tree := by
  obtain ⟨home, inside, found⟩ := List.exists_of_findSome?_eq_some made.component
  have braced := (laidOut.within home inside c found).1
  constructor
  case interpreter =>
    rintro placed front ⟨rest, parts⟩ first
    have before : ∀ item ∈ tree.children, byteLength front ≤ item.start := by
      intro item member
      rcases first with line | opening
      · exact Nat.le_trans line (laidOut.behind item member)
      · exact opening item member
    obtain ⟨more, same⟩ := made.keeps_front parts
      (Nat.le_succ_of_le (Nat.le_trans (before home inside) braced)) fun e added => by
        obtain ⟨reported, imported⟩ := made.imported e added
        obtain ⟨offset, place⟩ := Option.isSome_iff_exists.mp (placed reported)
        rw [imported.start_eq place]
        obtain ⟨item, member, rfl⟩ := ModuleHead.exists_item_of_insertion? place
        exact Nat.le_trans (before item member) (laidOut.spans item member)
    exact ⟨more, same.symm⟩
  case directives =>
    rintro stop directives front ⟨rest, parts⟩ first
    have ahead := Component.directivesStop_le laidOut directives made.component
    obtain ⟨more, same⟩ := made.keeps_front parts (by omega) fun e added => by
      obtain ⟨-, imported⟩ := made.imported e added
      obtain ⟨offset, place⟩ := ModuleHead.exists_insertion?_of_directives directives
      rw [imported.start_eq place]
      exact Nat.le_trans first (ModuleHead.directivesStop_le_insertion laidOut directives place)
    exact ⟨more, same.symm⟩
  case body =>
    rintro c' component front head ⟨rest, parts⟩ brace inner free
    cases made.component.symm.trans component
    have outside : ∀ e ∈ imports, e.start ≤ c.bodyStart ∨ c.bodyStop ≤ e.start := by
      intro e added
      obtain ⟨-, imported⟩ := made.imported e added
      cases place : (ModuleHead.ofModule tree).insertion? with
      | some offset =>
        rw [imported.start_eq place]
        exact Component.insertion_outside laidOut component place
      | none =>
        rw [imported.start_eq_zero place]
        exact Or.inl (Nat.zero_le _)
    obtain ⟨before, front', declared, more, single, added, spliced, content, none⟩ :=
      made.opens_body (by rwa [← List.append_assoc]) brace inner outside fun e lookup => by
        obtain ⟨behind, nonempty, edited⟩ := made.inside e lookup
        have := free e edited nonempty
        omega
    refine ⟨before, front', declared, single, fun e member => ?_, spliced, ?_, none⟩
    · obtain ⟨reported, imported⟩ := made.imported e (added e member)
      have insertion := imported.isInsertion
      have := spliced.stop_le e member
      have := outside e (added e member)
      rw [Text.byteLength_append] at inner
      exact ⟨reported, insertion, by omega⟩
    · exact ⟨more, by simp [content]⟩

end Rewrite.KeepsHeads

/-! A script with directives in the module and in the component, which lacks the accessor of its
text. -/

namespace Guarded

/-- The module: a line `#!e`, then `'c';import{u}from'n';export function A(){'b';g("a")}`. -/
def source : List Char :=
  ['#', '!', 'e', '\n', '\'', 'c', '\'', ';', 'i', 'm', 'p', 'o', 'r', 't', '{', 'u', '}', 'f', 'r',
    'o', 'm', '\'', 'n', '\'', ';', 'e', 'x', 'p', 'o', 'r', 't', ' ', 'f', 'u', 'n', 'c', 't', 'i',
    'o', 'n', ' ', 'A', '(', ')', '{', '\'', 'b', '\'', ';', 'g', '(', '"', 'a', '"', ')', '}']

def entry : Entry :=
  ⟨⟨"a", "\"a\"", "a.ts", ⟨2, 48⟩, .stringLiteral, none, ""⟩, "x.k", "x", .new⟩

def component : Component := ⟨"A", false, 44, 56, some 45, []⟩

def scene : RewriteScene where
  file := "a.ts"
  source := source
  tokens := [⟨51, ⟨2, 48⟩, "\"a\"", .stringLiteral⟩]
  component := some component
  text? := Twofold.dictionary.leaf? "en"

def edits : List Edit := [⟨51, 54, "tX('k')"⟩, .insert 45 "\n  const tX = u('x');"]

def rewritten : Rewrite where
  file := "a.ts"
  content := "#!e\n'c';import\x7bu\x7dfrom'n';export function A()\x7b" ++
    "\n  const tX = u('x');'b';g(tX('k'))\x7d"
  edits := edits
  applied := 1
  skips := []
  importAdded := false
  accessorsAdded := ["tX"]

theorem plan : Plan.ofEntries scene [entry] = ⟨edits.take 1, ["x"], []⟩ := by
  rw [Plan.ofEntries_singleton]
  decide +kernel

theorem rewrite_source :
    Twofold.rules.rewrite "a.ts" source [entry] Twofold.dictionary = .ok rewritten := by
  obtain ⟨tree, read, head, looked⟩ := Twofold.rules.exists_scene "a.ts" source Twofold.dictionary
    [(⟨2, 48⟩, "\"a\"", .stringLiteral)] scene.tokens scene.component ⟨some 25, some 8, ["u"]⟩
    (by decide +kernel) (by decide +kernel)
  have bare : Twofold.rules.edits scene tree (Plan.ofEntries scene [entry]) =
      { rewritten with content := String.ofList source } := by
    rw [plan, Twofold.rules.edits_completed tree scene _ component rfl (by decide), head,
      Plan.orderedSpaceNames_singleton]
    decide +kernel
  have ordered : Text.arrange source edits = .ok edits.reverse := by
    have faultless : ∀ e ∈ edits, e.fault? source = none := by decide +kernel
    refine (Text.arrange_eq_ok_iff _ _ _).mpr ⟨?_, fun e member =>
      (Edit.fault?_eq_none_iff source e).mp (faultless e member), by decide⟩
    simp [edits, List.mergeSort, Edit.le, Edit.isInsertion, Edit.insert]
  have spliced : Text.splice source edits = .ok rewritten.content.toList := by
    rw [Text.splice, ordered]
    decide +kernel
  have written := Twofold.rules.rewrite_eq_ok "a.ts" source tree Twofold.dictionary _ scene _
    rewritten.content.toList read looked bare (by decide) spliced (by decide +kernel)
  rwa [String.ofList_toList] at written

/-- The body of the function that a module exports. -/
def body? (tree : Tree) : Option Tree :=
  tree.children.findSome? fun item => item.children.head?.bind Component.body?

/-- Where the directives of that body end. -/
def bodyDirectives? (tree : Tree) : Option Nat :=
  (body? tree).bind fun body => ModuleHead.directivesStop? body.children

/-- The module can be read, and its items follow each other. -/
theorem exists_tree : ∃ tree, readSource "a.ts" source = .ok tree ∧ tree.IsLaidOut source ∧
    bodyDirectives? tree = some 49 := by
  have reading : (readSource "a.ts" source).toOption.map (fun (tree : Tree) =>
      (decide (∀ item ∈ tree.children, item.start ≤ item.stop ∧ 3 ≤ item.start),
        decide (tree.children.Pairwise fun (a b : Tree) => a.stop ≤ b.start),
        tree.children.all (fun item => (Component.ofItem? item).all fun c =>
          decide (item.start ≤ c.bodyStart) && decide (c.bodyStop ≤ item.stop)),
        bodyDirectives? tree)) = some (true, true, true, some 49) := by
    decide +kernel
  obtain ⟨tree, read, same⟩ := exists_of_map_toOption reading
  simp only [Prod.mk.injEq, decide_eq_true_eq, List.all_eq_true, Option.all_eq_true,
    Bool.and_eq_true] at same
  obtain ⟨spans, ordered, within, directives⟩ := same
  exact ⟨tree, read, ⟨fun item member => (spans item member).1, ordered,
    fun item member => (spans item member).2, within⟩, directives⟩

end Guarded

namespace RewriteRules

/-- A rewrite keeps the heads of a module that is laid out: its first line and its directives stay
first, and so does what stands first in the component, exactly if no accessor is added. -/
theorem rewrite_keeps_heads (rules : RewriteRules) (file : String) (source : List Char)
    (entries : List Entry) (d : Dictionary) (r : Rewrite) (tree : Tree)
    (returned : rules.rewrite file source entries d = .ok r)
    (read : readSource file source = .ok tree) (laidOut : tree.IsLaidOut source) :
    r.KeepsHeads source tree := by
  rcases rules.rewrite_composed file source entries d returned read with
    ⟨same, none⟩ | ⟨c, lookups, imports, accessors, ordered, made⟩
  · exact .of_same same none
  · exact .of_composed made laidOut

theorem rewrite_keeps_heads_guarded :
    Twofold.rules.rewrite "a.ts" Guarded.source [Guarded.entry] Twofold.dictionary =
      .ok Guarded.rewritten ∧
    ∃ tree, readSource "a.ts" Guarded.source = .ok tree ∧ tree.IsLaidOut Guarded.source ∧
      Guarded.rewritten.KeepsHeads Guarded.source tree := by
  obtain ⟨tree, read, laidOut, -⟩ := Guarded.exists_tree
  exact ⟨Guarded.rewrite_source, tree, read, laidOut,
    rewrite_keeps_heads _ _ _ _ _ _ _ Guarded.rewrite_source read laidOut⟩

/-- An accessor stands in front of the directives of the component, which then are none. -/
theorem rewrite_moves_directive :
    Twofold.rules.rewrite "a.ts" Guarded.source [Guarded.entry] Twofold.dictionary =
      .ok Guarded.rewritten ∧
    ∃ tree again, readSource "a.ts" Guarded.source = .ok tree ∧
      readSource "a.ts" Guarded.rewritten.content.toList = .ok again ∧
      Guarded.bodyDirectives? tree = some 49 ∧ (Guarded.body? again).isSome = true ∧
      Guarded.bodyDirectives? again = none := by
  obtain ⟨tree, read, -, directives⟩ := Guarded.exists_tree
  have rereading : (readSource "a.ts" Guarded.rewritten.content.toList).toOption.map
      (fun tree => ((Guarded.body? tree).isSome, Guarded.bodyDirectives? tree)) =
        some (true, none) := by
    decide +kernel
  obtain ⟨again, reread, same⟩ := exists_of_map_toOption rereading
  exact ⟨Guarded.rewrite_source, tree, again, read, reread, directives, Prod.mk.inj same⟩

end RewriteRules

end Phrasebook
