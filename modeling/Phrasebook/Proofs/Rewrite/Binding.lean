import Phrasebook.Proofs.Key.Naming
import Phrasebook.Proofs.Rewrite.Recorded

/-!
# The names that lookups use

A lookup calls an accessor, which an accessor's declaration binds with an imported function. Both
are known by their names alone: the import is left out exactly if the module imports the name, from
wherever, and a declaration exactly if the component declares a variable of that name, whatever its
value. What is missing is added, so every lookup of a rewrite finds its names.
-/

namespace Phrasebook

open Syntax (Tree Kind)
open Text (Edit byteLength)

/-! ## Names in scope -/

/-- A module imports a name if one of its items does. -/
theorem ModuleHead.importEdit?_isSome_iff (tree : Tree) (name source : String) :
    ((ofModule tree).importEdit? name source).isSome = true ↔
      ∀ item ∈ tree.children, name ∉ namesOf item := by
  have known : name ∈ (ofModule tree).importedNames ↔
      ∃ item ∈ tree.children, name ∈ namesOf item := List.mem_flatMap
  unfold importEdit?
  split
  next imported =>
    obtain ⟨item, member, named⟩ := known.mp (List.contains_iff_mem.mp imported)
    exact iff_of_false Bool.false_ne_true fun absent => absent item member named
  next missing =>
    have absent : ∀ item ∈ tree.children, name ∉ namesOf item := fun item member named =>
      missing (List.contains_iff_mem.mpr (known.mpr ⟨item, member, named⟩))
    split
    · exact iff_of_true rfl absent
    · exact iff_of_true rfl absent

theorem Component.mem_lacking (c : Component) (spaceNames : List String) (name : String) :
    name ∈ c.lacking spaceNames ↔ name ∈ spaceNames ∧ Key.accessor name ∉ c.declared := by
  simp [lacking]

/-- The names that a lookup of an entry uses are in scope: the component declares its accessor, or
the rewrite does, and the lookup calls it with what is left of the entry's key. -/
structure Rewrite.Binds (rules : RewriteRules) (source : List Char) (component : Component)
    (r : Rewrite) (e : Entry) : Prop where
  added_iff : Key.accessor e.spaceName ∈ r.accessorsAdded ↔
    Key.accessor e.spaceName ∉ component.declared
  declared : Key.accessor e.spaceName ∈ r.accessorsAdded →
    component.accessorEdit source (component.bindingOf rules.binding).1 e.spaceName ∈ r.edits
  completes : e.spaceName ++ "." ++ e.relativeKey = e.key ∨
    e.relativeKey = e.key ∧ ¬ (e.spaceName ++ ".").toList <+: e.key.toList

namespace RewriteRules

variable (rules : RewriteRules) (file : String) (source : List Char) (d : Dictionary)

/-- The names that the lookups of a rewrite use are bound, as far as names go. -/
theorem rewrite_binds_names (entries : List Entry) (r : Rewrite)
    (returned : rules.rewrite file source entries d = .ok r) (applied : 0 < r.applied) :
    ∃ tree component, readSource file source = .ok tree ∧
      Component.ofModule? tree = some component ∧
      (r.importAdded = true ↔
        ∀ item ∈ tree.children, (component.bindingOf rules.binding).1 ∉ ModuleHead.namesOf item) ∧
      (r.importAdded = true → ∃ edit ∈ r.edits, component.ImportedBy rules.binding tree edit) ∧
      ∀ lookup ∈ r.edits, lookup.start < lookup.stop →
        ∃ e ∈ entries, e.AppliedBy rules file source tree d lookup ∧
          r.Binds rules source component e := by
  obtain ⟨tree, read, reports⟩ := rules.rewrite_reports file source d entries r returned
  let scene := rules.scene file source tree d
  let plan := Plan.ofEntries scene entries
  have covers : plan.Covers scene entries := Plan.covers_ofEntries scene entries
  obtain ⟨imports, accessors, made⟩ := rules.edits_madeOf file source tree d entries plan covers
  have nonempty : plan.edits ≠ [] := by
    rw [reports.applied_eq] at applied
    exact List.ne_nil_of_length_pos applied
  -- Whatever is applied stands in the component, so there is one.
  obtain ⟨first, inside⟩ := List.exists_mem_of_ne_nil _ nonempty
  obtain ⟨e, -, edited, -⟩ := covers.planned first inside
  have applies := rules.appliedBy_of_edit? file source tree d e first edited
  obtain ⟨component, found, -⟩ := applies.within
  have added := reports.importAdded_eq
  have accessorsAdded := reports.accessorsAdded_eq
  have edits := reports.edits_eq
  rw [rules.edits_completed tree scene plan component found nonempty] at added accessorsAdded edits
  dsimp only at added accessorsAdded edits
  refine ⟨tree, component, read, found, ?_, fun imported => ?_, fun lookup member replaces => ?_⟩
  · rw [added, ModuleHead.importEdit?_isSome_iff]
  · rw [added] at imported
    obtain ⟨edit, missing⟩ := Option.isSome_iff_exists.mp imported
    refine ⟨edit, ?_, importedBy_of_importEdit? tree rules.binding component edit missing⟩
    rw [edits, missing]
    simp
  · have claims : lookup ∈ plan.edits :=
      made.mem_lookups lookup (reports.edits_eq ▸ member) replaces
    obtain ⟨e, known, edited, named⟩ := covers.planned lookup claims
    refine ⟨e, known, rules.appliedBy_of_edit? file source tree d e lookup edited, ?_⟩
    have used := (plan.mem_orderedSpaceNames e.spaceName).mpr named
    have lacks (name : String) := component.mem_lacking plan.orderedSpaceNames name
    have added_iff : Key.accessor e.spaceName ∈ r.accessorsAdded ↔
        Key.accessor e.spaceName ∉ component.declared := by
      rw [accessorsAdded, List.mem_map]
      constructor
      · rintro ⟨name, lacking, equal⟩
        exact equal ▸ ((lacks name).mp lacking).2
      · intro absent
        exact ⟨e.spaceName, (lacks e.spaceName).mpr ⟨used, absent⟩, rfl⟩
    refine { added_iff, declared := fun inserted => ?_, completes := Key.relative_spec _ _ }
    rw [edits]
    exact List.mem_append_right _
      (List.mem_map_of_mem ((lacks e.spaceName).mpr ⟨used, added_iff.mp inserted⟩))

theorem rewrite_binds_names_twofold :
    Twofold.rules.rewrite "a.ts" Twofold.source [Twofold.entry] Twofold.dictionary =
      .ok Twofold.first ∧ 0 < Twofold.first.applied ∧
    ∃ tree component, readSource "a.ts" Twofold.source = .ok tree ∧
      Component.ofModule? tree = some component ∧
      (Twofold.first.importAdded = true ↔ ∀ item ∈ tree.children,
        (component.bindingOf Twofold.rules.binding).1 ∉ ModuleHead.namesOf item) ∧
      (Twofold.first.importAdded = true → ∃ edit ∈ Twofold.first.edits,
        component.ImportedBy Twofold.rules.binding tree edit) ∧
      ∀ lookup ∈ Twofold.first.edits, lookup.start < lookup.stop → ∃ e ∈ [Twofold.entry],
        e.AppliedBy Twofold.rules "a.ts" Twofold.source tree Twofold.dictionary lookup ∧
          Twofold.first.Binds Twofold.rules Twofold.source component e :=
  ⟨Twofold.rewrite_source, by decide,
    rewrite_binds_names _ _ _ _ _ _ Twofold.rewrite_source (by decide)⟩

end RewriteRules

/-! A module that imports a function of the right name from elsewhere, and a component with a list
of the accessor's name. -/

namespace Namesake

/-- The module: `import{u}from'z';export function A(){let tX=["a"]}`. -/
def source : List Char :=
  ['i', 'm', 'p', 'o', 'r', 't', '{', 'u', '}', 'f', 'r', 'o', 'm', '\'', 'z', '\'', ';', 'e', 'x',
    'p', 'o', 'r', 't', ' ', 'f', 'u', 'n', 'c', 't', 'i', 'o', 'n', ' ', 'A', '(', ')', '{', 'l',
    'e', 't', ' ', 't', 'X', '=', '[', '"', 'a', '"', ']', '}']

def entry : Entry :=
  { Twofold.entry with candidate := { Twofold.entry.candidate with position := ⟨1, 46⟩ } }

def scene : RewriteScene where
  file := "a.ts"
  source := source
  tokens := [⟨45, ⟨1, 46⟩, "\"a\"", .stringLiteral⟩]
  component := some ⟨"A", false, 36, 50, some 37, ["tX"]⟩
  text? := Twofold.dictionary.leaf? "en"

def rewritten : Rewrite where
  file := "a.ts"
  content := "import\x7bu\x7dfrom'z';export function A()\x7blet tX=[tX('k')]\x7d"
  edits := [⟨45, 48, "tX('k')"⟩]
  applied := 1
  skips := []
  importAdded := false
  accessorsAdded := []

theorem rewrite_source :
    Twofold.rules.rewrite "a.ts" source [entry] Twofold.dictionary = .ok rewritten := by
  refine Twofold.rules.rewrite_eq_lookup "a.ts" source Twofold.dictionary [entry] scene
    ⟨"A", false, 36, 50, some 37, ["tX"]⟩ ⟨some 17, none, ["u"]⟩
    [(⟨1, 46⟩, "\"a\"", .stringLiteral)] ⟨45, 48, "tX('k')"⟩ "x" [] rewritten.content rfl
    (by decide +kernel) (by decide +kernel) ?_ (by decide) (by decide +kernel) (by decide +kernel)
    (by decide +kernel) (by decide +kernel)
  rw [Plan.ofEntries_singleton]
  decide +kernel

end Namesake

/-- Whether an item imports a name from an origin. -/
def ModuleHead.importsFrom (name origin : String) : Tree → Bool
  | .node (.importDeclaration names) _ (.node (.stringLiteral (some value)) _ _ :: _) =>
    names.contains name && value == origin
  | _ => false

namespace RewriteRules

/-- Neither the import nor the accessor is added where only their names are taken: nothing is
imported from the binding's source, and the accessor is no value of the binding. -/
theorem rewrite_trusts_names :
    Twofold.rules.rewrite "a.ts" Namesake.source [Namesake.entry] Twofold.dictionary =
      .ok Namesake.rewritten ∧
    0 < Namesake.rewritten.applied ∧ Namesake.rewritten.importAdded = false ∧
    Namesake.rewritten.accessorsAdded = [] ∧ Text.contains ['u', '('] Namesake.source = false ∧
    ∃ tree, readSource "a.ts" Namesake.source = .ok tree ∧
      ∀ item ∈ tree.children, ModuleHead.importsFrom Twofold.rules.binding.hook
        Twofold.rules.binding.hookSource item = false := by
  refine ⟨Namesake.rewrite_source, by decide, rfl, rfl, by decide, ?_⟩
  have reading : (readSource "a.ts" Namesake.source).toOption.map (fun tree =>
      tree.children.all fun item => !ModuleHead.importsFrom "u" "n" item) = some true := by
    decide +kernel
  obtain ⟨tree, read, none⟩ := Option.map_eq_some_iff.mp reading
  have absent : ∀ item ∈ tree.children, ModuleHead.importsFrom "u" "n" item = false := by
    simpa using none
  refine ⟨tree, ?_, absent⟩
  cases result : readSource "a.ts" Namesake.source with
  | error failure =>
    rw [result] at read
    cases read
  | ok tree' =>
    rw [result] at read
    cases read
    rfl

end RewriteRules

end Phrasebook
