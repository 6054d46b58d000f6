import Phrasebook.Proofs.Rewrite.Planning
import Phrasebook.Proofs.Text.Splicing
import Phrasebook.Rewrite.Basic

/-!
# A rewrite replaces recorded tokens only

Whatever entries are applied to a source, however old they are, what a rewrite changes is tokens
that the source holds now and that an entry recorded, each for the lookup of that entry. It adds at
most one import, at the head of the module, and accessors at the start of its component. All else
stays.
-/

namespace Phrasebook

open Syntax (Tree)
open Text (Edit Spliced byteLength)

/-- An edit puts the lookup of an entry in the place of the entry's token: a candidate that the
source holds there, of the text, the kind and the line that the entry recorded, which starts between
the braces of the module's component. -/
structure Entry.AppliedBy (rules : RewriteRules) (file : String) (source : List Char) (tree : Tree)
    (d : Dictionary) (e : Entry) (edit : Edit) : Prop where
  token : ∃ c, .candidate c ∈ occurrencesIn rules.search file source tree ∧
    c.StandsAt source edit.start ∧ edit.stop = edit.start + byteLength c.raw.toList ∧
    c.position.line = e.candidate.position.line ∧ c.token = e.candidate.token ∧
    c.raw = e.candidate.raw
  within : ∃ component, Component.ofModule? tree = some component ∧
    component.bodyStart < edit.start ∧ edit.start < component.bodyStop
  keyed : ∃ text, d.leaf? rules.sourceLocale e.key = some text
  code : edit.code = if e.candidate.token = .stringLiteral then e.lookupCall
    else "\x7b" ++ e.lookupCall ++ "\x7d"

theorem Entry.AppliedBy.nonempty {rules : RewriteRules} {file : String} {source : List Char}
    {tree : Tree} {d : Dictionary} {e : Entry} {edit : Edit}
    (applied : e.AppliedBy rules file source tree d edit) : edit.start < edit.stop := by
  obtain ⟨c, -, stands, stop, -⟩ := applied.token
  have positive : byteLength c.raw.toList ≠ 0 := fun none =>
    stands.raw_ne ((Text.byteLength_eq_zero _).mp none)
  omega

/-- The import that a component needs stands at the head of its module. -/
def Component.ImportedBy (b : Binding) (tree : Tree) (component : Component) (edit : Edit) : Prop :=
  let statement := importStatement (component.bindingOf b).1 (component.bindingOf b).2
  match (ModuleHead.ofModule tree).insertion? with
  | some offset => edit = .insert offset ("\n" ++ statement)
  | none => edit = .insert 0 (statement ++ "\n")

/-- The edits of a rewrite: those of entries, by start, then at most one import, then accessors of
the namespaces of applied entries. Nothing is added if no entry is applied. -/
structure Rewrite.MadeOf (rules : RewriteRules) (file : String) (source : List Char) (tree : Tree)
    (entries : List Entry) (d : Dictionary) (r : Rewrite)
    (lookups imports accessors : List Edit) : Prop where
  edits_eq : r.edits = lookups ++ imports ++ accessors
  sorted : lookups.Pairwise fun a b => a.start < b.start
  applied : ∀ edit ∈ lookups, ∃ e ∈ entries, e.AppliedBy rules file source tree d edit
  single : imports.length ≤ 1
  imported : ∀ edit ∈ imports, ∃ component, Component.ofModule? tree = some component ∧
    component.ImportedBy rules.binding tree edit
  declared : ∀ edit ∈ accessors, ∃ component, Component.ofModule? tree = some component ∧
    ∃ e ∈ entries, (∃ lookup ∈ lookups, e.AppliedBy rules file source tree d lookup) ∧
      edit = component.accessorEdit source (component.bindingOf rules.binding).1 e.spaceName
  idle : lookups = [] → imports = [] ∧ accessors = []

theorem Component.ImportedBy.isInsertion {b : Binding} {tree : Tree} {component : Component}
    {edit : Edit} (imported : component.ImportedBy b tree edit) : edit.stop = edit.start := by
  unfold ImportedBy at imported
  split at imported
  all_goals rw [imported]; rfl

/-- Of the edits of a rewrite only the lookups replace anything. -/
theorem Rewrite.MadeOf.mem_lookups {rules : RewriteRules} {file : String} {source : List Char}
    {tree : Tree} {entries : List Entry} {d : Dictionary} {r : Rewrite}
    {lookups imports accessors : List Edit}
    (made : r.MadeOf rules file source tree entries d lookups imports accessors) (edit : Edit)
    (member : edit ∈ r.edits) (replaces : edit.start < edit.stop) : edit ∈ lookups := by
  rw [made.edits_eq, List.mem_append, List.mem_append] at member
  rcases member with (lookup | added) | added
  · exact lookup
  · obtain ⟨component, -, imported⟩ := made.imported edit added
    exact absurd imported.isInsertion (Nat.ne_of_gt replaces)
  · obtain ⟨component, -, e, -, -, rfl⟩ := made.declared edit added
    exact absurd replaces (Nat.lt_irrefl _)

/-- A rewrite has the edits of a completed plan, and counts as the plan does. -/
structure Rewrite.Reports (rules : RewriteRules) (scene : RewriteScene) (tree : Tree) (plan : Plan)
    (r : Rewrite) : Prop where
  edits_eq : r.edits = (rules.edits scene tree plan).edits
  applied_eq : r.applied = plan.edits.length
  skips_eq : r.skips = plan.skips
  importAdded_eq : r.importAdded = (rules.edits scene tree plan).importAdded
  accessorsAdded_eq : r.accessorsAdded = (rules.edits scene tree plan).accessorsAdded

/-! ## Edits of a plan -/

namespace RewriteRules

variable (rules : RewriteRules) (file : String) (source : List Char) (tree : Tree) (d : Dictionary)

theorem scene_ordered : (rules.scene file source tree d).Ordered where
  sorted := tokensOf_sorted source _ (occurrencesIn_sorted rules.search file source tree)
  placed := tokensOf_placed source _

/-- An entry that can be applied to a source is applied to a candidate of the source. -/
theorem appliedBy_of_edit? (e : Entry) (edit : Edit)
    (found : (rules.scene file source tree d).edit? e = .ok edit) :
    e.AppliedBy rules file source tree d edit := by
  obtain ⟨start, keyed, started, inside, rfl⟩ := (RewriteScene.edit?_eq_ok_iff _ _ _).mp found
  obtain ⟨t, member, fits, rfl⟩ := RewriteScene.start?_fits _ _ _ started
  obtain ⟨c, candidate, placed, same⟩ := (mem_tokensOf _ _ _).mp member
  obtain ⟨line, kind, raw⟩ := (Token.fits_iff _ _).mp fits
  -- The token's offset is computed from its position; the candidate was read from its own offset.
  -- Both are the same, as a position has one offset at most.
  obtain ⟨offset, stands⟩ := occurrencesIn_standing _ _ _ _ _ candidate
  rw [stands.position_eq] at placed
  have here : t.offset = offset := Text.offset?_position stands.boundary placed
  rw [same] at line kind raw
  dsimp only at line kind raw
  exact {
    token := ⟨c, candidate, here ▸ stands, by rw [raw], line, kind, raw⟩
    within := (RewriteScene.inScope_iff _ _).mp inside
    keyed := Option.isSome_iff_exists.mp keyed
    code := by
      simp only [Entry.replacement]
      cases e.candidate.token <;> rfl }

/-- What an import needs goes to the head of the module. -/
theorem importedBy_of_importEdit? (b : Binding) (component : Component) (edit : Edit)
    (missing : (ModuleHead.ofModule tree).importEdit? (component.bindingOf b).1
      (component.bindingOf b).2 = some edit) : component.ImportedBy b tree edit := by
  unfold ModuleHead.importEdit? at missing
  unfold Component.ImportedBy
  split at missing
  next => cases missing
  next =>
    cases place : (ModuleHead.ofModule tree).insertion? with
    | some offset =>
      simp only [place, Option.some.injEq] at missing ⊢
      exact missing.symm
    | none =>
      simp only [place, Option.some.injEq] at missing ⊢
      exact missing.symm

/-- A plan that has edits is completed by what the component lacks. -/
theorem edits_completed (scene : RewriteScene) (plan : Plan) (component : Component)
    (found : scene.component = some component) (nonempty : plan.edits ≠ []) :
    rules.edits scene tree plan =
      let name := (component.bindingOf rules.binding).1
      let imported := (ModuleHead.ofModule tree).importEdit? name
        (component.bindingOf rules.binding).2
      let lacking := component.lacking plan.orderedSpaceNames
      { file := scene.file
        content := String.ofList scene.source
        edits := plan.edits ++ imported.toList ++
          lacking.map (component.accessorEdit scene.source name)
        applied := plan.edits.length
        skips := plan.skips
        importAdded := imported.isSome
        accessorsAdded := lacking.map Key.accessor } := by
  have flag : plan.edits.isEmpty = false := by simpa using nonempty
  simp only [edits, found, flag, Bool.false_eq_true, ↓reduceIte]

/-- A plan is completed where it has edits; where the module has no component it has none. -/
theorem edits_cases (scene : RewriteScene) (plan : Plan) :
    (rules.edits scene tree plan).edits = plan.edits ∨
      ∃ component, scene.component = some component ∧ plan.edits ≠ [] ∧
        (rules.edits scene tree plan).edits = plan.edits ++
          ((ModuleHead.ofModule tree).importEdit? (component.bindingOf rules.binding).1
            (component.bindingOf rules.binding).2).toList ++
          (component.lacking plan.orderedSpaceNames).map
            (component.accessorEdit scene.source (component.bindingOf rules.binding).1) := by
  cases found : scene.component with
  | none => exact Or.inl (by simp only [edits, found])
  | some component =>
    by_cases none : plan.edits = []
    · exact Or.inl (by simp [edits, found, none])
    · exact Or.inr ⟨component, rfl, none, by rw [rules.edits_completed tree scene plan component
        found none]⟩

variable {rules tree} in
/-- The edits of a plan are made. -/
theorem mem_edits {scene : RewriteScene} {plan : Plan} {r : Rewrite}
    (reports : r.Reports rules scene tree plan) {edit : Edit} (member : edit ∈ plan.edits) :
    edit ∈ r.edits := by
  rw [reports.edits_eq]
  rcases rules.edits_cases tree scene plan with same | ⟨_, -, -, same⟩
  · rwa [same]
  · rw [same, List.append_assoc]
    exact List.mem_append_left _ member

/-- The edits that are made of a plan for entries. -/
theorem edits_madeOf (entries : List Entry) (plan : Plan)
    (covers : plan.Covers (rules.scene file source tree d) entries) :
    ∃ imports accessors, (rules.edits (rules.scene file source tree d) tree plan).MadeOf rules file
      source tree entries d plan.edits imports accessors := by
  have applied (e : Entry) (edit : Edit) := rules.appliedBy_of_edit? file source tree d e edit
  have planned : ∀ edit ∈ plan.edits, ∃ e ∈ entries, e.AppliedBy rules file source tree d edit := by
    intro edit member
    obtain ⟨e, known, found, -⟩ := covers.planned edit member
    exact ⟨e, known, applied e edit found⟩
  rcases rules.edits_cases tree (rules.scene file source tree d) plan with
    same | ⟨component, found, nonempty, same⟩
  · -- Where there is nothing to complete, the edits of the plan are all.
    exact ⟨[], [], {
      edits_eq := by rw [same, List.append_nil, List.append_nil]
      sorted := covers.sorted
      applied := planned
      single := Nat.zero_le 1
      imported := fun _ member => absurd member List.not_mem_nil
      declared := fun _ member => absurd member List.not_mem_nil
      idle := fun _ => ⟨rfl, rfl⟩ }⟩
  · refine ⟨_, _, {
      edits_eq := same
      sorted := covers.sorted
      applied := planned
      single := Option.length_toList_le
      imported := fun edit member => ?_
      declared := fun edit member => ?_
      idle := fun none => absurd none nonempty }⟩
    · exact ⟨component, found, importedBy_of_importEdit? tree rules.binding component edit
        (Option.mem_toList.mp member)⟩
    · -- An accessor that the component lacks is one that an applied entry needs.
      obtain ⟨name, lacks, rfl⟩ := List.mem_map.mp member
      have needed := (plan.mem_orderedSpaceNames name).mp (List.mem_filter.mp lacks).1
      obtain ⟨e, known, rfl, lookup, made, edited⟩ := covers.named name needed
      exact ⟨component, found, e, known, ⟨lookup, made, applied e lookup edited⟩, rfl⟩

/-- Without edits a rewrite stays as it is. Otherwise its content is what splicing yields, which can
be read. -/
theorem make_cases (bare r : Rewrite) (returned : make bare source = .ok r) :
    bare.edits = [] ∧ r = bare ∨
      bare.edits ≠ [] ∧ ∃ content tree, Text.splice source bare.edits = .ok content ∧
        readSource bare.file content = .ok tree ∧
        r = { bare with content := String.ofList content } := by
  unfold make at returned
  split at returned
  next changed =>
    split at returned
    next => cases returned
    next content spliced =>
      cases read : readSource bare.file content with
      | error failure =>
        rw [read] at returned
        cases returned
      | ok tree =>
        rw [read] at returned
        cases returned
        exact Or.inr ⟨by simpa [Rewrite.isChanged] using changed, content, tree, spliced, read, rfl⟩
  next same =>
    cases returned
    exact Or.inl ⟨by simpa [Rewrite.isChanged] using same, rfl⟩

/-- Edits that are made yield a text with these edits; without edits nothing happens. -/
theorem make_spliced (bare r : Rewrite) (unchanged : bare.content.toList = source)
    (returned : make bare source = .ok r) :
    r.edits = bare.edits ∧ (bare.edits = [] → r = bare) ∧
      ∃ ordered, ordered.Perm bare.edits ∧ (ordered.Pairwise fun a b => a.stop ≤ b.start) ∧
        Spliced 0 source ordered r.content.toList := by
  rcases make_cases source bare r returned with
    ⟨none, rfl⟩ | ⟨changed, content, tree, spliced, -, rfl⟩
  · refine ⟨rfl, fun _ => rfl, [], by rw [none], .nil, ?_⟩
    rw [unchanged]
    exact .done 0 source
  · have made := Text.splice_spliced source content bare.edits spliced
    exact ⟨rfl, fun none => absurd none changed, by simpa using made⟩

theorem rewrite_eq_ok_iff (entries : List Entry) (r : Rewrite) :
    rules.rewrite file source entries d = .ok r ↔ ∃ tree, readSource file source = .ok tree ∧
      make (rules.edits (rules.scene file source tree d) tree
        (Plan.ofEntries (rules.scene file source tree d) entries)) source = .ok r := by
  unfold rewrite
  cases readSource file source with
  | error failure => simp [bind, Except.bind]
  | ok tree => simp [bind, Except.bind]

@[simp] theorem edits_content (scene : RewriteScene) (plan : Plan) :
    (rules.edits scene tree plan).content = String.ofList scene.source := by
  unfold edits
  split
  · rfl
  · split <;> rfl

@[simp] theorem edits_file (scene : RewriteScene) (plan : Plan) :
    (rules.edits scene tree plan).file = scene.file := by
  unfold edits
  split
  · rfl
  · split <;> rfl

@[simp] theorem edits_applied (scene : RewriteScene) (plan : Plan) :
    (rules.edits scene tree plan).applied = plan.edits.length := by
  unfold edits
  split
  · rfl
  · split <;> rfl

@[simp] theorem edits_skips (scene : RewriteScene) (plan : Plan) :
    (rules.edits scene tree plan).skips = plan.skips := by
  unfold edits
  split
  · rfl
  · split <;> rfl

/-- A rewrite reports what the plan for its entries comes to. -/
theorem rewrite_reports (entries : List Entry) (r : Rewrite)
    (returned : rules.rewrite file source entries d = .ok r) :
    ∃ tree, readSource file source = .ok tree ∧
      r.Reports rules (rules.scene file source tree d) tree
        (Plan.ofEntries (rules.scene file source tree d) entries) := by
  obtain ⟨tree, read, made⟩ := (rules.rewrite_eq_ok_iff file source d entries r).mp returned
  let scene := rules.scene file source tree d
  let plan := Plan.ofEntries scene entries
  have bare : (rules.edits scene tree plan).Reports rules scene tree plan :=
    ⟨rfl, rules.edits_applied tree scene plan, rules.edits_skips tree scene plan, rfl, rfl⟩
  rcases make_cases source _ r made with ⟨-, rfl⟩ | ⟨-, content, tree', -, -, rfl⟩
  · exact ⟨tree, read, bare⟩
  · exact ⟨tree, read, { bare with }⟩

/-! ## One run -/

/-- What entries are applied to, from what a search and a look at the module yield. -/
theorem exists_scene (seen : List (Text.Position × String × TokenKind)) (tokens : List Token)
    (component : Option Component) (head : ModuleHead)
    (readings : ((readSource file source).toOption.map fun tree =>
      let found := Search.visit ⟨rules.search, file, source⟩ false tree
      (found.filterMap Occurrence.seen?,
        decide (found.Pairwise fun a b => (!b.position.before a.position) = true),
        Component.ofModule? tree, ModuleHead.ofModule tree)) = some (seen, true, component, head))
    (placed : (seen.filterMap fun (p, raw, kind) =>
      (Text.offset? source p).map fun offset => ⟨offset, p, raw, kind⟩) = tokens) :
    ∃ tree, readSource file source = .ok tree ∧ ModuleHead.ofModule tree = head ∧
      rules.scene file source tree d =
        ⟨file, source, tokens, component, d.leaf? rules.sourceLocale⟩ := by
  cases read : readSource file source with
  | error failure =>
    rw [read] at readings
    cases readings
  | ok tree =>
    rw [read] at readings
    simp only [Except.toOption, Option.map_some, Option.some.injEq, Prod.mk.injEq,
      decide_eq_true_eq] at readings
    obtain ⟨found, sorted, exported, start⟩ := readings
    refine ⟨tree, rfl, start, ?_⟩
    -- What was found is in order, so sorting it changes nothing.
    rw [scene, occurrencesIn, List.mergeSort_of_pairwise sorted, tokensOf_eq, found, placed,
      exported]

/-- A rewrite succeeds if its edits can be made and the result can be read. -/
theorem rewrite_eq_ok (entries : List Entry) (scene : RewriteScene) (bare : Rewrite)
    (content : List Char) (read : readSource file source = .ok tree)
    (looked : rules.scene file source tree d = scene)
    (made : rules.edits scene tree (Plan.ofEntries scene entries) = bare)
    (changed : bare.edits ≠ [])
    (spliced : Text.splice source bare.edits = .ok content)
    (readable : (readSource bare.file content).toOption.isSome = true) :
    rules.rewrite file source entries d = .ok { bare with content := String.ofList content } := by
  rw [rewrite_eq_ok_iff]
  refine ⟨tree, read, ?_⟩
  have flag : bare.isChanged = true := by simpa [Rewrite.isChanged] using changed
  rw [looked, made]
  cases again : readSource bare.file content with
  | error failure =>
    rw [again] at readable
    cases readable
  | ok tree =>
    simp only [make, flag, spliced, again, ↓reduceIte]
    rfl

/-- A rewrite whose plan is a single lookup makes that one edit, if the names that the lookup uses
are there. -/
theorem rewrite_eq_lookup (entries : List Entry) (scene : RewriteScene) (component : Component)
    (head : ModuleHead) (seen : List (Text.Position × String × TokenKind))
    (lookup : Edit) (name : String) (skips : List Skip) (content : String)
    (known : scene =
      ⟨file, source, scene.tokens, some component, d.leaf? rules.sourceLocale⟩)
    (readings : ((readSource file source).toOption.map fun tree =>
      let found := Search.visit ⟨rules.search, file, source⟩ false tree
      (found.filterMap Occurrence.seen?,
        decide (found.Pairwise fun a b => (!b.position.before a.position) = true),
        Component.ofModule? tree, ModuleHead.ofModule tree)) =
          some (seen, true, some component, head))
    (placed : (seen.filterMap fun (p, raw, kind) =>
      (Text.offset? source p).map fun offset => ⟨offset, p, raw, kind⟩) = scene.tokens)
    (planned : Plan.ofEntries scene entries = ⟨[lookup], [name], skips⟩)
    (imported : head.importedNames.contains (component.bindingOf rules.binding).1 = true)
    (declared : component.declared.contains (Key.accessor name) = true)
    (fits : lookup.fault? source = none) (made : lookup.make source = content.toList)
    (readable : (readSource file content.toList).toOption.isSome = true) :
    rules.rewrite file source entries d = .ok ⟨file, content, [lookup], 1, skips, false, []⟩ := by
  obtain ⟨tree, read, start, looked⟩ := rules.exists_scene file source d seen scene.tokens
    (some component) head readings placed
  have bound : (ModuleHead.ofModule tree).importEdit? (component.bindingOf rules.binding).1
      (component.bindingOf rules.binding).2 = none := by
    rw [start, ModuleHead.importEdit?, if_pos imported]
  have complete : component.lacking [name] = [] := by
    simp only [Component.lacking, List.filter_cons, declared, List.filter_nil, Bool.not_true,
      Bool.false_eq_true, ↓reduceIte]
  have bare : rules.edits scene tree (Plan.ofEntries scene entries) =
      ⟨file, String.ofList source, [lookup], 1, skips, false, []⟩ := by
    rw [planned, known, rules.edits_completed tree _ _ component rfl (List.cons_ne_nil _ _)]
    simp only [bound, Plan.orderedSpaceNames_singleton, complete]
    rfl
  have spliced : Text.splice source [lookup] = .ok content.toList := by
    rw [Text.splice_singleton source lookup fits, made]
  have written := rules.rewrite_eq_ok file source tree d entries scene _ content.toList read
    (looked.trans known.symm) bare (List.cons_ne_nil _ _) spliced readable
  rwa [String.ofList_toList] at written

end RewriteRules

/-! A component that holds a text on two lines, with an entry for the second one. -/

namespace Twofold

def rules : RewriteRules where
  binding := ⟨"u", "n", "v", "m"⟩
  sourceLocale := "en"
  search := ⟨[], [], [], ["u", "v"]⟩

def dictionary : Dictionary where
  directory := ""
  sourceLocale := "en"
  placeholderPrefix := ""
  messages := [("en", [("x", .object [("k", .string "a")])])]
  styles := []
  pending := []
  dirty := []

def entry : Entry :=
  ⟨⟨"a", "\"a\"", "a.ts", ⟨3, 1⟩, .stringLiteral, none, ""⟩, "x.k", "x", .new⟩

/-- The module: `export function A(){let tX=[`, then `"a",` and `"a"]}` on lines of their own. -/
def source : List Char :=
  ['e', 'x', 'p', 'o', 'r', 't', ' ', 'f', 'u', 'n', 'c', 't', 'i', 'o', 'n', ' ', 'A', '(', ')',
    '{', 'l', 'e', 't', ' ', 't', 'X', '=', '[', '\n', '"', 'a', '"', ',', '\n', '"', 'a', '"',
    ']', '}']

def scene : RewriteScene where
  file := "a.ts"
  source := source
  tokens := [⟨29, ⟨2, 1⟩, "\"a\"", .stringLiteral⟩, ⟨34, ⟨3, 1⟩, "\"a\"", .stringLiteral⟩]
  component := some ⟨"A", false, 19, 39, some 20, ["tX"]⟩
  text? := dictionary.leaf? "en"

def first : Rewrite where
  file := "a.ts"
  content := "import \x7b u \x7d from 'n';\nexport function A()\x7blet tX=[\n\"a\",\ntX('k')]\x7d"
  edits := [⟨34, 37, "tX('k')"⟩, .insert 0 "import \x7b u \x7d from 'n';\n"]
  applied := 1
  skips := []
  importAdded := true
  accessorsAdded := []

/-- The edits that bring a lookup to the third line. -/
def editsOf (code : String) : List Edit :=
  [⟨34, 37, code⟩, .insert 0 "import \x7b u \x7d from 'n';\n"]

theorem exists_scene (d : Dictionary) :
    ∃ tree, readSource "a.ts" source = .ok tree ∧ ModuleHead.ofModule tree = ⟨none, none, []⟩ ∧
      rules.scene "a.ts" source tree d = { scene with text? := d.leaf? "en" } :=
  rules.exists_scene "a.ts" source d
    [(⟨2, 1⟩, "\"a\"", .stringLiteral), (⟨3, 1⟩, "\"a\"", .stringLiteral)] scene.tokens
    scene.component ⟨none, none, []⟩ (by decide +kernel) (by decide +kernel)

/-- Entries whose plan is one lookup on the third line. -/
theorem rewrite_of_plan (d : Dictionary) (entries : List Entry) (code : String)
    (content : List Char)
    (plan : Plan.ofEntries { scene with text? := d.leaf? "en" } entries =
      ⟨[⟨34, 37, code⟩], ["x"], []⟩)
    (made : (editsOf code).reverse.foldr Edit.make source = content)
    (readable : (readSource "a.ts" content).toOption.isSome = true) :
    rules.rewrite "a.ts" source entries d =
      .ok { first with content := String.ofList content, edits := editsOf code } := by
  obtain ⟨tree, read, head, looked⟩ := exists_scene d
  have bare : rules.edits { scene with text? := d.leaf? "en" } tree
      (Plan.ofEntries { scene with text? := d.leaf? "en" } entries) =
        { first with content := String.ofList source, edits := editsOf code } := by
    rw [plan, RewriteRules.edits, head, Plan.orderedSpaceNames_singleton]
    rfl
  have spliced : Text.splice source (editsOf code) = .ok content := by
    have ordered : Text.arrange source (editsOf code) = .ok (editsOf code).reverse := by
      refine (Text.arrange_eq_ok_iff _ _ _).mpr ⟨?_, ?_, ?_⟩
      · simp [editsOf, List.mergeSort, Edit.le, Edit.insert]
      · have range : 34 ≤ 37 ∧ 37 ≤ byteLength source ∧ Text.isBoundary source 34 = true ∧
          Text.isBoundary source 37 = true := by decide +kernel
        have start : 0 ≤ 0 ∧ 0 ≤ byteLength source ∧ Text.isBoundary source 0 = true ∧
          Text.isBoundary source 0 = true := by decide
        exact List.forall_mem_cons.mpr ⟨range, List.forall_mem_singleton.mpr start⟩
      · simp [editsOf, Edit.insert]
    rw [Text.splice, ordered, ← made]
    rfl
  exact rules.rewrite_eq_ok "a.ts" source tree d entries _ _ content read looked bare
    (by simp [editsOf]) spliced readable

theorem rewrite_source : rules.rewrite "a.ts" source [entry] dictionary = .ok first := by
  -- Sorting does not reduce, so the lists that are sorted are kept apart from what is computed.
  have written := rewrite_of_plan dictionary [entry] "tX('k')" first.content.toList ?_ ?_ ?_
  · rwa [String.ofList_toList] at written
  · rw [Plan.ofEntries_singleton]
    decide +kernel
  · decide +kernel
  · decide +kernel

end Twofold

namespace RewriteRules

variable (rules : RewriteRules) (file : String) (source : List Char) (d : Dictionary)

/-- A source that is rewritten is changed in recorded tokens only. -/
theorem rewrite_replaces_recorded_tokens (entries : List Entry) (r : Rewrite)
    (returned : rules.rewrite file source entries d = .ok r) :
    ∃ tree lookups imports accessors ordered,
      readSource file source = .ok tree ∧
      r.MadeOf rules file source tree entries d lookups imports accessors ∧
      (lookups.Pairwise fun a b => a.stop ≤ b.start) ∧
      ordered.Perm r.edits ∧ Spliced 0 source ordered r.content.toList ∧
      (lookups = [] → r.content.toList = source) := by
  obtain ⟨tree, read, made⟩ := (rules.rewrite_eq_ok_iff file source d entries r).mp returned
  let scene := rules.scene file source tree d
  have covers := Plan.covers_ofEntries scene entries
  obtain ⟨imports, accessors, parts⟩ :=
    rules.edits_madeOf file source tree d entries (Plan.ofEntries scene entries) covers
  have content :
      (rules.edits scene tree (Plan.ofEntries scene entries)).content.toList = source := by
    simp [scene, RewriteRules.scene]
  obtain ⟨same, idle, ordered, perm, apart, spliced⟩ := make_spliced source _ r content made
  rw [← same] at perm
  -- The lookups are the edits of the plan. They start one after the other; that none reaches into
  -- the next one is what splicing has checked.
  refine ⟨tree, (Plan.ofEntries scene entries).edits, imports, accessors, ordered, read,
    { parts with edits_eq := same.trans parts.edits_eq }, ?_, perm, spliced, fun none => ?_⟩
  · refine Text.apart_of_sorted r.edits ordered _ perm apart ?_ parts.sorted fun edit member => ?_
    · rw [same, parts.edits_eq, List.append_assoc]
      exact List.sublist_append_left _ _
    · obtain ⟨e, -, applied⟩ := parts.applied edit member
      exact applied.nonempty
  · obtain ⟨noImports, noAccessors⟩ := parts.idle none
    rw [idle (by rw [parts.edits_eq, none, noImports, noAccessors]; rfl)]
    exact content

theorem rewrite_replaces_recorded_tokens_twofold :
    Twofold.rules.rewrite "a.ts" Twofold.source [Twofold.entry] Twofold.dictionary =
      .ok Twofold.first ∧
    ∃ tree lookups imports accessors ordered,
      readSource "a.ts" Twofold.source = .ok tree ∧
      Twofold.first.MadeOf Twofold.rules "a.ts" Twofold.source tree [Twofold.entry]
        Twofold.dictionary lookups imports accessors ∧
      (lookups.Pairwise fun a b => a.stop ≤ b.start) ∧
      ordered.Perm Twofold.first.edits ∧
      Spliced 0 Twofold.source ordered Twofold.first.content.toList ∧
      (lookups = [] → Twofold.first.content.toList = Twofold.source) :=
  ⟨Twofold.rewrite_source, rewrite_replaces_recorded_tokens _ _ _ _ _ _ Twofold.rewrite_source⟩

end RewriteRules

end Phrasebook
