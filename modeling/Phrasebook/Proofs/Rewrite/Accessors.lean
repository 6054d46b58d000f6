import Phrasebook.Proofs.Rewrite.Binding
import Phrasebook.Proofs.Rewrite.Repetition
import Phrasebook.Proofs.Text.Parts

/-!
# The accessors that a rewrite declares

A rewrite declares one accessor for every namespace that it uses and the component lacks. An
accessor's name keeps the letters and digits of the namespace but neither what stands between its
words nor whether they start with a capital, so different namespaces may come to one name, which is
then declared twice. Namespaces of small words with hyphens between them never do.
-/

namespace Phrasebook

open Syntax (Tree)
open Text (Edit splitBy capitalize)

/-! ## Words -/

namespace Text

/-- Whether a character may follow the first one of a small word. -/
def isSmall (c : Char) : Bool := c.isLower || c.isDigit

/-- A word of small ASCII letters and digits that starts with a letter. -/
def IsSmallWord : List Char → Prop
  | [] => False
  | c :: rest => c.isLower = true ∧ rest.all isSmall = true

/-- The capital of a small letter is the capital of no other one, and it ends a small word. -/
theorem toUpper_isLower {c : Char} (small : c.isLower = true) :
    c.toUpper.toLower = c ∧ isSmall c.toUpper = false := by
  have known : ∀ n < 128, (Char.ofNat n).isLower = true →
      (Char.ofNat n).toUpper.toLower = Char.ofNat n ∧ isSmall (Char.ofNat n).toUpper = false := by
    decide
  have bound : c.toNat < 128 := by
    simp only [Char.isLower, Bool.and_eq_true, decide_eq_true_eq] at small
    exact Nat.lt_of_le_of_lt small.2 (by decide)
  have this := known c.toNat bound
  rw [Char.ofNat_toNat] at this
  exact this small

/-- Small words that are joined by capitals can be told apart again. -/
theorem capitalize_flatten_injective (words others : List (List Char))
    (small : ∀ word ∈ words, IsSmallWord word) (small' : ∀ word ∈ others, IsSmallWord word)
    (same : (words.map capitalize).flatten = (others.map capitalize).flatten) :
    words = others := by
  -- What follows the first word starts with a capital, so the word ends there.
  have bounded (words : List (List Char)) (small : ∀ word ∈ words, IsSmallWord word) :
      (words.map capitalize).flatten.takeWhile isSmall = [] := by
    rcases words with _ | ⟨_ | ⟨c, rest⟩, more⟩
    · rfl
    · exact (small [] List.mem_cons_self).elim
    · have letter := (small _ List.mem_cons_self).1
      simp [capitalize, (toUpper_isLower letter).2]
  induction words generalizing others with
  | nil =>
    rcases others with _ | ⟨_ | ⟨c, rest⟩, more⟩
    · rfl
    · exact (small' [] List.mem_cons_self).elim
    · cases same
  | cons word words ih =>
    obtain ⟨first, more⟩ := List.forall_mem_cons.mp small
    rcases word with _ | ⟨c, rest⟩
    · exact first.elim
    rcases others with _ | ⟨_ | ⟨c', rest'⟩, others⟩
    · cases same
    · exact (small' [] List.mem_cons_self).elim
    · obtain ⟨first', more'⟩ := List.forall_mem_cons.mp small'
      simp only [List.map_cons, capitalize, List.flatten_cons, List.cons_append,
        List.cons.injEq] at same
      obtain ⟨capital, tails⟩ := same
      have letter : c = c' := by
        rw [← (toUpper_isLower first.1).1, capital, (toUpper_isLower first'.1).1]
      have all := List.all_eq_true.mp first.2
      have all' := List.all_eq_true.mp first'.2
      have ends := congrArg (List.takeWhile isSmall) tails
      rw [List.takeWhile_append_of_pos all, List.takeWhile_append_of_pos all', bounded words more,
        bounded others more', List.append_nil, List.append_nil] at ends
      subst ends letter
      rw [ih others more more' (List.append_cancel_left tails)]

end Text

/-! ## Names of accessors -/

namespace Key

/-- What an accessor's name keeps of a namespace. -/
def folded (spaceName : String) : List Char :=
  let name := Text.pascal spaceName.toList
  if name.isEmpty then "Messages".toList else name

theorem accessor_eq (spaceName : String) :
    accessor spaceName = String.ofList ('t' :: folded spaceName) := by
  simp only [accessor, folded]
  split
  · rfl
  · rfl

/-- Two namespaces share an accessor if it keeps the same of both. -/
theorem accessor_eq_iff (a b : String) : accessor a = accessor b ↔ folded a = folded b := by
  rw [accessor_eq, accessor_eq, String.ofList_inj, List.cons.injEq]
  exact and_iff_right rfl

/-- Small words with hyphens between them. -/
structure IsKebab (spaceName : String) : Prop where
  words : ∀ word ∈ splitBy (fun c => !c.isAlphanum) spaceName.toList, Text.IsSmallWord word
  hyphens : ∀ c ∈ spaceName.toList, c.isAlphanum = false → c = '-'

theorem IsKebab.folded_eq {spaceName : String} (kebab : IsKebab spaceName) :
    folded spaceName = Text.pascal spaceName.toList := by
  have nonempty : Text.pascal spaceName.toList ≠ [] := by
    have words := kebab.words
    obtain ⟨word, more, split⟩ := List.exists_cons_of_ne_nil
      (Text.splitBy_ne_nil (fun c => !c.isAlphanum) spaceName.toList)
    rw [split] at words
    rcases word with _ | ⟨c, rest⟩
    · exact (words [] List.mem_cons_self).elim
    · simp [Text.pascal, split, capitalize]
  rw [folded, if_neg (by simpa using nonempty)]

/-- Namespaces of small words with hyphens between them have accessors of their own. -/
theorem IsKebab.folded_injective {a b : String} (kebab : IsKebab a) (kebab' : IsKebab b)
    (same : folded a = folded b) : a = b := by
  rw [kebab.folded_eq, kebab'.folded_eq] at same
  have words := Text.capitalize_flatten_injective _ _ kebab.words kebab'.words same
  have joined (name : String) (kebab : IsKebab name) := Text.intercalate_splitBy
    (fun c => !c.isAlphanum) '-' name.toList fun c member mark =>
      kebab.hyphens c member (by simpa using mark)
  rw [← String.toList_inj, ← joined a kebab, words, joined b kebab']

end Key

/-! ## Namespaces, each once -/

namespace RewriteRules

variable (rules : RewriteRules) (file : String) (source : List Char) (d : Dictionary)

/-- A rewrite declares an accessor once for every namespace that it needs one for, and so declares
the same name twice exactly if it needs accessors for two namespaces that share theirs. -/
theorem rewrite_accessors_nodup_iff (entries : List Entry) (r : Rewrite)
    (returned : rules.rewrite file source entries d = .ok r) :
    ∃ (tree : Tree) (spaceNames : List String), readSource file source = .ok tree ∧
      r.accessorsAdded = spaceNames.map Key.accessor ∧ spaceNames.Nodup ∧
      (∀ name ∈ spaceNames, ∃ component, Component.ofModule? tree = some component ∧
        Key.accessor name ∉ component.declared ∧
        component.accessorEdit source (component.bindingOf rules.binding).1 name ∈ r.edits ∧
        ∃ e ∈ entries, e.spaceName = name ∧
          ∃ lookup ∈ r.edits, e.AppliedBy rules file source tree d lookup) ∧
      (r.accessorsAdded.Nodup ↔
        ∀ a ∈ spaceNames, ∀ b ∈ spaceNames, Key.folded a = Key.folded b → a = b) ∧
      ((∀ name ∈ spaceNames, Key.IsKebab name) → r.accessorsAdded.Nodup) := by
  obtain ⟨tree, read, reports⟩ := rules.rewrite_reports file source d entries r returned
  let scene := rules.scene file source tree d
  let plan := Plan.ofEntries scene entries
  have covers : plan.Covers scene entries := Plan.covers_ofEntries scene entries
  -- Declared are the accessors of the namespaces that the plan needs and the component lacks.
  obtain ⟨names, added, once, needed⟩ : ∃ names : List String,
      r.accessorsAdded = names.map Key.accessor ∧ names.Nodup ∧
      ∀ name ∈ names, ∃ component, Component.ofModule? tree = some component ∧
        Key.accessor name ∉ component.declared ∧
        component.accessorEdit source (component.bindingOf rules.binding).1 name ∈ r.edits ∧
        name ∈ plan.spaceNames := by
    have reported := reports.accessorsAdded_eq
    have edits := reports.edits_eq
    by_cases idle : plan.edits = []
    · refine ⟨[], ?_, List.nodup_nil, fun _ member => absurd member List.not_mem_nil⟩
      rw [reported, (rules.edits_idle tree scene plan idle).accessorsAdded_eq, List.map_nil]
    · obtain ⟨first, inside⟩ := List.exists_mem_of_ne_nil _ idle
      obtain ⟨e, -, edited, -⟩ := covers.planned first inside
      obtain ⟨component, found, -⟩ :=
        (rules.appliedBy_of_edit? file source tree d e first edited).within
      rw [rules.edits_completed tree scene plan component found idle] at reported edits
      refine ⟨component.lacking plan.orderedSpaceNames, reported,
        plan.nodup_orderedSpaceNames.filter _, fun name lacks => ⟨component, found, ?_⟩⟩
      obtain ⟨used, absent⟩ := (component.mem_lacking _ name).mp lacks
      refine ⟨absent, ?_, (plan.mem_orderedSpaceNames name).mp used⟩
      rw [edits]
      exact List.mem_append_right _ (List.mem_map_of_mem lacks)
  have distinct : r.accessorsAdded.Nodup ↔
      ∀ a ∈ names, ∀ b ∈ names, Key.folded a = Key.folded b → a = b := by
    rw [added, List.nodup_map_iff_inj_on once]
    simp only [Key.accessor_eq_iff]
  refine ⟨tree, names, read, added, once, fun name member => ?_, distinct, fun kebab => ?_⟩
  · obtain ⟨component, found, absent, declared, used⟩ := needed name member
    obtain ⟨e, known, same, lookup, made, edited⟩ := covers.named name used
    exact ⟨component, found, absent, declared, e, known, same, lookup, mem_edits reports made,
      rules.appliedBy_of_edit? file source tree d e lookup edited⟩
  · rw [distinct]
    exact fun a member b member' => (kebab a member).folded_injective (kebab b member')

end RewriteRules

/-! A component with two texts, whose entries belong to namespaces that share an accessor. -/

namespace Twins

/-- The module: `import{u}from'n';export function A(){let g=["a","b"]}`. -/
def source : List Char :=
  ['i', 'm', 'p', 'o', 'r', 't', '{', 'u', '}', 'f', 'r', 'o', 'm', '\'', 'n', '\'', ';', 'e', 'x',
    'p', 'o', 'r', 't', ' ', 'f', 'u', 'n', 'c', 't', 'i', 'o', 'n', ' ', 'A', '(', ')', '{', 'l',
    'e', 't', ' ', 'g', '=', '[', '"', 'a', '"', ',', '"', 'b', '"', ']', '}']

def dictionary : Dictionary :=
  { Twofold.dictionary with
    messages := [("en", [("x-a", .object [("k", .string "a")]),
      ("x_a", .object [("k", .string "b")])])] }

def hyphened : Entry :=
  ⟨⟨"a", "\"a\"", "a.ts", ⟨1, 45⟩, .stringLiteral, none, ""⟩, "x-a.k", "x-a", .new⟩

def underscored : Entry :=
  ⟨⟨"b", "\"b\"", "a.ts", ⟨1, 49⟩, .stringLiteral, none, ""⟩, "x_a.k", "x_a", .new⟩

def component : Component := ⟨"A", false, 36, 53, some 37, ["g"]⟩

def scene : RewriteScene where
  file := "a.ts"
  source := source
  tokens := [⟨44, ⟨1, 45⟩, "\"a\"", .stringLiteral⟩, ⟨48, ⟨1, 49⟩, "\"b\"", .stringLiteral⟩]
  component := some component
  text? := dictionary.leaf? "en"

/-- The edits: two lookups and the declarations of their accessors. -/
def edits : List Edit :=
  [⟨44, 47, "tXA('k')"⟩, ⟨48, 51, "tXA('k')"⟩, .insert 37 "\n  const tXA = u('x-a');",
    .insert 37 "\n  const tXA = u('x_a');"]

def rewritten : Rewrite where
  file := "a.ts"
  content := "import\x7bu\x7dfrom'n';export function A()\x7b\n  const tXA = u('x-a');" ++
    "\n  const tXA = u('x_a');let g=[tXA('k'),tXA('k')]\x7d"
  edits := edits
  applied := 2
  skips := []
  importAdded := false
  accessorsAdded := ["tXA", "tXA"]

theorem plan : Plan.ofEntries scene [hyphened, underscored] =
    ⟨edits.take 2, ["x_a", "x-a"], []⟩ := by
  have ordered : [hyphened, underscored].mergeSort
      (fun a b => !a.candidate.position.before b.candidate.position) =
        [underscored, hyphened] := by
    simp [List.mergeSort, hyphened, underscored, Text.Position.before]
  rw [Plan.ofEntries, ordered]
  decide +kernel

theorem rewrite_source :
    Twofold.rules.rewrite "a.ts" source [hyphened, underscored] dictionary = .ok rewritten := by
  obtain ⟨tree, read, head, looked⟩ := Twofold.rules.exists_scene "a.ts" source dictionary
    [(⟨1, 45⟩, "\"a\"", .stringLiteral), (⟨1, 49⟩, "\"b\"", .stringLiteral)] scene.tokens
    scene.component ⟨some 17, none, ["u"]⟩ (by decide +kernel) (by decide +kernel)
  have names : Plan.orderedSpaceNames ⟨edits.take 2, ["x_a", "x-a"], []⟩ = ["x-a", "x_a"] := by
    have once : ["x_a", "x-a"].eraseDups = ["x_a", "x-a"] := by decide
    have swapped (le : String → String → Bool) (late : le "x_a" "x-a" = false) :
        ["x_a", "x-a"].mergeSort le = ["x-a", "x_a"] := by
      simp [List.mergeSort, late]
    rw [Plan.orderedSpaceNames, once, swapped]
    decide +kernel
  have bare : Twofold.rules.edits scene tree (Plan.ofEntries scene [hyphened, underscored]) =
      { rewritten with content := String.ofList source } := by
    rw [plan, Twofold.rules.edits_completed tree scene _ component rfl (by decide), head, names]
    decide +kernel
  have ordered : Text.arrange source edits = .ok (edits.drop 2 ++ edits.take 2) := by
    have faultless : ∀ e ∈ edits, e.fault? source = none := by decide +kernel
    refine (Text.arrange_eq_ok_iff _ _ _).mpr ⟨?_, fun e member =>
      (Edit.fault?_eq_none_iff source e).mp (faultless e member), by decide⟩
    simp [edits, List.mergeSort, Edit.le, Edit.isInsertion, Edit.insert]
  have spliced : Text.splice source edits = .ok rewritten.content.toList := by
    rw [Text.splice, ordered]
    decide +kernel
  have written := Twofold.rules.rewrite_eq_ok "a.ts" source tree dictionary _ scene _
    rewritten.content.toList read looked bare (by decide) spliced (by decide +kernel)
  rwa [String.ofList_toList] at written

end Twins

namespace RewriteRules

theorem rewrite_accessors_nodup_iff_twins :
    Twofold.rules.rewrite "a.ts" Twins.source [Twins.hyphened, Twins.underscored]
      Twins.dictionary = .ok Twins.rewritten ∧
    ∃ (tree : Tree) (spaceNames : List String), readSource "a.ts" Twins.source = .ok tree ∧
      Twins.rewritten.accessorsAdded = spaceNames.map Key.accessor ∧ spaceNames.Nodup ∧
      (∀ name ∈ spaceNames, ∃ component, Component.ofModule? tree = some component ∧
        Key.accessor name ∉ component.declared ∧
        component.accessorEdit Twins.source (component.bindingOf Twofold.rules.binding).1 name ∈
          Twins.rewritten.edits ∧
        ∃ e ∈ [Twins.hyphened, Twins.underscored], e.spaceName = name ∧
          ∃ lookup ∈ Twins.rewritten.edits,
            e.AppliedBy Twofold.rules "a.ts" Twins.source tree Twins.dictionary lookup) ∧
      (Twins.rewritten.accessorsAdded.Nodup ↔
        ∀ a ∈ spaceNames, ∀ b ∈ spaceNames, Key.folded a = Key.folded b → a = b) ∧
      ((∀ name ∈ spaceNames, Key.IsKebab name) → Twins.rewritten.accessorsAdded.Nodup) :=
  ⟨Twins.rewrite_source, rewrite_accessors_nodup_iff _ _ _ _ _ _ Twins.rewrite_source⟩

/-- Two namespaces that differ only in what stands between their words get one accessor, declared
twice. -/
theorem rewrite_declares_accessor_twice :
    Twofold.rules.rewrite "a.ts" Twins.source [Twins.hyphened, Twins.underscored]
      Twins.dictionary = .ok Twins.rewritten ∧
    Twins.hyphened.spaceName ≠ Twins.underscored.spaceName ∧
    Key.accessor Twins.hyphened.spaceName = Key.accessor Twins.underscored.spaceName ∧
    ¬ Twins.rewritten.accessorsAdded.Nodup :=
  ⟨Twins.rewrite_source, by decide, by decide +kernel, by decide⟩

end RewriteRules

end Phrasebook
