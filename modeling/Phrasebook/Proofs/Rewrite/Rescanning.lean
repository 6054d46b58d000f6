import Phrasebook.Proofs.Candidate.Lookups
import Phrasebook.Proofs.Rewrite.Accessors
import Phrasebook.Proofs.Syntax.Calls

/-!
# Searching a source that was rewritten

The lookups that a rewrite brings into a source are found there as lookups, and their keys are not
taken for texts. Whether a call counts as a lookup hangs on the name of its accessor: a namespace
whose first letter or digit is a digit gets one that does not look like an accessor.
-/

namespace Phrasebook

open Syntax (Tree Span Kind Step Site)
open Text (byteLength)

/-! ## Names of accessors -/

namespace Text

theorem isAlphanum_lt {c : Char} (part : c.isAlphanum = true) : c.toNat < 128 := by
  simp only [Char.isAlphanum, Char.isAlpha, Char.isUpper, Char.isLower, Char.isDigit,
    Bool.or_eq_true, Bool.and_eq_true, decide_eq_true_eq] at part
  rcases part with (⟨-, high⟩ | ⟨-, high⟩) | ⟨-, high⟩ <;>
    exact Nat.lt_of_le_of_lt high (by decide)

/-- The capital of a letter or digit is one, and it is small for no letter. -/
theorem toUpper_isAlphanum {c : Char} (part : c.isAlphanum = true) :
    c.toUpper.isAlphanum = true ∧ c.toUpper.isUpper = !c.isDigit ∧ c.toUpper.isLower = false := by
  have known : ∀ n < 128, (Char.ofNat n).isAlphanum = true →
      (Char.ofNat n).toUpper.isAlphanum = true ∧
        (Char.ofNat n).toUpper.isUpper = !(Char.ofNat n).isDigit ∧
        (Char.ofNat n).toUpper.isLower = false := by
    decide
  have this := known c.toNat (isAlphanum_lt part)
  rw [Char.ofNat_toNat] at this
  exact this part

theorem forall_mem_pascal (text : List Char) : ∀ c ∈ pascal text, c.isAlphanum = true := by
  intro c member
  obtain ⟨word, listed, inside⟩ := List.mem_flatten.mp member
  obtain ⟨part, split, rfl⟩ := List.mem_map.mp listed
  have plain : ∀ d ∈ part, d.isAlphanum = true := fun d inner => by
    simpa using forall_mem_splitBy _ text part split d inner
  cases part with
  | nil => exact absurd inside List.not_mem_nil
  | cons first rest =>
    obtain ⟨here, others⟩ := List.forall_mem_cons.mp plain
    rcases List.mem_cons.mp inside with rfl | later
    · exact (toUpper_isAlphanum here).1
    · exact others c later

/-- Joined words start with the capital of the first letter or digit. -/
theorem head?_pascal (text : List Char) :
    (pascal text).head? = (text.find? Char.isAlphanum).map Char.toUpper := by
  induction text with
  | nil => rfl
  | cons c rest ih =>
    obtain ⟨first, more, split⟩ :=
      List.exists_cons_of_ne_nil (splitBy_ne_nil (fun c => !c.isAlphanum) rest)
    rw [pascal, splitBy, List.find?_cons]
    cases part : c.isAlphanum with
    | true => simp [split, capitalize]
    | false => simpa [capitalize, pascal] using ih

end Text

namespace Key

variable (spaceName : String)

/-- The first letter or digit of a namespace, if it has any, is a letter. -/
def StartsWithLetter : Prop :=
  ∀ c ∈ spaceName.toList.find? Char.isAlphanum, c.isDigit = false

/-- What follows the `t` of an accessor starts with a capital or a digit. -/
theorem folded_cases : ∃ c rest, folded spaceName = c :: rest ∧ c.isLower = false ∧
    (∀ d ∈ c :: rest, d.isAlphanum = true) ∧ (c.isUpper = true ↔ StartsWithLetter spaceName) := by
  have start := Text.head?_pascal spaceName.toList
  have plain := Text.forall_mem_pascal spaceName.toList
  rw [folded, StartsWithLetter]
  cases words : Text.pascal spaceName.toList with
  | nil =>
    rw [words, List.head?_nil, eq_comm, Option.map_eq_none_iff] at start
    exact ⟨'M', ['e', 's', 's', 'a', 'g', 'e', 's'], by simp, rfl,
      List.all_eq_true.mp (by decide), by simp [start]⟩
  | cons c rest =>
    rw [words] at start plain
    obtain ⟨first, found, rfl⟩ := Option.map_eq_some_iff.mp start.symm
    obtain ⟨-, upper, lower⟩ := Text.toUpper_isAlphanum (List.find?_some found)
    exact ⟨_, rest, rfl, lower, plain, by simp [upper, found]⟩

theorem isAccessorName_accessor_iff :
    isAccessorName (accessor spaceName) = true ↔ StartsWithLetter spaceName := by
  obtain ⟨c, rest, same, -, plain, upper⟩ := folded_cases spaceName
  have others : (rest.all fun d => d.isAlphanum || d == '_') = true :=
    List.all_eq_true.mpr fun d member => by simp [plain d (List.mem_cons_of_mem c member)]
  rw [← upper, accessor_eq, same, isAccessorName, String.toList_ofList]
  simp [others]

/-- An accessor is no word of the grammar. -/
theorem isFreeWord_accessor : Syntax.IsFreeWord (accessor spaceName) := by
  obtain ⟨c, rest, same, lower, -, -⟩ := folded_cases spaceName
  have small : ∀ word ∈ "async" :: Syntax.Rule.reservedWords, ∀ d more,
      word.toList = 't' :: d :: more → d.isLower = true := by
    have known : ("async" :: Syntax.Rule.reservedWords).all (fun word =>
        word.toList.head? != some 't' || word.toList[1]?.all Char.isLower) = true := by
      decide
    intro word member d more start
    have this := List.all_eq_true.mp known word member
    simpa [start] using this
  have other : accessor spaceName ∉ "async" :: Syntax.Rule.reservedWords := by
    intro member
    have letter := small _ member c rest (by rw [accessor_eq, same, String.toList_ofList])
    rw [lower] at letter
    cases letter
  obtain ⟨first, later⟩ := not_or.mp (mt List.mem_cons.mpr other)
  exact ⟨later, first⟩

/-- What is written with letters and digits only holds no mark. -/
theorem not_mem_accessor (mark : Char) (marks : mark.isAlphanum = false) :
    mark ∉ (accessor spaceName).toList := by
  obtain ⟨c, rest, same, -, plain, -⟩ := folded_cases spaceName
  rw [accessor_eq, same, String.toList_ofList]
  intro member
  rcases List.mem_cons.mp member with rfl | later
  · exact absurd marks (by decide)
  · rw [plain mark later] at marks
    cases marks

/-- An accessor is written with a `t` and then letters and digits. -/
theorem exists_toList_accessor : ∃ rest, (accessor spaceName).toList = 't' :: rest ∧
    ∀ c ∈ rest, Syntax.isWordPart c = true := by
  obtain ⟨c, rest, same, -, plain, -⟩ := folded_cases spaceName
  refine ⟨_, by rw [accessor_eq, same, String.toList_ofList], fun d member => ?_⟩
  simp [Syntax.isWordPart, plain d member]

end Key

/-! ## Calls that count -/

/-- The call of an entry counts: its accessor is a translation function or looks like an accessor,
and it binds no namespaces. -/
structure Entry.CountsFor (rules : SearchRules) (e : Entry) : Prop where
  known : Key.accessor e.spaceName ∈ rules.translationFunctions ∨ Key.StartsWithLetter e.spaceName
  other : Key.accessor e.spaceName ∉ rules.bindings

theorem Entry.countsFor_iff (rules : SearchRules) (e : Entry) : e.CountsFor rules ↔
    (Key.accessor e.spaceName ∈ rules.translationFunctions ∨ Key.StartsWithLetter e.spaceName) ∧
      Key.accessor e.spaceName ∉ rules.bindings :=
  ⟨fun counts => ⟨counts.known, counts.other⟩, fun both => ⟨both.1, both.2⟩⟩

/-- A node is the call that looks an entry up. -/
def Entry.IsLookedUpBy (e : Entry) (t : Tree) : Prop :=
  ∃ span word string more, t = .node .call span
    (.node (.name (Key.accessor e.spaceName)) word [] ::
      .node (.stringLiteral (some e.relativeKey)) string [] :: more)

namespace SearchRules

variable (rules : SearchRules) (spaceName : String)

theorem isSilent_accessor_iff :
    rules.isSilent (Key.accessor spaceName) = true ↔ Key.accessor spaceName ∈ rules.bindings := by
  obtain ⟨rest, same, -⟩ := Key.exists_toList_accessor spaceName
  have noRequire : Key.accessor spaceName ≠ "require" := by
    intro equal
    have start := congrArg List.head? same
    rw [equal, List.head?_cons] at start
    exact absurd start (by decide)
  have noConsole : (Key.accessor spaceName).startsWith "console." = false := by
    refine eq_false_of_ne_true fun starts => ?_
    rw [String.startsWith_string_iff] at starts
    exact Key.not_mem_accessor spaceName '.' (by decide) (starts.subset (by decide))
  simp [isSilent, noRequire, noConsole]

theorem isLookup_accessor_iff : rules.isLookup (Key.accessor spaceName) = true ↔
    Key.accessor spaceName ∈ rules.translationFunctions ∨ Key.StartsWithLetter spaceName := by
  have noPoint : (Key.accessor spaceName).endsWith ".t" = false := by
    refine eq_false_of_ne_true fun ends => ?_
    rw [String.endsWith_eq_endsWith_toSlice, String.Slice.endsWith_string_iff,
      String.copy_toSlice] at ends
    exact Key.not_mem_accessor spaceName '.' (by decide) (ends.subset (by decide))
  simp [isLookup, noPoint, Key.isAccessorName_accessor_iff]

/-- The call of an entry is a lookup exactly if it counts. -/
theorem looksUp_iff_countsFor {e : Entry} {t : Tree} (call : e.IsLookedUpBy t) :
    rules.looksUp t = true ↔ e.CountsFor rules := by
  obtain ⟨span, word, string, more, rfl⟩ := call
  show ((some (Key.accessor e.spaceName)).any fun name =>
    !rules.isSilent name && rules.isLookup name) = true ↔ _
  rw [Option.any_some, Bool.and_eq_true, Bool.not_eq_true', isLookup_accessor_iff,
    ← Bool.not_eq_true, isSilent_accessor_iff, e.countsFor_iff, and_comm]

end SearchRules

theorem Entry.IsLookedUpBy.lookupOf_eq (search : Search) {e : Entry} {t : Tree}
    (call : e.IsLookedUpBy t) :
    search.lookupOf t = .lookup (some e.relativeKey) (Text.position search.source t.start) := by
  obtain ⟨span, word, string, more, rfl⟩ := call
  rfl

/-! ## A call on its own -/

/-- What is found in a module that is one call of a word with a string. -/
theorem Search.visit_callModule (search : Search) (name key : String) :
    ∃ span, search.visit false (Syntax.callModule name key) =
      if search.rules.isSilent name then []
      else if search.rules.isLookup name then [.lookup (some key) ⟨1, 1⟩]
      else search.ofString span (some key) := by
  refine ⟨⟨byteLength name.toList + 1, byteLength name.toList + 1 + byteLength (quoted key).toList⟩,
    ?_⟩
  have start : Text.position search.source 0 = ⟨1, 1⟩ := by simp [Text.position, Text.positionFrom]
  simp [Syntax.callModule, visit, visitAll, isSilentKind, isDirective, Tree.kind, calleeName?,
    ofLookup, lookupKey?, start]

/-- A call that stands alone is read as what it is, if its key has no line break. -/
theorem readSource_lookupCall (file : String) (e : Entry) (line : IsSingleLine e.relativeKey.toList) :
    readSource file e.lookupCall.toList =
      .ok (Syntax.callModule (Key.accessor e.spaceName) e.relativeKey) := by
  obtain ⟨rest, same, part⟩ := Key.exists_toList_accessor e.spaceName
  rw [readSource, Entry.lookupCall,
    Syntax.readModule_call _ (Key.isFreeWord_accessor e.spaceName) same part line]

/-- A call that stands alone is found as a lookup of its key exactly if it counts. -/
theorem occurrences_lookupCall_iff (rules : SearchRules) (file : String) (e : Entry)
    (line : IsSingleLine e.relativeKey.toList) :
    occurrences rules file e.lookupCall.toList = .ok [.lookup (some e.relativeKey) ⟨1, 1⟩] ↔
      e.CountsFor rules := by
  obtain ⟨span, visited⟩ := Search.visit_callModule ⟨rules, file, e.lookupCall.toList⟩
    (Key.accessor e.spaceName) e.relativeKey
  rw [occurrences, readSource_lookupCall file e line, Except.map, occurrencesIn, visited,
    Except.ok.injEq]
  have counts : e.CountsFor rules ↔ rules.isLookup (Key.accessor e.spaceName) = true ∧
      ¬ rules.isSilent (Key.accessor e.spaceName) = true := by
    rw [rules.isLookup_accessor_iff, rules.isSilent_accessor_iff, e.countsFor_iff]
  rw [counts]
  dsimp only
  cases rules.isSilent (Key.accessor e.spaceName) with
  | true => simp
  | false =>
    cases rules.isLookup (Key.accessor e.spaceName) with
    | true => simp
    | false =>
      -- What a text brings is no lookup.
      simp only [Bool.false_eq_true, ↓reduceIte, false_and, iff_false]
      intro found
      have member : Occurrence.lookup (some e.relativeKey) ⟨1, 1⟩ ∈
          Search.ofString ⟨rules, file, e.lookupCall.toList⟩ span (some e.relativeKey) :=
        List.mem_mergeSort.mp (found ▸ List.mem_singleton_self _)
      rw [Search.ofString_eq _ span _ []] at member
      obtain ⟨c, -, other⟩ := List.mem_map.mp member
      cases other

/-! ## Calls in a source -/

/-- The calls that look an entry up are found as lookups: at each site that no part that is left
out holds there is one, and no text below one is a candidate. -/
structure Entry.FoundIn (rules : SearchRules) (file : String) (source : List Char) (tree : Tree)
    (e : Entry) (found : List Occurrence) : Prop where
  counted : ∃ calls : List Site, calls.Sublist tree.sites ∧
    (found.filter (·.candidate?.isNone)).Perm
      (calls.map fun p => Search.lookupOf ⟨rules, file, source⟩ p.node) ∧
    ∀ p ∈ tree.sites, e.IsLookedUpBy p.node →
      (p ∈ calls ↔ p.steps.any rules.drops = false) ∧
      Search.lookupOf ⟨rules, file, source⟩ p.node =
        .lookup (some e.relativeKey) (Text.position source p.node.start)
  hidden : ∃ texts : List Site, texts.Sublist tree.sites ∧
    (found.filterMap Occurrence.candidate?).Perm
      (texts.filterMap fun p => Search.candidate? ⟨rules, file, source⟩ p.node) ∧
    ∀ p ∈ texts, ∀ step ∈ p.steps, ¬ e.IsLookedUpBy step.parent

theorem Entry.CountsFor.foundIn {rules : SearchRules} {e : Entry} (counts : e.CountsFor rules)
    (file : String) (source : List Char) (tree : Tree) :
    e.FoundIn rules file source tree (occurrencesIn rules file source tree) := by
  have sorted := occurrencesIn_perm rules file source tree
  constructor
  case counted =>
    have lookups := sorted.filter (·.candidate?.isNone)
    rw [Search.lookups_visit] at lookups
    refine ⟨Search.lookupSites rules tree, List.filter_sublist, lookups, fun p member call => ?_⟩
    have asks := (rules.looksUp_iff_countsFor call).mpr counts
    exact ⟨by simp [Search.lookupSites, member, asks], call.lookupOf_eq _⟩
  case hidden =>
    have candidates := sorted.filterMap Occurrence.candidate?
    rw [Search.candidates_visit] at candidates
    refine ⟨Search.shownSites rules tree, List.filter_sublist, candidates, ?_⟩
    intro p shown step member call
    have asks := (rules.looksUp_iff_countsFor call).mpr counts
    have open_ := (List.mem_filter.mp shown).2
    rw [Bool.not_eq_true', List.any_eq_false] at open_
    exact open_ step member (SearchRules.hides_of_looksUp asks)

/-! A file in a directory whose name starts with a digit. -/

namespace Numbered

def keyRules : KeyRules := ⟨"common", [], 4, 20⟩

/-- The module: `import{u}from'n';export function A(){let t4=["a"]}`. -/
def source : List Char :=
  ['i', 'm', 'p', 'o', 'r', 't', '{', 'u', '}', 'f', 'r', 'o', 'm', '\'', 'n', '\'', ';', 'e', 'x',
    'p', 'o', 'r', 't', ' ', 'f', 'u', 'n', 'c', 't', 'i', 'o', 'n', ' ', 'A', '(', ')', '{', 'l',
    'e', 't', ' ', 't', '4', '=', '[', '"', 'a', '"', ']', '}']

def dictionary : Dictionary :=
  { Twofold.dictionary with
    messages := [("en", [("4", .object [("b", .object [("a", .string "a")])])])] }

def entry : Entry :=
  ⟨⟨"a", "\"a\"", "4/b.ts", ⟨1, 46⟩, .stringLiteral, none, ""⟩, "4.b.a", "4", .new⟩

def scene : RewriteScene where
  file := "4/b.ts"
  source := source
  tokens := [⟨45, ⟨1, 46⟩, "\"a\"", .stringLiteral⟩]
  component := some ⟨"A", false, 36, 50, some 37, ["t4"]⟩
  text? := dictionary.leaf? "en"

def rewritten : Rewrite where
  file := "4/b.ts"
  content := "import\x7bu\x7dfrom'n';export function A()\x7blet t4=[t4('b.a')]\x7d"
  edits := [⟨45, 48, "t4('b.a')"⟩]
  applied := 1
  skips := []
  importAdded := false
  accessorsAdded := []

/-- The key of the lookup, taken for a text. -/
def candidate : Candidate where
  text := "b.a"
  raw := "'b.a'"
  file := "4/b.ts"
  position := ⟨1, 49⟩
  token := .stringLiteral
  attributeName := none
  surroundings := rewritten.content

theorem rewrite_source :
    Twofold.rules.rewrite "4/b.ts" source [entry] dictionary = .ok rewritten := by
  refine Twofold.rules.rewrite_eq_lookup "4/b.ts" source dictionary [entry] scene
    ⟨"A", false, 36, 50, some 37, ["t4"]⟩ ⟨some 17, none, ["u"]⟩
    [(⟨1, 46⟩, "\"a\"", .stringLiteral)] ⟨45, 48, "t4('b.a')"⟩ "4" [] rewritten.content rfl
    (by decide +kernel) (by decide +kernel) ?_ (by decide) (by decide +kernel) (by decide +kernel)
    (by decide +kernel) (by decide +kernel)
  rw [Plan.ofEntries_singleton]
  decide +kernel

end Numbered

namespace RewriteRules

/-- The calls that a rewrite brings in are found again. The text of such a call stands in the
result; on its own it is found as a lookup exactly if it counts; and if it counts, each call of the
result that looks its entry up is found as a lookup, unless a part that is left out holds it, and
hides what stands below it. -/
theorem rewrite_rescanned (rules : RewriteRules) (file : String) (source : List Char)
    (entries : List Entry) (d : Dictionary) (r : Rewrite) (tree : Tree)
    (returned : rules.rewrite file source entries d = .ok r)
    (e : Entry) (edit : Text.Edit) (made : edit ∈ r.edits)
    (applied : e.AppliedBy rules file source tree d edit)
    (line : IsSingleLine e.relativeKey.toList) :
    ∃ again, readSource file r.content.toList = .ok again ∧
      e.lookupCall.toList <:+: r.content.toList ∧
      (occurrences rules.search file e.lookupCall.toList =
        .ok [.lookup (some e.relativeKey) ⟨1, 1⟩] ↔ e.CountsFor rules.search) ∧
      (e.CountsFor rules.search → e.FoundIn rules.search file r.content.toList again
        (occurrencesIn rules.search file r.content.toList again)) := by
  obtain ⟨again, reread⟩ : ∃ again, readSource file r.content.toList = .ok again := by
    obtain ⟨tree', read, completed⟩ := (rules.rewrite_eq_ok_iff file source d entries r).mp returned
    simpa [scene] using make_readable source tree' _ r (by simp [scene]) (by simpa [scene] using read)
      completed
  have held := rules.holdsLookup_of_applied file source tree d entries r returned e edit made
    applied again
  rw [RewriteScene.holdsLookup, Text.contains_iff] at held
  exact ⟨again, reread, held, occurrences_lookupCall_iff rules.search file e line,
    fun counts => counts.foundIn file r.content.toList again⟩

theorem rewrite_rescanned_twofold :
    Twofold.rules.rewrite "a.ts" Twofold.source [Twofold.entry] Twofold.dictionary =
      .ok Twofold.first ∧
    ⟨34, 37, "tX('k')"⟩ ∈ Twofold.first.edits ∧
    IsSingleLine Twofold.entry.relativeKey.toList ∧
    Twofold.entry.CountsFor Twofold.rules.search ∧
    ∃ tree, Twofold.entry.AppliedBy Twofold.rules "a.ts" Twofold.source tree Twofold.dictionary
        ⟨34, 37, "tX('k')"⟩ ∧
      ∃ again, readSource "a.ts" Twofold.first.content.toList = .ok again ∧
        Twofold.entry.lookupCall.toList <:+: Twofold.first.content.toList ∧
        (occurrences Twofold.rules.search "a.ts" Twofold.entry.lookupCall.toList =
          .ok [.lookup (some Twofold.entry.relativeKey) ⟨1, 1⟩] ↔
            Twofold.entry.CountsFor Twofold.rules.search) ∧
        (Twofold.entry.CountsFor Twofold.rules.search →
          Twofold.entry.FoundIn Twofold.rules.search "a.ts" Twofold.first.content.toList again
            (occurrencesIn Twofold.rules.search "a.ts" Twofold.first.content.toList again)) := by
  obtain ⟨tree, -, -, looked⟩ := Twofold.exists_scene Twofold.dictionary
  have planned : (Twofold.rules.scene "a.ts" Twofold.source tree Twofold.dictionary).edit?
      Twofold.entry = .ok ⟨34, 37, "tX('k')"⟩ := by
    rw [looked]
    decide +kernel
  have applied := appliedBy_of_edit? _ _ _ _ _ _ _ planned
  have made : ⟨34, 37, "tX('k')"⟩ ∈ Twofold.first.edits := List.mem_cons_self
  have line : IsSingleLine Twofold.entry.relativeKey.toList := by decide +kernel
  have counts : Twofold.entry.CountsFor Twofold.rules.search :=
    ⟨Or.inr ((Key.isAccessorName_accessor_iff _).mp (by decide +kernel)), by decide +kernel⟩
  exact ⟨Twofold.rewrite_source, made, line, counts, tree, applied,
    rewrite_rescanned _ _ _ _ _ _ tree Twofold.rewrite_source _ _ made applied line⟩

/-- A key that a file's path gives may get a lookup that is not found again, and whose key is taken
for a text. -/
theorem rewrite_lookup_taken_for_text :
    Numbered.keyRules.spaceName "4/b.ts" = Numbered.entry.spaceName ∧
    Numbered.keyRules.key "4/b.ts" Numbered.entry.candidate.text = Numbered.entry.key ∧
    Twofold.rules.rewrite "4/b.ts" Numbered.source [Numbered.entry] Numbered.dictionary =
      .ok Numbered.rewritten ∧
    Numbered.rewritten.applied = 1 ∧
    occurrences Twofold.rules.search "4/b.ts" Numbered.rewritten.content.toList =
      .ok [.candidate Numbered.candidate] := by
  refine ⟨by decide +kernel, by decide +kernel, Numbered.rewrite_source, rfl, ?_⟩
  have reading : (readSource "4/b.ts" Numbered.rewritten.content.toList).toOption.map
      (Search.visit ⟨Twofold.rules.search, "4/b.ts", Numbered.rewritten.content.toList⟩ false) =
        some [.candidate Numbered.candidate] := by
    decide +kernel
  obtain ⟨tree, read, visited⟩ := exists_of_map_toOption reading
  rw [occurrences, read, Except.map, occurrencesIn, visited, List.mergeSort_singleton]

end RewriteRules

end Phrasebook
