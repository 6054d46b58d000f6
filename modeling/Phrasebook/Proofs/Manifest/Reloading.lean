import Phrasebook.Proofs.Json.Rereading
import Phrasebook.Proofs.Manifest.Order
import Phrasebook.Proofs.Run.Planning
import Phrasebook.Proofs.Storage.Shelf

/-!
# Manifests that are saved and loaded

Every entry is read back from its record, whatever characters its texts are made of. So a manifest
that was saved is loaded as it was, in the same order, and saving it again gives the same text.
-/

namespace Phrasebook

open Json

theorem TokenKind.ofName?_name (kind : TokenKind) : ofName? kind.name = some kind := by
  cases kind <;> rfl

theorem KeyStatus.ofName?_name (status : KeyStatus) : ofName? status.name = some status := by
  cases status <;> rfl

/-! ## Records -/

namespace Entry

/-- An entry is read back from its record. -/
theorem ofJson?_members (e : Entry) : ofJson? (.object e.members) = some e := by
  have fields : ofJson? (.object e.members) =
      (TokenKind.ofName? e.candidate.token.name).bind fun token =>
        (KeyStatus.ofName? e.status.name).bind fun status =>
          some ⟨{ e.candidate with token }, e.key, e.spaceName, status⟩ := by
    obtain ⟨⟨text, raw, file, position, token, attributeName, surroundings⟩, key, spaceName,
      status⟩ := e
    cases attributeName <;> rfl
  rw [fields, TokenKind.ofName?_name, KeyStatus.ofName?_name, Option.bind_some, Option.bind_some]

/-- An entry whose line and column are numbers of 64 bits. -/
def HasWords (e : Entry) : Prop :=
  e.candidate.position.line < 2 ^ 64 ∧ e.candidate.position.column < 2 ^ 64

end Entry

/-- A whole number of 64 bits without a sign. -/
def IsWord (n : JsonNumber) : Prop := ∃ m ≤ maxWord, n = .natural m

theorem read_of_isWord (n : JsonNumber) (word : IsWord n) :
    read (JsonNumber.text n) = .ok (.number (id n)) := by
  obtain ⟨m, bound, rfl⟩ := word
  exact read_natural bound

/-- The record of an entry is an object of texts and whole numbers. -/
theorem Entry.HasWords.nests {e : Entry} (words : e.HasWords) (depth : Nat) :
    Nests IsWord (depth + 1) (.object e.members) := by
  have number (n : Nat) (bound : n < 2 ^ 64) : Nests IsWord depth (.ofNat n) :=
    .number depth _ ⟨n, Nat.le_sub_one_of_lt bound, rfl⟩
  refine .object depth _ fun member listed => ?_
  simp only [members, candidateMembers, List.mem_append, List.mem_cons, List.not_mem_nil, or_false,
    Option.mem_toList, Option.map_eq_some_iff] at listed
  rcases listed with ((candidate | ⟨name, -, rfl⟩) | rfl) | key
  · rcases candidate with rfl | rfl | rfl | rfl | rfl | rfl
    case inr.inr.inr.inl => exact number _ words.1
    case inr.inr.inr.inr.inl => exact number _ words.2
    all_goals exact .string depth _
  · exact .string depth name
  · exact .string depth _
  · rcases key with rfl | rfl | rfl
    all_goals exact .string depth _

/-! ## Texts -/

namespace Manifest

/-- A manifest's text is read as the list of its records. -/
theorem readWritten_text {m : Manifest} (words : ∀ e ∈ m.entries, e.HasWords) :
    readWritten m.text.toList = .ok (.array (m.entries.map fun e => .object e.members)) := by
  have nests : Nests IsWord deepest (.array (m.entries.map fun e => .object e.members)) :=
    .array 126 _ (List.forall_mem_map.mpr fun e member => (words e member).nests 125)
  have blank : Layout.standard.IsBlank := by
    simp [Layout.IsBlank, Layout.standard, isBlank]
  have line : ∀ c ∈ ['\n'], isBlank c = true := List.forall_mem_singleton.mpr rfl
  rw [text, String.toList_append, pretty, String.toList_ofList]
  exact (readWritten_pretty blank read_of_isWord nests ['\n'] line).trans
    (congrArg Except.ok (nests.mapNumbers_eq fun _ _ => rfl))

/-- The text of a manifest in order is read as the manifest. -/
theorem IsOrdered.ofText?_text {m : Manifest} (ordered : m.IsOrdered)
    (words : ∀ e ∈ m.entries, e.HasWords) : ofText? m.text = some m := by
  have records : (m.entries.map fun e => Json.object e.members).mapM Entry.ofJson? =
      some m.entries := by
    have each : Entry.ofJson? ∘ (fun e => .object e.members) = pure := funext Entry.ofJson?_members
    rw [List.mapM_map, each, List.mapM_pure]
    exact congrArg some (List.map_id' m.entries)
  rw [ofText?, readWritten_text words]
  show ((m.entries.map fun e => Json.object e.members).mapM Entry.ofJson?).map ofEntries = _
  rw [records, Option.map_some, ordered.ofEntries_eq]

end Manifest

/-! ## Storage -/

section

variable {σ : Type} [Storage σ] [LawfulStorage σ]

/-- What was saved as a manifest of entries in any order is loaded as that manifest: its entries are
those that were given, in the order of files and positions, those of one place as they came. Its
text is what is stored already, and its files split it. -/
theorem Project.readManifest_of_written (p : Project) (asked : Option String)
    (entries : List Entry) (words : ∀ e ∈ entries, e.candidate.position.line < 2 ^ 64 ∧
      e.candidate.position.column < 2 ^ 64) {before after : σ}
    (written : Storage.write before (p.manifestPath asked) (Manifest.ofEntries entries).text =
      (.ok (), after)) :
    ∃ loaded, p.readManifest asked after = .ok loaded ∧
      loaded = .ofEntries entries ∧
      Storage.read after (p.manifestPath asked) = .ok loaded.text ∧
      loaded.IsSplit loaded.byFile ∧
      loaded.entries.Perm entries ∧
      ∀ file position,
        loaded.entries.filter
            (fun e => e.candidate.file = file ∧ e.candidate.position = position) =
          entries.filter (fun e => e.candidate.file = file ∧ e.candidate.position = position) := by
  have ordered := Manifest.isOrdered_ofEntries entries
  have same := Manifest.perm_ofEntries entries
  have parsed : Manifest.ofText? (Manifest.ofEntries entries).text =
      some (Manifest.ofEntries entries) :=
    ordered.ofText?_text fun e member => words e (same.mem_iff.mp member)
  have stored : Storage.read after (p.manifestPath asked) =
      .ok (Manifest.ofEntries entries).text := by
    have kept := LawfulStorage.read_of_write before (p.manifestPath asked)
      (Manifest.ofEntries entries).text
    rw [written] at kept
    exact kept rfl
  have held := LawfulStorage.holds_of_read _ _ _ stored
  exact ⟨_, readManifest_eq_ok held stored parsed, rfl, stored, ordered.isSplit_byFile, same,
    Manifest.filter_ofEntries entries⟩

end

namespace Mixed

def project : Project := ⟨"", { Settings.standard with outputDir := "out" }⟩

/-- Entries of two files with a tie, with quotes, a control character and a character beyond the
first plane. -/
def entries : List Entry :=
  [⟨⟨"Bye \"now\"", "'Bye \\\"now\\\"'", "src/b.tsx", ⟨1, 5⟩, .stringLiteral, none, ""⟩,
      "common.b.bye_now", "common", .new⟩,
    ⟨⟨"Hi \x01", "Hi \x01", "src/a.tsx", ⟨2, 7⟩, .markupText, none, "<p>Hi \x01</p>\n"⟩,
      "common.a.hi", "common", .reused⟩,
    ⟨⟨"Yo 🎉", "\"Yo 🎉\"", "src/a.tsx", ⟨2, 7⟩, .markupAttribute, some "title", ""⟩,
      "common.a.yo", "common", .new⟩]

end Mixed

theorem Project.readManifest_of_written_mixed :
    ∃ after loaded, Storage.write (⟨[], [], []⟩ : Shelf) (Mixed.project.manifestPath none)
        (Manifest.ofEntries Mixed.entries).text = (.ok (), after) ∧
      Mixed.project.readManifest none after = .ok loaded ∧ loaded = .ofEntries Mixed.entries := by
  have words : ∀ e ∈ Mixed.entries, e.candidate.position.line < 2 ^ 64 ∧
      e.candidate.position.column < 2 ^ 64 := by decide
  have written : Storage.write (⟨[], [], []⟩ : Shelf) (Mixed.project.manifestPath none)
      (Manifest.ofEntries Mixed.entries).text = _ := Shelf.write_eq_hold _ rfl _
  obtain ⟨loaded, found, same, -⟩ :=
    Mixed.project.readManifest_of_written none Mixed.entries words written
  exact ⟨_, loaded, written, found, same⟩

end Phrasebook
