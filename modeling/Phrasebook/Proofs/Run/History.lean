import Phrasebook.Proofs.Candidate.Reading
import Phrasebook.Proofs.Run.Documents

/-!
# Keys over many extractions

Only the run that finds a key new gives it to the targets. So a key that the source's document has
must have a value in every target's document by then: a run that writes the source's document while
another document cannot be written, or while a key is kept out of a target, leaves keys behind that
no later run takes care of. Without such a run, all keys of a manifest have values everywhere.
-/

namespace Phrasebook

open Json (deepest mapNumbers mapNumbersMembers)
open LawfulStorage (place)
open FileStorage (fileAt?)

/-- An extraction that reports no failure of a locale and no conflict. -/
def Extraction.IsWhole (x : Extraction) : Prop :=
  ∀ r, x.report.extraction = some r → r.localeFailures = [] ∧ r.propagation.conflicts = 0

namespace Project

section

variable {σ : Type} [Storage σ] [FileStorage σ] (p : Project)

/-- The source's document is written, and another document cannot be, or a key is kept out of a
target. -/
def Tears (occasion : Occasion) (cancelled : Bool) (before : σ) : Prop :=
  ∃ b : p.Begun before, p.settings.sourceLocale ∈ (b.flushed occasion cancelled).written ∧
    ((b.flushed occasion cancelled).failures ≠ [] ∨
      (b.propagated cancelled).counts.conflicts ≠ 0)

/-- Every key of the source's document has a value in all targets. -/
def Matched (storage : σ) : Prop :=
  ∀ key, p.Stores storage p.settings.sourceLocale key → ∀ locale ∈ p.settings.locales,
    locale ≠ p.settings.sourceLocale → p.Holds storage locale key

/-- What has come about from a start without documents, by extractions that do not tear the documents
apart, however they end, and by changes of anything else. -/
inductive History : σ → Prop where
  | start (storage : σ) (void : ∀ locale ∈ p.settings.locales,
      fileAt? storage (place storage (p.dictionary.documentPath locale)) = none) : History storage
  | change {before after : σ} (history : History before)
      (spares : p.SparesDocuments before after) : History after
  | run {s after : Session σ} {result : Except RunError Extraction} (history : History s.storage)
      (occasion : Occasion) (cancelled : Bool) (asked : Option String)
      (orderly : p.IsOrderly cancelled asked s.storage)
      (whole : ¬ p.Tears occasion cancelled s.storage)
      (ended : (p.extract occasion cancelled asked).run s = (result, after)) :
      History after.storage

variable {p} {before : σ} {occasion : Occasion} {cancelled : Bool} {asked : Option String}

theorem source_mem_locales : p.settings.sourceLocale ∈ p.settings.locales := List.mem_cons_self

/-! ## One extraction -/

theorem Matched.of_spares {after : σ} (matched : p.Matched before)
    (spares : p.SparesDocuments before after) : p.Matched after := by
  intro key stores locale listed differs
  rw [spares.stores_iff source_mem_locales] at stores
  exact spares.holds listed (matched key stores locale listed differs)

namespace Begun

variable (b : p.Begun before) (orderly : p.IsOrderly cancelled asked before)

/-- A key that was in the source's document before has values everywhere. -/
theorem hasValue_of_matched (matched : p.Matched before) {key locale : String}
    (old : p.Stores before p.settings.sourceLocale key) (listed : locale ∈ p.settings.locales)
    (differs : locale ≠ p.settings.sourceLocale) : b.dictionary.HasValue locale key :=
  (b.holds_iff listed).mp (b.spares_locked.holds listed (matched key old locale listed differs))

theorem stores_of_hasValue {key locale : String} (listed : locale ∈ p.settings.locales)
    (held : b.dictionary.HasValue locale key) : p.Stores before locale key :=
  (b.spares_locked.stores_iff listed).mp ((b.holds_iff listed).mpr held).stores

include orderly

theorem matched_flushed (matched : p.Matched before) (occasion : Occasion)
    (whole : ¬ p.Tears occasion cancelled before) :
    p.Matched (b.flushed occasion cancelled).storage := by
  intro key stores locale listed differs
  have old (old : p.Stores before p.settings.sourceLocale key) :
      p.Holds (b.flushed occasion cancelled).storage locale key := by
    have held := b.hasValue_of_matched matched old listed differs
    exact b.holds_flushed orderly occasion listed (b.hasValue_propagated cancelled held)
      fun _ => held
  rcases b.of_stores_flushed orderly occasion source_mem_locales stores with
    ⟨held, written⟩ | ⟨stays, -⟩
  · rcases b.of_hasValue_propagated cancelled held with there | waits
    · exact old (b.stores_of_hasValue source_mem_locales there)
    · -- The source's document is written with a new key, so all went well.
      have well : (b.flushed occasion cancelled).failures = [] ∧
          (b.propagated cancelled).counts.conflicts = 0 := by
        by_contra failed
        exact whole ⟨b, written, by tauto⟩
      exact b.holds_of_whole orderly occasion listed well.1
        (b.hasValue_of_pending cancelled well.2 waits listed)
  · exact old stays

/-- Where the keys of a manifest have values once the documents are written. -/
theorem holds_cases (occasion : Occasion) (whole : (b.flushed occasion cancelled).failures = [])
    (none : (b.propagated cancelled).counts.conflicts = 0) {e : Entry}
    (member : e ∈ (b.tally cancelled).entries) {locale : String}
    (listed : locale ∈ p.settings.locales) :
    (p.Stores (b.flushed occasion cancelled).storage locale e.key →
      locale = p.settings.sourceLocale ∨
      (∃ other ∈ (b.tally cancelled).entries, other.key = e.key ∧ other.status = .new) ∨
      p.Stores before locale e.key) ∧
    (locale = p.settings.sourceLocale ∨
      (∃ other ∈ (b.tally cancelled).entries, other.key = e.key ∧ other.status = .new) ∨
      p.Holds before locale e.key ∨ p.Matched before →
      p.Holds (b.flushed occasion cancelled).storage locale e.key) := by
  have values := b.hasValue_iff cancelled none member listed
  constructor
  · intro stores
    rcases b.of_stores_flushed orderly occasion listed stores with ⟨held, -⟩ | ⟨stays, -⟩
    · exact (values.mp held).imp_right (Or.imp_right (b.stores_of_hasValue listed))
    · exact Or.inr (Or.inr stays)
  · intro cause
    refine b.holds_of_whole orderly occasion listed whole (values.mpr ?_)
    rcases cause with source | new | holds | matched
    · exact Or.inl source
    · exact Or.inr (Or.inl new)
    · exact Or.inr (Or.inr ((b.holds_iff listed).mp (b.spares_locked.holds listed holds)))
    · -- The entry's key is in the source's document by now, new or as before.
      by_cases differs : locale = p.settings.sourceLocale
      · exact Or.inl differs
      have held := (b.hasValue_iff cancelled none member source_mem_locales).mpr (Or.inl rfl)
      rcases b.of_hasValue_propagated cancelled held with there | waits
      · exact Or.inr (Or.inr (b.hasValue_of_matched matched
          (b.stores_of_hasValue source_mem_locales there) listed differs))
      · exact Or.inr (Or.inl ((b.mem_pending cancelled).mp waits))

end Begun

/-- However an extraction ends, the documents are as they were or as they were flushed. -/
theorem Extracted.spares {after : σ} {result : Except RunError Extraction}
    (orderly : p.IsOrderly cancelled asked before)
    (ended : p.Extracted occasion cancelled asked before result after) :
    p.SparesDocuments before after ∨ ∃ b : p.Begun before,
      p.SparesDocuments (b.flushed occasion cancelled).storage after := by
  cases ended with
  | refused => exact Or.inl (.refl before)
  | contended e _ refused =>
    have lock := SparesDocuments.lock (p := p) before p.outputDirectory
    rw [refused] at lock
    exact Or.inl lock
  | unread f complaint locked taken =>
    have lock := SparesDocuments.lock (p := p) before p.outputDirectory
    rw [taken] at lock
    exact Or.inl (lock.trans (.unlock ..))
  | manifestUnwritten b => exact Or.inr ⟨b, (b.spares_saved orderly occasion).trans (.unlock ..)⟩
  | recordUnwritten b => exact Or.inr ⟨b, (b.spares_recorded orderly occasion).trans (.unlock ..)⟩
  | pageUnwritten b => exact Or.inr ⟨b, (b.spares_shown orderly occasion).trans (.unlock ..)⟩
  | done b => exact Or.inr ⟨b, (b.spares_shown orderly occasion).trans (.unlock ..)⟩

/-! ## Many extractions -/

theorem History.matched (wet : p.settings.dryRun = false) {storage : σ}
    (history : p.History storage) : p.Matched storage := by
  induction history with
  | start storage void =>
    rintro key ⟨messages, ⟨text, there, -⟩, -⟩
    rw [void _ source_mem_locales] at there
    cases there
  | change _ spares matched => exact matched.of_spares spares
  | @run s after result _ occasion cancelled asked orderly whole ended matched =>
    have ended : p.Extracted occasion cancelled asked s.storage result after.storage := by
      have ends := p.extracted wet occasion cancelled asked s
      cases result with
      | ok x => exact ends.of_ok x after ended
      | error e => exact ends.of_error e after ended
    rcases ended.spares orderly with spares | ⟨b, spares⟩
    · exact matched.of_spares spares
    · exact (b.matched_flushed orderly matched occasion whole).of_spares spares

/-- The keys of a manifest have values in all locales if no run before has torn the documents apart.
In any case, a run that reports no failure and no conflict leaves a key with a value in the source,
and in the targets if the key is new or had a value. -/
theorem extract_serves_targets (p : Project) (wet : p.settings.dryRun = false) (occasion : Occasion)
    (cancelled : Bool) (asked : Option String) (s : Session σ)
    (orderly : p.IsOrderly cancelled asked s.storage) :
    Run.Ends (p.extract occasion cancelled asked) s (fun x after => x.IsWhole →
      ∀ e ∈ x.manifest.entries, ∀ locale ∈ p.settings.locales,
        let isNew := ∃ other ∈ x.manifest.entries, other.key = e.key ∧ other.status = .new
        (p.Holds after.storage locale e.key →
          locale = p.settings.sourceLocale ∨ isNew ∨ p.Stores s.storage locale e.key) ∧
        (locale = p.settings.sourceLocale ∨ isNew ∨ p.Holds s.storage locale e.key ∨
          p.History s.storage → p.Holds after.storage locale e.key))
      (fun _ _ => True) := by
  refine (p.extracted wet occasion cancelled asked s).mono ?_ fun _ _ _ => trivial
  intro x after ended whole e listed locale member
  generalize after.storage = storage at ended ⊢
  cases ended with
  | done b =>
    obtain ⟨written, none⟩ := whole _ rfl
    have spares := (b.spares_shown orderly occasion).trans (.unlock _ p.outputDirectory)
    obtain ⟨only, all⟩ := b.holds_cases orderly occasion (List.map_eq_nil_iff.mp written) none
      (List.mem_mergeSort.mp listed) member
    simp only [Begun.manifest, Manifest.ofEntries, List.mem_mergeSort]
    exact ⟨fun holds => only ((spares.stores_iff member).mp holds.stores), fun cause =>
      spares.holds member (all (cause.imp_right (.imp_right (.imp_right (History.matched wet)))))⟩

end

/-! A module with one text, in a project where the target's document cannot be written at first. -/

namespace Halfway

def project : Project :=
  ⟨"", { Settings.standard with targetLocales := ["de"], exclude := [] }⟩

def occasion : Occasion := ⟨"", ""⟩

def rules : ExtractionRules :=
  ⟨.ofSettings project.settings, ⟨2, 120, [], 4, 20⟩, .ofSettings project.settings⟩

def source : String := "f('A b')"

def file : SourceFile := ⟨"src/a.ts", "a.ts", "src/a.ts"⟩

def candidate : Candidate :=
  ⟨"A b", "'A b'", "src/a.ts", ⟨1, 3⟩, .stringLiteral, none, "f('A b')"⟩

def entry (status : KeyStatus) : Entry := ⟨candidate, "common.a.a_b", "common", status⟩

/-- The messages with the text. -/
def messages : Messages := [("common", .object [("a", .object [("a_b", .string "A b")])])]

def document : String := Style.standard.render messages

/-- The module and other files. Some paths may be closed, and some directories locked. -/
def shelf (denied locked : List String) (others : List (String × String)) : Shelf :=
  ⟨("src/a.ts", source) :: others, denied, locked⟩

/-- What the first run leaves beside the module. -/
def left (manifest record page : String) : List (String × String) :=
  [("src/messages/en.json", document), (".i18n-lift/manifest.json", manifest),
    (".i18n-lift/report.json", record), (".i18n-lift/report.md", page)]

/-- The dictionary without documents. -/
def void : Dictionary := (project.dictionary.withMessages "en" []).withMessages "de" []

/-- The dictionary with the source's document. -/
def known : Dictionary :=
  { project.dictionary.withMessages "en" messages with
    styles := [("en", Style.detect document.toList)] }.withMessages "de" []

def tallied (d : Dictionary) : Tally := (Tally.start d).addFound rules file [.candidate candidate]

theorem filesBelow_eq (denied locked : List String) :
    Storage.filesBelow (shelf denied locked []) "src" = ["a.ts"] := by
  rw [Shelf.filesBelow_eq, shelf, List.map_singleton]
  decide +kernel

theorem occurrences_eq :
    occurrences rules.search "src/a.ts" source.toList = .ok [.candidate candidate] :=
  occurrences_of_visit (by decide +kernel) (List.pairwise_singleton ..)

/-- Where a run looks for sources and leaves its files. -/
structure Places : Prop where
  scanned : Path.join "" "src" = "src"
  output : project.outputDirectory = ".i18n-lift"
  manifest : project.manifestPath none = ".i18n-lift/manifest.json"
  record : RunReport.recordPath ".i18n-lift" = ".i18n-lift/report.json"
  page : RunReport.pagePath ".i18n-lift" = ".i18n-lift/report.md"

theorem places : Places := by
  constructor <;> decide +kernel

/-- The module is the only source. -/
theorem select_eq {storage : Shelf} (below : Storage.filesBelow storage "src" = ["a.ts"] ∨
      Storage.filesBelow storage "src" = ["a.ts", "messages/en.json"] ∨
      Storage.filesBelow storage "src" = ["a.ts", "messages/en.json", "messages/de.json"]) :
    Selection.select storage "" project.settings = .ok ([file], []) := by
  have sources : Selection.ofRoot storage "" project.settings [] "src" = ([file], []) := by
    have there : Storage.isDirectory storage "src" = true := by
      show (!(Storage.filesBelow storage "src").isEmpty) = true
      rcases below with below | below | below <;> rw [below] <;> rfl
    rw [Selection.ofRoot, places.scanned, if_pos there]
    rcases below with below | below | below <;> rw [below] <;> decide +kernel
  exact Selection.select_of_rising rfl rfl sources (List.pairwise_singleton ..)

theorem tally_eq (denied locked : List String) (others : List (String × String)) (d : Dictionary) :
    tally rules false (shelf denied locked others) [file] d = tallied d := by
  have read : Storage.read (shelf denied locked others) file.path = .ok source := rfl
  exact tally_singleton read occurrences_eq d

theorem exists_begun {denied : List String} {others : List (String × String)} {d : Dictionary}
    (below : Storage.filesBelow (shelf denied [] others) "src" = ["a.ts"] ∨
      Storage.filesBelow (shelf denied [] others) "src" = ["a.ts", "messages/en.json"])
    (loaded : project.dictionary.loadAll (shelf denied [".i18n-lift"] others) ["en", "de"] =
      (none, d)) :
    ∃ b : project.Begun (shelf denied [] others), b.locked = shelf denied [".i18n-lift"] others ∧
      b.tally false = tallied d := by
  refine ⟨⟨[file], [], rules, shelf denied [".i18n-lift"] others, d,
    select_eq (below.imp_right Or.inl), rfl, ?_,
    loaded⟩, rfl, ?_⟩
  · rw [places.output]
    rfl
  · rw [Begun.tally]
    exact tally_eq ..

theorem loadAll_void (denied locked : List String) :
    project.dictionary.loadAll (shelf denied locked []) ["en", "de"] = (none, void) := by
  have en : Storage.holds (shelf denied locked []) (project.dictionary.documentPath "en") =
      false := by
    rw [Shelf.holds_eq, shelf, List.map_singleton]
    decide +kernel
  have de : Storage.holds (shelf denied locked [])
      ((project.dictionary.withMessages "en" []).documentPath "de") = false := by
    rw [Shelf.holds_eq, shelf, List.map_singleton]
    decide +kernel
  have first := Dictionary.load_of_absent _ en
  have second := Dictionary.load_of_absent _ de
  simp only [Dictionary.loadAll, first, show project.dictionary.messagesOf "en" = [] from rfl,
    second]
  rfl

theorem fileAt?_eq_none (denied locked : List String) : ∀ locale ∈ ["en", "de"],
    fileAt? (shelf denied locked []) (place (shelf denied locked [])
      (project.dictionary.documentPath locale)) = none := by
  have apart : ∀ locale ∈ ["en", "de"],
      Path.same "src/a.ts" (project.dictionary.documentPath locale) = false := by
    decide +kernel
  intro locale listed
  refine (Shelf.fileAt?_components _ _).trans ?_
  simp [Shelf.read?, shelf, apart locale listed]

theorem ofDocument_eq (path : String) : Messages.ofDocument path document = .ok messages := by
  have put : Messages.putAt "A b" ["common", "a", "a_b"] [] = messages := rfl
  have fits : Json.Fits Json.IsRegular deepest (.object messages) :=
    put ▸ Messages.fits_putAt "A b" _ (by decide) (by decide) Messages.fits_nil
  rw [document, Messages.ofDocument_render Style.isProper_standard Json.read_text fits path]
  simp [messages, mapNumbersMembers, mapNumbers]

example : document = "\x7b\n" ++
    "  \"common\": \x7b\n    \"a\": \x7b\n      \"a_b\": \"A b\"\n    \x7d\n  \x7d\n\x7d\n" := by
  decide

theorem loadAll_known (denied locked : List String) (manifest record page : String) :
    project.dictionary.loadAll (shelf denied locked (left manifest record page)) ["en", "de"] =
      (none, known) := by
  have there : Storage.holds (shelf denied locked (left manifest record page))
      (project.dictionary.documentPath "en") = true := by
    rw [Shelf.holds_eq, shelf, left]
    simp only [List.map_cons, List.map_nil]
    decide +kernel
  have absent : Storage.holds (shelf denied locked (left manifest record page))
      (project.dictionary.documentPath "de") = false := by
    rw [Shelf.holds_eq, shelf, left]
    simp only [List.map_cons, List.map_nil]
    decide +kernel
  have read : Storage.read (shelf denied locked (left manifest record page))
      (project.dictionary.documentPath "en") = .ok document := by
    have apart : Path.same "src/a.ts" (project.dictionary.documentPath "en") = false := by
      decide +kernel
    have here : Path.same "src/messages/en.json" (project.dictionary.documentPath "en") = true := by
      decide +kernel
    refine (Shelf.read_eq_ok_iff _ _ _).mpr ?_
    simp [Shelf.read?, shelf, left, apart, here]
  have en : project.dictionary.load (shelf denied locked (left manifest record page)) "en" =
      .ok { project.dictionary.withMessages "en" messages with
        styles := [("en", Style.detect document.toList)] } :=
    Dictionary.load_of_read _ there read (ofDocument_eq _)
  simp only [Dictionary.loadAll, en]
  rw [Dictionary.load_of_absent _ (by exact absent)]
  rfl

theorem isOrderly {denied : List String} {others : List (String × String)} {d : Dictionary}
    (b : project.Begun (shelf denied [] others)) (same : b.tally false = tallied d)
    {status : KeyStatus} (entries : (tallied d).entries = [entry status]) :
    project.IsOrderly false none (shelf denied [] others) := by
  let parts (path : String) : List (List Char) := Path.components path.toList
  have distinct : ∀ a ∈ ["en", "de"], ∀ b ∈ ["en", "de"], a ≠ b →
      parts (project.dictionary.documentPath a) ≠ parts (project.dictionary.documentPath b) := by
    decide +kernel
  have manifest : ∀ locale ∈ ["en", "de"],
      parts (project.dictionary.documentPath locale) ≠ parts (project.manifestPath none) := by
    decide +kernel
  have record : ∀ locale ∈ ["en", "de"], parts (project.dictionary.documentPath locale) ≠
      parts (RunReport.recordPath project.outputDirectory) := by
    decide +kernel
  refine ⟨distinct, manifest, record, fun other e listed => ?_⟩
  rw [other.eq b, same, entries] at listed
  rw [List.mem_singleton.mp listed]
  exact (show (keySegments "common.a.a_b").length ≤ deepest by decide)

/-- The text is new without documents, and known with the source's. -/
theorem entries_eq : (tallied void).entries = [entry .new] ∧
    (tallied known).entries = [entry .reused] := by
  decide +kernel

/-! The first run writes the source's document only. -/

theorem exists_outcome : ∃ b : project.Begun (shelf ["src/messages/de.json"] [] []),
    ∃ x manifest record page, b.outcome occasion false none =
      (.ok x, shelf ["src/messages/de.json"] [] (left manifest record page)) := by
  obtain ⟨b, locked, same⟩ :=
    exists_begun (Or.inl (filesBelow_eq ["src/messages/de.json"] [])) (loadAll_void _ _)
  have flushed : (b.flushed occasion false).storage = shelf ["src/messages/de.json"]
      [".i18n-lift"] [("src/messages/en.json", document)] := by
    rw [Begun.flushed, Begun.propagated, same, locked]
    decide +kernel
  refine ⟨b, ⟨b.report occasion false, b.manifest false, project.manifestPath none,
    (b.flushed occasion false).dictionary⟩, (b.manifest false).text,
    (b.report occasion false).text, (b.report occasion false).page, ?_⟩
  have saved : b.saved occasion false none = (.ok (), shelf ["src/messages/de.json"]
      [".i18n-lift"] [("src/messages/en.json", document),
        (".i18n-lift/manifest.json", (b.manifest false).text)]) := by
    rw [Begun.saved, flushed, places.manifest]
    generalize (b.manifest false).text = manifest
    rfl
  have recorded : b.recorded occasion false none = (.ok (), shelf ["src/messages/de.json"]
      [".i18n-lift"] [("src/messages/en.json", document),
        (".i18n-lift/manifest.json", (b.manifest false).text),
        (".i18n-lift/report.json", (b.report occasion false).text)]) := by
    rw [Begun.recorded, saved, places.output, places.record]
    generalize (b.manifest false).text = manifest
    generalize (b.report occasion false).text = record
    rfl
  have shown : b.shown occasion false none = (.ok (), shelf ["src/messages/de.json"]
      [".i18n-lift"] (left (b.manifest false).text (b.report occasion false).text
        (b.report occasion false).page)) := by
    rw [Begun.shown, recorded, places.output, places.page]
    generalize (b.manifest false).text = manifest
    generalize (b.report occasion false).text = record
    generalize (b.report occasion false).page = page
    rfl
  rw [Begun.outcome, saved, recorded, shown, places.output]
  rfl

/-! The second run finds the key and has nothing to write. -/

theorem exists_outcome_again (manifest record page : String) :
    ∃ b : project.Begun (shelf [] [] (left manifest record page)), ∃ x after,
      b.outcome occasion false none = (.ok x, after) ∧ x.IsWhole ∧
      x.manifest.entries = [entry .reused] ∧ ¬ project.Holds after "de" "common.a.a_b" := by
  have below : Storage.filesBelow (shelf [] [] (left manifest record page)) "src" =
      ["a.ts", "messages/en.json"] := by
    rw [Shelf.filesBelow_eq, shelf, left]
    simp only [List.map_cons, List.map_nil]
    decide
  obtain ⟨b, locked, same⟩ := exists_begun (Or.inr below) (loadAll_known _ _ _ _ _)
  have clean : (b.propagated false).dictionary.dirty = [] := by
    rw [Begun.propagated, same]
    decide +kernel
  have flushed := Dictionary.flush_of_clean clean b.locked project.settings.locales
    (project.backups occasion)
  have conflicts : (b.propagated false).counts.conflicts = 0 := by
    rw [Begun.propagated, same]
    decide +kernel
  have entries : (b.manifest false).entries = [entry .reused] := by
    rw [Begun.manifest, same, entries_eq.2, Manifest.ofEntries, List.mergeSort_singleton]
  have opened : (b.flushed occasion false).storage.denied = [] := by
    rw [Begun.flushed, flushed, locked]
    rfl
  obtain ⟨saved, opened⟩ := Shelf.write_of_open opened (project.manifestPath none)
    (b.manifest false).text
  obtain ⟨recorded, opened⟩ := Shelf.write_of_open opened
    (RunReport.recordPath project.outputDirectory) (b.report occasion false).text
  obtain ⟨shown, -⟩ := Shelf.write_of_open opened
    (RunReport.pagePath project.outputDirectory) (b.report occasion false).page
  have unwritten : ¬ project.Stores (b.flushed occasion false).storage "de" "common.a.a_b" := by
    have apart : ∀ path ∈ ["src/a.ts", "src/messages/en.json", ".i18n-lift/manifest.json",
        ".i18n-lift/report.json", ".i18n-lift/report.md"],
        ¬ Path.same path (project.dictionary.documentPath "de") = true := by
      decide +kernel
    have absent : (shelf [] [".i18n-lift"] (left manifest record page)).read?
        (project.dictionary.documentPath "de") = none := by
      rw [Shelf.read?, Option.map_eq_none_iff, List.find?_eq_none]
      exact fun entry listed => apart entry.1 (List.mem_map_of_mem (f := Prod.fst) listed)
    rw [Begun.flushed, flushed, locked]
    rintro ⟨_, ⟨text, there, -⟩, -⟩
    have read : (shelf [] [".i18n-lift"] (left manifest record page)).fileAt?
      (Path.components (project.dictionary.documentPath "de").toList) = some (.text text) := there
    rw [Shelf.fileAt?_components, absent] at read
    cases read
  have spares := (b.spares_shown (isOrderly b same entries_eq.2) occasion).trans
    (.unlock _ project.outputDirectory)
  refine ⟨b, _, _, b.outcome_eq (@Extracted.done _ _ _ _ _ none _ b saved recorded shown), ?_, entries,
    fun holds => unwritten ((spares.stores_iff (by decide)).mp holds.stores)⟩
  rintro r ⟨⟩
  rw [Begun.flushed, flushed]
  exact ⟨rfl, conflicts⟩

end Halfway

open Halfway

theorem extract_serves_targets_fresh :
    project.settings.dryRun = false ∧ project.IsOrderly false none (shelf [] [] []) ∧
    project.History (shelf [] [] []) ∧
    Run.Ends (project.extract occasion false none) (.start (shelf [] [] []))
      (fun x after => x.IsWhole → ∀ e ∈ x.manifest.entries, ∀ locale ∈ ["en", "de"],
        project.Holds after.storage locale e.key) (fun _ _ => True) := by
  obtain ⟨b, -, same⟩ := exists_begun (Or.inl (filesBelow_eq _ _)) (loadAll_void _ _)
  have orderly := isOrderly b same entries_eq.1
  have history : project.History (shelf [] [] []) := .start _ (fileAt?_eq_none [] [])
  refine ⟨rfl, orderly, history, (extract_serves_targets project rfl occasion false none
    (.start (shelf [] [] [])) orderly).mono (fun x after served whole e listed locale member => ?_)
    fun _ _ _ => trivial⟩
  exact (served whole e listed locale member).2 (Or.inr (Or.inr (Or.inr history)))

/-- A target whose document cannot be written at first has no document after a run without failures
and conflicts. -/
theorem extract_forgets_target :
    (∀ locale ∈ ["en", "de"], fileAt? (shelf ["src/messages/de.json"] [] [])
      (place (shelf ["src/messages/de.json"] [] []) (project.dictionary.documentPath locale)) =
        none) ∧
    Run.Ends (project.extract occasion false none) (.start (shelf ["src/messages/de.json"] [] []))
      (fun _ first => Run.Ends (project.extract occasion false none)
        (.start { first.storage with denied := [] })
        (fun x second => x.IsWhole ∧ x.manifest.entries = [entry .reused] ∧
          ¬ project.Holds second.storage "de" "common.a.a_b") (fun _ _ => False))
      (fun _ _ => False) := by
  obtain ⟨b, x, manifest, record, page, outcome⟩ := exists_outcome
  obtain ⟨again, y, last, outcome', whole, entries, lacks⟩ :=
    exists_outcome_again manifest record page
  refine ⟨fileAt?_eq_none _ _, (b.ends rfl occasion false none _ rfl).mono
    (fun _ first done => ?_) fun e _ stopped => by cases outcome.symm.trans stopped⟩
  have left : first.storage = shelf ["src/messages/de.json"] [] (left manifest record page) :=
    (Prod.mk.inj (outcome.symm.trans done)).2.symm
  rw [left]
  refine (again.ends rfl occasion false none _ rfl).mono (fun z second done => ?_)
    fun e _ stopped => by cases outcome'.symm.trans stopped
  obtain ⟨same, storage⟩ := Prod.mk.inj (outcome'.symm.trans done)
  rw [← storage, ← Except.ok.inj same]
  exact ⟨whole, entries, lacks⟩

end Project

end Phrasebook
