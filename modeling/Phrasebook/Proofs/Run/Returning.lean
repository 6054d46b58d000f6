import Phrasebook.Proofs.Dictionary.Saving
import Phrasebook.Proofs.Key.Naming
import Phrasebook.Proofs.Key.Stability
import Phrasebook.Proofs.Run.History
import Phrasebook.Proofs.Run.Rehearsing
import Phrasebook.Proofs.Storage.Repeating

/-!
# Extracting again

An extraction finds again what an earlier one has left. The documents that were written are read, and
hold the keys of all texts, so the same calls for keys bring the same entries. No key is new, no
locale changes, and no document is written.
-/

namespace Phrasebook

open Json (deepest mapNumbers mapNumbersMembers)
open LawfulStorage (place)

/-! ## The dictionary that is read again -/

namespace Dictionary

section

variable {σ : Type} [Storage σ]

theorem dirty_loadAll (d : Dictionary) (storage : σ) (locales : List String) :
    (d.loadAll storage locales).2.dirty = d.dirty := by
  induction locales generalizing d with
  | nil => rfl
  | cons locale rest ih =>
    rw [loadAll]
    split
    next after loaded =>
      rw [ih]
      rcases load_cases loaded with ⟨text, messages, -, -, rfl⟩ | ⟨-, rfl⟩ <;> rfl
    next => rfl

/-- A locale's document can be loaded: it is absent, or what is read from it has messages. -/
def IsLoadable (d : Dictionary) (storage : σ) (locale : String) : Prop :=
  Storage.holds storage (d.documentPath locale) = false ∨
    ∃ text messages, Storage.read storage (d.documentPath locale) = .ok text ∧
      Messages.ofDocument (d.documentPath locale) text = .ok messages

theorem loadAll_of_isLoadable [LawfulStorage σ] (d : Dictionary) (storage : σ)
    (locales : List String) (loadable : ∀ locale ∈ locales, d.IsLoadable storage locale) :
    (d.loadAll storage locales).1 = none := by
  induction locales generalizing d with
  | nil => rfl
  | cons locale rest ih =>
    obtain ⟨here, others⟩ := List.forall_mem_cons.mp loadable
    rw [loadAll]
    rcases here with absent | ⟨text, messages, read, parsed⟩
    · rw [d.load_of_absent absent]
      exact ih _ others
    · rw [d.load_of_read (LawfulStorage.holds_of_read storage _ text read) read parsed]
      exact ih _ others

/-- Where there is no document, a locale has no messages. -/
theorem IsLoaded.messagesOf_eq_nil [LawfulStorage σ] {start d : Dictionary} {storage : σ}
    {locales : List String} (loaded : IsLoaded start storage locales d) {locale : String}
    (absent : Storage.holds storage (d.documentPath locale) = false) : d.messagesOf locale = [] := by
  rcases loaded.each locale with ⟨text, read, -⟩ | ⟨void, -⟩
  · rw [LawfulStorage.holds_of_read storage _ text read] at absent
    cases absent
  · exact void

end

/-- Messages that are written and read again, or left as they are, recall those of the source. -/
theorem recalls_of_messagesOf {d later : Dictionary}
    (sourceLocale_eq : later.sourceLocale = d.sourceLocale)
    (same : later.messagesOf d.sourceLocale = d.messagesOf d.sourceLocale ∨
      later.messagesOf d.sourceLocale =
        mapNumbersMembers Json.reread (d.messagesOf d.sourceLocale)) : Recalls d later := by
  have roots : later.root d.sourceLocale = d.root d.sourceLocale ∨
      later.root d.sourceLocale = mapNumbers Json.reread (d.root d.sourceLocale) :=
    same.imp (congrArg Json.object) (congrArg Json.object)
  refine ⟨sourceLocale_eq, fun path text found => ?_, fun text path occupied => ?_⟩
  · rcases roots with stays | again
    · rwa [stays]
    · rw [again, Json.valueAt?_mapNumbers, found]
      rfl
  · rcases roots with stays | again
    · rwa [stays]
    · rw [again]
      exact Json.occupied_mapNumbers occupied

/-- Without new keys nothing is propagated. -/
theorem propagate_of_pending (d : Dictionary) (source : String) (targets : List String)
    (none : d.pending = []) : (d.propagate source targets).dictionary = d := by
  have nothing : d.requests source targets = [] := by
    rw [List.eq_nil_iff_forall_not_mem]
    rintro request asked
    rw [mem_requests, none] at asked
    exact List.not_mem_nil asked.2.2
  rw [dictionary_propagate, nothing]
  rfl

end Dictionary

/-- What copies and writes keep, a flush keeps. -/
theorem Dictionary.storage_flush {σ : Type} [Storage σ] {motive : σ → Prop}
    (copied : ∀ storage source target, motive storage →
      motive (Storage.copy storage source target).2)
    (written : ∀ storage path text, motive storage → motive (Storage.write storage path text).2)
    (d : Dictionary) {storage : σ} (start : motive storage) (locales : List String)
    (backups : Backups) : motive (d.flush storage locales backups).storage := by
  refine List.foldlRecOn (motive := fun (f : Flush σ) => motive f.storage) locales _ start
    fun f kept locale _ => ?_
  have saved : motive (backups.save f.storage (f.dictionary.documentPath locale)).2 := by
    unfold Backups.save
    split
    · exact copied _ _ _ kept
    · exact kept
  unfold Flush.step
  split
  · dsimp only
    split
    next e between failed => rwa [failed] at saved
    next aside between put =>
      rw [put] at saved
      have here := written between (f.dictionary.documentPath locale) (f.dictionary.render locale)
        saved
      split
      next after returned => rwa [returned] at here
      next e after returned => rwa [returned] at here
  · exact kept

/-! ## The calls of a run -/

/-- The calls for keys that a file brings, one for each candidate that is accepted. -/
def ExtractionRules.calls (rules : ExtractionRules) (file : SourceFile) :
    FileSearch → List KeyCall
  | .found occurrences =>
    ((occurrences.filterMap Occurrence.candidate?).filter fun c =>
      (rules.acceptance.candidateRejection? c).isNone).map fun c =>
        ⟨rules.keys, file.withinRoot, c⟩
  | .failed _ | .notProcessed => []

theorem ExtractionRules.rules_of_mem_calls {rules : ExtractionRules} {file : SourceFile}
    {search : FileSearch} {call : KeyCall} (member : call ∈ rules.calls file search) :
    call.rules = rules.keys := by
  cases search with
  | found occurrences =>
    obtain ⟨c, -, rfl⟩ := List.mem_map.mp member
    rfl
  | failed | notProcessed => exact absurd member List.not_mem_nil

namespace Tally

/-- A tally that calls for keys have brought about. -/
structure Brought (calls : List KeyCall) (d : Dictionary) (t : Tally) : Prop where
  entries_eq : t.entries = KeyCall.entries calls d
  dictionary_eq : t.dictionary = KeyCall.run calls d

namespace Brought

variable {calls : List KeyCall} {d : Dictionary} {t : Tally}

/-- Reports and notices say nothing of keys. -/
theorem congr (brought : Brought calls d t) {other : Tally}
    (entries : other.entries = t.entries) (dictionary : other.dictionary = t.dictionary) :
    Brought calls d other :=
  ⟨entries.trans brought.entries_eq, dictionary.trans brought.dictionary_eq⟩

theorem addAccepted (brought : Brought calls d t) (rules : ExtractionRules) (withinRoot : String)
    (c : Candidate) :
    Brought (calls ++ [⟨rules.keys, withinRoot, c⟩]) d (t.addAccepted rules withinRoot c) := by
  have entries : (t.addAccepted rules withinRoot c).entries = t.entries ++
      (KeyCall.yielded? ⟨rules.keys, withinRoot, c⟩ t.dictionary).toList := by
    unfold Tally.addAccepted KeyCall.yielded? KeyCall.derive
    cases rules.keys.derive withinRoot c t.dictionary with
    | ok found => rfl
    | error failure => exact (List.append_nil _).symm
  have dictionary : (t.addAccepted rules withinRoot c).dictionary =
      KeyCall.after t.dictionary ⟨rules.keys, withinRoot, c⟩ := by
    unfold Tally.addAccepted KeyCall.after KeyCall.derive
    cases rules.keys.derive withinRoot c t.dictionary <;> rfl
  constructor
  · rw [entries, brought.entries_eq, brought.dictionary_eq, KeyCall.entries_append]
    simp only [KeyCall.entries, List.append_nil]
  · rw [dictionary, brought.dictionary_eq, KeyCall.run_append]
    simp only [KeyCall.run, List.foldl_cons, List.foldl_nil]

theorem foldl_accepted (brought : Brought calls d t) (rules : ExtractionRules)
    (withinRoot : String) (more : List Candidate) :
    Brought (calls ++ more.map fun c => ⟨rules.keys, withinRoot, c⟩) d
      (more.foldl (Tally.addAccepted rules withinRoot) t) := by
  induction more generalizing calls t with
  | nil => simpa using brought
  | cons c more ih =>
    rw [List.foldl_cons, List.map_cons, List.append_cons]
    exact ih (brought.addAccepted rules withinRoot c)

theorem add (brought : Brought calls d t) (rules : ExtractionRules) (file : SourceFile)
    (search : FileSearch) :
    Brought (calls ++ rules.calls file search) d (t.add rules file search) := by
  cases search with
  | found occurrences =>
    refine congr (foldl_accepted ?_ rules file.withinRoot _) rfl rfl
    refine List.foldlRecOn (motive := Brought calls d) _ _ (brought.congr rfl rfl)
      fun now brought c _ => ?_
    cases rules.acceptance.candidateRejection? c with
    | none => exact brought
    | some reason => exact brought.congr rfl rfl
  | failed | notProcessed =>
    simp only [ExtractionRules.calls, List.append_nil]
    exact brought.congr rfl rfl

end Brought

end Tally

namespace Project

/-- The calls of a run over some files. -/
def calls {σ : Type} [Storage σ] (rules : ExtractionRules) (cancelled : Bool) (storage : σ)
    (files : List SourceFile) : List KeyCall :=
  files.flatMap fun file => rules.calls file (searchFile rules cancelled storage file)

theorem brought_tally {σ : Type} [Storage σ] (rules : ExtractionRules) (cancelled : Bool)
    (storage : σ) (files : List SourceFile) (d : Dictionary) :
    Tally.Brought (calls rules cancelled storage files) d
      (tally rules cancelled storage files d) := by
  have rest (t : Tally) (before : List KeyCall) (brought : Tally.Brought before d t) :
      Tally.Brought (before ++ calls rules cancelled storage files) d (files.foldl (fun t file =>
        t.add rules file (searchFile rules cancelled storage file)) t) := by
    induction files generalizing t before with
    | nil => simpa [calls] using brought
    | cons file files ih =>
      rw [List.foldl_cons, calls, List.flatMap_cons, ← List.append_assoc]
      exact ih _ _ (brought.add rules file _)
  exact rest (.start d) [] ⟨rfl, rfl⟩

/-- Files that are read alike bring the same calls. -/
theorem calls_congr {σ : Type} [Storage σ] (rules : ExtractionRules) (cancelled : Bool)
    {before after : σ} {files : List SourceFile}
    (same : ∀ file ∈ files, Storage.read after file.path = Storage.read before file.path) :
    calls rules cancelled after files = calls rules cancelled before files := by
  refine List.flatMap_congr fun file listed => ?_
  rw [searchFile, searchFile, same file listed]

/-! ## A run after a run -/

section

variable {σ : Type} [Storage σ] (p : Project)

/-- What a run finds that has taken the lock. -/
def entered (storage : σ) : σ := (Storage.lock storage p.outputDirectory).2

/-- A run finds what an earlier one found: the same files with the same contents, and no documents
that it neither found nor wrote. -/
structure Continues (written : List String) (before after : σ) : Prop where
  files : (Selection.select after p.root p.settings).map Prod.fst =
    (Selection.select before p.root p.settings).map Prod.fst
  contents : ∀ found, Selection.select before p.root p.settings = .ok found →
    ∀ file ∈ found.1, Storage.read (p.entered after) file.path =
      Storage.read (p.entered before) file.path
  absent : ∀ locale ∈ p.settings.locales, locale ∉ written →
    Storage.holds (p.entered before) (p.dictionary.documentPath locale) = false →
      Storage.holds (p.entered after) (p.dictionary.documentPath locale) = false

variable {p} {before after : σ} (b : p.Begun before) {cancelled : Bool}

namespace Begun

theorem entered_eq : p.entered before = b.locked := b.locked_eq.symm

theorem brought : (b.tally cancelled).Brought
    (calls b.rules cancelled b.locked b.files) b.dictionary := brought_tally ..

theorem keys_eq : b.rules.keys = .ofSettings p.settings := by
  have ruled := b.ruled
  unfold ExtractionRules.ofSettings at ruled
  obtain ⟨acceptance, -, same⟩ := map_eq_ok_iff.mp ruled
  rw [← same]

theorem dirty_eq : b.dictionary.dirty = [] := by
  have same := Dictionary.dirty_loadAll p.dictionary b.locked p.settings.locales
  rw [b.loaded] at same
  exact same

/-- Whatever the calls of a run leave in the dictionary is left by the propagation in the source. -/
theorem messagesOf_source : (b.propagated cancelled).dictionary.messagesOf p.settings.sourceLocale =
    (b.tally cancelled).dictionary.messagesOf p.settings.sourceLocale :=
  Json.object.inj ((b.fills cancelled).roots _ (Dictionary.not_asked_source _ _ _))

/-- A run that makes the calls of an earlier one, with a dictionary that recalls all of them, finds
the same keys and changes nothing. -/
theorem tally_again (again : p.Begun after)
    (same : calls again.rules cancelled again.locked again.files =
      calls b.rules cancelled b.locked b.files)
    (recalls : Dictionary.Recalls (b.tally cancelled).dictionary again.dictionary) :
    (again.tally cancelled).entries = (b.tally cancelled).entries.map Entry.again ∧
      (again.propagated cancelled).dictionary = again.dictionary := by
  rw [b.brought.dictionary_eq] at recalls
  obtain ⟨entries, stays⟩ := KeyCall.entries_again _ recalls
  constructor
  · rw [again.brought.entries_eq, same, entries, b.brought.entries_eq]
  · have tallied : (again.tally cancelled).dictionary = again.dictionary := by
      rw [again.brought.dictionary_eq, same, stays]
    rw [propagated, Dictionary.propagate_of_pending _ _ _ (by rw [tallied, again.pending_eq]),
      tallied]

theorem flushed_again (again : p.Begun after) (occasion : Occasion)
    (stays : (again.propagated cancelled).dictionary = again.dictionary) :
    again.flushed occasion cancelled = ⟨again.dictionary, again.locked, [], []⟩ := by
  rw [flushed, stays]
  exact Dictionary.flush_of_clean again.dirty_eq ..

theorem manifest_again (again : p.Begun after)
    (entries : (again.tally cancelled).entries = (b.tally cancelled).entries.map Entry.again) :
    (again.manifest cancelled).entries = (b.manifest cancelled).entries.map Entry.again := by
  simp only [manifest, Manifest.ofEntries, entries]
  exact (List.map_mergeSort (f := Entry.again) (s := Entry.le) fun _ _ _ _ => rfl).symm

/-- The storage as a run leaves it that is done. -/
def left (occasion : Occasion) (cancelled : Bool) (asked : Option String) : σ :=
  Storage.unlock (b.shown occasion cancelled asked).2 p.outputDirectory

section

variable [RepeatableStorage σ] {asked : Option String}

/-- A run that was done gives back a lock that the next run can take. -/
theorem lock_left (occasion : Occasion) :
    (Storage.lock (b.left occasion cancelled asked) p.outputDirectory).1 = .ok () := by
  refine RepeatableStorage.lock_unlock _ _ ?_
  have written (storage : σ) (path text : String) :=
    RepeatableStorage.isHeld_write storage path text p.outputDirectory
  have taken := RepeatableStorage.isHeld_of_lock before p.outputDirectory (by rw [b.taken])
  rw [b.taken] at taken
  exact written _ _ _ (written _ _ _ (written _ _ _ (Dictionary.storage_flush
    (fun storage source target => RepeatableStorage.isHeld_copy storage source target _) written
    _ taken _ _)))

/-- A run that changes no document can save what an earlier one has saved. -/
theorem saves_again (occasion later : Occasion)
    (saved : (b.saved occasion cancelled asked).1 = .ok ())
    (recorded : (b.recorded occasion cancelled asked).1 = .ok ())
    (shown : (b.shown occasion cancelled asked).1 = .ok ())
    (again : p.Begun (b.left occasion cancelled asked))
    (stays : (again.flushed later cancelled).storage = again.locked) :
    again.outcome later cancelled asked = (.ok ⟨again.report later cancelled,
      again.manifest cancelled, p.manifestPath asked, (again.flushed later cancelled).dictionary⟩,
      again.left later cancelled asked) := by
  have opened (path : String) (opened : RepeatableStorage.IsOpen
      (b.shown occasion cancelled asked).2 path) :
      RepeatableStorage.IsOpen (again.flushed later cancelled).storage path := by
    rw [stays, ← again.entered_eq]
    exact RepeatableStorage.isOpen_lock _ _ _ (RepeatableStorage.isOpen_unlock _ _ _ opened)
  have written (storage : σ) (target text path : String) :=
    RepeatableStorage.isOpen_write storage target text path
  have manifest := opened _ (written _ _ _ _ (written _ _ _ _
    (RepeatableStorage.isOpen_of_write _ _ _ saved)))
  have record := opened _ (written _ _ _ _ (RepeatableStorage.isOpen_of_write _ _ _ recorded))
  have page := opened _ (RepeatableStorage.isOpen_of_write _ _ _ shown)
  exact again.outcome_eq (.done again (RepeatableStorage.write_eq_ok _ _ _ manifest)
    (RepeatableStorage.write_eq_ok _ _ _ (written _ _ _ _ record))
    (RepeatableStorage.write_eq_ok _ _ _ (written _ _ _ _ (written _ _ _ _ page))))

end

end Begun

variable [FileStorage σ] {asked : Option String}

/-- Keys are no deeper than a document can be, unless the settings ask for more. -/
theorem IsOrderly.of_plain (plain : '.' ∉ p.settings.defaultNamespace.toList)
    (distinct : ∀ a ∈ p.settings.locales, ∀ b ∈ p.settings.locales, a ≠ b →
      place before (p.dictionary.documentPath a) ≠ place before (p.dictionary.documentPath b))
    (manifest : ∀ locale ∈ p.settings.locales,
      place before (p.dictionary.documentPath locale) ≠ place before (p.manifestPath asked))
    (record : ∀ locale ∈ p.settings.locales, place before (p.dictionary.documentPath locale) ≠
      place before (RunReport.recordPath p.outputDirectory)) :
    p.IsOrderly cancelled asked before where
  distinct := distinct
  manifest := manifest
  record := record
  short := fun b e listed => by
    rw [b.brought.entries_eq] at listed
    obtain ⟨call, member, n, same⟩ := KeyCall.exists_call_of_mem_entries listed
    obtain ⟨file, -, member⟩ := List.mem_flatMap.mp member
    have ruled := ExtractionRules.rules_of_mem_calls member
    rw [b.keys_eq] at ruled
    rw [same, length_keySegments_suffixed, KeyCall.base, ruled,
      KeyRules.length_keySegments_key _ plain]
    decide

theorem IsOrderly.congr (orderly : p.IsOrderly cancelled asked before)
    (plain : '.' ∉ p.settings.defaultNamespace.toList)
    (places : ∀ path, place after path = place before path) :
    p.IsOrderly cancelled asked after := by
  refine .of_plain plain ?_ ?_ ?_ <;> simp only [places]
  · exact orderly.distinct
  · exact orderly.manifest
  · exact orderly.record

/-- What a run without failures has left of a locale: a document with the messages, or none. -/
structure Leaves (b : p.Begun before) (occasion : Occasion) (cancelled : Bool) (locale : String)
    (messages : Messages) : Prop where
  messages_eq : messages = (b.propagated cancelled).dictionary.messagesOf locale ∨
    messages = mapNumbersMembers Json.reread
      ((b.propagated cancelled).dictionary.messagesOf locale)
  document : p.Reads (b.flushed occasion cancelled).storage locale messages ∨
    messages = [] ∧ locale ∉ (b.flushed occasion cancelled).written ∧
      Storage.holds b.locked (p.dictionary.documentPath locale) = false

namespace Begun

variable (orderly : p.IsOrderly cancelled asked before) (occasion : Occasion)

include orderly

theorem exists_leaves (whole : (b.flushed occasion cancelled).failures = []) {locale : String}
    (listed : locale ∈ p.settings.locales) :
    ∃ messages, Leaves b occasion cancelled locale messages := by
  by_cases written : locale ∈ (b.flushed occasion cancelled).written
  · exact ⟨_, Or.inr rfl, Or.inl (b.reads_of_written orderly occasion listed written)⟩
  · -- What is not written although nothing failed has not changed.
    have clean : (b.propagated cancelled).dictionary.isDirty locale = false :=
      Bool.eq_false_iff.mpr fun marked =>
        written (Dictionary.written_flush _ _ _ _ whole listed marked)
    have same := Json.object.inj ((b.remembers cancelled).clean locale clean)
    refine ⟨_, Or.inl same.symm, ?_⟩
    rcases b.isLoaded.listed locale listed with ⟨text, read, parsed, -⟩ | absent
    · rw [b.documentPath_eq] at read parsed
      exact Or.inl ((b.spared_of_not_written orderly occasion listed written _).1
        ⟨text, read, parsed⟩)
    · refine Or.inr ⟨b.isLoaded.messagesOf_eq_nil absent, written, ?_⟩
      rwa [b.documentPath_eq] at absent

/-- The documents are found as the run has left them. -/
theorem spares_entered : p.SparesDocuments (b.flushed occasion cancelled).storage
    (p.entered (b.left occasion cancelled asked)) :=
  ((b.spares_shown orderly occasion).trans (.unlock ..)).trans (.lock ..)

theorem place_left (path : String) :
    place (b.left occasion cancelled asked) path = place before path := by
  have flushed := (b.flushes orderly occasion).place_eq
  have shown := b.spares_shown orderly occasion
  rw [left, FileStorage.place_unlock, shown.place_eq, flushed, b.spares_locked.place_eq]

/-- A run that continues one without failures can begin, with a dictionary that recalls all keys. -/
theorem exists_again (whole : (b.flushed occasion cancelled).failures = [])
    (continues : p.Continues (b.flushed occasion cancelled).written before
      (b.left occasion cancelled asked))
    (free : (Storage.lock (b.left occasion cancelled asked) p.outputDirectory).1 = .ok ()) :
    ∃ again : p.Begun (b.left occasion cancelled asked),
      calls again.rules cancelled again.locked again.files =
        calls b.rules cancelled b.locked b.files ∧
      Dictionary.Recalls (b.tally cancelled).dictionary again.dictionary := by
  let after := p.entered (b.left occasion cancelled asked)
  have entered : p.SparesDocuments (b.flushed occasion cancelled).storage after :=
    b.spares_entered orderly occasion
  -- Each document is there as it was left, or it is still absent.
  have found (locale : String) (listed : locale ∈ p.settings.locales) :
      ∃ messages, Leaves b occasion cancelled locale messages ∧
        (p.Reads after locale messages ∨
          messages = [] ∧ Storage.holds after (p.dictionary.documentPath locale) = false) := by
    obtain ⟨messages, leaves⟩ := b.exists_leaves orderly occasion whole listed
    refine ⟨messages, leaves, ?_⟩
    rcases leaves.document with reads | ⟨void, waits, absent⟩
    · exact Or.inl (entered.reads listed reads)
    · rw [← b.entered_eq] at absent
      exact Or.inr ⟨void, continues.absent locale listed waits absent⟩
  have accepted : (p.dictionary.loadAll after p.settings.locales).1 = none := by
    refine p.dictionary.loadAll_of_isLoadable after _ fun locale listed => ?_
    obtain ⟨messages, -, ⟨text, read, parsed⟩ | ⟨-, absent⟩⟩ := found locale listed
    · exact Or.inr ⟨text, messages, read, parsed⟩
    · exact Or.inl absent
  obtain ⟨selected, selection, files⟩ := map_eq_ok_iff.mp (continues.files.trans
    (congrArg (Except.map Prod.fst) b.selected))
  let again : p.Begun (b.left occasion cancelled asked) :=
    ⟨selected.1, selected.2, b.rules, after, (p.dictionary.loadAll after p.settings.locales).2,
      selection, b.ruled, Prod.ext free rfl, Prod.ext accepted rfl⟩
  refine ⟨again, ?_, ?_⟩
  · show calls b.rules cancelled after selected.1 = _
    rw [files]
    refine calls_congr _ _ fun file listed => ?_
    rw [← b.entered_eq]
    exact continues.contents _ b.selected file listed
  · have source : (b.tally cancelled).dictionary.sourceLocale = p.settings.sourceLocale := by
      rw [(b.derives_tally cancelled).grows.sourceLocale_eq, b.sourceLocale_eq]
    refine Dictionary.recalls_of_messagesOf (again.sourceLocale_eq.trans source.symm) ?_
    obtain ⟨messages, leaves, there⟩ := found _ source_mem_locales
    have same : again.dictionary.messagesOf p.settings.sourceLocale = messages := by
      rcases there with reads | ⟨void, absent⟩
      · exact (again.messages_eq source_mem_locales reads).symm
      · rw [← again.documentPath_eq] at absent
        rw [void, again.isLoaded.messagesOf_eq_nil absent]
    rw [source, same, ← b.messagesOf_source]
    exact leaves.messages_eq

end Begun

variable [RepeatableStorage σ]

/-- A run that continues one without failures finds the entries of that one again, all with keys
that are there, and leaves the documents alone. -/
theorem extract_again (p : Project) (wet : p.settings.dryRun = false)
    (plain : '.' ∉ p.settings.defaultNamespace.toList) (first later : Occasion)
    (asked : Option String) (s : Session σ)
    (distinct : ∀ a ∈ p.settings.locales, ∀ b ∈ p.settings.locales, a ≠ b →
      place s.storage (p.dictionary.documentPath a) ≠
        place s.storage (p.dictionary.documentPath b))
    (manifest : ∀ locale ∈ p.settings.locales,
      place s.storage (p.dictionary.documentPath locale) ≠ place s.storage (p.manifestPath asked))
    (record : ∀ locale ∈ p.settings.locales, place s.storage (p.dictionary.documentPath locale) ≠
      place s.storage (RunReport.recordPath p.outputDirectory)) :
    Run.Ends (p.extract first false asked) s (fun x after => ∀ report,
      x.report.extraction = some report → report.localeFailures = [] →
      p.Continues report.localesWritten s.storage after.storage →
      ∀ again : Session σ, again.storage = after.storage →
        Run.Ends (p.extract later false asked) again (fun y last =>
          y.manifest.entries = x.manifest.entries.map Entry.again ∧
          (∃ report, y.report.extraction = some report ∧ report.localesWritten = [] ∧
            report.localeFailures = []) ∧
          p.SparesDocuments after.storage last.storage) fun _ _ => False)
      fun _ _ => True := by
  have orderly : p.IsOrderly false asked s.storage := .of_plain plain distinct manifest record
  refine (p.extracted wet first false asked s).mono ?_ fun _ _ _ => trivial
  intro x after ended report told well continues again started
  generalize after.storage = storage at ended continues started ⊢
  cases ended with
  | done b saved recorded shown =>
    cases told
    have whole := List.map_eq_nil_iff.mp well
    -- `c` is the second run up to its documents. It recalls what `b` has left, key by key.
    obtain ⟨c, same, recalls⟩ := b.exists_again orderly first whole continues (b.lock_left first)
    obtain ⟨entries, stays⟩ := b.tally_again c same recalls
    have flushed := c.flushed_again later stays
    have outcome := b.saves_again first later saved recorded shown c (by rw [flushed])
    refine (c.ends wet later false asked again started).mono ?_ ?_
    · intro y last came
      obtain ⟨done, left⟩ := Prod.mk.inj (outcome.symm.trans came)
      cases done
      refine ⟨b.manifest_again c entries, ⟨_, rfl, ?_, ?_⟩, ?_⟩
      · rw [flushed]
      · rw [flushed]
        rfl
      · have orderly := orderly.congr plain (b.place_left orderly first)
        have shown := c.spares_shown orderly later
        rw [flushed] at shown
        rw [← left]
        exact (c.spares_locked.trans shown).trans (.unlock ..)
    · intro e last came
      cases outcome.symm.trans came

end

/-! ## On shelves -/

/-- Where nothing is closed, a run that has begun is done. -/
theorem Begun.outcome_of_open {p : Project} {before : Shelf} (b : p.Begun before)
    {occasion : Occasion} {cancelled : Bool} {asked : Option String}
    (opened : (b.flushed occasion cancelled).storage.denied = []) :
    b.outcome occasion cancelled asked = (.ok ⟨b.report occasion cancelled, b.manifest cancelled,
      p.manifestPath asked, (b.flushed occasion cancelled).dictionary⟩,
      b.left occasion cancelled asked) ∧
    b.left occasion cancelled asked = Storage.unlock
      ((((b.flushed occasion cancelled).storage.hold (p.manifestPath asked)
        (b.manifest cancelled).text).hold (RunReport.recordPath p.outputDirectory)
        (b.report occasion cancelled).text).hold (RunReport.pagePath p.outputDirectory)
        (b.report occasion cancelled).page) p.outputDirectory := by
  have free (storage : Shelf) (opened : storage.denied = []) (path text : String) :
      Storage.write storage path text = (.ok (), storage.hold path text) :=
    storage.write_eq_hold (by rw [Shelf.denies, opened]; rfl) text
  have saved : b.saved occasion cancelled asked = (.ok (), (b.flushed occasion cancelled).storage.hold
      (p.manifestPath asked) (b.manifest cancelled).text) := free _ opened _ _
  have recorded : b.recorded occasion cancelled asked =
      (.ok (), (b.saved occasion cancelled asked).2.hold (RunReport.recordPath p.outputDirectory)
        (b.report occasion cancelled).text) := by
    rw [recorded, saved]
    exact free _ (by exact opened) _ _
  have shown : b.shown occasion cancelled asked =
      (.ok (), (b.recorded occasion cancelled asked).2.hold (RunReport.pagePath p.outputDirectory)
        (b.report occasion cancelled).page) := by
    rw [shown, recorded, saved]
    exact free _ (by exact opened) _ _
  refine ⟨b.outcome_eq (.done b (congrArg Prod.fst saved) (congrArg Prod.fst recorded)
    (congrArg Prod.fst shown)), ?_⟩
  rw [left, shown, recorded, saved]

/-! The text of a module is found by a first run, and again by a second one. -/

namespace Halfway

/-- The target's document after the first run. -/
def placeholders : String :=
  Style.standard.render [("common", .object [("a", .object [("a_b", .string "[TODO] A b")])])]

/-- What a run leaves beside the module where nothing is closed. -/
def both (manifest record page : String) : List (String × String) :=
  [("src/messages/en.json", document), ("src/messages/de.json", placeholders),
    (".i18n-lift/manifest.json", manifest), (".i18n-lift/report.json", record),
    (".i18n-lift/report.md", page)]

theorem exists_outcome_open : project.IsOrderly false none (shelf [] [] []) ∧
    ∃ b : project.Begun (shelf [] [] []), ∃ x manifest record page, b.outcome occasion false none =
      (.ok x, shelf [] [] (both manifest record page)) ∧ x.manifest.entries = [entry .new] ∧
    ∃ report, x.report.extraction = some report ∧ report.localesWritten = ["en", "de"] ∧
      report.localeFailures = [] := by
  obtain ⟨b, locked, same⟩ := exists_begun (Or.inl (filesBelow_eq [] [])) (loadAll_void _ _)
  have flushed : (b.flushed occasion false).storage = shelf [] [".i18n-lift"]
      [("src/messages/en.json", document), ("src/messages/de.json", placeholders)] := by
    rw [Begun.flushed, Begun.propagated, same, locked]
    decide +kernel
  have written : (b.flushed occasion false).written = ["en", "de"] ∧
      (b.flushed occasion false).failures = [] := by
    rw [Begun.flushed, Begun.propagated, same, locked]
    decide +kernel
  have entries : (b.manifest false).entries = [entry .new] := by
    rw [Begun.manifest, same, entries_eq.1, Manifest.ofEntries, List.mergeSort_singleton]
  obtain ⟨outcome, left⟩ :=
    @Begun.outcome_of_open _ _ b occasion false none (by rw [flushed]; rfl)
  refine ⟨isOrderly b same entries_eq.1, b, _, (b.manifest false).text,
    (b.report occasion false).text, (b.report occasion false).page,
    outcome.trans (congrArg _ (left.trans ?_)), entries, _, rfl, written.1, ?_⟩
  · rw [flushed]
    generalize (b.manifest false).text = manifest
    generalize (b.report occasion false).text = record
    generalize (b.report occasion false).page = page
    rw [places.output, places.manifest, places.record, places.page]
    rfl
  · rw [written.2]
    rfl

/-- The second run finds the module as the first one did. -/
theorem continues (manifest record page : String) : project.Continues ["en", "de"] (shelf [] [] [])
    (shelf [] [] (both manifest record page)) where
  files := by
    have after : Storage.filesBelow (shelf [] [] (both manifest record page)) "src" =
        ["a.ts", "messages/en.json", "messages/de.json"] := by
      rw [Shelf.filesBelow_eq, shelf, both]
      simp only [List.map_cons, List.map_nil]
      decide
    rw [show project.root = "" from rfl, select_eq (Or.inl (filesBelow_eq _ _)),
      select_eq (Or.inr (Or.inr after))]
  contents := fun found selected file listed => by
    cases (select_eq (Or.inl (filesBelow_eq _ _))).symm.trans selected
    cases List.mem_singleton.mp listed
    rw [entered, entered, places.output]
    rfl
  absent := fun locale listed waits _ => absurd listed waits

end Halfway

theorem extract_again_fresh :
    Halfway.project.settings.dryRun = false ∧
    '.' ∉ Halfway.project.settings.defaultNamespace.toList ∧
    Run.Ends (Halfway.project.extract Halfway.occasion false none)
      (.start (Halfway.shelf [] [] []))
      (fun x after => x.manifest.entries = [Halfway.entry .new] ∧
        Run.Ends (Halfway.project.extract ⟨"later", "later"⟩ false none) (.start after.storage)
          (fun y last => y.manifest.entries = [Halfway.entry .reused] ∧
            Halfway.project.SparesDocuments after.storage last.storage) fun _ _ => False)
      fun _ _ => False := by
  obtain ⟨orderly, b, x, manifest, record, page, outcome, entries, report, told, written, well⟩ :=
    Halfway.exists_outcome_open
  have plain : '.' ∉ Halfway.project.settings.defaultNamespace.toList := by decide
  have ends := b.ends rfl Halfway.occasion false none (.start (Halfway.shelf [] [] [])) rfl
  have again := extract_again Halfway.project rfl plain Halfway.occasion ⟨"later", "later"⟩ none
    (.start (Halfway.shelf [] [] [])) orderly.distinct orderly.manifest orderly.record
  refine ⟨rfl, plain, fun x' after returned => ?_, fun e after stopped => ?_⟩
  · obtain ⟨same, storage⟩ := Prod.mk.inj (outcome.symm.trans (ends.of_ok x' after returned))
    cases same
    have continues := Halfway.continues manifest record page
    rw [← written, storage] at continues
    refine ⟨entries, (again.of_ok x after returned report told well continues
      (.start after.storage) rfl).mono ?_ fun _ _ never => never⟩
    rintro y last ⟨found, -, spares⟩
    rw [found, entries]
    exact ⟨rfl, spares⟩
  · cases outcome.symm.trans (ends.of_error e after stopped)

/-! ## Where the second run differs -/

/-- A run stops at a document without messages. -/
theorem extract_stops {σ : Type} [Storage σ] (p : Project) (wet : p.settings.dryRun = false)
    (occasion : Occasion) (cancelled : Bool) (asked : Option String) (s : Session σ)
    {locale : String} (listed : locale ∈ p.settings.locales)
    (held : Storage.holds (p.entered s.storage) (p.dictionary.documentPath locale) = true)
    (broken : ∀ text messages,
      Storage.read (p.entered s.storage) (p.dictionary.documentPath locale) = .ok text →
        Messages.ofDocument (p.dictionary.documentPath locale) text ≠ .ok messages) :
    Run.Ends (p.extract occasion cancelled asked) s (fun _ _ => False) fun _ _ => True := by
  refine (p.extracted wet occasion cancelled asked s).mono ?_ fun _ _ _ => trivial
  intro x after ended
  generalize after.storage = storage at ended
  cases ended with
  | done b =>
    rw [b.entered_eq] at held broken
    rcases b.isLoaded.listed locale listed with ⟨text, read, parsed, -⟩ | absent
    · rw [b.documentPath_eq] at read parsed
      exact broken text _ read parsed
    · rw [b.documentPath_eq, held] at absent
      cases absent

/-! A project without sources, where the manifest goes in the place of the document, or makes a
directory of it. -/

namespace Displaced

def project : Project := ⟨"", { Settings.standard with
  messagesDir := ".i18n-lift"
  sourceLocale := "manifest"
  exclude := [] }⟩

def shelf (locked : List String) (texts : List (String × String)) : Shelf := ⟨texts, [], locked⟩

theorem select_eq {storage : Shelf} (void : Storage.filesBelow storage "src" = []) :
    (Selection.select storage "" project.settings).map Prod.fst = .ok [] := by
  have globs : project.settings.excludeGlobs = .ok [] := rfl
  have absent : ¬ Storage.isDirectory storage (Path.join "" "src") = true := by
    show ¬ (!(Storage.filesBelow storage (Path.join "" "src")).isEmpty) = true
    rw [Halfway.places.scanned, void]
    exact Bool.false_ne_true
  rw [Selection.select_of_rising globs rfl (if_neg absent) .nil]
  rfl

/-- A run finds no sources and leaves a manifest, and the next one, which finds none either,
stops. -/
def Stops (asked : Option String) (texts : List (String × String)) : Prop :=
  Run.Ends (project.extract ⟨"", ""⟩ false asked) (.start (shelf [] texts))
    (fun x after => (∃ report, x.report.extraction = some report ∧ report.localeFailures = []) ∧
      (Selection.select after.storage "" project.settings).map Prod.fst =
        (Selection.select (shelf [] texts) "" project.settings).map Prod.fst ∧
      Run.Ends (project.extract ⟨"", ""⟩ false asked) (.start after.storage)
        (fun _ _ => False) fun _ _ => True)
    fun _ _ => False

/-- What a run leaves that finds no sources. -/
def left (asked : Option String) (texts : List (String × String)) (record page : String) : Shelf :=
  (((shelf [] texts).hold (project.manifestPath asked) "[]\n").hold ".i18n-lift/report.json"
    record).hold ".i18n-lift/report.md" page

theorem stops {asked : Option String} {texts : List (String × String)}
    (before : Storage.filesBelow (shelf [] texts) "src" = [])
    (after : ∀ record page, Storage.filesBelow (left asked texts record page) "src" = [])
    (loaded : (project.dictionary.loadAll (shelf [".i18n-lift"] texts) ["manifest"]).1 = none)
    (held : ∀ record page, Storage.holds (project.entered (left asked texts record page))
      (project.dictionary.documentPath "manifest") = true)
    (broken : ∀ record page text messages,
      Storage.read (project.entered (left asked texts record page))
          (project.dictionary.documentPath "manifest") = .ok text →
        Messages.ofDocument (project.dictionary.documentPath "manifest") text ≠ .ok messages) :
    Stops asked texts := by
  have directory : project.outputDirectory = ".i18n-lift" := Halfway.places.output
  obtain ⟨found, selected, none⟩ := map_eq_ok_iff.mp (select_eq before)
  let b : project.Begun (shelf [] texts) := ⟨found.1, found.2, _, shelf [".i18n-lift"] texts, _,
    selected, rfl, by rw [directory]; rfl, Prod.ext loaded rfl⟩
  -- There are no sources, so the first run finds nothing and writes no document.
  have tally : b.tally false = .start b.dictionary := by
    show Project.tally b.rules false b.locked found.1 b.dictionary = _
    rw [none]
    rfl
  have stays : (b.propagated false).dictionary = b.dictionary := by
    rw [Begun.propagated, tally]
    exact Dictionary.propagate_of_pending _ _ _ b.pending_eq
  have flushed := b.flushed_again ⟨"", ""⟩ stays
  have manifest : (b.manifest false).text = "[]\n" := by
    rw [Begun.manifest, tally]
    simp only [Tally.start, Manifest.ofEntries, List.mergeSort_nil]
    decide
  obtain ⟨outcome, same⟩ := @Begun.outcome_of_open _ _ b ⟨"", ""⟩ false asked (by rw [flushed]; rfl)
  rw [flushed, manifest, directory, Halfway.places.record, Halfway.places.page] at same
  have ends := b.ends rfl ⟨"", ""⟩ false asked (.start (shelf [] texts)) rfl
  refine ends.mono (fun x last done => ?_) fun e last stopped => by
    cases outcome.symm.trans stopped
  obtain ⟨result, storage⟩ := Prod.mk.inj (outcome.symm.trans done)
  cases result
  have storage : last.storage = left asked texts (b.report ⟨"", ""⟩ false).text
      (b.report ⟨"", ""⟩ false).page := storage.symm.trans same
  refine ⟨⟨_, rfl, ?_⟩, ?_, ?_⟩
  · rw [flushed]
    rfl
  · rw [storage, select_eq before, select_eq (after _ _)]
  · refine project.extract_stops rfl _ _ _ _ source_mem_locales ?_ ?_
    · rw [Session.start, storage]
      exact held _ _
    · rw [Session.start, storage]
      exact broken _ _

theorem stops_of_texts {asked : Option String} {texts : List (String × String)} (path : String)
    (asks : project.manifestPath asked = path)
    (before : Storage.filesBelow (shelf [] texts) "src" = [])
    (loaded : (project.dictionary.loadAll (shelf [".i18n-lift"] texts) ["manifest"]).1 = none)
    (same : ∀ record page, ((((shelf [] texts).hold path "[]\n").hold ".i18n-lift/report.json"
      record).hold ".i18n-lift/report.md" page).texts =
      [(path, "[]\n"), (".i18n-lift/report.json", record), (".i18n-lift/report.md", page)])
    (inside : (Path.below? ".i18n-lift/manifest.json" path).isSome = true)
    (outside : Path.below? "src" path = none) : Stops asked texts := by
  have document : project.dictionary.documentPath "manifest" = ".i18n-lift/manifest.json" := by
    decide +kernel
  have texts_eq (record page : String) : (left asked texts record page).texts =
      [(path, "[]\n"), (".i18n-lift/report.json", record), (".i18n-lift/report.md", page)] := by
    rw [left, asks]
    exact same record page
  have entered (record page : String) : (project.entered (left asked texts record page)).texts =
      [(path, "[]\n"), (".i18n-lift/report.json", record), (".i18n-lift/report.md", page)] := by
    rw [← texts_eq]
    rfl
  refine stops before (fun record page => ?_) loaded (fun record page => ?_)
    fun record page text messages read parsed => ?_
  · rw [Shelf.filesBelow_eq, texts_eq]
    have others : [".i18n-lift/report.json", ".i18n-lift/report.md"].map (Path.below? "src") =
        [none, none] := by
      decide
    simp only [List.map_cons, List.map_nil, List.cons.injEq, and_true] at others
    simp [outside, others]
  · rw [Shelf.holds_eq, entered, document]
    simp [inside]
  · rw [document] at read parsed
    have read := (Shelf.read_eq_ok_iff _ _ _).mp read
    have others : [".i18n-lift/report.json", ".i18n-lift/report.md"].map
        (Path.same · ".i18n-lift/manifest.json") = [false, false] := by
      decide
    simp only [List.map_cons, List.map_nil, List.cons.injEq, and_true] at others
    have held : text = "[]\n" := by
      rw [Shelf.read?, entered] at read
      cases here : Path.same path ".i18n-lift/manifest.json" <;>
        simp [here, others] at read
      exact read.symm
    subst held
    have refused : (Messages.ofDocument ".i18n-lift/manifest.json" "[]\n").toOption = none := by
      decide
    rw [parsed] at refused
    cases refused

end Displaced

/-- After a dry run the texts are still new. Where the manifest goes in the place of a document, or
makes a directory of one that was not there, a second run stops, though both runs find the same
sources. -/
theorem extract_differs_again :
    (Run.Ends (Halfway.project.rehearsed.extract Halfway.occasion false none)
      (.start (Halfway.shelf [] [] []))
      (fun x after => after.storage = Halfway.shelf [] [] [] ∧
        (∃ report, x.report.extraction = some report ∧ report.localeFailures = []) ∧
        Run.Ends (Halfway.project.rehearsed.extract Halfway.occasion false none)
          (.start after.storage) (fun y _ => y.manifest.entries = [Halfway.entry .new])
          fun _ _ => False)
      fun _ _ => False) ∧
    Displaced.Stops none [(".i18n-lift/manifest.json", "\x7b\x7d")] ∧
    Displaced.Stops (some ".i18n-lift/manifest.json/m.json") [] := by
  have dry (s : Session Shelf) (here : s.storage = Halfway.shelf [] [] []) :
      Run.Ends (Halfway.project.rehearsed.extract Halfway.occasion false none) s
        (fun x after => after.storage = Halfway.shelf [] [] [] ∧
          (∃ report, x.report.extraction = some report ∧ report.localeFailures = []) ∧
          x.manifest.entries = [Halfway.entry .new]) fun _ _ => False := by
    have selected := Halfway.select_eq (Or.inl (Halfway.filesBelow_eq [] []))
    have loaded := Halfway.loadAll_void [] []
    have ruled : ExtractionRules.ofSettings Halfway.project.settings = .ok Halfway.rules := rfl
    rw [← here] at selected loaded
    refine (ends_rehearsed selected ruled loaded Halfway.occasion false none).mono ?_
      fun _ _ never => never
    rintro x after ⟨storage, rfl⟩
    have unsaved := saved_tally Halfway.rules false s.storage [Halfway.file] Halfway.void
    refine ⟨storage.trans here, ⟨_, rfl, (Prod.mk.inj unsaved).2⟩, ?_⟩
    simp only [here, Halfway.tally_eq, Halfway.entries_eq.1, Manifest.ofEntries,
      List.mergeSort_singleton]
  refine ⟨(dry _ rfl).mono (fun x after kept => ⟨kept.1, kept.2.1,
    (dry (.start after.storage) kept.1).mono (fun _ _ again => again.2.2)
      fun _ _ never => never⟩) fun _ _ never => never, ?_, ?_⟩
  · exact Displaced.stops_of_texts ".i18n-lift/manifest.json" (by decide +kernel)
      (by decide +kernel) (by decide +kernel) (fun _ _ => rfl) (by decide +kernel)
      (by decide +kernel)
  · exact Displaced.stops_of_texts ".i18n-lift/manifest.json/m.json" (by decide +kernel)
      (by decide +kernel) (by decide +kernel) (fun _ _ => rfl) (by decide +kernel)
      (by decide)

end Project

end Phrasebook
