import Phrasebook.Proofs.Dictionary.Filling
import Phrasebook.Proofs.Dictionary.Loading
import Phrasebook.Proofs.Run.Ending
import Phrasebook.Proofs.Run.Tallying

/-!
# How an extraction ends

An extraction is refused before it starts, it cannot get the lock or read the documents, it has
flushed its dictionary and cannot save the manifest or the report, or it is done. Each end says what
was done to the storage, write by write.
-/

namespace Phrasebook

/-- A command stopped when it had its results and could not save all of them. -/
def RunError.isUnsaved : RunError → Bool
  | .manifestUnwritten _ | .reportUnwritten _ | .sharedReportUnwritten => true
  | _ => false

/-! ## Selection and search -/

variable {σ : Type} [Storage σ]

theorem SourceFile.dropRepeated_of_rising {files : List SourceFile}
    (rising : files.Pairwise fun f g => f.relative < g.relative) : dropRepeated files = files := by
  fun_induction dropRepeated files with
  | case1 | case2 => rfl
  | case3 f g rest same ih =>
    have earlier := (List.pairwise_cons.mp rising).1 g List.mem_cons_self
    exact absurd (same ▸ earlier) (String.lt_irrefl _)
  | case4 f g rest differs ih => rw [ih (List.pairwise_cons.mp rising).2]

/-- The sources below the only root are selected as they come, if they come in order. -/
theorem Selection.select_of_rising {storage : σ} {projectRoot root : String} {s : Settings}
    {globs : List (List Glob.Part)} {files : List SourceFile} {notices : List Notice}
    (excluded : s.excludeGlobs = .ok globs) (single : s.roots = [root])
    (found : ofRoot storage projectRoot s globs root = (files, notices))
    (rising : files.Pairwise fun f g => f.relative < g.relative) :
    select storage projectRoot s = .ok (files, notices) := by
  have ordered : files.Pairwise fun f g => SourceFile.le f g = true :=
    rising.imp fun earlier => by simp [SourceFile.le, earlier]
  simp only [select, excluded, single, Except.map, List.map_cons, List.map_nil, found,
    List.flatMap_cons, List.flatMap_nil, List.append_nil, List.mergeSort_of_pairwise ordered,
    SourceFile.dropRepeated_of_rising rising]

namespace Project

/-- The search of a single source brings what is found in its text. -/
theorem tally_singleton {rules : ExtractionRules} {storage : σ} {file : SourceFile} {text : String}
    {found : List Occurrence} (read : Storage.read storage file.path = .ok text)
    (yields : occurrences rules.search file.relative text.toList = .ok found) (d : Dictionary) :
    tally rules false storage [file] d = (Tally.start d).addFound rules file found := by
  rw [tally, List.foldl_cons, List.foldl_nil, searchFile, if_neg Bool.false_ne_true, read]
  simp only [yields]
  rfl

/-! ## Extractions -/

theorem isLoaded_of_loadAll {p : Project} {storage : σ} {d : Dictionary}
    (loaded : p.dictionary.loadAll storage p.settings.locales = (none, d)) :
    Dictionary.IsLoaded p.dictionary storage p.settings.locales d := by
  have accepted : (p.dictionary.loadAll storage p.settings.locales).1 = none := by rw [loaded]
  have whole := Dictionary.isLoaded_empty _ _ _ _ accepted
  rw [show (Dictionary.empty p.messagesDirectory p.settings) = p.dictionary from rfl, loaded]
    at whole
  exact whole

/-- An extraction that holds the lock and has read the documents. -/
structure Begun (p : Project) (before : σ) where
  files : List SourceFile
  notices : List Notice
  rules : ExtractionRules
  locked : σ
  dictionary : Dictionary
  selected : Selection.select before p.root p.settings = .ok (files, notices)
  ruled : ExtractionRules.ofSettings p.settings = .ok rules
  taken : Storage.lock before p.outputDirectory = (.ok (), locked)
  loaded : p.dictionary.loadAll locked p.settings.locales = (none, dictionary)

namespace Begun

variable {p : Project} {before : σ} (b : p.Begun before)

/-- What the search brings. -/
def tally (cancelled : Bool) : Tally :=
  Project.tally b.rules cancelled b.locked b.files b.dictionary

/-- What the propagation makes of it. -/
def propagated (cancelled : Bool) : Propagation :=
  (b.tally cancelled).dictionary.propagate p.settings.sourceLocale p.settings.targetLocales

/-- What became of the documents. -/
def flushed (occasion : Occasion) (cancelled : Bool) : Dictionary.Flush σ :=
  (b.propagated cancelled).dictionary.flush b.locked p.settings.locales (p.backups occasion)

theorem isLoaded : Dictionary.IsLoaded p.dictionary b.locked p.settings.locales b.dictionary :=
  isLoaded_of_loadAll b.loaded

theorem derives_tally (cancelled : Bool) :
    Tally.Derives b.rules.keys b.dictionary (b.tally cancelled) :=
  Project.derives_tally ..

theorem alike_propagated (cancelled : Bool) :
    b.dictionary.Alike (b.propagated cancelled).dictionary := by
  obtain ⟨calls, -, run⟩ := (b.derives_tally cancelled).calls
  have tallied : b.dictionary.Alike (b.tally cancelled).dictionary :=
    run ▸ KeyCall.alike_run calls b.dictionary
  exact tallied.trans (Dictionary.alike_propagate ..)

theorem documentPath_eq (locale : String) :
    b.dictionary.documentPath locale = p.dictionary.documentPath locale := by
  rw [Dictionary.documentPath, b.isLoaded.directory_eq, Dictionary.documentPath]

/-- The documents are in their places throughout. -/
theorem documentPath_propagated (cancelled : Bool) (locale : String) :
    (b.propagated cancelled).dictionary.documentPath locale = p.dictionary.documentPath locale := by
  rw [(b.alike_propagated cancelled).documentPath_eq, b.documentPath_eq]

def manifest (cancelled : Bool) : Manifest := .ofEntries (b.tally cancelled).entries

def report (occasion : Occasion) (cancelled : Bool) : RunReport :=
  ⟨occasion.time, p.settings.dryRun, some { (b.tally cancelled).report with
    propagation := (b.propagated cancelled).counts
    localesWritten := (b.flushed occasion cancelled).written
    localeFailures := (b.flushed occasion cancelled).failures.map Failure.record }, none⟩

/-- The manifest is written behind the documents. -/
def saved (occasion : Occasion) (cancelled : Bool) (asked : Option String) :
    Except StorageError Unit × σ :=
  Storage.write (b.flushed occasion cancelled).storage (p.manifestPath asked)
    (b.manifest cancelled).text

/-- Behind the manifest, the report's record. -/
def recorded (occasion : Occasion) (cancelled : Bool) (asked : Option String) :
    Except StorageError Unit × σ :=
  Storage.write (b.saved occasion cancelled asked).2 (RunReport.recordPath p.outputDirectory)
    (b.report occasion cancelled).text

/-- Last of all, the report's page. -/
def shown (occasion : Occasion) (cancelled : Bool) (asked : Option String) :
    Except StorageError Unit × σ :=
  Storage.write (b.recorded occasion cancelled asked).2 (RunReport.pagePath p.outputDirectory)
    (b.report occasion cancelled).page

end Begun

/-- How an extraction that is no dry run ends, and with which storage. -/
inductive Extracted (p : Project) (occasion : Occasion) (cancelled : Bool)
    (asked : Option String) (before : σ) : Except RunError Extraction → σ → Prop where
  /-- Nothing was done. -/
  | refused (e : SettingsError) (cause : Selection.select before p.root p.settings = .error e ∨
      ExtractionRules.ofSettings p.settings = .error e) :
    Extracted p occasion cancelled asked before (.error (.settings e)) before
  | contended (e : StorageError) (after : σ)
      (refused : Storage.lock before p.outputDirectory = (.error e, after)) :
    Extracted p occasion cancelled asked before (.error (.storage e)) after
  | unread (f : Failure) (complaint : String) (locked : σ)
      (taken : Storage.lock before p.outputDirectory = (.ok (), locked))
      (refused : p.loadDictionary locked p.settings.locales complaint = .error (.failure f)) :
    Extracted p occasion cancelled asked before (.error (.failure f))
      (Storage.unlock locked p.outputDirectory)
  | manifestUnwritten (b : p.Begun before) (e : StorageError)
      (failed : (b.saved occasion cancelled asked).1 = .error e) :
    Extracted p occasion cancelled asked before (.error (.manifestUnwritten (p.manifestPath asked)))
      (Storage.unlock (b.saved occasion cancelled asked).2 p.outputDirectory)
  | recordUnwritten (b : p.Begun before) (e : StorageError)
      (saved : (b.saved occasion cancelled asked).1 = .ok ())
      (failed : (b.recorded occasion cancelled asked).1 = .error e) :
    Extracted p occasion cancelled asked before
      (.error (.reportUnwritten (RunReport.recordPath p.outputDirectory)))
      (Storage.unlock (b.recorded occasion cancelled asked).2 p.outputDirectory)
  | pageUnwritten (b : p.Begun before) (e : StorageError)
      (saved : (b.saved occasion cancelled asked).1 = .ok ())
      (recorded : (b.recorded occasion cancelled asked).1 = .ok ())
      (failed : (b.shown occasion cancelled asked).1 = .error e) :
    Extracted p occasion cancelled asked before
      (.error (.reportUnwritten (RunReport.pagePath p.outputDirectory)))
      (Storage.unlock (b.shown occasion cancelled asked).2 p.outputDirectory)
  | done (b : p.Begun before)
      (saved : (b.saved occasion cancelled asked).1 = .ok ())
      (recorded : (b.recorded occasion cancelled asked).1 = .ok ())
      (shown : (b.shown occasion cancelled asked).1 = .ok ()) :
    Extracted p occasion cancelled asked before
      (.ok ⟨b.report occasion cancelled, b.manifest cancelled, p.manifestPath asked,
        (b.flushed occasion cancelled).dictionary⟩)
      (Storage.unlock (b.shown occasion cancelled asked).2 p.outputDirectory)

theorem loadDictionary_eq_ok {p : Project} {storage : σ} {locales : List String}
    {complaint : String} {d : Dictionary}
    (loaded : p.loadDictionary storage locales complaint = .ok d) :
    p.dictionary.loadAll storage locales = (none, d) := by
  unfold loadDictionary at loaded
  split at loaded
  next other returned =>
    cases loaded
    exact returned
  next => cases loaded

theorem loadDictionary_eq_error {p : Project} {storage : σ} {locales : List String}
    {complaint : String} {e : RunError}
    (refused : p.loadDictionary storage locales complaint = .error e) : ∃ f, e = .failure f := by
  unfold loadDictionary at refused
  split at refused
  next => cases refused
  next f other returned =>
    cases refused
    exact ⟨_, rfl⟩

theorem extracted (p : Project) (wet : p.settings.dryRun = false) (occasion : Occasion)
    (cancelled : Bool) (asked : Option String) (s : Session σ) :
    Run.Ends (p.extract occasion cancelled asked) s
      (fun x after => p.Extracted occasion cancelled asked s.storage (.ok x) after.storage)
      (fun e after => p.Extracted occasion cancelled asked s.storage (.error e) after.storage) := by
  simp only [extract, Run.ends_bind, Run.ends_storage, Run.ends_ofExcept, Run.ends_notify]
  refine ⟨fun found selected => ⟨fun rules ruled => ?_, ?_⟩, ?_⟩
  · rw [Run.lockedUnless, wet, if_neg Bool.false_ne_true, Run.ends_locked]
    refine ⟨fun e storage refused => .contended e storage refused, fun locked taken => ?_⟩
    simp only [extractFiles, Run.ends_bind, Run.ends_storage, Run.ends_ofExcept, Run.ends_notify, id]
    refine ⟨fun d loaded => ?_, fun e refused => ?_⟩
    · let b : p.Begun s.storage := ⟨found.1, found.2, rules, locked, d, selected, ruled,
        taken, loadDictionary_eq_ok loaded⟩
      rw [wet, if_neg Bool.false_ne_true]
      simp only [saveExtraction, Run.ends_bind, Run.ends_change, Run.ends_ofExcept, Run.ends_notify,
        RunReport.save, Run.ends_pure, ← wet]
      exact ⟨fun _ saved => ⟨fun _ recorded => ⟨fun _ shown => .done b saved recorded shown,
        fun e failed => .pageUnwritten b e saved recorded failed⟩,
        fun e failed => .recordUnwritten b e saved failed⟩,
        fun e failed => .manifestUnwritten b e failed⟩
    · obtain ⟨f, rfl⟩ := loadDictionary_eq_error refused
      exact .unread f _ locked taken refused
  · exact fun e refused => .refused e (Or.inr refused)
  · exact fun e refused => .refused e (Or.inl refused)

/-- A run begins in one way. -/
theorem Begun.eq {p : Project} {before : σ} (a b : p.Begun before) : a = b := by
  obtain ⟨files, notices, rules, locked, d, selected, ruled, taken, loaded⟩ := a
  obtain ⟨files', notices', rules', locked', d', selected', ruled', taken', loaded'⟩ := b
  cases selected.symm.trans selected'
  cases ruled.symm.trans ruled'
  cases taken.symm.trans taken'
  cases loaded.symm.trans loaded'
  rfl

/-- How a run ends that has begun: it is done, or the first of the three last writes that fails stops
it. -/
def Begun.outcome {p : Project} {before : σ} (b : p.Begun before) (occasion : Occasion)
    (cancelled : Bool) (asked : Option String) : Except RunError Extraction × σ :=
  let stop (e : RunError) (after : σ) : Except RunError Extraction × σ :=
    (.error e, Storage.unlock after p.outputDirectory)
  match b.saved occasion cancelled asked, b.recorded occasion cancelled asked,
    b.shown occasion cancelled asked with
  | (.error _, after), _, _ => stop (.manifestUnwritten (p.manifestPath asked)) after
  | (.ok (), _), (.error _, after), _ =>
    stop (.reportUnwritten (RunReport.recordPath p.outputDirectory)) after
  | (.ok (), _), (.ok (), _), (.error _, after) =>
    stop (.reportUnwritten (RunReport.pagePath p.outputDirectory)) after
  | (.ok (), _), (.ok (), _), (.ok (), after) =>
    (.ok ⟨b.report occasion cancelled, b.manifest cancelled, p.manifestPath asked,
      (b.flushed occasion cancelled).dictionary⟩, Storage.unlock after p.outputDirectory)

/-- A run that can begin ends with its outcome. -/
theorem Begun.outcome_eq {p : Project} {before : σ} (b : p.Begun before) {occasion : Occasion}
    {cancelled : Bool} {asked : Option String} {result : Except RunError Extraction} {after : σ}
    (ended : p.Extracted occasion cancelled asked before result after) :
    b.outcome occasion cancelled asked = (result, after) := by
  have split (x : Except StorageError Unit × σ) {fst : Except StorageError Unit} (same : x.1 = fst) :
      x = (fst, x.2) := Prod.ext same rfl
  cases ended with
  | refused e cause =>
    rcases cause with cause | cause
    · cases b.selected.symm.trans cause
    · cases b.ruled.symm.trans cause
  | contended e _ refused => cases b.taken.symm.trans refused
  | unread f complaint locked taken refused =>
    cases b.taken.symm.trans taken
    rw [loadDictionary, b.loaded] at refused
    cases refused
  | manifestUnwritten other e failed =>
    rw [outcome, ← other.eq b, split _ failed]
  | recordUnwritten other e saved failed =>
    rw [outcome, ← other.eq b, split _ saved, split _ failed]
  | pageUnwritten other e saved recorded failed =>
    rw [outcome, ← other.eq b, split _ saved, split _ recorded, split _ failed]
  | done other saved recorded shown =>
    rw [outcome, ← other.eq b, split _ saved, split _ recorded, split _ shown]

theorem Begun.ends {p : Project} (wet : p.settings.dryRun = false) {before : σ}
    (b : p.Begun before) (occasion : Occasion) (cancelled : Bool) (asked : Option String)
    (s : Session σ) (started : s.storage = before) :
    Run.Ends (p.extract occasion cancelled asked) s
      (fun x after => b.outcome occasion cancelled asked = (.ok x, after.storage))
      (fun e after => b.outcome occasion cancelled asked = (.error e, after.storage)) := by
  subst started
  exact (p.extracted wet occasion cancelled asked s).mono (fun _ _ => b.outcome_eq)
    fun _ _ => b.outcome_eq

end Project

end Phrasebook
