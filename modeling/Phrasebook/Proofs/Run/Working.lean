import Phrasebook.Proofs.Run.Extracting
import Phrasebook.Proofs.Run.Planning
import Phrasebook.Proofs.Run.Tasks

/-!
# Extraction and replacement as tasks

What the two commands do to a storage, in the order in which they do it: each file, each document and
each report in a turn of its own. Alone, the tasks come to what the commands come to.
-/

namespace Phrasebook

variable {σ : Type} [Storage σ]

/-- Writes a report's record, then its page. -/
def RunReport.saveTask (r : RunReport) (directory : String) : Task σ (Except RunError Unit) :=
  .change (Storage.write · (recordPath directory) r.text) fun
    | .error _ => .done (.error (.reportUnwritten (recordPath directory)))
    | .ok () => .change (Storage.write · (pagePath directory) r.page) fun
      | .error _ => .done (.error (.reportUnwritten (pagePath directory)))
      | .ok () => .done (.ok ())

/-- Writes the documents of the changed locales, one after the other. -/
def Dictionary.flushTask (backups : Backups) : List String → Flush σ → Task σ (Flush σ)
  | [], f => .done f
  | locale :: rest, f =>
    .change (fun s =>
      let f := { f with storage := s }.step backups locale
      (f, f.storage)) (flushTask backups rest)

namespace Project

variable (p : Project) (scene : ReplacementScene)

/-- Reads a file, puts it aside and writes it, if there is anything to write. -/
def fileTask (file : String) (entries : List Entry) : Task σ FileOutcome :=
  .look (p.plan scene · file entries) fun
    | .rewritten r =>
      if p.settings.dryRun then .done (.rewritten r)
      else
        .change (scene.backups.save · (Path.join p.root file)) fun
          | .error e => .done (.failed (.storage r.file ("backup failed: " ++ e.message)))
          | .ok _ => .change (Storage.write · (Path.join p.root file) r.content) fun
            | .error e => .done (.failed (.storage r.file e.message))
            | .ok () => .done (.rewritten r)
    | outcome => .done outcome

def filesTask : List (String × List Entry) → Task σ (List FileOutcome)
  | [] => .done []
  | (file, entries) :: rest =>
    (p.fileTask scene file entries).andThen fun outcome =>
      (filesTask rest).andThen fun outcomes => .done (outcome :: outcomes)

/-- Writes the manifest and the report of an extraction. -/
def finishTask (found : Extraction) : Task σ (Except RunError Extraction) :=
  .change (Storage.write · found.manifestPath found.manifest.text) fun
    | .error _ => .done (.error (.manifestUnwritten found.manifestPath))
    | .ok () => (found.report.saveTask p.outputDirectory).andThen fun saved =>
      .done (saved.map fun _ => found)

/-- What an extraction does with the lock. -/
def extractWork (occasion : Occasion) (cancelled : Bool) (asked : Option String)
    (found : List SourceFile × ExtractionRules) : Task σ (Except RunError Extraction) :=
  .look (p.loadDictionary · p.settings.locales "Cannot load locale documents: ") fun
    | .error e => .done (.error e)
    | .ok d => .look (tally found.2 cancelled · found.1 d) fun t =>
      let propagated := t.dictionary.propagate p.settings.sourceLocale p.settings.targetLocales
      .look (⟨propagated.dictionary, ·, [], []⟩) fun start =>
        (Dictionary.flushTask (p.backups occasion) p.settings.locales start).andThen fun flushed =>
          p.finishTask ⟨⟨occasion.time, p.settings.dryRun, some { t.report with
            propagation := propagated.counts
            localesWritten := flushed.written
            localeFailures := flushed.failures.map Failure.record }, none⟩,
            .ofEntries t.entries, p.manifestPath asked, flushed.dictionary⟩

/-- What a replacement does with the lock. -/
def replaceWork (occasion : Occasion) (launch : Launcher) (cancelled : Bool)
    (manifest : Manifest) : Task σ (Except RunError Replacement) :=
  .look (p.loadDictionary · [p.settings.sourceLocale] "Cannot load the source locale: ") fun
    | .error e => .done (.error e)
    | .ok d =>
      (p.filesTask (p.scene occasion launch cancelled d) manifest.byFile).andThen fun outcomes =>
      .look (RunReport.loadExisting · p.outputDirectory) fun existing =>
        let report : RunReport := {
          generatedAt := occasion.time
          dryRun := p.settings.dryRun
          extraction := existing.1.bind RunReport.extraction
          replacement := some (.ofOutcomes outcomes) }
        (report.saveTask p.outputDirectory).andThen fun
          | .error _ => .done (.error .sharedReportUnwritten)
          | .ok () => .done (.ok ⟨report, outcomes.filterMap FileOutcome.rewrite?⟩)

/-- The files that an extraction works on, with its rules. -/
def selectFiles (storage : σ) : Except RunError (List SourceFile × ExtractionRules) :=
  match Selection.select storage p.root p.settings, ExtractionRules.ofSettings p.settings with
  | .error e, _ => .error (.settings e)
  | .ok _, .error e => .error (.settings e)
  | .ok (files, _), .ok rules => .ok (files, rules)

def extraction (occasion : Occasion) (cancelled : Bool) (asked : Option String) :
    Errand σ (List SourceFile × ExtractionRules) Extraction where
  look := p.selectFiles
  work := p.extractWork occasion cancelled asked

def replacement (occasion : Occasion) (launch : Launcher) (cancelled : Bool)
    (asked : Option String) : Errand σ Manifest Replacement where
  look := p.readManifest asked
  work := p.replaceWork occasion launch cancelled

variable {p scene}

theorem run_fileTask (file : String) (entries : List Entry) (s : σ) :
    (p.fileTask scene file entries).run s = p.carryOut scene s file entries := by
  rw [fileTask, Task.run_look, carryOut]
  cases p.plan scene s file entries with
  | rewritten r =>
    dsimp only
    split
    next => rfl
    next =>
      rw [Task.run_change, saveRewrite]
      cases scene.backups.save s (Path.join p.root file) with
      | mk copied between =>
        cases copied with
        | error e => rfl
        | ok _ =>
          dsimp only
          rw [Task.run_change]
          cases Storage.write between (Path.join p.root file) r.content with
          | mk written after => cases written <;> rfl
  | unchanged r => rfl
  | failed f => rfl
  | notProcessed file => rfl

theorem run_filesTask (items : List (String × List Entry)) (s : σ) :
    (p.filesTask scene items).run s = p.carryOutAll scene s items := by
  induction items generalizing s with
  | nil => rfl
  | cons item rest ih =>
    obtain ⟨file, entries⟩ := item
    rw [filesTask, Task.run_andThen, run_fileTask, Task.run_andThen, ih]
    rfl

end Project

theorem Dictionary.run_flushTask (backups : Backups) (locales : List String) (f : Flush σ) :
    (flushTask backups locales f).run f.storage =
      (locales.foldl (fun f locale => f.step backups locale) f,
        (locales.foldl (fun f locale => f.step backups locale) f).storage) := by
  induction locales generalizing f with
  | nil => rfl
  | cons locale rest ih =>
    rw [flushTask, Task.run_change]
    exact ih (f.step backups locale)

theorem RunReport.run_saveTask (r : RunReport) (directory : String) (s : σ) :
    (r.saveTask directory).run s =
      match Storage.write s (recordPath directory) r.text with
      | (.error _, between) => (.error (.reportUnwritten (recordPath directory)), between)
      | (.ok (), between) =>
        match Storage.write between (pagePath directory) r.page with
        | (.error _, after) => (.error (.reportUnwritten (pagePath directory)), after)
        | (.ok (), after) => (.ok (), after) := by
  rw [saveTask, Task.run_change]
  cases Storage.write s (recordPath directory) r.text with
  | mk recorded between =>
    cases recorded with
    | error e => rfl
    | ok _ =>
      dsimp only
      rw [Task.run_change]
      cases Storage.write between (pagePath directory) r.page with
      | mk shown after => cases shown <;> rfl

/-- Saving a report ends as its task does. -/
theorem RunReport.ends_save (r : RunReport) (directory : String) (s : Session σ)
    {good : Unit → Session σ → Prop} {bad : RunError → Session σ → Prop} :
    Run.Ends (r.save directory) s good bad ↔
      match (r.saveTask directory).run s.storage with
      | (.ok (), storage) => good () { s with storage }
      | (.error e, storage) => bad e { s with storage } := by
  simp only [save, Run.ends_bind, Run.ends_change, Run.ends_ofExcept, run_saveTask]
  cases Storage.write s.storage (recordPath directory) r.text with
  | mk recorded between =>
    cases recorded with
    | error e => simp
    | ok _ =>
      dsimp only
      cases Storage.write between (pagePath directory) r.page with
      | mk shown after => cases shown <;> simp [Unique.forall_iff]

namespace Project

variable {p : Project} {occasion : Occasion} {launch : Launcher} {cancelled : Bool}
variable {asked : Option String}

/-- A part of a run does to the storage of a session what a task does to it, with the same result. -/
def Does {α : Type} (part : Run σ α) (s : Session σ) (t : Task σ (Except RunError α)) : Prop :=
  Run.Ends part s (fun x after => t.run s.storage = (.ok x, after.storage))
    (fun e after => t.run s.storage = (.error e, after.storage))

theorem locked_does {α ι : Type} {directory : String} {part : Run σ α} {c : Errand σ ι α}
    {found : ι} (does : ∀ s, Does part s (c.work found)) (s : Session σ) :
    Does (Run.locked directory part) s (c.locked directory found) := by
  rw [Does, Run.ends_locked, Errand.locked, Task.run_change]
  refine ⟨fun e storage refused => by rw [refused]; rfl, fun locked taken => ?_⟩
  rw [taken]
  dsimp only
  refine (does { s with storage := locked }).mono (fun x after done => ?_) fun e after stopped => ?_
  · rw [Task.run_closing, show (c.work found).run locked = _ from done]
  · rw [Task.run_closing, show (c.work found).run locked = _ from stopped]

/-- The end of an extraction. -/
theorem finish_does (found : Extraction) (s : Session σ) :
    Does (do
      Run.ofExcept (fun _ => .manifestUnwritten found.manifestPath)
        (← Run.change fun storage => Storage.write storage found.manifestPath found.manifest.text)
      found.report.save p.outputDirectory
      return found) s (p.finishTask found) := by
  simp only [Does, Run.ends_bind, Run.ends_change, Run.ends_ofExcept, finishTask, Task.run_change]
  cases Storage.write s.storage found.manifestPath found.manifest.text with
  | mk saved between =>
    cases saved with
    | error e => simp
    | ok _ =>
      simp only [reduceCtorEq, false_implies, implies_true, and_true, Unique.forall_iff,
        RunReport.ends_save, Task.run_andThen]
      generalize (found.report.saveTask p.outputDirectory).run between = shown
      obtain ⟨result, after⟩ := shown
      cases result with
      | error e => rfl
      | ok _ => exact (Run.ends_pure _).mpr rfl

theorem extractFiles_does (wet : p.settings.dryRun = false) (rules : ExtractionRules)
    (files : List SourceFile) (s : Session σ) :
    Does (p.extractFiles occasion rules cancelled asked files) s
      (p.extractWork occasion cancelled asked (files, rules)) := by
  simp only [Does, extractFiles, Run.ends_bind, Run.ends_storage, Run.ends_ofExcept, id,
    Run.ends_notify, extractWork, Task.run_look]
  refine ⟨fun d loaded => ?_, fun e refused => by rw [refused]; rfl⟩
  rw [loaded, wet, if_neg Bool.false_ne_true]
  simp only [Task.run_look]
  generalize tally rules cancelled s.storage files d = t
  generalize t.dictionary.propagate p.settings.sourceLocale p.settings.targetLocales = propagated
  have flushed : (Dictionary.flushTask (p.backups occasion) p.settings.locales
      ⟨propagated.dictionary, s.storage, [], []⟩).run s.storage =
        (propagated.dictionary.flush s.storage p.settings.locales (p.backups occasion),
          (propagated.dictionary.flush s.storage p.settings.locales (p.backups occasion)).storage) :=
    Dictionary.run_flushTask ..
  simp only [Task.run_andThen, flushed, saveExtraction]
  rw [Run.ends_bind, Run.ends_change, Run.ends_bind, Run.ends_notify]
  dsimp only
  generalize propagated.dictionary.flush s.storage p.settings.locales (p.backups occasion) = f
  exact finish_does ⟨⟨occasion.time, false, some { t.report with
    propagation := propagated.counts
    localesWritten := f.written
    localeFailures := f.failures.map Failure.record }, none⟩,
    .ofEntries t.entries, p.manifestPath asked, f.dictionary⟩ _

/-- Alone, the task of an extraction does what the extraction does. -/
theorem extract_does (wet : p.settings.dryRun = false) (s : Session σ) :
    Does (p.extract occasion cancelled asked) s
      ((p.extraction occasion cancelled asked).task p.outputDirectory) := by
  cases selected : Selection.select s.storage p.root p.settings with
  | error e => simp [Does, extract, selected, extraction, Errand.task, selectFiles]
  | ok found =>
    cases ruled : ExtractionRules.ofSettings p.settings with
    | error e => simp [Does, extract, selected, ruled, extraction, Errand.task, selectFiles]
    | ok rules =>
      have looked : (p.extraction occasion cancelled asked).look s.storage =
          .ok (found.1, rules) := by
        show p.selectFiles s.storage = _
        rw [selectFiles, selected, ruled]
      rw [Does, Errand.run_task looked]
      simp only [extract, Run.ends_bind, Run.ends_storage, Run.ends_ofExcept, Run.ends_notify,
        selected, ruled, Except.ok.injEq, forall_eq', reduceCtorEq, false_implies, implies_true,
        and_true, Run.lockedUnless, wet, Bool.false_eq_true, if_false]
      exact locked_does (extractFiles_does wet rules found.1) _

/-- The task of an extraction that can begin comes to the outcome. -/
theorem Begun.run_task (wet : p.settings.dryRun = false) {before : σ} (b : p.Begun before) :
    ((p.extraction occasion cancelled asked).task p.outputDirectory).run before =
      b.outcome occasion cancelled asked := by
  have does : Does (p.extract occasion cancelled asked) (.start before) _ := extract_does wet _
  have ends := b.ends wet occasion cancelled asked (.start before) rfl
  cases ran : (p.extract occasion cancelled asked).run (.start before) with
  | mk result after =>
    cases result with
    | ok x => exact (does.of_ok x after ran).trans (ends.of_ok x after ran).symm
    | error e => exact (does.of_error e after ran).trans (ends.of_error e after ran).symm

theorem replaceFiles_does (wet : p.settings.dryRun = false) (manifest : Manifest) (s : Session σ) :
    Does (p.replaceFiles occasion launch cancelled manifest) s
      (p.replaceWork occasion launch cancelled manifest) := by
  rw [Does, replaceFiles, Run.ends_bind, Run.ends_storage, Run.ends_bind, Run.ends_ofExcept,
    replaceWork, Task.run_look]
  refine ⟨fun d loaded => ?_, fun e refused => ?_⟩
  · obtain ⟨notices, outcomes⟩ :=
      @run_outcomes _ _ p (p.scene occasion launch cancelled d) manifest.byFile s
    rw [loaded, Run.ends_bind]
    refine (Run.ends_iff_of_ok outcomes).mpr ?_
    dsimp only
    rw [Task.run_andThen, run_filesTask, Task.run_look, Task.run_andThen]
    simp only [Run.ends_bind, Run.ends_storage, Run.ends_notify, wet, Bool.not_false, if_true,
      Run.ends_tryCatch, RunReport.ends_save]
    generalize (p.carryOutAll (p.scene occasion launch cancelled d) s.storage manifest.byFile).2 =
      now
    generalize (RunReport.saveTask _ p.outputDirectory).run now = saved
    obtain ⟨result, after⟩ := saved
    cases result with
    | ok _ => exact (Run.ends_pure _).mpr rfl
    | error e => exact (Run.ends_throw _).mpr rfl
  · rw [refused]
    rfl

/-- Alone, the task of a replacement does what the replacement does. -/
theorem replace_does (wet : p.settings.dryRun = false) (s : Session σ) :
    Does (p.replace occasion launch cancelled asked) s
      ((p.replacement occasion launch cancelled asked).task p.outputDirectory) := by
  rw [Does, ends_replace_iff]
  cases looked : p.readManifest asked s.storage with
  | error e => simp [replacement, Errand.task, looked]
  | ok found =>
    have looked : (p.replacement occasion launch cancelled asked).look s.storage = .ok found := looked
    rw [Errand.run_task looked]
    dsimp only
    rw [Run.lockedUnless, wet, if_neg Bool.false_ne_true]
    exact locked_does (replaceFiles_does wet found) s

end Project

end Phrasebook
