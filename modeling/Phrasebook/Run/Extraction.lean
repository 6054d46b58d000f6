import Phrasebook.Candidate.Acceptance
import Phrasebook.Candidate.Search
import Phrasebook.Dictionary.Documents
import Phrasebook.Project.Basic
import Phrasebook.Project.Selection
import Phrasebook.Report.Files
import Phrasebook.Text.Shown

/-!
# Extraction

The sources of a project are searched, each accepted candidate gets its key, and new keys go to all
locales. The entries are written as a manifest for review. A dry run does the same and writes
nothing.
-/

namespace Phrasebook

/-- What the search of one file came to. -/
inductive FileSearch where
  | found (occurrences : List Occurrence)
  | failed (f : Failure)
  /-- The run was cancelled before. -/
  | notProcessed
  deriving DecidableEq, Repr

/-- The counts of an extraction under way, with what it has brought. -/
structure Tally where
  report : ExtractionReport
  entries : List Entry
  dictionary : Dictionary
  notices : List Notice

/-- What decides about an extraction. -/
structure ExtractionRules where
  search : SearchRules
  acceptance : AcceptanceRules
  keys : KeyRules

def ExtractionRules.ofSettings (s : Settings) : Except SettingsError ExtractionRules :=
  (AcceptanceRules.ofSettings s).map fun acceptance =>
    { search := .ofSettings s, acceptance := acceptance, keys := .ofSettings s }

namespace Tally

def start (d : Dictionary) : Tally := ⟨.empty, [], d, []⟩

/-- A candidate that was turned down. -/
def addRejected (t : Tally) (c : Candidate) (reason : Rejection) : Tally :=
  { t with
    report := { t.report with rejected := Table.modify reason.tag 0 (· + 1) t.report.rejected }
    notices := t.notices ++ [.detail (c.file ++ ":" ++ toString c.position.line ++ ":" ++
      toString c.position.column ++ " rejected (" ++ reason.tag ++ "): " ++ Text.shown c.text)] }

/-- A candidate that got its key. -/
def addDerived (t : Tally) (found : Derived) : Tally :=
  let isNew := found.entry.status = .new
  { t with
    report := { t.report with
      collisionsResolved := t.report.collisionsResolved + if found.suffixed then 1 else 0
      newlyExtracted := t.report.newlyExtracted + if isNew then 1 else 0
      reused := t.report.reused + if isNew then 0 else 1
      byNamespace := Table.modify found.entry.spaceName 0 (· + 1) t.report.byNamespace }
    entries := t.entries ++ [found.entry]
    dictionary := found.dictionary }

/-- A candidate for which no key was free. -/
def addKeyFailure (t : Tally) (f : Failure) : Tally :=
  { t with
    report := { t.report with keyFailures := t.report.keyFailures ++ [f.record] }
    notices := t.notices ++ [.warning f.message] }

/-- Gives an accepted candidate its key. -/
def addAccepted (rules : ExtractionRules) (withinRoot : String) (t : Tally) (c : Candidate) : Tally :=
  match rules.keys.derive withinRoot c t.dictionary with
  | .ok found => t.addDerived found
  | .error f => t.addKeyFailure f

/-- A file that was searched. -/
def addFound (rules : ExtractionRules) (t : Tally) (file : SourceFile)
    (occurrences : List Occurrence) : Tally :=
  let candidates := occurrences.filterMap Occurrence.candidate?
  let translated := occurrences.length - candidates.length
  let rejection? := rules.acceptance.candidateRejection?
  let accepted := candidates.filter fun c => (rejection? c).isNone
  let t := { t with
    report := { t.report with
      filesScanned := t.report.filesScanned + 1
      candidatesFound := t.report.candidatesFound + candidates.length
      alreadyTranslated := t.report.alreadyTranslated + translated } }
  let t := candidates.foldl (fun t c => (rejection? c).elim t (t.addRejected c)) t
  let before := t.report.newlyExtracted
  let t := accepted.foldl (addAccepted rules file.withinRoot) t
  let counts : FileCounts :=
    ⟨accepted.length, translated, t.report.newlyExtracted - before⟩
  { t with report := { t.report with byFile := Table.put file.relative counts t.report.byFile } }

/-- A file that could not be searched. -/
def addFailed (t : Tally) (f : Failure) : Tally :=
  { t with
    report := { t.report with parseFailures := t.report.parseFailures ++ [f.record] }
    notices := t.notices ++ [.warning f.message] }

/-- One more file. -/
def add (rules : ExtractionRules) (t : Tally) (file : SourceFile) : FileSearch → Tally
  | .found occurrences => t.addFound rules file occurrences
  | .failed f => t.addFailed f
  | .notProcessed =>
    { t with report := { t.report with notProcessed := t.report.notProcessed ++ [file.relative] } }

end Tally

/-- An extraction that is done. -/
structure Extraction where
  report : RunReport
  manifest : Manifest
  manifestPath : String
  /-- The dictionary as its documents are, or would be in a dry run. -/
  dictionary : Dictionary

namespace Project

variable {σ : Type} [Storage σ]

/-- Searches a file, unless the run is cancelled. -/
def searchFile (rules : ExtractionRules) (cancelled : Bool) (storage : σ) (file : SourceFile) :
    FileSearch :=
  if cancelled then .notProcessed
  else
    match Storage.read storage file.path with
    | .error e => .failed (.storage file.relative e.message)
    | .ok text =>
      match occurrences rules.search file.relative text.toList with
      | .ok found => .found found
      | .error f => .failed f

/-- Reads the documents of locales; one that cannot be read stops the run. -/
def loadDictionary (p : Project) (storage : σ) (locales : List String) (complaint : String) :
    Except RunError Dictionary :=
  match p.dictionary.loadAll storage locales with
  | (none, d) => .ok d
  | (some f, _) => .error (.failure (.setup (complaint ++ f.message)))

/-- Searches all files and gives every accepted candidate its key. -/
def tally (rules : ExtractionRules) (cancelled : Bool) (storage : σ) (files : List SourceFile)
    (d : Dictionary) : Tally :=
  files.foldl (fun t file => t.add rules file (searchFile rules cancelled storage file)) (.start d)

/-- Writes the documents, the manifest and the report. -/
def saveExtraction (p : Project) (occasion : Occasion) (done : Extraction)
    (report : ExtractionReport) : Run σ Extraction := do
  let flushed ← Run.change fun storage =>
    let f := done.dictionary.flush storage p.settings.locales (p.backups occasion)
    (f, f.storage)
  Run.notify (flushed.failures.map fun f => .error f.message)
  let report := { report with
    localesWritten := flushed.written
    localeFailures := flushed.failures.map Failure.record }
  Run.ofExcept (fun _ => .manifestUnwritten done.manifestPath)
    (← Run.change fun storage => Storage.write storage done.manifestPath done.manifest.text)
  let whole := { done.report with extraction := some report }
  whole.save p.outputDirectory
  return { done with report := whole, dictionary := flushed.dictionary }

/-- The part of an extraction that needs the lock. -/
def extractFiles (p : Project) (occasion : Occasion) (rules : ExtractionRules) (cancelled : Bool)
    (manifest : Option String) (files : List SourceFile) : Run σ Extraction := do
  let d ← Run.ofExcept id (p.loadDictionary (← Run.storage) p.settings.locales
    "Cannot load locale documents: ")
  Run.notify [.detail ("Scanning " ++ toString files.length ++ " file(s)")]
  let t := tally rules cancelled (← Run.storage) files d
  Run.notify t.notices
  let propagated := t.dictionary.propagate p.settings.sourceLocale p.settings.targetLocales
  Run.notify propagated.notices
  let report := { t.report with propagation := propagated.counts }
  let done : Extraction := {
    report := ⟨occasion.time, p.settings.dryRun, some report, none⟩
    manifest := .ofEntries t.entries
    manifestPath := p.manifestPath manifest
    dictionary := propagated.dictionary }
  if p.settings.dryRun then return done else p.saveExtraction occasion done report

/-- Extracts the texts of a project. The path of the manifest may be given. -/
def extract (p : Project) (occasion : Occasion) (cancelled : Bool) (manifest : Option String) :
    Run σ Extraction := do
  let (files, notices) ←
    Run.ofExcept .settings (Selection.select (← Run.storage) p.root p.settings)
  Run.notify notices
  let rules ← Run.ofExcept .settings (ExtractionRules.ofSettings p.settings)
  Run.lockedUnless p.settings.dryRun p.outputDirectory
    (p.extractFiles occasion rules cancelled manifest files)

end Project

end Phrasebook
