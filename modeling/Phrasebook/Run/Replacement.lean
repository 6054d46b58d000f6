import Phrasebook.Formatting.Basic
import Phrasebook.Rewrite.Basic
import Phrasebook.Run.Extraction

/-!
# Replacement

Every file that a manifest names is rewritten as a whole or left as it is. What was done joins the
report of the extraction. A dry run does the same and writes nothing.
-/

namespace Phrasebook

/-- What became of one file. -/
inductive FileOutcome where
  | rewritten (r : Rewrite)
  | unchanged (r : Rewrite)
  | failed (f : Failure)
  /-- The run was cancelled before. -/
  | notProcessed (file : String)
  deriving DecidableEq, Repr

/-- A replacement that is done. -/
structure Replacement where
  report : RunReport
  /-- The files with at least one edit, with their new content. -/
  rewrites : List Rewrite

namespace ReplacementReport

/-- One more file. -/
def add (r : ReplacementReport) : FileOutcome → ReplacementReport
  | .rewritten w =>
    { r with
      replacementsApplied := r.replacementsApplied + w.applied
      importsAdded := r.importsAdded + if w.importAdded then 1 else 0
      accessorsAdded := r.accessorsAdded + w.accessorsAdded.length
      skipped := r.skipped ++ w.skips
      filesRewritten := r.filesRewritten ++ [w.file] }
  | .unchanged w =>
    { r with filesUnchanged := r.filesUnchanged + 1, skipped := r.skipped ++ w.skips }
  | .failed f => { r with filesFailed := r.filesFailed ++ [f.record] }
  | .notProcessed file => { r with notProcessed := r.notProcessed ++ [file] }

def ofOutcomes (outcomes : List FileOutcome) : ReplacementReport := outcomes.foldl add empty

end ReplacementReport

/-- What is said of an entry that is not applied: drift is worth a warning. -/
def Skip.notice (s : Skip) : Notice :=
  match s.failure? with
  | some f => .warning f.message
  | none =>
    .detail (s.file ++ ":" ++ toString s.position.line ++ ":" ++ toString s.position.column ++
      " skipped (" ++ s.reason.tag ++ "): " ++ s.key)

/-- What decides about a replacement. -/
structure ReplacementScene where
  rules : RewriteRules
  formatter : Option Formatter
  launch : Launcher
  dictionary : Dictionary
  backups : Backups
  cancelled : Bool

namespace Project

variable {σ : Type} [Storage σ]

/-- The rewrite of a file's text, laid out if it has changed. -/
def rewriteText (scene : ReplacementScene) (file text : String) (entries : List Entry) :
    Except Failure (Rewrite × List Notice) := do
  let r ← scene.rules.rewrite file text.toList entries scene.dictionary
  let notices := r.skips.map Skip.notice
  match r.isChanged, scene.formatter with
  | true, some f =>
    let (content, more) := f.formatOrKeep scene.launch file r.content
    return ({ r with content }, notices ++ more)
  | _, _ => return (r, notices)

/-- Puts a file's old text aside and writes the new one. -/
def saveRewrite (scene : ReplacementScene) (path : String) (r : Rewrite) (storage : σ) :
    FileOutcome × σ :=
  match scene.backups.save storage path with
  | (.error e, storage) => (.failed (.storage r.file ("backup failed: " ++ e.message)), storage)
  | (.ok _, storage) =>
    match Storage.write storage path r.content with
    | (.error e, storage) => (.failed (.storage r.file e.message), storage)
    | (.ok (), storage) => (.rewritten r, storage)

/-- Applies its entries to one file. -/
def replaceFile (p : Project) (scene : ReplacementScene) (file : String) (entries : List Entry) :
    Run σ FileOutcome := do
  if scene.cancelled then return .notProcessed file
  let path := Path.join p.root file
  match Storage.read (← Run.storage) path with
  | .error e => return .failed (.storage file e.message)
  | .ok text =>
    match rewriteText scene file text entries with
    | .error f => return .failed f
    | .ok (r, notices) =>
      Run.notify notices
      if !r.isChanged then return .unchanged r
      else if p.settings.dryRun then return .rewritten r
      else Run.change (saveRewrite scene path r)

/-- The part of a replacement that needs the lock. -/
def replaceFiles (p : Project) (occasion : Occasion) (launch : Launcher) (cancelled : Bool)
    (manifest : Manifest) : Run σ Replacement := do
  let d ← Run.ofExcept id (p.loadDictionary (← Run.storage) [p.settings.sourceLocale]
    "Cannot load the source locale: ")
  let scene : ReplacementScene := {
    rules := .ofSettings p.settings
    formatter := Formatter.ofArguments? p.settings.formatter
    launch := launch
    dictionary := d
    backups := p.backups occasion
    cancelled := cancelled }
  let outcomes ← manifest.byFile.mapM fun (file, entries) => p.replaceFile scene file entries
  Run.notify (outcomes.filterMap fun
    | .failed f => some (.error f.message)
    | _ => none)
  let (existing, notices) := RunReport.loadExisting (← Run.storage) p.outputDirectory
  Run.notify notices
  let report : RunReport := {
    generatedAt := occasion.time
    dryRun := p.settings.dryRun
    extraction := existing.bind RunReport.extraction
    replacement := some (.ofOutcomes outcomes) }
  if !p.settings.dryRun then
    tryCatchThe RunError (report.save p.outputDirectory) fun _ => throw .sharedReportUnwritten
  return {
    report
    rewrites := outcomes.filterMap fun
      | .rewritten r => some r
      | _ => none }

/-- Rewrites the files that a manifest names. -/
def replace (p : Project) (occasion : Occasion) (launch : Launcher) (cancelled : Bool)
    (manifest : Option String) : Run σ Replacement := do
  let path := p.manifestPath manifest
  if !Storage.holds (← Run.storage) path then
    throw (.failure (.setup
      ("No manifest at " ++ path ++ " (run `i18n-lift extract` first)")))
  let text ← Run.ofExcept (fun _ => .manifestUnread path) (Storage.read (← Run.storage) path)
  match Manifest.ofText? text with
  | none => throw (.manifestMalformed path)
  | some found =>
    Run.lockedUnless p.settings.dryRun p.outputDirectory
      (p.replaceFiles occasion launch cancelled found)

end Project

end Phrasebook
