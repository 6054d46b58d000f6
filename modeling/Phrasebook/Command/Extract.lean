import Phrasebook.Report.Summary
import Phrasebook.Run.Extraction

/-!
# The command that extracts
-/

namespace Phrasebook

/-- A rule across the page. -/
def ruleLine : String := String.ofList (List.replicate 60 '-')

/-- A text in a column of at least so many characters. -/
def padded (width : Nat) (text : String) : String :=
  text ++ String.ofList (List.replicate (width - text.length) ' ')

def dryRunLine? (s : Settings) : List String := if s.dryRun then ["  Mode: dry run"] else []

namespace Extraction

def entryLine (e : Entry) : String :=
  let mark := if e.status = .new then "+" else "="
  "  " ++ mark ++ " " ++ padded 40 e.key ++ " " ++ Text.shown e.candidate.text

def keyLines (m : Manifest) : List String :=
  if m.entries.isEmpty then ["No hardcoded text found."]
  else
    ["Extracted keys by file:", ruleLine] ++
    (m.byFile.flatMap fun (file, entries) => ["", file] ++ entries.map entryLine) ++
    ["", ruleLine]

/-- The keys that a run which writes nothing would add. -/
def pendingLines (d : Dictionary) : List String :=
  if d.pending.isEmpty then []
  else
    ["", "Would add " ++ toString d.pending.length ++ " key(s) to " ++
      d.documentPath d.sourceLocale]

/-- What was written where. -/
def writtenLines (p : Project) (done : Extraction) : List String :=
  let locales := (done.report.extraction.map ExtractionReport.localesWritten).getD []
  (locales.map fun locale => "  Wrote " ++ done.dictionary.documentPath locale) ++
  ["", "Manifest: " ++ done.manifestPath,
    "Report: " ++ RunReport.pagePath p.outputDirectory]

end Extraction

namespace Project

def extractionIntroduction (p : Project) : List String :=
  let s := p.settings
  ["=== i18n-lift extract ===", "", "Configuration:", "  Roots: " ++ Text.shownList s.roots,
    "  Extensions: " ++ Text.shownList s.extensions, "  Messages: " ++ s.messagesDir,
    "  Locales: " ++ Text.shownList s.locales] ++
  dryRunLine? s ++ [""]

/-- Extracts the texts of a project and tells about it. -/
def runExtract {σ : Type} [Storage σ] (p : Project) (occasion : Occasion) (cancelled : Bool)
    (manifest : Option String) : Run σ Unit := do
  Run.print p.extractionIntroduction
  let done ← p.extract occasion cancelled manifest
  Run.print (Extraction.keyLines done.manifest)
  Run.print done.report.summaryLines
  Run.print (if p.settings.dryRun then Extraction.pendingLines done.dictionary
    else done.writtenLines p)
  Run.print ["", "Done!"]

end Project

end Phrasebook
