import Phrasebook.Report.Basic

/-!
# The page of a report
-/

namespace Phrasebook

namespace Page

/-- A table of numbers under a heading for the names. -/
def counts (rows : List (String × Nat)) : List String :=
  rows.map fun (name, count) => "| " ++ name ++ " | " ++ toString count ++ " |"

def metrics (rows : List (String × Nat)) : List String :=
  ["| Metric | Count |", "| --- | ---: |"] ++ counts rows

/-- A part with a heading, unless it has no lines. -/
def under? (heading : String) (lines : List String) : List String :=
  if lines.isEmpty then [] else ["", heading, ""] ++ lines

def failures (title : String) (found : List FailureRecord) : List String :=
  under? ("### " ++ title) (found.map fun f => "- `" ++ f.kind ++ "` " ++ f.message)

def unprocessed (files : List String) : List String :=
  under? "### Not processed (cancelled)" (files.map ("- " ++ ·))

end Page

open Page

namespace ExtractionReport

def pageMetrics (r : ExtractionReport) : List (String × Nat) :=
  [("Files scanned", r.filesScanned), ("Parse failures", r.parseFailures.length),
    ("Candidates found", r.candidatesFound), ("Rejected", r.rejectedTotal),
    ("Already translated", r.alreadyTranslated), ("Reused keys", r.reused),
    ("Newly extracted", r.newlyExtracted), ("Collisions resolved", r.collisionsResolved),
    ("Placeholders inserted", r.propagation.inserted),
    ("Placeholders refreshed", r.propagation.refreshed)]

def fileRow (file : String) (c : FileCounts) : String :=
  "| " ++ file ++ " | " ++ toString c.candidates ++ " | " ++ toString c.alreadyTranslated ++
    " | " ++ toString c.newlyExtracted ++ " |"

/-- A table with its head, unless it has no rows. -/
def tableLines (head : List String) (rows : List String) : List String :=
  if rows.isEmpty then [] else head ++ rows

def pageLines (r : ExtractionReport) : List String :=
  ["", "## Extract", ""] ++ metrics r.pageMetrics ++
  under? "### Rejected by reason"
    (r.rejected.map fun (reason, count) => "- `" ++ reason ++ "`: " ++ toString count) ++
  under? "### By namespace"
    (tableLines ["| Namespace | Keys |", "| --- | ---: |"] (counts r.byNamespace)) ++
  under? "### Top files"
    (tableLines
      ["| File | Candidates | Already translated | New |", "| --- | ---: | ---: | ---: |"]
      ((r.topFiles RunReport.topFileLimit).map fun (file, c) => fileRow file c)) ++
  failures "Parse failures" r.parseFailures ++
  failures "Key failures" r.keyFailures ++
  failures "Locale failures" r.localeFailures ++
  unprocessed r.notProcessed

end ExtractionReport

namespace ReplacementReport

def pageMetrics (r : ReplacementReport) : List (String × Nat) :=
  [("Files rewritten", r.filesRewritten.length), ("Files unchanged", r.filesUnchanged),
    ("Files failed", r.filesFailed.length), ("Replacements applied", r.replacementsApplied),
    ("Skipped", r.skipped.length), ("Imports added", r.importsAdded),
    ("Accessors added", r.accessorsAdded)]

def skipLine (s : Skip) : String :=
  "- `" ++ s.reason.tag ++ "` " ++ s.file ++ ":" ++ toString s.position.line ++ ":" ++
    toString s.position.column ++ " `" ++ s.key ++ "` (" ++ s.text ++ ")"

def pageLines (r : ReplacementReport) : List String :=
  ["", "## Replace", ""] ++ metrics r.pageMetrics ++
  under? "### Skipped" (r.skipped.map skipLine) ++
  failures "Failed files" r.filesFailed ++
  unprocessed r.notProcessed

end ReplacementReport

namespace RunReport

def pageLines (r : RunReport) : List String :=
  ["# i18n-lift report", "", "Generated: " ++ r.generatedAt] ++
  (if r.dryRun then ["", "> Dry run: nothing was written."] else []) ++
  (r.extraction.map ExtractionReport.pageLines).getD [] ++
  (r.replacement.map ReplacementReport.pageLines).getD []

/-- The report as a page of text. -/
def page (r : RunReport) : String := String.join (r.pageLines.map (· ++ "\n"))

end RunReport

end Phrasebook
