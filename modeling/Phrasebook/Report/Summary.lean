import Phrasebook.Report.Basic

/-!
# The summary of a report

A few lines that are printed at the end of a run.
-/

namespace Phrasebook

namespace Summary

def count (label : String) (n : Nat) : String := "  " ++ label ++ ": " ++ toString n

/-- A count that is shown only when there is something to count. -/
def count? (label : String) (n : Nat) : List String := if n = 0 then [] else [count label n]

/-- A number in a column of four. -/
def inColumn (n : Nat) : String :=
  let digits := toString n
  String.ofList (List.replicate (4 - digits.length) ' ') ++ digits

end Summary

open Summary

namespace ExtractionReport

def placeholderLine? (c : PropagationCounts) : List String :=
  if c.inserted + c.refreshed = 0 then []
  else
    ["  Placeholders: " ++ toString c.inserted ++ " inserted, " ++ toString c.refreshed ++
      " refreshed"]

def topFileLines (r : ExtractionReport) : List String :=
  let top := r.topFiles RunReport.topFileLimit
  if top.isEmpty then []
  else
    ["", "Top files:"] ++
      top.map fun (file, c) => "  " ++ inColumn c.candidates ++ "  " ++ file

def summaryLines (r : ExtractionReport) : List String :=
  ["", "Extraction Summary:", count "Files scanned" r.filesScanned,
    count "Candidates found" r.candidatesFound, count "Rejected" r.rejectedTotal,
    count "Already translated" r.alreadyTranslated, count "Reused keys" r.reused,
    count "Newly extracted" r.newlyExtracted] ++
  count? "Collisions resolved" r.collisionsResolved ++
  placeholderLine? r.propagation ++
  count? "Parse failures" r.parseFailures.length ++
  count? "Key failures" r.keyFailures.length ++
  count? "Locale failures" r.localeFailures.length ++
  count? "Files not processed" r.notProcessed.length ++
  r.topFileLines

end ExtractionReport

namespace ReplacementReport

def summaryLines (r : ReplacementReport) : List String :=
  ["", "Replace Summary:", count "Files rewritten" r.filesRewritten.length,
    count "Files unchanged" r.filesUnchanged,
    count "Replacements applied" r.replacementsApplied,
    "  Imports added: " ++ toString r.importsAdded ++ ", accessors added: " ++
      toString r.accessorsAdded] ++
  (r.skippedByReason.map fun (reason, n) => count ("Skipped (" ++ reason ++ ")") n) ++
  count? "Files failed" r.filesFailed.length ++
  count? "Files not processed" r.notProcessed.length

end ReplacementReport

namespace RunReport

def summaryLines (r : RunReport) : List String :=
  (r.extraction.map ExtractionReport.summaryLines).getD [] ++
  (r.replacement.map ReplacementReport.summaryLines).getD [] ++
  if r.dryRun then ["", "Dry run: no files were written."] else []

end RunReport

end Phrasebook
