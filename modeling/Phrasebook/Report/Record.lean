import Phrasebook.Json.Decode
import Phrasebook.Json.Reader
import Phrasebook.Report.Basic

/-!
# Reports as records

A report is written as a record, so that a later run can take it up again.
-/

namespace Phrasebook

open Json

/-- A table of named values; a later binding of a name replaces an earlier one. -/
def tableOf? {α : Type} (decode : Decoder α) : Decoder (Table α)
  | .object members =>
    (members.mapM fun member => (decode member.2).map fun a => (member.1, a)).map Table.ofList
  | _ => none

def tableJson {α : Type} (f : α → Json) (table : Table α) : Json :=
  .object (table.map fun entry => (entry.1, f entry.2))

namespace FailureRecord

def fieldNames : List String := ["subject", "kind", "message"]

def ofJson? (j : Json) : Option FailureRecord := do
  let field ← recordFields? fieldNames j
  return {
    subject := ← field? string? (field "subject")
    kind := ← field? string? (field "kind")
    message := ← field? string? (field "message") }

def toJson (f : FailureRecord) : Json :=
  .object [("subject", .string f.subject), ("kind", .string f.kind), ("message", .string f.message)]

end FailureRecord

namespace FileCounts

def fieldNames : List String := ["candidates", "alreadyTranslated", "newlyExtracted"]

def ofJson? (j : Json) : Option FileCounts := do
  let field ← recordFields? fieldNames j
  return {
    candidates := ← field? natural? (field "candidates")
    alreadyTranslated := ← field? natural? (field "alreadyTranslated")
    newlyExtracted := ← field? natural? (field "newlyExtracted") }

def toJson (c : FileCounts) : Json :=
  .object [("candidates", .ofNat c.candidates), ("alreadyTranslated", .ofNat c.alreadyTranslated),
    ("newlyExtracted", .ofNat c.newlyExtracted)]

end FileCounts

namespace PropagationCounts

def fieldNames : List String := ["inserted", "refreshed", "preserved", "conflicts"]

def ofJson? (j : Json) : Option PropagationCounts := do
  let field ← recordFields? fieldNames j
  return {
    inserted := ← field? natural? (field "inserted")
    refreshed := ← field? natural? (field "refreshed")
    preserved := ← field? natural? (field "preserved")
    conflicts := ← field? natural? (field "conflicts") }

def toJson (c : PropagationCounts) : Json :=
  .object [("inserted", .ofNat c.inserted), ("refreshed", .ofNat c.refreshed),
    ("preserved", .ofNat c.preserved), ("conflicts", .ofNat c.conflicts)]

end PropagationCounts

namespace Skip

def fieldNames : List String := ["file", "line", "column", "key", "text", "reason"]

def ofJson? (j : Json) : Option Skip := do
  let field ← recordFields? fieldNames j
  return {
    file := ← field? string? (field "file")
    position := ⟨← field? natural? (field "line"), ← field? natural? (field "column")⟩
    key := ← field? string? (field "key")
    text := ← field? string? (field "text")
    reason := ← field? (fun j => (choice? j).bind SkipReason.ofTag?) (field "reason") }

def toJson (s : Skip) : Json :=
  .object [("file", .string s.file), ("line", .ofNat s.position.line),
    ("column", .ofNat s.position.column), ("key", .string s.key), ("text", .string s.text),
    ("reason", .string s.reason.tag)]

end Skip

namespace ExtractionReport

def fieldNames : List String :=
  ["filesScanned", "parseFailures", "candidatesFound", "rejected", "alreadyTranslated", "reused",
    "newlyExtracted", "collisionsResolved", "keyFailures", "propagation", "localesWritten",
    "localeFailures", "byNamespace", "byFile", "notProcessed"]

def ofJson? (j : Json) : Option ExtractionReport := do
  let field ← recordFields? fieldNames j
  return {
    filesScanned := ← field? natural? (field "filesScanned")
    parseFailures := ← field? (listOf? FailureRecord.ofJson?) (field "parseFailures")
    candidatesFound := ← field? natural? (field "candidatesFound")
    rejected := ← field? (tableOf? natural?) (field "rejected")
    alreadyTranslated := ← field? natural? (field "alreadyTranslated")
    reused := ← field? natural? (field "reused")
    newlyExtracted := ← field? natural? (field "newlyExtracted")
    collisionsResolved := ← field? natural? (field "collisionsResolved")
    keyFailures := ← field? (listOf? FailureRecord.ofJson?) (field "keyFailures")
    propagation := ← field? PropagationCounts.ofJson? (field "propagation")
    localesWritten := ← field? strings? (field "localesWritten")
    localeFailures := ← field? (listOf? FailureRecord.ofJson?) (field "localeFailures")
    byNamespace := ← field? (tableOf? natural?) (field "byNamespace")
    byFile := ← field? (tableOf? FileCounts.ofJson?) (field "byFile")
    notProcessed := ← field? strings? (field "notProcessed") }

def toJson (r : ExtractionReport) : Json :=
  .object [("filesScanned", .ofNat r.filesScanned),
    ("parseFailures", .array (r.parseFailures.map FailureRecord.toJson)),
    ("candidatesFound", .ofNat r.candidatesFound), ("rejected", tableJson .ofNat r.rejected),
    ("alreadyTranslated", .ofNat r.alreadyTranslated), ("reused", .ofNat r.reused),
    ("newlyExtracted", .ofNat r.newlyExtracted),
    ("collisionsResolved", .ofNat r.collisionsResolved),
    ("keyFailures", .array (r.keyFailures.map FailureRecord.toJson)),
    ("propagation", r.propagation.toJson), ("localesWritten", .ofStrings r.localesWritten),
    ("localeFailures", .array (r.localeFailures.map FailureRecord.toJson)),
    ("byNamespace", tableJson .ofNat r.byNamespace),
    ("byFile", tableJson FileCounts.toJson r.byFile), ("notProcessed", .ofStrings r.notProcessed)]

end ExtractionReport

namespace ReplacementReport

def fieldNames : List String :=
  ["filesRewritten", "filesUnchanged", "filesFailed", "replacementsApplied", "skipped",
    "importsAdded", "accessorsAdded", "notProcessed"]

def ofJson? (j : Json) : Option ReplacementReport := do
  let field ← recordFields? fieldNames j
  return {
    filesRewritten := ← field? strings? (field "filesRewritten")
    filesUnchanged := ← field? natural? (field "filesUnchanged")
    filesFailed := ← field? (listOf? FailureRecord.ofJson?) (field "filesFailed")
    replacementsApplied := ← field? natural? (field "replacementsApplied")
    skipped := ← field? (listOf? Skip.ofJson?) (field "skipped")
    importsAdded := ← field? natural? (field "importsAdded")
    accessorsAdded := ← field? natural? (field "accessorsAdded")
    notProcessed := ← field? strings? (field "notProcessed") }

def toJson (r : ReplacementReport) : Json :=
  .object [("filesRewritten", .ofStrings r.filesRewritten),
    ("filesUnchanged", .ofNat r.filesUnchanged),
    ("filesFailed", .array (r.filesFailed.map FailureRecord.toJson)),
    ("replacementsApplied", .ofNat r.replacementsApplied),
    ("skipped", .array (r.skipped.map Skip.toJson)), ("importsAdded", .ofNat r.importsAdded),
    ("accessorsAdded", .ofNat r.accessorsAdded), ("notProcessed", .ofStrings r.notProcessed)]

end ReplacementReport

namespace RunReport

def fieldNames : List String := ["generatedAt", "dryRun", "extract", "replace"]

def ofJson? (j : Json) : Option RunReport := do
  let field ← recordFields? fieldNames j
  return {
    generatedAt := ← field? string? (field "generatedAt")
    dryRun := ← field? bool? (field "dryRun")
    extraction := ← fieldOr none (orNull? ExtractionReport.ofJson?) (field "extract")
    replacement := ← fieldOr none (orNull? ReplacementReport.ofJson?) (field "replace") }

/-- Runs that did not happen are left out. -/
def toJson (r : RunReport) : Json :=
  .object ([("generatedAt", .string r.generatedAt), ("dryRun", .bool r.dryRun)] ++
    (r.extraction.map fun e => ("extract", e.toJson)).toList ++
    (r.replacement.map fun e => ("replace", e.toJson)).toList)

def ofText? (text : String) : Option RunReport :=
  match readWritten text.toList with
  | .ok j => ofJson? j
  | .error _ => none

def text (r : RunReport) : String := Json.pretty r.toJson .standard ++ "\n"

end RunReport

end Phrasebook
