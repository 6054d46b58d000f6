import Phrasebook.Dictionary.Propagation
import Phrasebook.Failure
import Phrasebook.Rewrite.Plan

/-!
# Reports

What the last extraction and the last replacement did. Failures that did not stop a run are kept
with their words.
-/

namespace Phrasebook

/-- A failure as a report keeps it. -/
structure FailureRecord where
  subject : String
  kind : String
  message : String
  deriving DecidableEq, Repr

def Failure.record (f : Failure) : FailureRecord := ⟨f.subject, f.kind, f.message⟩

structure FileCounts where
  /-- Accepted candidates. -/
  candidates : Nat
  /-- Lookups that were there before. -/
  alreadyTranslated : Nat
  newlyExtracted : Nat
  deriving DecidableEq, Repr

/-- What an extraction did. -/
structure ExtractionReport where
  filesScanned : Nat
  parseFailures : List FailureRecord
  /-- Candidates before any was turned down. -/
  candidatesFound : Nat
  rejected : Table Nat
  alreadyTranslated : Nat
  reused : Nat
  newlyExtracted : Nat
  /-- Keys with a number behind them. -/
  collisionsResolved : Nat
  keyFailures : List FailureRecord
  propagation : PropagationCounts
  localesWritten : List String
  localeFailures : List FailureRecord
  byNamespace : Table Nat
  byFile : Table FileCounts
  /-- Files that a cancelled run did not come to. -/
  notProcessed : List String
  deriving DecidableEq, Repr

namespace ExtractionReport

def empty : ExtractionReport where
  filesScanned := 0
  parseFailures := []
  candidatesFound := 0
  rejected := []
  alreadyTranslated := 0
  reused := 0
  newlyExtracted := 0
  collisionsResolved := 0
  keyFailures := []
  propagation := .zero
  localesWritten := []
  localeFailures := []
  byNamespace := []
  byFile := []
  notProcessed := []

def rejectedTotal (r : ExtractionReport) : Nat := (r.rejected.map (·.2)).foldl (· + ·) 0

/-- The files with the most candidates; of two with as many, the one whose path comes first. -/
def topFiles (r : ExtractionReport) (limit : Nat) : List (String × FileCounts) :=
  let filled := r.byFile.filter fun (_, counts) => counts.candidates ≠ 0
  (filled.mergeSort fun a b => b.2.candidates ≤ a.2.candidates).take limit

end ExtractionReport

/-- What a replacement did. -/
structure ReplacementReport where
  filesRewritten : List String
  filesUnchanged : Nat
  filesFailed : List FailureRecord
  replacementsApplied : Nat
  skipped : List Skip
  importsAdded : Nat
  accessorsAdded : Nat
  notProcessed : List String
  deriving DecidableEq, Repr

namespace ReplacementReport

def empty : ReplacementReport := ⟨[], 0, [], 0, [], 0, 0, []⟩

/-- How many entries were skipped for each reason, in the order of the reasons' tags. -/
def skippedByReason (r : ReplacementReport) : Table Nat :=
  r.skipped.foldl (fun counts s => Table.modify s.reason.tag 0 (· + 1) counts) []

end ReplacementReport

structure RunReport where
  generatedAt : String
  dryRun : Bool
  extraction : Option ExtractionReport
  replacement : Option ReplacementReport
  deriving DecidableEq, Repr

namespace RunReport

/-- The names of the files in the output directory. -/
def recordName : String := "report.json"
def pageName : String := "report.md"

/-- How many files the lists of top files show. -/
def topFileLimit : Nat := 10

end RunReport

end Phrasebook
