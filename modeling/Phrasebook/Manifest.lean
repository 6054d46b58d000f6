import Phrasebook.Json.Decode
import Phrasebook.Json.Reader
import Phrasebook.Key.Derivation

/-!
# Manifests

The entries that an extraction hands over for review, in the order of files and positions. A
manifest is written as a list of records, a candidate's fields together with those of its key.
-/

namespace Phrasebook

open Json

namespace Entry

def fieldNames : List String :=
  ["text", "raw", "file", "line", "column", "syntacticContext", "attribute", "surroundingContext",
    "suggestedKey", "namespace", "status"]

/-- An entry from a record, which has to be an object. -/
def ofJson? (j : Json) : Option Entry := do
  let field ← objectFields? fieldNames j
  let text ← field? string? (field "text")
  let raw ← field? string? (field "raw")
  let file ← field? string? (field "file")
  let line ← field? natural? (field "line")
  let column ← field? natural? (field "column")
  let token ← field? (fun j => (choice? j).bind TokenKind.ofName?) (field "syntacticContext")
  let attributeName ← fieldOr none (orNull? string?) (field "attribute")
  let surroundings ← field? string? (field "surroundingContext")
  let key ← field? string? (field "suggestedKey")
  let spaceName ← field? string? (field "namespace")
  let status ← field? (fun j => (choice? j).bind KeyStatus.ofName?) (field "status")
  return {
    candidate := {
      text, raw, file, position := ⟨line, column⟩, token, attributeName, surroundings }
    key, spaceName, status }

/-- The fields of a candidate; an attribute is written only where there is one. -/
def candidateMembers (c : Candidate) : List (String × Json) :=
  [("text", .string c.text), ("raw", .string c.raw), ("file", .string c.file),
    ("line", .ofNat c.position.line), ("column", .ofNat c.position.column),
    ("syntacticContext", .string c.token.name)] ++
  (c.attributeName.map fun name => ("attribute", .string name)).toList ++
  [("surroundingContext", .string c.surroundings)]

def members (e : Entry) : List (String × Json) :=
  candidateMembers e.candidate ++
  [("suggestedKey", .string e.key), ("namespace", .string e.spaceName),
    ("status", .string e.status.name)]

/-- The order of a manifest. -/
def le (a b : Entry) : Bool :=
  a.candidate.file < b.candidate.file ||
    (a.candidate.file == b.candidate.file &&
      !b.candidate.position.before a.candidate.position)

end Entry

structure Manifest where
  entries : List Entry
  deriving DecidableEq, Repr

namespace Manifest

/-- The name of the file in the output directory. -/
def fileName : String := "manifest.json"

/-- A manifest of entries in any order; those of one place keep theirs. -/
def ofEntries (entries : List Entry) : Manifest := ⟨entries.mergeSort Entry.le⟩

def ofText? (text : String) : Option Manifest :=
  match readWritten text.toList with
  | .ok j => (listOf? Entry.ofJson? j).map ofEntries
  | .error _ => none

def text (m : Manifest) : String :=
  Json.pretty (.array (m.entries.map fun e => .object e.members)) .standard ++ "\n"

/-- The files that have entries, in order. -/
def files (m : Manifest) : List String :=
  (m.entries.map fun e => e.candidate.file).eraseDups.mergeSort fun a b => !(b < a)

/-- The entries of each file, in the order of files. -/
def byFile (m : Manifest) : List (String × List Entry) :=
  m.files.map fun file => (file, m.entries.filter fun e => e.candidate.file == file)

end Manifest

end Phrasebook
