import Phrasebook.Json.Decode
import Phrasebook.Json.Reader
import Phrasebook.Json.Relaxed
import Phrasebook.Settings.Check

/-!
# Reading and writing settings
-/

namespace Phrasebook

open Json

namespace Binding

def fieldNames : List String := ["hook", "hookSource", "server", "serverSource"]

def ofJson? (j : Json) : Option Binding := do
  let field ← recordFields? fieldNames j
  let hook ← fieldOr standard.hook string? (field "hook")
  let hookSource ← fieldOr standard.hookSource string? (field "hookSource")
  let server ← fieldOr standard.server string? (field "server")
  let serverSource ← fieldOr standard.serverSource string? (field "serverSource")
  return { hook, hookSource, server, serverSource }

def toJson (b : Binding) : Json :=
  .ofMembers [("hook", .string b.hook), ("hookSource", .string b.hookSource),
    ("server", .string b.server), ("serverSource", .string b.serverSource)]

end Binding

namespace Settings

def fieldNames : List String :=
  ["roots", "extensions", "exclude", "minLength", "maxLength", "ignorePatterns", "attributes",
    "excludedAttributes", "translationFunctions", "messagesDir", "sourceLocale", "targetLocales",
    "outputDir", "defaultNamespace", "groupingSegments", "slugMaxWords", "slugMaxChars",
    "placeholderPrefix", "binding", "formatter", "dryRun", "createBackups", "verbose"]

/-- Settings from a written record. -/
def ofJson? (j : Json) : Option Settings := do
  let field ← recordFields? fieldNames j
  let strings (name : String) (default : List String) := fieldOr default strings? (field name)
  let string (name : String) (default : String) := fieldOr default string? (field name)
  let natural (name : String) (default : Nat) := fieldOr default natural? (field name)
  let flag (name : String) (default : Bool) := fieldOr default bool? (field name)
  let roots ← strings "roots" standard.roots
  let extensions ← strings "extensions" standard.extensions
  let exclude ← strings "exclude" standard.exclude
  let minLength ← natural "minLength" standard.minLength
  let maxLength ← natural "maxLength" standard.maxLength
  let ignorePatterns ← strings "ignorePatterns" standard.ignorePatterns
  let attributes ← strings "attributes" standard.attributes
  let excludedAttributes ← strings "excludedAttributes" standard.excludedAttributes
  let translationFunctions ← strings "translationFunctions" standard.translationFunctions
  let messagesDir ← string "messagesDir" standard.messagesDir
  let sourceLocale ← string "sourceLocale" standard.sourceLocale
  let targetLocales ← strings "targetLocales" standard.targetLocales
  let outputDir ← string "outputDir" standard.outputDir
  let defaultNamespace ← string "defaultNamespace" standard.defaultNamespace
  let groupingSegments ← strings "groupingSegments" standard.groupingSegments
  let slugMaxWords ← natural "slugMaxWords" standard.slugMaxWords
  let slugMaxChars ← natural "slugMaxChars" standard.slugMaxChars
  let placeholderPrefix ← string "placeholderPrefix" standard.placeholderPrefix
  let binding ← fieldOr Binding.standard Binding.ofJson? (field "binding")
  let formatter ← fieldOr none (orNull? strings?) (field "formatter")
  let dryRun ← flag "dryRun" standard.dryRun
  let createBackups ← flag "createBackups" standard.createBackups
  let verbose ← flag "verbose" standard.verbose
  return {
    roots, extensions, exclude, minLength, maxLength, ignorePatterns, attributes,
    excludedAttributes, translationFunctions, messagesDir, sourceLocale, targetLocales, outputDir,
    defaultNamespace, groupingSegments, slugMaxWords, slugMaxChars, placeholderPrefix, binding,
    formatter, dryRun, createBackups, verbose }

/-- The settings as a list of members in their order. -/
def members (s : Settings) : List (String × Json) :=
  [("roots", .ofStrings s.roots), ("extensions", .ofStrings s.extensions),
    ("exclude", .ofStrings s.exclude), ("minLength", .ofNat s.minLength),
    ("maxLength", .ofNat s.maxLength), ("ignorePatterns", .ofStrings s.ignorePatterns),
    ("attributes", .ofStrings s.attributes),
    ("excludedAttributes", .ofStrings s.excludedAttributes),
    ("translationFunctions", .ofStrings s.translationFunctions),
    ("messagesDir", .string s.messagesDir), ("sourceLocale", .string s.sourceLocale),
    ("targetLocales", .ofStrings s.targetLocales), ("outputDir", .string s.outputDir),
    ("defaultNamespace", .string s.defaultNamespace),
    ("groupingSegments", .ofStrings s.groupingSegments), ("slugMaxWords", .ofNat s.slugMaxWords),
    ("slugMaxChars", .ofNat s.slugMaxChars), ("placeholderPrefix", .string s.placeholderPrefix),
    ("binding", s.binding.toJson),
    ("formatter", (s.formatter.map Json.ofStrings).getD .null), ("dryRun", .bool s.dryRun),
    ("createBackups", .bool s.createBackups), ("verbose", .bool s.verbose)]

def toJson (s : Settings) : Json := .ofMembers s.members

/-- Settings from the text of a file; the flag allows the relaxed syntax. -/
def ofText? (relaxed : Bool) (text : String) : Option Settings :=
  let read := if relaxed then Relaxed.readWritten else readWritten
  match read text.toList with
  | .ok j => ofJson? j
  | .error _ => none

end Settings

end Phrasebook
