import Phrasebook.Json.Basic

/-!
# Settings

What a project can choose. Every setting has a value that is used when a project chooses none.
-/

namespace Phrasebook

/-- What the lookup functions are called and where they come from. -/
structure Binding where
  hook : String
  hookSource : String
  /-- The awaited function of asynchronous components. -/
  server : String
  serverSource : String
  deriving DecidableEq, Repr

def Binding.standard : Binding where
  hook := "useTranslations"
  hookSource := "next-intl"
  server := "getTranslations"
  serverSource := "next-intl/server"

structure Settings where
  /-- Directories to search, from the project's root. -/
  roots : List String
  /-- Endings of the files to search, without the point. -/
  extensions : List String
  /-- Glob patterns of files that are left out. -/
  exclude : List String
  /-- Bounds of a phrase's length in characters. -/
  minLength : Nat
  maxLength : Nat
  /-- A phrase in which one of these occurs is left alone. -/
  ignorePatterns : List String
  /-- Attributes that hold visible text. -/
  attributes : List String
  /-- Attributes whose values are never searched. -/
  excludedAttributes : List String
  translationFunctions : List String
  /-- The directory of the dictionaries. -/
  messagesDir : String
  sourceLocale : String
  targetLocales : List String
  /-- The directory of the manifest, the report, the backups and the lock. -/
  outputDir : String
  defaultNamespace : String
  /-- Directories that give no namespace its name. -/
  groupingSegments : List String
  slugMaxWords : Nat
  slugMaxChars : Nat
  /-- Marks a text that still needs translation. -/
  placeholderPrefix : String
  binding : Binding
  /-- A program that lays out a changed file, with its arguments. -/
  formatter : Option (List String)
  dryRun : Bool
  createBackups : Bool
  verbose : Bool
  deriving DecidableEq, Repr

namespace Settings

def standard : Settings where
  roots := ["src"]
  extensions := ["ts", "tsx", "js", "jsx"]
  exclude :=
    ["**/node_modules/**", "**/*.d.ts", "**/*.test.*", "**/*.spec.*", "**/*.stories.*"]
  minLength := 2
  maxLength := 120
  ignorePatterns := []
  attributes := ["placeholder", "title", "alt", "aria-label", "aria-description", "label"]
  excludedAttributes :=
    ["className", "class", "id", "style", "href", "src", "type", "name", "value", "key", "htmlFor",
      "role", "target", "rel", "variant", "data-testid"]
  translationFunctions := ["t"]
  messagesDir := "src/messages"
  sourceLocale := "en"
  targetLocales := []
  outputDir := ".i18n-lift"
  defaultNamespace := "common"
  groupingSegments := ["src", "app", "components", "features", "pages", "[locale]"]
  slugMaxWords := 4
  slugMaxChars := 20
  placeholderPrefix := "[TODO] "
  binding := .standard
  formatter := none
  dryRun := false
  createBackups := true
  verbose := false

/-- Every locale that has a dictionary, the source first. -/
def locales (s : Settings) : List String := s.sourceLocale :: s.targetLocales

end Settings

end Phrasebook
