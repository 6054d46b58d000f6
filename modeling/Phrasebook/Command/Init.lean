import Phrasebook.Json.Writer
import Phrasebook.Run.Session
import Phrasebook.Settings.Files
import Phrasebook.Text.Shown
import Phrasebook.Text.Spacing

/-!
# The command that starts a project

Settings are written to the usual file, and the source locale gets an empty document.
-/

namespace Phrasebook

/-- What a new project is to have. -/
structure InitRequest where
  /-- Settings that are there are replaced. -/
  force : Bool
  /-- Lists have commas between their items. -/
  roots : Option String
  sourceLocale : Option String
  targetLocales : Option String
  deriving DecidableEq, Repr

namespace InitRequest

/-- The items of a list that are not blank. -/
def listItems (text : String) : List String :=
  ((Text.splitBy (· == ',') text.toList).map fun part => String.ofList (Text.trim part)).filter
    fun item => !item.isEmpty

/-- The settings of a new project. -/
def settings (r : InitRequest) : Settings :=
  { Settings.standard with
    roots := (r.roots.map listItems).getD Settings.standard.roots
    sourceLocale := (r.sourceLocale.map fun locale =>
      String.ofList (Text.trim locale.toList)).getD Settings.standard.sourceLocale
    targetLocales := (r.targetLocales.map listItems).getD Settings.standard.targetLocales }

def settingsLines (path : String) (s : Settings) : List String :=
  ["Created configuration file: " ++ path, "", "Configuration:",
    "  Roots: " ++ Text.shownList s.roots, "  Messages: " ++ s.messagesDir,
    "  Source locale: " ++ s.sourceLocale, "  Target locales: " ++ Text.shownList s.targetLocales]

def nextLines : List String :=
  ["", "Next steps:", "  1. Run 'i18n-lift extract --dry-run' to preview the keys",
    "  2. Run 'i18n-lift extract' and review the manifest",
    "  3. Run 'i18n-lift replace' to rewrite the sources", "", "Done!"]

variable {σ : Type} [Storage σ]

/-- Gives the source locale an empty document, unless it has one. -/
def makeDocument (projectRoot : String) (s : Settings) : Run σ Unit := do
  let directory := Path.join projectRoot s.messagesDir
  let path := Path.join directory (s.sourceLocale ++ ".json")
  if !Storage.holds (← Run.storage) path then
    Run.ofExcept (fun _ => .notMade directory)
      (← Run.change fun storage => Storage.makeDirectories storage directory)
    Run.ofExcept (fun _ => .unwritten path)
      (← Run.change fun storage => Storage.overwrite storage path "\x7b\x7d\n")
    Run.print ["", "Created: " ++ path]

/-- Starts a project in a directory. -/
def run (r : InitRequest) (projectRoot : String) : Run σ Unit := do
  Run.print ["=== i18n-lift init ===", ""]
  let path := Path.join projectRoot Settings.strictName
  if Storage.holds (← Run.storage) path && !r.force then throw (.settingsPresent path)
  let s := r.settings
  Run.ofExcept .settings s.check
  let text := Json.pretty (.object s.members) .standard ++ "\n"
  Run.ofExcept (fun _ => .unwritten path)
    (← Run.change fun storage => Storage.overwrite storage path text)
  Run.print (settingsLines path s)
  makeDocument projectRoot s
  Run.print nextLines

end InitRequest

end Phrasebook
