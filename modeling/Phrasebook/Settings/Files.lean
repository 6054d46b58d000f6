import Phrasebook.Project.Path
import Phrasebook.Run.Error
import Phrasebook.Settings.Reader

/-!
# The files of settings

Settings are read from the file that is asked for, or from the first of the usual files that is
there. Without any, the standard settings are used. Files of one ending may use the relaxed syntax.
-/

namespace Phrasebook.Settings

/-- The usual files, the first of which is written for a new project. -/
def strictName : String := "i18n-lift.json"
def relaxedName : String := "i18n-lift.json5"

/-- Whether a file may use the relaxed syntax. -/
def isRelaxed (path : String) : Bool :=
  (Path.extension? path).any fun ending => ending.toList.map Char.toLower == "json5".toList

variable {σ : Type} [Storage σ]

/-- The settings of a file. -/
def load (storage : σ) (path : String) : Except RunError Settings := do
  let text ← (Storage.read storage path).mapError fun _ => .settingsUnread path
  match ofText? (isRelaxed path) text with
  | none => throw (.settingsMalformed path)
  | some s =>
    s.check.mapError .settings
    return s

/-- The settings of a project. -/
def loadOrStandard (storage : σ) (asked : Option String) (projectRoot : String) :
    Except RunError Settings :=
  match asked with
  | some path => load storage path
  | none =>
    let usual := [strictName, relaxedName].map (Path.join projectRoot)
    match usual.find? (Storage.holds storage) with
    | some path => load storage path
    | none => .ok standard

end Phrasebook.Settings
