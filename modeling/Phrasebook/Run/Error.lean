import Phrasebook.Failure
import Phrasebook.Settings.Check
import Phrasebook.Storage.Basic

/-!
# Why a run stops
-/

namespace Phrasebook

inductive RunError where
  | failure (f : Failure)
  | settings (e : SettingsError)
  | settingsUnread (path : String)
  | settingsMalformed (path : String)
  | settingsPresent (path : String)
  | notMade (path : String)
  | unwritten (path : String)
  | storage (e : StorageError)
  | manifestUnread (path : String)
  | manifestMalformed (path : String)
  | manifestUnwritten (path : String)
  | reportUnread (path : String) (e : StorageError)
  | reportMalformed (path : String)
  | reportUnwritten (path : String)
  /-- The report that a replacement adds to. -/
  | sharedReportUnwritten
  | levelUnknown (message : String)
  deriving DecidableEq, Repr

namespace RunError

/-- What stopped the run. -/
def headline : RunError → String
  | failure f => f.message
  | settings e => e.message
  | settingsUnread path => "Failed to read config file: " ++ path
  | settingsMalformed path => "Failed to parse config file: " ++ path
  | settingsPresent path =>
    "Configuration file already exists: " ++ path ++ ". Use --force to overwrite."
  | notMade path => "Failed to create " ++ path
  | unwritten path => "Failed to write " ++ path
  | storage e => e.headline
  | manifestUnread path => "Failed to read manifest: " ++ path
  | manifestMalformed path => "Failed to parse manifest: " ++ path
  | manifestUnwritten path => "Failed to write manifest: " ++ path
  | reportUnread path _ => "Failed to read report: " ++ path
  | reportMalformed path => "Failed to parse report: " ++ path
  | reportUnwritten path => "Failed to write report: " ++ path
  | sharedReportUnwritten => "Failed to write the run report"
  | levelUnknown message => message

/-- What stopped the run, and why. -/
def message : RunError → String
  | reportUnread path e => (reportUnread path e).headline ++ ": " ++ e.message
  | reportMalformed path => (reportMalformed path).headline ++ ": not a report"
  | e => e.headline

end RunError

end Phrasebook
