import Phrasebook.Command.Line
import Phrasebook.Command.Replace
import Phrasebook.Command.Report

/-!
# Running a command line

A run of the program is a function of its arguments, the storage that it finds, the time, and the
formatters at hand. It gives the lines for the output and for the error stream, the exit status, and
the storage that it leaves.
-/

namespace Phrasebook

/-- What the program leaves when it ends. -/
structure Departure (σ : Type) where
  status : Nat
  output : List String
  errors : List String
  storage : σ

/-- The settings of a run: what the command line asks for counts beside what the file says. -/
def Invocation.applyTo (i : Invocation) (s : Settings) : Settings :=
  { s with
    dryRun := s.dryRun || i.dryRun
    verbose := s.verbose || i.verbose
    createBackups := s.createBackups && !i.noBackup }

/-- Where a run takes place. -/
structure Surroundings where
  projectRoot : String
  occasion : Occasion
  launch : Launcher

namespace Surroundings

variable {σ : Type} [Storage σ]

/-- The level that is chosen, or the end of the run. -/
def chosenLevel (i : Invocation) (verbose : Bool) : Run σ NoticeLevel :=
  Run.ofExcept .levelUnknown (NoticeLevel.choose i.level verbose)

/-- The level at which a run tells things, and what it does. -/
def plan (around : Surroundings) (i : Invocation) : Run σ (NoticeLevel × Run σ Unit) := do
  match i.command with
  | .init request => return (← chosenLevel i i.verbose, request.run around.projectRoot)
  | command =>
    let found ← Run.ofExcept id
      (Settings.loadOrStandard (← Run.storage) i.settingsPath around.projectRoot)
    let s := i.applyTo found
    let level ← chosenLevel i s.verbose
    let p : Project := ⟨around.projectRoot, s⟩
    return (level, match command with
      | .extract manifest => p.runExtract around.occasion false manifest
      | .replace manifest => p.runReplace around.occasion around.launch false manifest
      | _ => p.runReport)

/-- The end of a run. -/
def depart (level : NoticeLevel) (result : Except RunError Unit) (session : Session σ) :
    Departure σ :=
  let told := errorLines level session.notices
  match result with
  | .ok () => ⟨0, session.printed, told, session.storage⟩
  | .error e => ⟨1, session.printed, told ++ ["Error: " ++ e.headline], session.storage⟩

/-- Does what the command line asks for. -/
def perform (around : Surroundings) (i : Invocation) (storage : σ) : Departure σ :=
  match (around.plan i).run (.start storage) with
  | (.error e, session) => depart .information (.error e) session
  | (.ok (level, work), session) =>
    let (result, session) := work.run session
    depart level result session

end Surroundings

/-- The name and the version of the program. -/
def versionLine : String := "i18n-lift 0.1.0"

def helpLines : List String := [
  "Lift hardcoded UI text into translation dictionaries", "",
  "Usage: i18n-lift [OPTIONS] <COMMAND>", "",
  "Commands:",
  "  extract  Scan sources, derive keys and write them to the locale dictionaries",
  "  replace  Rewrite sources to use translation lookups, driven by the manifest",
  "  report   Show the summary of the last run without re-scanning",
  "  init     Create a default configuration file"]

/-- Runs the program. -/
def runCommandLine {σ : Type} [Storage σ] (around : Surroundings) (arguments : List String)
    (storage : σ) : Departure σ :=
  match CommandLine.read arguments with
  | .ok i => around.perform i storage
  | .error .help => ⟨0, helpLines, [], storage⟩
  | .error .version => ⟨0, [versionLine], [], storage⟩
  | .error .misused => ⟨2, [], helpLines, storage⟩

end Phrasebook
