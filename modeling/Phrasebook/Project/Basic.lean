import Phrasebook.Manifest
import Phrasebook.Report.Record
import Phrasebook.Report.Page
import Phrasebook.Storage.Backups

/-!
# Projects

A project is a directory with settings. Everything that a run reads or writes has its path from
there.
-/

namespace Phrasebook

structure Project where
  root : String
  settings : Settings

/-- What a run is given from outside. -/
structure Occasion where
  /-- The time that reports carry. -/
  time : String
  /-- The stamp that backups carry. -/
  stamp : String

namespace Project

def outputDirectory (p : Project) : String := Path.join p.root p.settings.outputDir

def messagesDirectory (p : Project) : String := Path.join p.root p.settings.messagesDir

/-- The path of the manifest: the one that is asked for, or the usual one. -/
def manifestPath (p : Project) (asked : Option String) : String :=
  match asked with
  | some path => Path.join p.root path
  | none => Path.join p.outputDirectory Manifest.fileName

def backups (p : Project) (occasion : Occasion) : Backups where
  projectRoot := p.root
  directory := Path.join p.outputDirectory "backups"
  stamp := occasion.stamp
  enabled := p.settings.createBackups

/-- A dictionary without messages for the project's documents. -/
def dictionary (p : Project) : Dictionary := .empty p.messagesDirectory p.settings

end Project

end Phrasebook
