import Phrasebook.Project.Path
import Phrasebook.Report.Page
import Phrasebook.Report.Record
import Phrasebook.Run.Session

/-!
# The files of a report

A report is kept in the output directory as a record and as a page.
-/

namespace Phrasebook.RunReport

variable {σ : Type} [Storage σ]

def recordPath (directory : String) : String := Path.join directory recordName
def pagePath (directory : String) : String := Path.join directory pageName

/-- The report in a directory. -/
def load (storage : σ) (directory : String) : Except RunError RunReport := do
  let path := recordPath directory
  let text ← (Storage.read storage path).mapError (.reportUnread path)
  match ofText? text with
  | some r => return r
  | none => throw (.reportMalformed path)

/-- The report in a directory, if there is one that can be read; one that cannot is worth a warning. -/
def loadExisting (storage : σ) (directory : String) : Option RunReport × List Notice :=
  if Storage.holds storage (recordPath directory) then
    match load storage directory with
    | .ok r => (some r, [])
    | .error e => (none, [.warning ("Ignoring previous report: " ++ e.message)])
  else (none, [])

/-- Writes a report's record, then its page. -/
def save (r : RunReport) (directory : String) : Run σ Unit := do
  let write (path text : String) : Run σ Unit := do
    Run.ofExcept (fun _ => .reportUnwritten path)
      (← Run.change fun storage => Storage.write storage path text)
  write (recordPath directory) r.text
  write (pagePath directory) r.page

end Phrasebook.RunReport
