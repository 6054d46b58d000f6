import Phrasebook.Project.Basic
import Phrasebook.Report.Files
import Phrasebook.Report.Summary

/-!
# The command that reports
-/

namespace Phrasebook.Project

/-- Tells about the last runs again, and writes their report anew. -/
def runReport {σ : Type} [Storage σ] (p : Project) : Run σ Unit := do
  Run.print ["=== i18n-lift report ==="]
  let directory := p.outputDirectory
  let path := RunReport.recordPath directory
  if !Storage.holds (← Run.storage) path then
    throw (.failure (.setup ("No report at " ++ path ++ " (run `i18n-lift extract` first)")))
  let report ← Run.ofExcept id (RunReport.load (← Run.storage) directory)
  Run.print (("Generated: " ++ report.generatedAt) :: report.summaryLines)
  if p.settings.dryRun then
    Run.print ["", "(dry run, " ++ RunReport.pagePath directory ++ " not rewritten)"]
  else
    report.save directory
    Run.print ["", "Report: " ++ RunReport.pagePath directory]
  Run.print ["", "Done!"]

end Phrasebook.Project
