import Phrasebook.Command.Extract
import Phrasebook.Run.Replacement

/-!
# The command that replaces
-/

namespace Phrasebook

namespace Replacement

def rewriteLine (dryRun : Bool) (r : Rewrite) : String :=
  "  " ++ r.file ++ " - " ++ (if dryRun then "would rewrite " else "rewrote ") ++
    toString r.applied ++ " string(s)"

def rewriteLines (dryRun : Bool) (rewrites : List Rewrite) : List String :=
  if rewrites.isEmpty then ["Nothing to rewrite."]
  else
    ["Rewritten files:", ruleLine] ++ rewrites.map (rewriteLine dryRun) ++ [ruleLine]

/-- The accessors that were added to a file. -/
def accessorNotice? (r : Rewrite) : List Notice :=
  if r.accessorsAdded.isEmpty then []
  else [.detail (r.file ++ ": declared " ++ ", ".intercalate r.accessorsAdded)]

end Replacement

namespace Project

def replacementIntroduction (p : Project) (manifest : Option String) : List String :=
  let b := p.settings.binding
  ["=== i18n-lift replace ===", "", "Configuration:", "  Manifest: " ++ p.manifestPath manifest,
    "  Binding: " ++ b.hook ++ " (" ++ b.hookSource ++ "), " ++ b.server ++ " (" ++
      b.serverSource ++ ")"] ++
  (p.settings.formatter.map fun f => "  Formatter: " ++ " ".intercalate f).toList ++
  dryRunLine? p.settings ++ [""]

/-- Rewrites the files of a manifest and tells about it. -/
def runReplace {σ : Type} [Storage σ] (p : Project) (occasion : Occasion) (launch : Launcher)
    (cancelled : Bool) (manifest : Option String) : Run σ Unit := do
  Run.print (p.replacementIntroduction manifest)
  let done ← p.replace occasion launch cancelled manifest
  Run.print (Replacement.rewriteLines p.settings.dryRun done.rewrites)
  Run.notify (done.rewrites.flatMap Replacement.accessorNotice?)
  Run.print done.report.summaryLines
  Run.print ["", "Done!"]

end Project

end Phrasebook
