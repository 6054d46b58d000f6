import Phrasebook.Notice
import Phrasebook.Project.Path
import Phrasebook.Settings.Check
import Phrasebook.Storage.Basic

/-!
# The files of a project

A project's sources are the files below its roots that have one of the endings and match no glob for
exclusion. They are taken in the order of their paths, each once.
-/

namespace Phrasebook

structure SourceFile where
  /-- The path seen from the project. -/
  relative : String
  /-- The path seen from the root that it lies below. -/
  withinRoot : String
  path : String
  deriving DecidableEq, Repr

namespace SourceFile

def le (a b : SourceFile) : Bool :=
  a.relative < b.relative || (a.relative == b.relative && !(b.withinRoot < a.withinRoot))

/-- Files in order, without those whose path came just before. -/
def dropRepeated : List SourceFile → List SourceFile
  | [] => []
  | [f] => [f]
  | f :: g :: rest =>
    if f.relative = g.relative then dropRepeated (f :: rest) else f :: dropRepeated (g :: rest)

end SourceFile

/-- Whether a file has one of the endings, which may be given with a point in front. -/
def hasEnding (endings : List String) (path : String) : Bool :=
  (Path.extension? path).any fun ending =>
    endings.any fun e => e.toList.dropWhile (· == '.') == ending.toList

/-- A path as it is seen from a directory, if it lies there. -/
def seenFrom (directory path : String) : String :=
  match Path.below? directory path with
  | some parts => Path.ofComponents parts
  | none => Path.toSlash path

namespace Selection

variable {σ : Type} [Storage σ]

/-- The sources below one root. A root that is no directory has none, which is worth a warning. -/
def ofRoot (storage : σ) (projectRoot : String) (s : Settings) (globs : List (List Glob.Part))
    (root : String) : List SourceFile × List Notice :=
  let rootPath := Path.join projectRoot root
  if Storage.isDirectory storage rootPath then
    let files := (Storage.filesBelow storage rootPath).map (Path.join rootPath)
    let sources := (files.filter (hasEnding s.extensions)).map fun path =>
      ⟨seenFrom projectRoot path, seenFrom rootPath path, path⟩
    (sources.filter fun f => !globs.any (Glob.matchParts · f.relative.toList), [])
  else ([], [.warning ("Scan root " ++ rootPath ++ " does not exist, skipping")])

/-- The sources of a project. -/
def select (storage : σ) (projectRoot : String) (s : Settings) :
    Except SettingsError (List SourceFile × List Notice) :=
  s.excludeGlobs.map fun globs =>
    let found := s.roots.map (ofRoot storage projectRoot s globs)
    (SourceFile.dropRepeated ((found.flatMap (·.1)).mergeSort SourceFile.le), found.flatMap (·.2))

end Selection

end Phrasebook
