import Phrasebook.Text.Split

/-!
# Paths

A path is a list of components between slashes. A slash in front is a component of its own; points
that mean the same directory count only in front.
-/

namespace Phrasebook.Path

/-- The components of a path. -/
def components (path : List Char) : List (List Char) :=
  let parts := Text.splitBy (· == '/') path
  let kept (parts : List (List Char)) := parts.filter fun p => !p.isEmpty && p != ['.']
  match parts with
  | [] :: _ :: _ => ['/'] :: kept parts
  | ['.'] :: rest => ['.'] :: kept rest
  | _ => kept parts

/-- Components with slashes between them. -/
def ofComponents (parts : List (List Char)) : String :=
  String.ofList (['/'].intercalate parts)

/-- The components of a path with slashes between them. -/
def toSlash (path : String) : String := ofComponents (components path.toList)

/-- Whether two paths have the same components. -/
def same (a b : String) : Bool := components a.toList == components b.toList

/-- The components that follow those of a directory. -/
def after? : (directory path : List (List Char)) → Option (List (List Char))
  | [], rest => some rest
  | d :: directory, p :: path => if d = p then after? directory path else none
  | _ :: _, [] => none

/-- How a path goes on after a directory; empty for the directory itself. -/
def below? (directory path : String) : Option (List (List Char)) :=
  after? (components directory.toList) (components path.toList)

/-- The last component, unless it only leads elsewhere. -/
def fileName? (path : String) : Option (List Char) :=
  match (components path.toList).getLast? with
  | some name => if name == ['.', '.'] || name == ['.'] || name == ['/'] then none else some name
  | none => none

/-- The parts around the last point. -/
def splitLastPoint? (name : List Char) : Option (List Char × List Char) :=
  let back := name.reverse.takeWhile (· != '.')
  if back.length < name.length then
    some (name.take (name.length - back.length - 1), back.reverse)
  else none

/-- What follows the last point of the file's name, unless the name starts there. -/
def extension? (path : String) : Option String := do
  let name ← fileName? path
  let (stem, ending) ← splitLastPoint? name
  if stem.isEmpty then none else some (String.ofList ending)

/-- A path without slashes, and points between slashes, at its end; read from the end. -/
def trimTail : List Char → List Char
  | '/' :: rest =>
    if rest.isEmpty then ['/'] else trimTail rest
  | '.' :: '/' :: rest => trimTail ('/' :: rest)
  | tail => tail

/-- The path of the directory that a path lies in; empty for a single name. -/
def parent (path : String) : String :=
  let tail := trimTail path.toList.reverse
  if tail == ['/'] then ""
  else String.ofList (trimTail (tail.dropWhile (· != '/'))).reverse

/-- A path inside a directory. A path with a slash in front stands for itself. -/
def join (directory path : String) : String :=
  if path.startsWith "/" then path
  else if directory.isEmpty || directory.endsWith "/" then directory ++ path
  else directory ++ "/" ++ path

end Phrasebook.Path
