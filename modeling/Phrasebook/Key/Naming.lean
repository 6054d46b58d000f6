import Phrasebook.Project.Path
import Phrasebook.Settings.Basic
import Phrasebook.Text.Casing
import Phrasebook.Text.Slug

/-!
# Names of keys

A key has three parts between points: a namespace from the directories of a file, the component
that the file is, and the slug of a text.
-/

namespace Phrasebook

namespace Key

/-- A part of a key holds no point. -/
def underscored (text : List Char) : List Char := text.map fun c => if c = '.' then '_' else c

/-- The name of a file without its ending. -/
def component (path : String) : String :=
  let name := (Path.fileName? path).getD path.toList
  match Path.splitLastPoint? name with
  | some (stem, _) => String.ofList (underscored (if stem.isEmpty then name else stem))
  | none => String.ofList (underscored name)

/-- Directories in round or square brackets group files or stand for many. -/
def isBracketed (segment : List Char) : Bool :=
  (segment.head? == some '(' && segment.getLast? == some ')') ||
    (segment.head? == some '[' && segment.getLast? == some ']')

/-- The name of the function that looks up the texts of a namespace. -/
def accessor (spaceName : String) : String :=
  let name := Text.pascal spaceName.toList
  if name.isEmpty then "tMessages" else String.ofList ('t' :: name)

/-- The last part of a key: what follows its namespace. -/
def relative (spaceName key : String) : String :=
  match Text.after? (spaceName.toList ++ ['.']) key.toList with
  | some rest => String.ofList rest
  | none => key

end Key

/-- What decides about the names of keys. -/
structure KeyRules where
  defaultNamespace : String
  groupingSegments : List String
  slugMaxWords : Nat
  slugMaxChars : Nat

def KeyRules.ofSettings (s : Settings) : KeyRules where
  defaultNamespace := s.defaultNamespace
  groupingSegments := s.groupingSegments
  slugMaxWords := s.slugMaxWords
  slugMaxChars := s.slugMaxChars

namespace KeyRules

/-- A directory that gives no namespace its name. -/
def isGrouping (rules : KeyRules) (segment : List Char) : Bool :=
  rules.groupingSegments.contains (String.ofList segment) || Key.isBracketed segment

/-- The namespace of a file: the first of its directories that is not a grouping one. -/
def spaceName (rules : KeyRules) (withinRoot : String) : String :=
  let segments := (Text.splitBy (· == '/') withinRoot.toList).filter fun s => !s.isEmpty
  match segments.dropLast.find? fun s => !rules.isGrouping s with
  | some segment => String.ofList (Key.underscored segment)
  | none => rules.defaultNamespace

/-- The key that a text in a file asks for. -/
def key (rules : KeyRules) (withinRoot text : String) : String :=
  let slug := Text.slug rules.slugMaxWords rules.slugMaxChars text.toList
  rules.spaceName withinRoot ++ "." ++ Key.component withinRoot ++ "." ++ String.ofList slug

end KeyRules

end Phrasebook
