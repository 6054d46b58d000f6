import Phrasebook.Json.Basic

/-!
# Records written as JSON

A record is written as an object, whose members may come in any order but not twice, or as an array
of its fields in their order, from the first one on. Members with other names are passed over.
-/

namespace Phrasebook.Json

/-- Reads a value as written; nothing if it is none of its kind. -/
abbrev Decoder (α : Type) := Json → Option α

/-- Whether no name in a list stands in another place too. -/
def distinct [BEq α] : List α → Bool
  | [] => true
  | a :: rest => !rest.contains a && distinct rest

/-- The fields of a written record by name. -/
def objectFields? (names : List String) : Json → Option (String → Option Json)
  | .object members =>
    let known := (members.map (·.1)).filter names.contains
    if distinct known then some fun name => Table.get? name members else none
  | _ => none

/-- The fields of a record, which may be written as an array too. -/
def recordFields? (names : List String) : Json → Option (String → Option Json)
  | .array items =>
    if names.length < items.length then none
    else some fun name => Table.get? name (names.zip items)
  | j => objectFields? names j

/-- A field that may be missing. -/
def fieldOr (default : α) (decode : Decoder α) (field : Option Json) : Option α :=
  match field with
  | some j => decode j
  | none => some default

/-- A field that must be there. -/
def field? (decode : Decoder α) (field : Option Json) : Option α := field.bind decode

def listOf? (decode : Decoder α) : Decoder (List α)
  | .array items => items.mapM decode
  | _ => none

def strings? : Decoder (List String) := listOf? string?

/-- The name of a choice without parts: a text, or an object whose only member is that name with
`null`. -/
def choice? : Decoder String
  | .string name => some name
  | .object [(name, .null)] => some name
  | _ => none

/-- A value or `null`. -/
def orNull? (decode : Decoder α) : Decoder (Option α)
  | .null => some none
  | j => (decode j).map some

end Phrasebook.Json
