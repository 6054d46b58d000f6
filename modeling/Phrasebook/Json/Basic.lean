import Phrasebook.Number.Binary64
import Phrasebook.Table

/-!
# JSON values

Members of an object are kept in the order of their names, each name once.
-/

namespace Phrasebook

open Number (Binary64)

/-- A JSON number: whole numbers of 64 bits are kept exactly, all others as doubles. -/
inductive JsonNumber where
  | natural (n : Nat)
  | negative (magnitude : Nat)
  | real (x : Binary64)
  deriving DecidableEq, Repr

/-- A JSON value. -/
inductive Json where
  | null
  | bool (b : Bool)
  | number (n : JsonNumber)
  | string (s : String)
  | array (items : List Json)
  | object (members : List (String × Json))
  deriving Repr, Inhabited

namespace Json

/-- An object from members in any order; a later binding of a name replaces an earlier one. -/
def ofMembers (members : List (String × Json)) : Json :=
  .object (Table.ofList members)

/-- A natural number as a JSON value. -/
def ofNat (n : Nat) : Json := .number (.natural n)

/-- A list of texts. -/
def ofStrings (items : List String) : Json := .array (items.map .string)

def member? (j : Json) (name : String) : Option Json :=
  match j with
  | .object members => Table.get? name members
  | _ => none

def string? : Json → Option String
  | .string s => some s
  | _ => none

def bool? : Json → Option Bool
  | .bool b => some b
  | _ => none

def natural? : Json → Option Nat
  | .number (.natural n) => some n
  | _ => none

def array? : Json → Option (List Json)
  | .array items => some items
  | _ => none

def object? : Json → Option (List (String × Json))
  | .object members => some members
  | _ => none

end Json

end Phrasebook
