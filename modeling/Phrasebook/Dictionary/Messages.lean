import Phrasebook.Json.Writer
import Phrasebook.Text.Split

/-!
# The messages of one locale

A locale's messages are a tree: an object whose members are texts or further objects. A key names a
place in the tree by the names on the way there, with points between them. Looking at a place says
whether a text can be put there.
-/

namespace Phrasebook

/-- The names on the way to the place of a key; never empty. -/
def keySegments (key : String) : List String :=
  (Text.splitBy (· == '.') key.toList).map String.ofList

/-- Names with points between them. -/
def keyOf (segments : List String) : String := ".".intercalate segments

/-- What stands at the place of a key, beside a text that might be put there. -/
inductive Probe where
  /-- Nothing is there, and nothing stands in the way. -/
  | free
  /-- The same text. -/
  | same
  /-- Another text, or another value as it is written. -/
  | different (held : String)
  /-- Further keys are there, or the way leads through a value. -/
  | blocked (place : String)
  deriving DecidableEq, Repr

abbrev Messages := Table Json

namespace Messages

/-- The text at the end of a way. -/
def leafAt? : List String → Messages → Option String
  | [], _ => none
  | [last], messages => (Table.get? last messages).bind Json.string?
  | segment :: rest, messages =>
    match Table.get? segment messages with
    | some (.object inner) => leafAt? rest inner
    | _ => none

/-- The text that a key holds. -/
def leaf? (key : String) (messages : Messages) : Option String := leafAt? (keySegments key) messages

/-- Looks at the end of a way that started with the segments passed already. -/
def probeAt (passed : List String) (text : String) : List String → Messages → Probe
  | [], _ => .free
  | [last], messages =>
    match Table.get? last messages with
    | none => .free
    | some (.object _) => .blocked (keyOf (passed ++ [last]))
    | some (.string held) => if held = text then .same else .different held
    | some other => .different (Json.compact other)
  | segment :: rest, messages =>
    match Table.get? segment messages with
    | none => .free
    | some (.object inner) => probeAt (passed ++ [segment]) text rest inner
    | some _ => .blocked (keyOf (passed ++ [segment]))

/-- What stands at the place of a key. -/
def probe (key text : String) (messages : Messages) : Probe :=
  probeAt [] text (keySegments key) messages

/-- Puts a text at the end of a way, with objects on the way where nothing is. A way that leads
through another value changes nothing. -/
def putAt (text : String) : List String → Messages → Messages
  | [], messages => messages
  | [last], messages => Table.put last (.string text) messages
  | segment :: rest, messages =>
    match Table.get? segment messages with
    | none => Table.put segment (.object (putAt text rest [])) messages
    | some (.object inner) => Table.put segment (.object (putAt text rest inner)) messages
    | some _ => messages

/-- Puts a text at the place of a key. -/
def put (key text : String) (messages : Messages) : Messages :=
  putAt text (keySegments key) messages

/-- A key inside the object of another. An object with an empty name adds nothing in front. -/
def nestedKey (outer name : String) : String :=
  if outer.isEmpty then name else outer ++ "." ++ name

mutual

/-- The keys of all values below a value. -/
def keysOfValue (key : String) : Json → List String
  | .object members => keysOfMembers key members
  | _ => [key]

def keysOfMembers (outer : String) : List (String × Json) → List String
  | [] => []
  | (name, value) :: rest =>
    keysOfValue (nestedKey outer name) value ++ keysOfMembers outer rest

end

/-- The keys of all values that are no objects, in order. -/
def leafKeys (messages : Messages) : List String :=
  (keysOfMembers "" messages).mergeSort fun a b => !(b < a)

end Messages

end Phrasebook
