import Phrasebook.Key.Derivation

/-!
# Lookups

The call that stands for a text: the accessor of its namespace, applied to the rest of its key.
Between tags and as the value of an attribute the call needs braces.
-/

namespace Phrasebook

/-- How one character stands in a plain string. -/
def quotedChar (c : Char) : List Char := if c == '\\' || c == '\'' then ['\\', c] else [c]

/-- A text as a string in plain quotes. -/
def quoted (text : String) : String :=
  String.ofList ('\'' :: text.toList.flatMap quotedChar ++ ['\''])

namespace Entry

/-- The call that looks an entry up. -/
def lookupCall (e : Entry) : String :=
  Key.accessor e.spaceName ++ "(" ++ quoted e.relativeKey ++ ")"

/-- What stands in the place of an entry's token. -/
def replacement (e : Entry) : String :=
  match e.candidate.token with
  | .stringLiteral => e.lookupCall
  | .markupText | .markupAttribute => "\x7b" ++ e.lookupCall ++ "\x7d"

end Entry

end Phrasebook
