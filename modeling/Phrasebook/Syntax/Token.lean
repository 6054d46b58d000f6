/-!
# Tokens

A token is what the grammar reads at a time. Keywords are words; the grammar tells them apart by
where they stand. A greater-than sign is always a token of its own, since it may close a list of
types; signs that start with it are joined where an operator is expected.
-/

namespace Phrasebook.Syntax

/-- A stretch of the text in byte offsets. -/
structure Span where
  start : Nat
  stop : Nat
  deriving DecidableEq, Repr

/-- Why a source cannot be read. -/
inductive Cause where
  | expected (what : String)
  | unexpected
  | unterminated (what : String)
  | badEscape
  | badNumber
  | nameAfterNumber
  | unknownCharacter
  | forbidden (what : String)
  | closingTagMismatch
  | tooDeep
  deriving DecidableEq, Repr

def Cause.message : Cause → String
  | .expected what => "expected " ++ what
  | .unexpected => "unexpected token"
  | .unterminated what => "unterminated " ++ what
  | .badEscape => "invalid escape sequence"
  | .badNumber => "invalid number"
  | .nameAfterNumber => "identifier directly after number"
  | .unknownCharacter => "unexpected character"
  | .forbidden what => what ++ " is not allowed here"
  | .closingTagMismatch => "closing tag does not match the opening tag"
  | .tooDeep => "nested too deeply"

/-- A fault and the byte offset where it shows. -/
structure Fault where
  offset : Nat
  cause : Cause
  deriving DecidableEq, Repr

inductive Token where
  /-- An identifier or a keyword; one spelled with an escape is never a keyword. -/
  | word (text : String) (escaped : Bool)
  | sign (text : String)
  /-- A string's value, unless it holds half a surrogate pair. -/
  | string (value : Option String)
  | number
  /-- A stretch of a template; the last one ends at the closing backtick. -/
  | template (last : Bool)
  | regex
  /-- Text between markup tags. -/
  | markupText
  /-- A string given to a markup attribute. -/
  | markupString
  /-- What cannot be a token. A stuck one is never passed over. -/
  | invalid (fault : Fault) (stuck : Bool)
  | endOfText
  deriving DecidableEq, Repr

/-- A token where it stands, and what follows it. -/
structure Lexeme where
  token : Token
  span : Span
  /-- A line end stands before the token. -/
  newline : Bool
  rest : List Char
  deriving Repr

end Phrasebook.Syntax
