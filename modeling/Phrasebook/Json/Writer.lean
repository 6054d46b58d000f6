import Phrasebook.Json.Basic

/-!
# Writing JSON

Only quotes, backslashes and control characters are escaped. A layout gives the indent and the line
ending; without one the text is compact. Empty arrays and objects are written on one line.
-/

namespace Phrasebook.Json

open Number (Binary64)

/-- Doubles are positional from five places behind the point up to sixteen before it. -/
def realLayout : Binary64.Layout := ⟨-5, 16⟩

def JsonNumber.text : JsonNumber → String
  | .natural n => toString n
  | .negative n => "-" ++ toString n
  | .real x => x.text realLayout

def hexDigit (n : Nat) : Char := (Nat.digitChar n)

/-- How one character stands in a string. -/
def escapeChar (c : Char) : List Char :=
  match c with
  | '"' => ['\\', '"']
  | '\\' => ['\\', '\\']
  | '\n' => ['\\', 'n']
  | '\r' => ['\\', 'r']
  | '\t' => ['\\', 't']
  | '\x08' => ['\\', 'b']
  | '\x0c' => ['\\', 'f']
  | c =>
    if c.toNat < 0x20 then
      ['\\', 'u', '0', '0', hexDigit (c.toNat / 16), hexDigit (c.toNat % 16)]
    else [c]

/-- A string in quotes. -/
def quote (s : String) : List Char :=
  '"' :: s.toList.flatMap escapeChar ++ ['"']

mutual

/-- A value on one line without blanks. -/
def compactChars : Json → List Char
  | .null => "null".toList
  | .bool true => "true".toList
  | .bool false => "false".toList
  | .number n => (JsonNumber.text n).toList
  | .string s => quote s
  | .array items => '[' :: compactItems items ++ [']']
  | .object members => '{' :: compactMembers members ++ ['}']

def compactItems : List Json → List Char
  | [] => []
  | [item] => compactChars item
  | item :: rest => compactChars item ++ ',' :: compactItems rest

def compactMembers : List (String × Json) → List Char
  | [] => []
  | [(name, item)] => quote name ++ ':' :: compactChars item
  | (name, item) :: rest =>
    quote name ++ ':' :: (compactChars item ++ ',' :: compactMembers rest)

end

/-- A value on one line without blanks. -/
def compact (j : Json) : String := String.ofList (compactChars j)

/-- The indent of one level and the line ending. -/
structure Layout where
  indent : List Char
  newline : List Char
  deriving DecidableEq, Repr

def Layout.line (l : Layout) (level : Nat) : List Char :=
  l.newline ++ (List.replicate level l.indent).flatten

mutual

/-- A value over several lines, its first line standing at `level`. -/
def prettyChars (l : Layout) (level : Nat) : Json → List Char
  | .array [] => ['[', ']']
  | .array items => '[' :: prettyItems l (level + 1) items ++ l.line level ++ [']']
  | .object [] => ['{', '}']
  | .object members => '{' :: prettyMembers l (level + 1) members ++ l.line level ++ ['}']
  | .null => "null".toList
  | .bool true => "true".toList
  | .bool false => "false".toList
  | .number n => (JsonNumber.text n).toList
  | .string s => quote s

def prettyItems (l : Layout) (level : Nat) : List Json → List Char
  | [] => []
  | [item] => l.line level ++ prettyChars l level item
  | item :: rest => l.line level ++ prettyChars l level item ++ ',' :: prettyItems l level rest

def prettyMembers (l : Layout) (level : Nat) : List (String × Json) → List Char
  | [] => []
  | [(name, item)] => l.line level ++ quote name ++ ':' :: ' ' :: prettyChars l level item
  | (name, item) :: rest =>
    l.line level ++ quote name ++ ':' :: ' ' :: prettyChars l level item ++
      ',' :: prettyMembers l level rest

end

/-- Two blanks a level and plain line feeds. -/
def Layout.standard : Layout := ⟨[' ', ' '], ['\n']⟩

/-- A value over several lines. -/
def pretty (j : Json) (l : Layout) : String := String.ofList (prettyChars l 0 j)

end Phrasebook.Json
