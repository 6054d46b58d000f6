import Phrasebook.Json.Writer
import Phrasebook.Table
import Phrasebook.Text.Lines
import Phrasebook.Text.Split
import Phrasebook.Text.Spacing

/-!
# The style of a document

A document is written the way it was found: with its indent, its line endings, and a line feed at
its end or none.
-/

namespace Phrasebook

structure Style where
  indent : List Char
  /-- Lines end with a carriage return and a line feed. -/
  carriageReturns : Bool
  finalNewline : Bool
  deriving DecidableEq, Repr

namespace Style

/-- Two blanks a level, plain line feeds, one of them at the end. -/
def standard : Style := ⟨[' ', ' '], false, true⟩

/-- A line's indent, if the line is indented and starts with a name or a closing bracket. -/
def indentOfLine? (line : List Char) : Option (List Char) :=
  match Text.trimStart line with
  | c :: rest =>
    if c == '"' || c == '}' || c == ']' then
      let indent := line.take (line.length - (rest.length + 1))
      if indent.isEmpty then none else some indent
    else none
  | [] => none

/-- The style of a text. The first indented line that can show the indent does. -/
def detect (text : List Char) : Style where
  indent := ((Text.lines text).findSome? indentOfLine?).getD standard.indent
  carriageReturns := Text.contains ['\r', '\n'] text
  finalNewline := text.getLast? == some '\n'

def newline (s : Style) : List Char := if s.carriageReturns then ['\r', '\n'] else ['\n']

def layout (s : Style) : Json.Layout := ⟨s.indent, s.newline⟩

/-- A document with its names in order. -/
def render (s : Style) (members : Table Json) : String :=
  String.ofList (Json.prettyChars s.layout 0 (.object members) ++
    if s.finalNewline then s.newline else [])

end Style

end Phrasebook
