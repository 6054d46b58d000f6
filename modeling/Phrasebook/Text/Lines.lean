import Phrasebook.Text.Bytes

/-!
# Lines and columns

A position is a line and a column, both counted from one; columns count characters. Lines end at
a line feed. The shown text of a line leaves out its line feed and one carriage return before it.
-/

namespace Phrasebook.Text

/-- A place in a text, both parts counted from one. -/
structure Position where
  line : Nat
  column : Nat
  deriving DecidableEq, Repr

/-- Reading order. -/
def Position.before (p q : Position) : Bool :=
  p.line < q.line || (p.line == q.line && p.column < q.column)

/-- Where reading stands after one more character. -/
def Position.advance (p : Position) (c : Char) : Position :=
  if c = '\n' then ⟨p.line + 1, 1⟩ else ⟨p.line, p.column + 1⟩

/-- The position `n` bytes further on. -/
def positionFrom (p : Position) : List Char → Nat → Position
  | _, 0 => p
  | [], _ + 1 => p
  | c :: rest, n + 1 => positionFrom (p.advance c) rest (n + 1 - c.utf8Size)

/-- The position of a byte offset. -/
def position (text : List Char) (offset : Nat) : Position :=
  positionFrom ⟨1, 1⟩ text offset

/-- The text before the first line feed, and what follows that line feed. -/
def cutLine : List Char → List Char × Option (List Char)
  | [] => ([], none)
  | c :: rest =>
    if c = '\n' then ([], some rest)
    else
      let (line, more) := cutLine rest
      (c :: line, more)

/-- A text's lines without their line feeds; never empty. -/
def lines : List Char → List (List Char)
  | [] => [[]]
  | c :: rest =>
    if c = '\n' then [] :: lines rest
    else
      match lines rest with
      | [] => [[c]]
      | line :: more => (c :: line) :: more

theorem lines_ne_nil (text : List Char) : lines text ≠ [] := by
  fun_induction lines text <;> simp

/-- A line without a carriage return at its end. -/
def trimReturn (line : List Char) : List Char :=
  match line.getLast? with
  | some '\r' => line.dropLast
  | _ => line

/-- The number of lines. -/
def lineCount (text : List Char) : Nat := (lines text).length

/-- The shown text of a line. -/
def lineText? (text : List Char) (line : Nat) : Option (List Char) :=
  if line = 0 then none else ((lines text)[line - 1]?).map trimReturn

/-- The byte offset where a line starts. -/
def lineStart? (text : List Char) (line : Nat) : Option Nat :=
  if line = 0 then none
  else if line ≤ lineCount text then
    some (((lines text).take (line - 1)).foldl (fun n l => n + byteLength l + 1) 0)
  else none

/-- The byte offset of a position, if a character or the end of its line's text stands there. -/
def offset? (text : List Char) (p : Position) : Option Nat :=
  if p.column = 0 then none
  else do
    let start ← lineStart? text p.line
    let shown ← lineText? text p.line
    if p.column - 1 ≤ shown.length then
      some (start + byteLength (shown.take (p.column - 1)))
    else none

/-- The shown lines around a line, up to `radius` on either side, joined by line feeds. -/
def window (text : List Char) (line radius : Nat) : List Char :=
  let first := max (line - radius) 1
  let last := min (line + radius) (lineCount text)
  let shown := ((lines text).drop (first - 1)).take (last + 1 - first)
  List.intercalate ['\n'] (shown.map trimReturn)

end Phrasebook.Text
