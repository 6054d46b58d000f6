import Phrasebook.Syntax.Grammar.Markup
import Phrasebook.Syntax.Grammar.Operators
import Phrasebook.Syntax.Grammar.Statements
import Phrasebook.Text.Bytes

/-!
# Modules

The grammar is closed here: its rules call each other to a depth that no text of a given size can
reach. A module is read whole, up to the first fault that cannot be passed over.
-/

namespace Phrasebook.Syntax

/-- The rules, which may call each other to a depth. -/
def Grammar.ofDepth : Nat → Grammar
  | 0 => .closed
  | depth + 1 => {
      expression := fun s => Operators.expression (ofDepth depth) s
      assignment := fun s => Operators.assignment (ofDepth depth) s
      operation := fun s => Operators.operation (ofDepth depth) s
      operationAfter := fun t s => Operators.operationAfter (ofDepth depth) t s
      unary := fun s => Operators.unary (ofDepth depth) s
      operand := fun s => Operands.operand (ofDepth depth) s
      statement := fun declarations top s => Statements.statement (ofDepth depth) declarations top s
      type := fun s => Types.type (ofDepth depth) s
      target := fun s => Patterns.target (ofDepth depth) s
      markup := fun inExpression s => Markup.element (ofDepth depth) inExpression s }

/-- The statements up to the end of the text. -/
def moduleRule (g : Grammar) : Rule Tree := do
  let start ← Rule.currentStart
  let items ← Rule.collect do
    if ← Rule.atEnd then return none
    return some (← g.statement true true)
  Rule.node .module start items

/-- The text without a mark of its byte order. -/
def withoutMark : List Char → List Char
  | '\uFEFF' :: rest => rest
  | text => text

/-- Passes over a first line that names an interpreter. -/
def skipInterpreter : Nat → List Char → Nat × List Char
  | offset, '#' :: '!' :: rest =>
    let line := rest.takeWhile fun c => !isLineEnd c
    (offset + 2 + Text.byteLength line, rest.drop line.length)
  | offset, text => (offset, text)

/-- The state in front of the first token. -/
def State.initial (dialect : Dialect) (text : List Char) : State :=
  let size := Text.byteLength text
  let (offset, rest) := skipInterpreter 0 text
  let first := lexeme (size + 1) offset rest
  { token := first.token, span := first.span, newline := true, following := first.rest
    previousStop := offset, size := size, arrowStart := none, context := Context.initial
    dialect := dialect }

/-- A depth that no text of a size can reach. -/
def depthFor (size : Nat) : Nat := 8 * size + 64

/-- Reads a module. Offsets count from after the mark of the byte order. -/
def readModule (dialect : Dialect) (text : List Char) : Except Fault Tree :=
  let state := State.initial dialect (withoutMark text)
  match moduleRule (Grammar.ofDepth (depthFor state.size)) state with
  | .ok t _ => .ok t
  | .error fault _ => .error fault

end Phrasebook.Syntax
