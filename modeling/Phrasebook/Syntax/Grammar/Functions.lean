import Phrasebook.Syntax.Grammar.Arguments

/-!
# Functions

A function's tree holds its generic parameters, its parameters, its result type and, last, its body.
A function may lack its body where a statement may end.
-/

namespace Phrasebook.Syntax.Functions

open Rule

variable (g : Grammar)

/-- Statements in braces; the end of the text closes them too. -/
def block : Rule Tree := do
  let start ← currentStart
  expect "\x7b"
  let statements ← collect do
    if (← isSign "\x7d") || (← atEnd) then return none
    return some (← g.statement true false)
  let _ ← eat "\x7d"
  node .block start statements

/-- What surrounds the body of a function. -/
def bodyContext (isAsync isGenerator : Bool) (c : Context) : Context :=
  { c with
    inOperator := true, conditional := false, colonAhead := false
    generator := isGenerator, asynchronous := isAsync }

def body (isAsync isGenerator : Bool) : Rule Tree :=
  within (bodyContext isAsync isGenerator) (block g)

def body? (isAsync isGenerator : Bool) : Rule (List Tree) := do
  if !(← isSign "\x7b") && (← eatStatementEnd) then return []
  else return [← body g isAsync isGenerator]

/-- A parameter with its decorators. -/
def parameter : Rule Tree := do
  let start ← currentStart
  let decorators ← Arguments.decorators g
  let p ← Types.plainParameter g
  if decorators.isEmpty then return p else node .decorator start (decorators ++ [p])

/-- Parameters in parentheses. -/
def parameters : Rule (List Tree) := do
  expect "("
  let params ← commaList ")" (parameter g)
  expect ")"
  return params

/-- A result type after a colon. -/
def result? : Rule (List Tree) := do
  if ← isSign ":" then return [← Types.resultAfter g ":"] else return []

/-- A function after its name. -/
def rest (isAsync isGenerator : Bool) : Rule (List Tree) := do
  let generics ← Types.parameters? g
  let params ←
    within (fun c => { c with generator := isGenerator, asynchronous := isAsync }) (parameters g)
  let result ← result? g
  let body ← body? g isAsync isGenerator
  return generics ++ params ++ result ++ body

/-- A function from its keyword on. -/
def definition (start : Nat) (isAsync nameNeeded : Bool) : Rule Tree := do
  expectWord "function"
  let isGenerator ← eat "*"
  let named ← if nameNeeded then pure true else isAnyWord
  let name ← if named then pure (some (← variableName)) else pure none
  let parts ← rest g isAsync isGenerator
  node (.function name isAsync) start parts

/-- Whether `async` stands here in front of `function` on the same line. -/
def atAsyncFunction : Rule Bool := do
  let next ← peek
  return (← isWord "async") && next.token == .word "function" false && !next.newline

/-- A function from `async` or its keyword on. -/
def asyncOrPlain (nameNeeded : Bool) : Rule Tree := do
  let start ← currentStart
  if ← isWord "async" then
    bump
    definition g start true nameNeeded
  else definition g start false nameNeeded

/-- The body of an arrow function: a block or an expression. -/
def arrowBody (isAsync : Bool) : Rule Tree := do
  if ← isSign "\x7b" then body g isAsync false
  else within (fun c => { c with asynchronous := isAsync, generator := false }) g.assignment

end Phrasebook.Syntax.Functions
