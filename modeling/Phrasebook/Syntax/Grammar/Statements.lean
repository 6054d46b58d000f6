import Phrasebook.Syntax.Grammar.Exchange

/-!
# Statements
-/

namespace Phrasebook.Syntax.Statements

open Rule

variable (g : Grammar)

/-- A statement that is no declaration. -/
def inner : Rule Tree := g.statement false false

def parenthesizedExpression : Rule Tree := do
  expect "("
  let e ← allowingIn g.expression
  expect ")"
  return e

/-! ## Branches -/

def branch : Rule Tree := do
  let start ← currentStart
  bump
  let condition ← parenthesizedExpression g
  let yes ← inner g
  if ← eatWord "else" then
    let no ← inner g
    node .branch start [condition, yes, no]
  else node .branch start [condition, yes]

/-- The statements of a case. -/
def caseBody : Rule (List Tree) :=
  collect do
    if (← isWord "case") || (← isWord "default") || (← isSign "\x7d") then return none
    return some (← g.statement true false)

/-- The cases of a switch. There is at most one default. -/
def cases : Nat → Bool → Rule (List Tree)
  | 0, _ => fail .tooDeep
  | fuel + 1, hasDefault => do
    let start ← currentStart
    if ← eatWord "case" then
      let testStart ← currentStart
      let test ← allowingIn g.expression
      let test ← node .caseTest testStart [test]
      expect ":"
      let body ← caseBody g
      let c ← node .switchCase start (test :: body)
      return c :: (← cases fuel hasDefault)
    else if ← eatWord "default" then
      if hasDefault then fail (.forbidden "a second default")
      expect ":"
      let body ← caseBody g
      let c ← node .switchCase start body
      return c :: (← cases fuel true)
    else return []

def switch : Rule Tree := do
  let start ← currentStart
  bump
  let subject ← parenthesizedExpression g
  expect "\x7b"
  let found ← cases g (← remaining) false
  expect "\x7d"
  node .switchStatement start (subject :: found)

/-! ## Loops -/

def whileLoop : Rule Tree := do
  let start ← currentStart
  bump
  let condition ← parenthesizedExpression g
  let body ← inner g
  node .loop start [condition, body]

def doLoop : Rule Tree := do
  let start ← currentStart
  bump
  let body ← inner g
  expectWord "while"
  let condition ← parenthesizedExpression g
  let _ ← eat ";"
  node .loop start [body, condition]

/-- The rest of a loop's head over the parts of a value. -/
def overParts : Rule (List Tree) := do
  if ← eatWord "of" then return [← allowingIn g.assignment]
  else
    bump
    return [← allowingIn g.expression]

/-- The test and the step in a loop's head. -/
def testAndStep : Rule (List Tree) := do
  let test ←
    if ← eat ";" then pure []
    else
      let e ← allowingIn g.expression
      expect ";"
      pure [e]
  if ← isSign ")" then return test else return test ++ [← allowingIn g.expression]

def loopHead : Rule (List Tree) := do
  if ← Variables.atKeyword then
    let first ←
      within (fun c => { c with inOperator := false }) (Variables.list g true)
    if ← Variables.atLoopOver then return first :: (← overParts g)
    else
      expect ";"
      return first :: (← testAndStep g)
  else if ← eat ";" then testAndStep g
  else
    let first ← within (fun c => { c with inOperator := false }) g.expression
    if let some resource ← Variables.loopResource? first then
      return resource :: (← overParts g)
    if ← Variables.atLoopOver then
      let target ← Patterns.yield (Patterns.ofAssigned first)
      return target :: (← overParts g)
    else
      expect ";"
      return first :: (← testAndStep g)

def forLoop : Rule Tree := do
  let start ← currentStart
  bump
  let _ ← eatWord "await"
  expect "("
  let head ← loopHead g
  expect ")"
  let body ← inner g
  node .loop start (head ++ [body])

/-! ## Leaving -/

/-- A jump out of a loop, perhaps to a label. -/
def jump : Rule Tree := do
  let start ← currentStart
  bump
  if !(← eatStatementEnd) then
    let _ ← variableName
    expectStatementEnd
  node .jump start []

def returnStatement : Rule Tree := do
  let start ← currentStart
  bump
  if ← eatStatementEnd then node .returnStatement start []
  else
    let e ← allowingIn g.expression
    expectStatementEnd
    node .returnStatement start [e]

def throwStatement : Rule Tree := do
  let start ← currentStart
  bump
  if ← afterNewline then fail (.forbidden "a line end after throw")
  let e ← allowingIn g.expression
  expectStatementEnd
  node .throwStatement start [e]

/-! ## Handling failures -/

def catchClause : Rule Tree := do
  let start ← currentStart
  expectWord "catch"
  let parameter ←
    if ← eat "(" then
      let pattern ← g.target
      let types ← Types.annotation? g
      expect ")"
      pure [pattern.adding types]
    else pure []
  let body ← Functions.block g
  node .catchClause start (parameter ++ [body])

/-- The clauses after the block of a `try`. -/
def clauses : Rule (List Tree) := do
  let caught ← if ← isWord "catch" then pure [← catchClause g] else pure []
  let final ← if ← eatWord "finally" then pure [← Functions.block g] else pure []
  return caught ++ final

def tryStatement : Rule Tree := do
  let start ← currentStart
  bump
  let body ← Functions.block g
  let more ← clauses g
  node .tryStatement start (body :: more)

/-- Clauses without a `try` are passed over. -/
def strayClauses : Rule Tree := do
  let start ← currentStart
  let _ ← recover (clauses g)
  node .invalid start []

/-! ## Expressions -/

/-- A statement that starts with an expression: a label, a declaration that a name opens, or the
expression alone. -/
def ofExpression (decorators : List Tree) : Rule Tree := do
  let start ← currentStart
  let e ← allowingIn g.expression
  let isName := match e.kind with
    | .name _ => true
    | _ => false
  let labelled ← if isName then eat ":" else pure false
  if labelled then
    let body ← inner g
    return ← node .labelled start [body]
  match ← if isName then Declarations.afterName? g e decorators else pure none with
  | some t => return t
  | none =>
    if ← eatStatementEnd then node .expressionStatement start [e]
    else if ← atOperatorSign then
      let t ← g.operationAfter e
      node .expressionStatement start [t]
    else fail (.expected ";")

/-! ## By their first word -/

def wordStatement? (text : String) : Rule (Option Tree) := do
  let start ← currentStart
  match text with
  | "if" => return some (← branch g)
  | "switch" => return some (← switch g)
  | "while" => return some (← whileLoop g)
  | "do" => return some (← doLoop g)
  | "for" => return some (← forLoop g)
  | "break" | "continue" => return some (← jump)
  | "return" => return some (← returnStatement g)
  | "throw" => return some (← throwStatement g)
  | "try" => return some (← tryStatement g)
  | "catch" | "finally" => return some (← strayClauses g)
  | "function" => return some (← Functions.definition g start false true)
  | "debugger" =>
    bump
    expectStatementEnd
    return some (← node .emptyStatement start [])
  | "with" =>
    bump
    let subject ← parenthesizedExpression g
    let body ← inner g
    return some (← node .withStatement start [subject, body])
  | _ => return none

/-- A modifier that may not stand in front of an interface, but is passed over. -/
def atModifiedInterface : Rule Bool := do
  match ← word? with
  | some text => return ["public", "static", "abstract"].contains text && (← peekIsWord "interface")
  | none => return false

/-- Imports and exports inside other statements: only calls of `import` are allowed. -/
def misplacedExchange : Rule Tree := do
  let start ← currentStart
  if ← Exchange.atImportExpression then
    let e ← g.expression
    let _ ← eatStatementEnd
    node .expressionStatement start [e]
  else fail (.forbidden "import or export")

def exchange (top : Bool) (decorators : List Tree) : Rule Tree := do
  if !top || (← Exchange.atImportExpression) then misplacedExchange g
  else if ← isWord "import" then Exchange.importDeclaration g
  else Exchange.exportDeclaration g decorators

/-- A statement. -/
def statement (declarations top : Bool) : Rule Tree := do
  let start ← currentStart
  let decorators ← Arguments.decorators g
  if (← isWord "import") || (← isWord "export") then return ← exchange g top decorators
  if ← Declarations.atConstantEnumeration then return ← Declarations.constantEnumeration g
  if ← atModifiedInterface then
    bump
    bump
    return ← Declarations.interface g start
  if ← isWord "class" then return ← Classes.definition g start decorators true
  if (← isWord "var") || (declarations && (← Variables.atKeyword)) then
    return ← Variables.declaration g
  if declarations && (← Variables.atResources) then return ← Variables.resources g
  if ← Functions.atAsyncFunction then return ← Functions.asyncOrPlain g true
  match (← get).token with
  | .word text false =>
    match ← wordStatement? g text with
    | some t => return t
    | none => ofExpression g decorators
  | .sign "\x7b" => Functions.block g
  | .sign ";" =>
    bump
    node .emptyStatement start []
  | _ => ofExpression g decorators

end Phrasebook.Syntax.Statements
