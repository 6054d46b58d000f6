import Phrasebook.Syntax.Grammar.Patterns
import Phrasebook.Syntax.Grammar.Types

/-!
# Declarations of variables
-/

namespace Phrasebook.Syntax.Variables

open Rule

variable (g : Grammar)

/-- Whether `let` starts a declaration, as the token behind it tells. -/
def isAfterLet (token : Token) : Bool :=
  match token with
  | .word text escaped => escaped || !keywords.contains text
  | .sign sign => sign == "\x7b" || sign == "["
  | _ => false

/-- Whether variables are declared here. -/
def atKeyword : Rule Bool := do
  if (← isWord "var") || (← isWord "const") then return true
  if ← isWord "let" then return isAfterLet (← peek).token else return false

/-- The variable of a loop over the parts of a value takes no value of its own. -/
def atLoopOver : Rule Bool := return (← isWord "of") || (← isWord "in")

/-- A pattern with its type and its value. -/
def declarator (constant inLoop : Bool) : Rule Tree := do
  let start ← currentStart
  let pattern ← g.target
  match pattern.kind with
  | .bindingName _ => discard (eat "!")
  | _ => pure ()
  let target := pattern.adding (← Types.annotation? g)
  if inLoop && (← atLoopOver) then node .declarator start [target]
  else if ← eat "=" then
    let value ← g.assignment
    node .declarator start [target, value]
  else
    match pattern.kind with
    | .bindingName _ => node .declarator start [target]
    | _ =>
      if inLoop || constant || (← get).context.ambient then node .declarator start [target]
      else failAt start (.expected "=")

/-- Declarators with commas between them; the last may be missing. -/
def declarators (constant inLoop : Bool) : Nat → Rule (List Tree)
  | 0 => fail .tooDeep
  | fuel + 1 => do
    if (← isSign ";") || (← atEnd) then return []
    let first ← declarator g constant inLoop
    if ← eat "," then return first :: (← declarators constant inLoop fuel) else return [first]

/-- Passes over tokens up to where a statement may end. -/
def skipToEnd : Nat → Rule Unit
  | 0 => return
  | fuel + 1 => do
    if ← eatStatementEnd then return
    bump
    if ← isInvalid then return
    skipToEnd fuel

/-- Variables from their keyword on, without the end of the statement. -/
def list (inLoop : Bool) : Rule Tree := do
  let start ← currentStart
  let constant ← isWord "const"
  let isVar ← isWord "var"
  bump
  let fuel ← remaining
  let read := declarators g constant inLoop fuel
  let found ← if inLoop && isVar then read else allowingIn read
  node .variables start found

/-- A statement that declares variables. What follows without an end is passed over. -/
def declaration : Rule Tree := do
  let t ← list g false
  if !(← eatStatementEnd) then
    let _ ← recover g.expression
    skipToEnd (← remaining)
  node .variables t.start t.children

/-! ## Resources -/

/-- Whether `using` stands here in front of a name on the same line. -/
def atUsing : Rule Bool := do
  let next ← peek
  return (← isWord "using") && isReference next.token && !next.newline

/-- Whether `using` declares here, perhaps after `await`. -/
def atResources : Rule Bool := do
  if ← atUsing then return true
  if !(← isWord "await") then return false
  lookAhead do
    bump
    atUsing

/-- A statement that declares resources. -/
def resources : Rule Tree := do
  let start ← currentStart
  let _ ← eatWord "await"
  bump
  let found ← declarators g false false (← remaining)
  expectStatementEnd
  node .resources start found

/-- The resource of a loop, after `using` was read as a name. -/
def loopResource? (first : Tree) : Rule (Option Tree) := do
  let isUsing := match first with
    | .node (.name text) _ _ | .node .await _ [.node (.name text) _ _] => text == "using"
    | _ => false
  if isUsing && !(← isWord "of") && ((← peekIsWord "of") || (← peekIsWord "in")) then
    let name ← bindingName
    return some (← node .resources first.start [name])
  else return none

end Phrasebook.Syntax.Variables
