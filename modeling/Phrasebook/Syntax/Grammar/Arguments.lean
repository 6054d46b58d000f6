import Phrasebook.Syntax.Grammar.Types

/-!
# Arguments

The arguments of a call, and the decorators that are written like calls.
-/

namespace Phrasebook.Syntax.Arguments

open Rule

variable (g : Grammar)

/-- An expression, or one whose elements are spread. -/
def item : Rule Tree := do
  let start ← currentStart
  if ← eat "..." then
    let value ← allowingIn g.assignment
    node .spread start [value]
  else allowingIn g.assignment

/-- Outside a conditional expression's colon. -/
def withoutColon (rule : Rule α) : Rule α := within (fun c => { c with colonAhead := false }) rule

/-- Arguments in parentheses. -/
def list : Rule (List Tree) :=
  withoutColon do
    expect "("
    let args ← commaList ")" (item g)
    expect ")"
    return args

/-! ## Decorators -/

/-- A name with points after it. -/
def path (start : Nat) (first : Tree) : Rule Tree := do
  let names ← collect do
    if ← eat "." then
      let _ ← eat "#"
      let name ← anyName
      return some (name, ← previousStop)
    else return none
  return names.foldl (fun t (name, stop) => .node (.member name) ⟨start, stop⟩ [t]) first

/-- What a decorator names. -/
def decoratorTarget : Rule Tree := do
  let start ← currentStart
  if ← eat "(" then
    let e ← g.expression
    expect ")"
    return e
  else
    let name ← variableName
    path start (← node (.name name) start [])

def decorator : Rule Tree := do
  let start ← currentStart
  expect "@"
  let inner ← currentStart
  let target ← decoratorTarget g
  let types ← Types.arguments? g
  if ← isSign "(" then
    let args ← list g
    let call ← node .call inner (target :: types ++ args)
    node .decorator start [call]
  else node .decorator start (target :: types)

def decorators : Rule (List Tree) :=
  collect do
    if ← isSign "@" then return some (← decorator g) else return none

end Phrasebook.Syntax.Arguments
