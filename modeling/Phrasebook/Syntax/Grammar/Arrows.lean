import Phrasebook.Syntax.Grammar.Functions
import Phrasebook.Syntax.Grammar.Patterns

/-!
# Parentheses and arrow functions

Parentheses hold either expressions or the parameters of an arrow function, which shows only behind
them. They are read as expressions where both are possible.
-/

namespace Phrasebook.Syntax.Arrows

open Rule

variable (g : Grammar)

/-- What stands between parentheses. -/
inductive Item where
  | value (tree : Tree)
  /-- With a type or marked as optional, so it can only be a parameter. -/
  | pattern (tree : Tree)

namespace Item

/-- The item as a parameter. -/
def parameter : Item → Except Fault Tree
  | .pattern t => .ok t
  | .value (.node .spread span [inner]) =>
    return .node .rest span [← Patterns.part .binding inner]
  | .value t => Patterns.part .binding t

def isPattern : Item → Bool
  | .pattern _ => true
  | .value _ => false

def tree : Item → Tree
  | .pattern t | .value t => t

end Item

/-! ## Items -/

def beforeColon (rule : Rule α) : Rule α :=
  within (fun c => { c with conditional := true, colonAhead := true, inOperator := true }) rule

def afterColon (rule : Rule α) : Rule α :=
  within (fun c => { c with conditional := true, colonAhead := false }) rule

/-- The two outcomes of a condition, from the question mark on. -/
def outcomes (condition : Tree) : Rule Tree := do
  expect "?"
  let yes ← beforeColon g.assignment
  expect ":"
  let no ← afterColon g.assignment
  node .conditional condition.start [condition, yes, no]

/-- An item before what tells whether it is a parameter. A name is not taken for a condition yet. -/
def itemHead : Rule Tree := do
  let start ← currentStart
  let next ← peek
  if ← atReference then
    let e ← g.operation
    if ← isOneOf assignmentSigns then Patterns.assignmentAfter g e else return e
  else if (← isSign "...") && isReference next.token then
    bump
    let e ← g.operation
    node .spread start [e]
  else Arguments.item g

/-- Whether a question mark marks a parameter as optional. -/
def atOptionalMark : Rule Bool := do
  if !(← isSign "?") then return false
  match (← peek).token with
  | .sign sign => return [",", "=", ")", ":"].contains sign
  | _ => return false

/-- A parameter after its head and its optional mark. -/
def parameterAfter (head : Tree) : Rule Tree := do
  let bare ← Patterns.yield (Item.parameter (.value head))
  let typed := bare.adding (← Types.annotation? g)
  if ← eat "=" then
    let value ← g.assignment
    node .defaulted head.start [typed, value]
  else return typed

def item : Rule Item := do
  let start ← currentStart
  modify fun s => { s with arrowStart := some start }
  skipParameterModifier
  let head ← itemHead g
  if ← atOptionalMark then
    bump
    match head.kind with
    | .name _ => return .pattern (← parameterAfter g head)
    | _ => failAt head.start (.forbidden "an optional pattern")
  let head ← if (← isSign "?") && head.kind != .spread then outcomes g head else pure head
  if ← isSign ":" then return .pattern (← parameterAfter g head) else return .value head

/-- Items in parentheses. -/
def items : Rule (List Item) :=
  Arguments.withoutColon <| allowingIn do
    expect "("
    let found ← commaList ")" (item g)
    expect ")"
    return found

/-! ## Arrow functions -/

/-- An arrow function from its arrow on. -/
def arrow (start : Nat) (isAsync : Bool) (params result : List Tree) : Rule Tree := do
  expect "=>"
  let body ← Functions.arrowBody g isAsync
  node (.arrow isAsync) start (params ++ result ++ [body])

/-- An arrow function with a result type, before whose arrow a condition's colon might stand. -/
def arrowInCondition? (start : Nat) (isAsync : Bool) (found : List Item) : Rule (Option Tree) := do
  let c := (← get).context
  if c.conditional && (← isSign ":") then
    attempt? do
      let result ← Types.resultAfter g ":"
      let params ← Patterns.yield (found.mapM Item.parameter)
      let f ← arrow g start isAsync params [result]
      if c.colonAhead && !(← isSign ":") then return none
      return some f
  else return none

/-- A result type that an arrow follows. -/
def arrowResult? : Rule (Option Tree) := do
  if !(← get).context.colonAhead && (← isSign ":") then
    attempt? do
      let result ← Types.resultAfter g ":"
      if ← isSign "=>" then return some result else return none
  else return none

/-- An arrow function after its parameters. An operator behind its block is passed over. -/
def arrowAfter (start : Nat) (isAsync canBeArrow : Bool) (found : List Item)
    (result : Option Tree) : Rule Tree := do
  if ← afterNewline then failAt start (.forbidden "a line end before an arrow")
  if !canBeArrow then failAt start (.forbidden "an arrow function")
  if !(← isSign "=>") then fail (.expected "=>")
  let params ← Patterns.yield (found.mapM Item.parameter)
  let f ← arrow g start isAsync params result.toList
  let isBlock := f.children.getLast?.any (·.kind == .block)
  if isBlock && (← atOperatorSign) then g.operationAfter f else return f

/-- Values in parentheses as one expression. -/
def grouped (start : Nat) (values : List Tree) : Rule Tree := do
  match values.find? (·.kind == .spread) with
  | some t => failAt ((t.children.head?.map Tree.start).getD t.start) (.forbidden "spread")
  | none => pure ()
  match values with
  | [] => failAt start (.expected "expression")
  | [e] => node .paren start [e]
  | first :: _ =>
    let last := (values.getLast?.map Tree.stop).getD first.stop
    node .paren start [.node .sequence ⟨first.start, last⟩ values]

/-- Parentheses that hold an expression, the parameters of an arrow function, or the arguments of a
call of something named `async`. -/
def parenthesized (canBeArrow : Bool) (asyncSpan : Option Span) : Rule Tree := do
  let start ← match asyncSpan with
    | some span => pure span.start
    | none => currentStart
  let found ← items g
  match ← arrowInCondition? g start asyncSpan.isSome found with
  | some f => return f
  | none =>
    let result ← arrowResult? g
    if found.any Item.isPattern || result.isSome || (← isSign "=>") then
      arrowAfter g start asyncSpan.isSome canBeArrow found result
    else
      let values := found.map Item.tree
      match asyncSpan with
      | some span => node .call start (.node (.name "async") span [] :: values)
      | none => grouped start values

/-- An arrow function of one bare name, from its arrow on. -/
def ofName (start : Nat) (isAsync : Bool) (name : Tree) : Rule Tree := arrow g start isAsync [name] []

/-- An asynchronous arrow function with generic parameters, after `async`. -/
def genericAsync? (start : Nat) : Rule (Option Tree) := do
  if !(← isSign "<") then return none
  let head ← attempt? do
    let generics ← Types.parameters g
    let params ← Functions.parameters g
    let result ← Functions.result? g
    if ← isSign "=>" then return some (generics :: params, result) else return none
  match head with
  | some (params, result) => return some (← arrow g start true params result)
  | none => return none

/-- An arrow function with generic parameters. -/
def generic? : Rule (Option Tree) := do
  match (← peek).token with
  | .word _ _ =>
    if ← isSign "<" then
      attempt? do
        let start ← currentStart
        let generics ← Types.parameters g
        let f ← g.assignment
        match f.kind with
        | .arrow _ => return some (.node f.kind ⟨start, f.stop⟩ (generics :: f.children))
        | _ => return none
    else return none
  | _ => return none

end Phrasebook.Syntax.Arrows
