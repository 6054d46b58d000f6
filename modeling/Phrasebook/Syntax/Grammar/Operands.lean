import Phrasebook.Syntax.Grammar.Arrows
import Phrasebook.Syntax.Grammar.Classes
import Phrasebook.Syntax.Grammar.Objects

/-!
# Operands

An operand is a name, a literal or the like, with what is picked from it or called on it.
-/

namespace Phrasebook.Syntax.Operands

open Rule

variable (g : Grammar)

/-! ## Primary expressions -/

/-- A name, or an arrow function that it opens. -/
def nameOrArrow (canBeArrow : Bool) : Rule Tree := do
  let start ← currentStart
  let name ← variableName
  if canBeArrow && name == "async" && (← atReference) && !(← afterNewline) then
    let parameter ← bindingName
    Arrows.ofName g start true parameter
  else if canBeArrow && (← isSign "=>") && !(← afterNewline) then
    Arrows.ofName g start false (← node (.bindingName name) start [])
  else node (.name name) start []

/-- What `async` starts, if it is no plain name. -/
def async? (canBeArrow : Bool) : Rule (Option Tree) := do
  let start ← currentStart
  let next ← peek
  if !(← isWord "async") then return none
  if ← Functions.atAsyncFunction then return some (← Functions.asyncOrPlain g false)
  if !canBeArrow then return none
  if next.token == .sign "<" then
    let found ← attempt? do
      bump
      Arrows.genericAsync? g start
    if found.isSome then return found
  if next.token == .sign "(" && !next.newline then
    let span := (← get).span
    bump
    return some (← Arrows.parenthesized g true (some span))
  return none

/-- A class, perhaps with decorators in front. -/
def decoratedClass : Rule Tree := do
  let start ← currentStart
  let decorators ← Arguments.decorators g
  Classes.definition g start decorators false

/-- A private name, which stands in front of `in`. -/
def privateName : Rule Tree := do
  let start ← currentStart
  expect "#"
  let _ ← anyName
  node .privateName start []

def wordOperand (text : String) (canBeArrow : Bool) : Rule Tree := do
  let start ← currentStart
  match ← async? g canBeArrow with
  | some t => return t
  | none =>
    if text == "this" then
      bump
      node .this start []
    else if text == "function" then Functions.asyncOrPlain g false
    else if ["null", "true", "false"].contains text then literal
    else if text == "class" then decoratedClass g
    else nameOrArrow g canBeArrow

def primary : Rule Tree := do
  let s ← get
  let canBeArrow := s.arrowStart == some s.span.start
  match s.token with
  | .word text false => wordOperand g text canBeArrow
  | .word _ true => nameOrArrow g canBeArrow
  | .string _ => stringLiteral
  | .number => literal
  | .template _ => Objects.template g
  | .sign "[" => Arguments.withoutColon (Objects.array g)
  | .sign "\x7b" => Objects.object g
  | .sign "(" => Arrows.parenthesized g canBeArrow none
  | .sign "@" => decoratedClass g
  | .sign "#" => privateName
  | .sign "/" | .sign "/=" =>
    rescanRegex
    match (← get).token with
    | .regex => literal
    | _ => fail .unexpected
  | _ => fail (.expected "expression")

/-! ## Picking and calling -/

/-- Whether an expression may have been passed over for want of an object. -/
def isChain : Tree → Bool
  | .node .chain _ _ => true
  | .node .nonNull _ [inner] => isChain inner
  | _ => false

/-- A part picked from an object, which may make it a chain. -/
def picked (optional : Bool) (object part : Tree) : Tree :=
  if optional || isChain object then .node .chain part.span [part] else part

/-- A call from its opening parenthesis on. -/
def call (optional : Bool) (start : Nat) (callee : Tree) (types : List Tree) : Rule Tree := do
  let args ← Arguments.list g
  match callee.kind with
  | .super => node .superCall start (types ++ args)
  | _ =>
    let kind := if optional || isChain callee then .optionalCall else .call
    let t ← node kind start (callee :: types ++ args)
    return picked optional callee t

/-- A template with the function in front of it. -/
def tagged (start : Nat) (tag : Tree) (types : List Tree) : Rule Tree := do
  let t ← Objects.template g
  node .taggedTemplate start (tag :: types ++ [t])

def atTemplate : Rule Bool := do
  match (← get).token with
  | .template _ => return true
  | _ => return false

/-- A computed pick, from its opening bracket on. -/
def index (optional : Bool) (start : Nat) (object : Tree) : Rule Tree := do
  let keyStart ← currentStart
  expect "["
  let key ← allowingIn g.expression
  expect "]"
  match object.kind with
  | .super => node .superIndex start [key]
  | _ =>
    let key ← node .computedKey keyStart [key]
    let t ← node .index start [object, key]
    return picked optional object t

/-- A pick by name, from the name on. -/
def member (optional : Bool) (start : Nat) (object : Tree) : Rule Tree := do
  if ← eat "#" then
    let _ ← anyName
    let t ← node .privateMember start [object]
    return picked optional object t
  else
    let name ← anyName
    match object.kind with
    | .super => node .superMember start []
    | _ =>
      let t ← node (.member name) start [object]
      return picked optional object t

/-- What follows an object; the flag tells whether more may follow. -/
abbrev Step := Tree × Bool

/-- Type arguments and what they are for. -/
def generic? (noCall : Bool) (start : Nat) (object : Tree) : Rule (Option Step) := do
  if object.kind == .super || !(← isOneOf ["<", "<<"]) then return none
  attempt? do
    let types ← Types.arguments g
    if !noCall && (← isSign "(") then return some (← call g false start object [types], true)
    else if ← atTemplate then return some (← tagged g start object [types], true)
    else if (← isSign "=") || (← isWord "as") || (← isWord "satisfies") then
      return some (← node .typed start [object, types], false)
    else return none

/-- What follows `?.`. -/
def optionalPart (start : Nat) (object : Tree) : Rule Tree := do
  if ← isSign "[" then index g true start object
  else if ← isOneOf ["<", "<<"] then
    let types ← Types.arguments g
    call g true start object [types]
  else if ← isSign "(" then call g true start object []
  else member true start object

/-- One step of picking or calling, if one follows. -/
def step? (noCall noIndex : Bool) (start : Nat) (object : Tree) : Rule (Option Step) := do
  if (← isSign "!") && !(← afterNewline) then
    bump
    return some (← node .nonNull start [object], true)
  match ← generic? g noCall start object with
  | some s => return some s
  | none =>
    if ← eat "?." then return some (← optionalPart g start object, true)
    else if !noIndex && (← isSign "[") then return some (← index g false start object, true)
    else if !noCall && (← isSign "(") then return some (← call g false start object [], true)
    else if ← eat "." then return some (← member false start object, true)
    else if ← atTemplate then
      if object.kind == .super then failAt object.start (.forbidden "super")
      return some (← tagged g start object [], true)
    else if object.kind == .super then failAt object.start (.forbidden "super")
    else return none

/-- All steps that follow an object. -/
def steps (noCall noIndex : Bool) (object : Tree) : Rule Tree := do
  let rec go : Nat → Tree → Rule Tree
    | 0, _ => fail .tooDeep
    | fuel + 1, t => do
      match ← step? g noCall noIndex object.start t with
      | none => return t
      | some (next, true) => go fuel next
      | some (next, false) => return next
  go (← remaining) object

/-- `import` as an expression. -/
def importExpression (noCall : Bool) : Rule Tree := do
  let start ← currentStart
  expectWord "import"
  if ← eat "." then
    if !(← isWord "meta") then fail (.expected "meta")
    bump
    steps g noCall false (← node .metaProperty start [])
  else if noCall then failAt start (.forbidden "import")
  else
    if !(← isSign "(") then fail (.expected "(")
    let args ← Arguments.list g
    steps g noCall false (← node .importCall start args)

/-- Type arguments behind a primary expression that nothing calls. -/
def instantiation? : Rule (List Tree) := do
  if ← isSign "<" then
    let found ← attempt? do
      let types ← Types.arguments g
      if (← isOneOf ["<", ">", "+", "-", "("]) || (← atTemplate) then return none
      if (← afterNewline) || (← atOperatorSign) || !(← atExpression) then return some types
      else return none
    return found.toList
  else return []

/-- An operand that nothing is called on. `fuel` bounds the number of `new` in front. -/
def uncalled : Nat → Rule Tree
  | 0 => fail .tooDeep
  | fuel + 1 => do
    let start ← currentStart
    if ← isWord "new" then
      bump
      if ← eat "." then
        if !(← eatWord "target") then fail (.expected "target")
        steps g true false (← node .metaProperty start [])
      else
        let callee ← uncalled fuel
        if isChain callee then failAt callee.start (.forbidden "an optional chain")
        let types ←
          if ← isOneOf ["<", "<<"] then
            pure (← attempt? (return some (← Types.arguments g))).toList
          else pure []
        if ← isSign "(" then
          let args ← Arguments.list g
          steps g true false (← node .new start (callee :: types ++ args))
        else node .new start (callee :: types)
    else if ← isWord "super" then
      bump
      steps g true false (← node .super start [])
    else if ← isWord "import" then importExpression g true
    else
      let object ← primary g
      match object.kind with
      | .arrow _ => return object
      | _ =>
        let types ← instantiation? g
        let object ←
          if types.isEmpty then pure object else node .typed start (object :: types)
        steps g true false object

/-- Type arguments of a call that follows. -/
def callTypes? : Rule (List Tree) := do
  if ← isOneOf ["<", "<<"] then
    let found ← attempt? do
      let types ← Types.arguments g
      if ← isSign "(" then return some types else return none
    return found.toList
  else return []

/-- An expression without operators. -/
def operand : Rule Tree := do
  let start ← currentStart
  if ← isWord "super" then
    bump
    steps g false false (← node .super start [])
  else if ← isWord "import" then importExpression g false
  else
    let callee ← uncalled g (← remaining)
    match callee.kind with
    | .arrow _ => return callee
    | _ =>
      let types ← callTypes? g
      if ← isSign "(" then steps g false false (← call g false start callee types)
      else return callee

end Phrasebook.Syntax.Operands
