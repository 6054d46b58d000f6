import Phrasebook.Syntax.Grammar.Basic

/-!
# Patterns

A pattern binds the parts of a value. It is either read as one, or an expression that was read
first turns out to be one.
-/

namespace Phrasebook.Syntax.Patterns

open Rule

variable (g : Grammar)

/-! ## Property names -/

/-- A name in brackets, computed when the code runs. -/
def computedName : Rule Tree := do
  let start ← currentStart
  expect "["
  let key ← allowingIn g.assignment
  let more ← collect do
    if ← eat "," then return some (← allowingIn g.assignment) else return none
  expect "]"
  node (.propertyName none) start (key :: more)

/-- The name of a property. -/
def propertyName : Rule Tree := do
  let start ← currentStart
  match (← get).token with
  | .word text _ =>
    bump
    node (.propertyName (some text)) start []
  | .string _ =>
    let s ← stringLiteral
    node (.propertyName none) start [s]
  | .number =>
    let n ← literal
    node (.propertyName none) start [n]
  | .sign "[" => computedName g
  | _ => fail (.expected "property name")

/-- The text of a name that was written as a plain word. -/
def plainName? (name : Tree) : Option String :=
  match name.kind with
  | .propertyName text => text
  | _ => none

/-! ## Reading patterns -/

/-- A pattern that may have a default value. -/
def element : Rule Tree := do
  let start ← currentStart
  let pattern ← g.target
  if ← eat "=" then
    let value ← allowingIn g.assignment
    node .defaulted start [pattern, value]
  else return pattern

def restOf (start : Nat) : Rule Tree := do
  let pattern ← g.target
  node .rest start [pattern]

/-- An array taken apart; places may be left out. -/
def arrayPattern : Rule Tree := do
  let start ← currentStart
  expect "["
  let parts ← collect do
    if ← isSign "]" then return none
    let at_ ← currentStart
    if ← eat "," then return some (← node .hole at_ [])
    let part ← if ← eat "..." then restOf g at_ else element g
    if !(← isSign "]") then expect ","
    return some part
  expect "]"
  node .arrayPattern start parts

def patternProperty : Rule Tree := do
  let start ← currentStart
  if ← eat "..." then restOf g start
  else
    let name ← propertyName g
    if ← eat ":" then
      let value ← element g
      node .patternProperty start [name, value]
    else if (plainName? name).isNone then fail (.expected "identifier")
    else if ← eat "=" then
      let value ← allowingIn g.assignment
      node .patternShorthand start [value]
    else node .patternShorthand start []

/-- An object taken apart. -/
def objectPattern : Rule Tree := do
  let start ← currentStart
  expect "\x7b"
  let parts ← commaList "\x7d" (patternProperty g)
  expect "\x7d"
  node .objectPattern start parts

/-- A name, or a pattern that takes an array or an object apart. -/
def target : Rule Tree := do
  match (← get).token with
  | .word _ _ => bindingName
  | .sign "[" => arrayPattern g
  | .sign "\x7b" => objectPattern g
  | _ => fail (.expected "name or pattern")

/-! ## Expressions that turn out to be patterns -/

/-- What a pattern is for. -/
inductive Purpose where
  /-- It binds new names. -/
  | binding
  /-- It stands in front of an assignment. -/
  | assignment
  deriving DecidableEq, Repr

/-- An expression that may be assigned to inside a larger pattern. -/
def isAssignable : Kind → Bool
  | .name _ | .member _ | .privateMember | .index | .superMember | .superIndex | .paren | .typed
  | .nonNull => true
  | _ => false

/-- The left side of an assignment, which is a pattern already unless it is a plain name. -/
def leftSide : Tree → Tree
  | .node (.name text) span _ => .node (.bindingName text) span []
  | t => t

mutual

/-- The pattern that an expression spells as a part of a larger one. What cannot be a pattern becomes
an invalid node without parts; a method in an object is a fault at its start. -/
def part (purpose : Purpose) : Tree → Except Fault Tree
  | .node kind span children =>
    if purpose = .assignment && isAssignable kind then .ok (.node kind span children)
    else
      match kind, children with
      | .name text, _ => .ok (.node (.bindingName text) span [])
      | .assignment true, [left, right] => .ok (.node .defaulted span [leftSide left, right])
      | .object, members => return .node .objectPattern span (← properties purpose members)
      | .array, items => return .node .arrayPattern span (← parts purpose items)
      | _, _ => .ok (.node .invalid span [])

def parts (purpose : Purpose) : List Tree → Except Fault (List Tree)
  | [] => .ok []
  | .node .hole span children :: rest => return .node .hole span children :: (← parts purpose rest)
  | .node .spread span [item] :: rest => do
    let inner ← part purpose item
    return .node .rest span [inner] :: (← parts purpose rest)
  | t :: rest => do
    let first ← part purpose t
    return first :: (← parts purpose rest)

def properties (purpose : Purpose) : List Tree → Except Fault (List Tree)
  | [] => .ok []
  | .node .property span [name, value] :: rest => do
    let inner ← part purpose value
    return .node .patternProperty span [name, inner] :: (← properties purpose rest)
  | .node (.shorthand _) span _ :: rest =>
    return .node .patternShorthand span [] :: (← properties purpose rest)
  | .node (.shorthandDefault _) span values :: rest =>
    return .node .patternShorthand span values :: (← properties purpose rest)
  | .node .spread span [item] :: rest => do
    let inner ← part purpose item
    return .node .rest span [inner] :: (← properties purpose rest)
  | t :: _ => .error ⟨t.start, .forbidden "a method in a pattern"⟩

end

/-- The pattern that an expression spells in front of an assignment sign. -/
def ofAssigned (t : Tree) : Except Fault Tree :=
  match t.kind with
  | .object | .array => part .assignment t
  | .name _ | .member _ | .privateMember | .index | .superMember | .superIndex | .paren | .typed
  | .nonNull | .chain => .ok t
  | _ => .ok (.node .invalid t.span [])

/-- Goes on with a result, or fails where it says. -/
def yield (result : Except Fault α) : Rule α :=
  match result with
  | .ok a => return a
  | .error fault => throw fault

/-- Goes on with an assignment after its left side, if one follows. -/
def assignmentAfter (left : Tree) : Rule Tree := do
  if ← isSign "=" then
    let target ← yield (ofAssigned left)
    bump
    let right ← g.assignment
    node (.assignment true) left.start [target, right]
  else if ← isOneOf assignmentSigns then
    bump
    let right ← g.assignment
    node (.assignment false) left.start [left, right]
  else return left

end Phrasebook.Syntax.Patterns
