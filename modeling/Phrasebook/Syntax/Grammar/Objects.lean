import Phrasebook.Syntax.Grammar.Functions
import Phrasebook.Syntax.Grammar.Patterns

/-!
# Arrays, objects and templates
-/

namespace Phrasebook.Syntax.Objects

open Rule

variable (g : Grammar)

/-- An array; places may be left out. -/
def array : Rule Tree := do
  let start ← currentStart
  expect "["
  let items ← collect do
    if ← isSign "]" then return none
    let place ← currentStart
    if ← eat "," then return some (← node .hole place [])
    let item ← Arguments.item g
    if !(← isSign "]") then expect ","
    return some item
  expect "]"
  node .array start items

/-- A method after its name. -/
def method (start : Nat) (name : Tree) (isAsync isGenerator : Bool) : Rule Tree := do
  let parts ← Functions.rest g isAsync isGenerator
  node .objectMethod start (name :: parts)

/-- A property after a name that stands alone, which may be `get`, `set` or `async`. -/
def afterWord (start : Nat) (text : String) : Rule Tree := do
  let _ ← eat "?"
  if ← eat "=" then
    let value ← g.assignment
    node (.shorthandDefault text) start [value]
  else if ← isOneOf [",", "\x7d"] then node (.shorthand text) start []
  else if text == "async" then
    let isGenerator ← eat "*"
    let name ← Patterns.propertyName g
    method g start name true isGenerator
  else if text == "get" || text == "set" then
    let name ← Patterns.propertyName g
    method g start name false false
  else fail .unexpected

def property : Rule Tree := do
  let start ← currentStart
  if ← eat "..." then
    let value ← g.assignment
    node .spread start [value]
  else if ← eat "*" then
    let name ← Patterns.propertyName g
    method g start name false true
  else
    skipParameterModifier
    let name ← Patterns.propertyName g
    if ← eat ":" then
      let value ← g.assignment
      node .property start [name, value]
    else if ← isOneOf ["(", "<"] then method g start name false false
    else
      match Patterns.plainName? name with
      | some text => afterWord g start text
      | none => fail (.expected ":")

def object : Rule Tree := do
  let start ← currentStart
  expect "\x7b"
  let members ← allowingIn (commaList "\x7d" (property g))
  expect "\x7d"
  node .object start members

/-- A template, with the expressions in its holes. -/
def template : Rule Tree := do
  let start ← currentStart
  let parts ← templateOf (allowingIn g.expression)
  node .template start parts

end Phrasebook.Syntax.Objects
