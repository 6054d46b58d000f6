import Phrasebook.Syntax.Grammar.Functions
import Phrasebook.Syntax.Grammar.Patterns

/-!
# Classes

A word such as `static` or `get` in front of a member may also be the member's name; what follows it
tells.
-/

namespace Phrasebook.Syntax.Classes

open Rule

variable (g : Grammar)

/-! ## Members -/

/-- What was found in front of a member. -/
structure Front where
  start : Nat
  decorators : List Tree
  accessible : Bool
  isAbstract : Bool := false
  isReadonly : Bool := false
  isOverride : Bool := false
  isStatic : Bool := false

/-- The rest of a method follows. -/
def atMethod : Rule Bool := isOneOf ["(", "<"]

/-- The rest of a property follows, perhaps nothing. -/
def atProperty (byLineEnd : Bool) : Rule Bool := do
  if ← isOneOf ["!", ":", "=", "\x7d"] then return true
  else if byLineEnd then atStatementEnd
  else isSign ";"

def memberNode (front : Front) (parts : List Tree) : Rule Tree :=
  node .classMember front.start (front.decorators ++ parts)

def method (front : Front) (name : Tree) (isAsync isGenerator : Bool) : Rule Tree := do
  let parts ← Functions.rest g isAsync isGenerator
  memberNode front (name :: parts)

/-- The name is that of a constructor. -/
def isConstructor (name : Tree) : Bool :=
  match name with
  | .node (.propertyName (some text)) _ _ => text == "constructor"
  | .node _ _ [.node (.stringLiteral value) _ _] => value == some "constructor"
  | _ => false

/-- A property after its name; a missing end is passed over. -/
def property (front : Front) (name : Tree) : Rule Tree := do
  if isConstructor name then failAt name.start (.forbidden "a property named constructor")
  let _ ← eat "!"
  let types ← Types.annotation? g
  let value ←
    if ← eat "=" then
      pure [← within (Functions.bodyContext false false) g.assignment]
    else pure []
  let _ ← eatStatementEnd
  memberNode front (name :: types ++ value)

/-- The name of a member; a name with a hash is private. -/
def memberName : Rule Tree := do
  let start ← currentStart
  if ← eat "#" then
    let _ ← anyName
    node .privateName start []
  else Patterns.propertyName g

/-- The name that a word just passed would be. -/
def wordAsName (start : Nat) (text : String) : Rule Tree := node (.propertyName (some text)) start []

/-- The modifiers that may come in any order. -/
def modifiers : Nat → Front → Rule Front
  | 0, front => return front
  | fuel + 1, front => do
    match ← modifier? ["abstract", "readonly", "override", "static"] false with
    | some "abstract" => modifiers fuel { front with isAbstract := true }
    | some "readonly" => modifiers fuel { front with isReadonly := true }
    | some "override" => modifiers fuel { front with isOverride := true }
    | some _ => modifiers fuel { front with isStatic := true }
    | none => return front

def staticBlock (front : Front) : Rule Tree := do
  let inner ← within (Functions.bodyContext false false) (Functions.block g)
  memberNode front [inner]

/-- A member after its name, which may turn out to be `get`, `set` or `async`. -/
def afterName (front : Front) (name : Tree) : Rule Tree := do
  let _ ← eat "?"
  if ← atMethod then
    if front.isReadonly then failAt front.start (.forbidden "a readonly method")
    return ← method g front name false false
  let word := Patterns.plainName? name
  let beforeGenerator := (← afterNewline) && (← isSign "*")
  let isAccessor :=
    (word == some "get" || word == some "set") && !(← atProperty false) && !beforeGenerator
  if !isAccessor && (← atProperty true) then return ← property g front name
  if word == some "async" && !(← afterNewline) then
    let isGenerator ← eat "*"
    let inner ← memberName g
    if isConstructor inner then failAt inner.start (.forbidden "an asynchronous constructor")
    let _ ← eat "?"
    return ← method g front inner true isGenerator
  if isAccessor then
    let inner ← memberName g
    return ← method g front inner false false
  if word == some "accessor" && !(← afterNewline) then
    let inner ← memberName g
    return ← property g front inner
  fail .unexpected

/-- A member after `static`, if that was there. -/
def afterStatic (front : Front) : Rule Tree := do
  let fuel ← remaining
  let front ← modifiers fuel front
  if front.isStatic && (← isSign "\x7b") then return ← staticBlock g front
  if (← isWord "static") && (← peekIs "\x7b") then
    bump
    return ← staticBlock g front
  if !front.isAbstract && !front.isOverride && !front.accessible then
    if ← Types.atIndexSignature then
      let parts ← Types.indexSignature g
      return ← node .type front.start parts
  if ← eat "*" then
    let name ← memberName g
    method g front name false true
  else if front.isReadonly && (← isOneOf ["!", ":"]) then
    let name ← wordAsName front.start "readonly"
    afterName g front name
  else
    let name ← memberName g
    afterName g front name

/-- A member that is named by a word that was just passed, if it is. -/
def namedBy? (front : Front) (start : Nat) (text : String) (byLineEnd : Bool) :
    Rule (Option Tree) := do
  if ← atMethod then
    let name ← wordAsName start text
    return some (← method g front name false false)
  else if (← atProperty byLineEnd) && !(← isSign "\x7b") then
    let name ← wordAsName start text
    return some (← property g front name)
  else return none

def accessWords : List String := ["public", "protected", "private"]

/-- A member of a class. -/
def member : Rule Tree := do
  let start ← currentStart
  let decorators ← Arguments.decorators g
  let declareStart ← currentStart
  let early ← eatWord "declare"
  if early then
    match ← namedBy? g ⟨start, decorators, false, false, false, false, false⟩ declareStart "declare" true with
    | some m => return m
    | none => pure ()
  let accessible := (← modifier? accessWords true).isSome
  let front : Front := ⟨start, decorators, accessible, false, false, false, false⟩
  if !early then
    let declareStart ← currentStart
    if ← eatWord "declare" then
      match ← namedBy? g front declareStart "declare" true with
      | some m => return m
      | none => pure ()
  let staticStart ← currentStart
  if ← eatWord "static" then
    match ← namedBy? g front staticStart "static" false with
    | some m => return m
    | none => afterStatic g { front with isStatic := true }
  else afterStatic g front

/-- The members of a class in braces; the end of the text closes them too. -/
def members : Rule (List Tree) := do
  expect "\x7b"
  let found ← collect do
    if (← isSign "\x7d") || (← atEnd) then return none
    if ← eat ";" then return some []
    return some [← member g]
  let _ ← eat "\x7d"
  return found.flatten

/-! ## Heads -/

/-- A class or interface that is built upon. -/
def heritageItem : Rule Tree := do
  let start ← currentStart
  let name ← anyName
  let target ← Arguments.path start (← node (.name name) start [])
  let types ← Types.arguments? g
  if types.isEmpty then return target else node .typed start (target :: types)

/-- A list of what is built upon. -/
def heritage : Rule (List Tree) :=
  collect do
    let atClose : Rule Bool :=
      return (← isSign "\x7b") || (← isWord "extends") || (← isWord "implements")
    if ← atClose then return none
    let t ← heritageItem g
    if !(← eat ",") then
      if !(← atClose) then fail (.expected ",")
    return some t

/-- The class that a class extends. -/
def parent : Rule (List Tree) := do
  let base ← g.operand
  let types ← Types.arguments? g
  if ← eat "," then
    let more ← heritage g
    return base :: types ++ more
  else return base :: types

/-- What a class is built upon. -/
def foundations : Rule (List Tree) :=
  return (← collect do
    if ← eatWord "extends" then return some (← parent g)
    else if ← eatWord "implements" then return some (← heritage g)
    else return none).flatten

/-- A class from its keyword on. -/
def definition (start : Nat) (decorators : List Tree) (nameNeeded : Bool) : Rule Tree := do
  expectWord "class"
  if nameNeeded || ((← atReference) && !(← isWord "implements")) then discard variableName
  let generics ← Types.parameters? g
  let bases ← foundations g
  let inner ← members g
  node .classDefinition start (decorators ++ generics ++ bases ++ inner)

end Phrasebook.Syntax.Classes
