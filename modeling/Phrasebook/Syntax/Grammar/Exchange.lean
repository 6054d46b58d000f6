import Phrasebook.Syntax.Grammar.Declarations
import Phrasebook.Syntax.Grammar.Objects

/-!
# Imports and exports
-/

namespace Phrasebook.Syntax.Exchange

open Rule

variable (g : Grammar)

/-! ## Names that are exchanged -/

/-- A name inside or outside a module: a word or a string. -/
structure Label where
  start : Nat
  text : String
  quoted : Bool

def label : Rule Label := do
  let start ← currentStart
  if ← isString then
    bump
    return ⟨start, "", true⟩
  else
    let text ← anyName
    return ⟨start, text, false⟩

/-- What is exchanged under which name. -/
structure Item where
  source : Label
  renamed : Option Label

/-- A name, perhaps with another one behind `as`. -/
def withRename (source : Label) : Rule Item := do
  if ← eatWord "as" then return ⟨source, some (← label)⟩ else return ⟨source, none⟩

/-- One of the names in braces. `type` in front is passed over unless it is the name. -/
def item : Rule Item := do
  let first ← label
  if first.quoted || first.text != "type" || !(← isAnyWord) then withRename first
  else
    let second ← label
    if second.text != "as" then withRename second
    else if !(← isAnyWord) then return ⟨second, none⟩
    else
      let third ← label
      if third.text == "as" && (← isAnyWord) then return ⟨second, some (← label)⟩
      else return ⟨first, some third⟩

/-! ## Sources -/

/-- Attributes of what is imported. -/
def attributes? : Rule (List Tree) := do
  let given ←
    if ← eatWord "with" then pure true
    else if ← afterNewline then pure false
    else eatWord "assert"
  if given then return [← Objects.object g] else return []

/-- Where something comes from. -/
def source : Rule (List Tree) := do
  expectWord "from"
  let s ← stringLiteral
  let more ← attributes? g
  expectStatementEnd
  return s :: more

/-! ## Imports -/

/-- The name that an item binds. -/
def boundName (i : Item) : Rule String :=
  match i.renamed with
  | some l => return l.text
  | none =>
    if i.source.quoted || reservedWords.contains i.source.text then
      failAt i.source.start (.forbidden "this name")
    else return i.source.text

/-- An import under a name of its own. -/
def equals (start : Nat) : Rule Tree := do
  expect "="
  let refStart ← currentStart
  if (← isWord "require") && (← peekIs "(") then
    bump
    bump
    let s ← stringLiteral
    expect ")"
    expectStatementEnd
    node .importEquals start [← node .moduleReference refStart [s]]
  else
    Types.entityName
    expectStatementEnd
    node .importEquals start []

/-- Names in braces or behind a star. -/
def importedNames : Rule (List String) := do
  if ← eat "*" then
    expectWord "as"
    return [← variableName]
  else if ← eat "\x7b" then
    let names ← commaList "\x7d" do boundName (← item)
    expect "\x7d"
    return names
  else return []

/-- Whether the name behind `type` is the default import. -/
def atTypedDefault : Rule Bool := do
  if !(← atReference) then return false
  if ← isWord "from" then return (← peekIsWord "from") || (← peekIs "=") else return true

/-- An import after its keyword, for effect or with names. -/
def importAfter (start : Nat) : Rule Tree := do
  if ← isString then
    let s ← stringLiteral
    let more ← attributes? g
    expectStatementEnd
    return ← node (.importDeclaration []) start (s :: more)
  let default ←
    if ← isAnyWord then
      let first ← variableName
      if first == "type" && (← isOneOf ["*", "\x7b"]) then pure []
      else if first == "type" && (← atTypedDefault) then pure [← variableName]
      else pure [first]
    else pure []
  if !default.isEmpty then
    if ← isSign "=" then return ← equals start
    if !(← isWord "from") then expect ","
  let names ← importedNames
  let origin ← source g
  node (.importDeclaration (default ++ names)) start origin

/-- `import` at the start of a statement that is an expression. -/
def atImportExpression : Rule Bool :=
  return (← isWord "import") && ((← peekIs "(") || (← peekIs "."))

def importDeclaration : Rule Tree := do
  let start ← currentStart
  expectWord "import"
  importAfter g start

/-! ## Exports -/

/-- Decorators stand in front of the keywords or behind them, but not in both places. -/
def furtherDecorators (decorators : List Tree) : Rule (List Tree) := do
  let start ← currentStart
  let more ← Arguments.decorators g
  if !decorators.isEmpty && !more.isEmpty then
    failAt start (.forbidden "a decorator on both sides")
  return decorators ++ more

/-- What a module exports by default, after the keywords. -/
def defaultExport (start : Nat) (decorators : List Tree) : Rule Tree := do
  let decorators ← furtherDecorators g decorators
  let inner ← currentStart
  let whole (t : Tree) : Rule Tree := node .exportDefault start [t]
  if (← isWord "abstract") && (← peekIsWord "class") then
    bump
    whole (← Classes.definition g inner decorators false)
  else
    if (← isWord "abstract") && (← peekIsWord "interface") then bump
    if ← eatWord "interface" then whole (← Declarations.interface g inner)
    else if ← isWord "class" then whole (← Classes.definition g inner decorators false)
    else if (← isWord "function") || (← Functions.atAsyncFunction) then
      whole (← Functions.asyncOrPlain g false)
    else
      let e ← allowingIn g.assignment
      expectStatementEnd
      whole e

/-- Names that are exported, from the opening brace on. -/
def names (start : Nat) : Rule Tree := do
  expect "\x7b"
  let _ ← commaList "\x7d" item
  expect "\x7d"
  if ← isWord "from" then
    let origin ← source g
    node .exportNames start origin
  else
    let _ ← eat ";"
    node .exportNames start []

/-- All names of another module, from the star on. -/
def all (start : Nat) : Rule Tree := do
  expect "*"
  if ← eatWord "as" then
    let _ ← label
    let origin ← source g
    node .exportNames start origin
  else
    let origin ← source g
    node .exportAll start origin

/-- A declaration that is exported. -/
def declaration? (decorators : List Tree) : Rule (Option Tree) := do
  let start ← currentStart
  if ← isWord "class" then return some (← Classes.definition g start decorators true)
  else if (← isWord "function") || (← Functions.atAsyncFunction) then
    return some (← Functions.asyncOrPlain g true)
  else if ← Declarations.atConstantEnumeration then
    return some (← Declarations.constantEnumeration g)
  else if ← Variables.atKeyword then return some (← Variables.declaration g)
  else return none

/-- A declaration that a word opens, if all of it can be read. -/
def opened? (decorators : List Tree) : Rule (Option Tree) := do
  let start ← currentStart
  match ← word? with
  | some text => attempt? (Declarations.opened? g start decorators text true)
  | none => return none

/-- The forms that only name something. -/
def named? (start : Nat) : Rule (Option Tree) := do
  if ← eatWord "import" then
    if (← isWord "type") && (← peekAnyWord) then bump
    let _ ← anyName
    return some (← equals start)
  else if ← eat "=" then
    let e ← g.expression
    expectStatementEnd
    return some (← node .exportAssignment start [e])
  else if ← eatWord "as" then
    expectWord "namespace"
    let _ ← variableName
    expectStatementEnd
    return some (← node .exportNamespace start [])
  else return none

/-- An export after what could open a declaration. -/
def others (start : Nat) (decorators : List Tree) : Rule Tree := do
  match ← named? g start with
  | some t => return t
  | none =>
    let typed ← eatWord "type"
    let isDefault ← if typed then pure false else eatWord "default"
    if isDefault then defaultExport g start decorators
    else
      let decorators ← furtherDecorators g decorators
      match ← if typed then pure none else declaration? g decorators with
      | some t => node .exportDeclaration start [t]
      | none => if ← isSign "*" then all g start else names g start

def exportDeclaration (decorators : List Tree) : Rule Tree := do
  let start ← currentStart
  expectWord "export"
  let inner ← currentStart
  let ambient ←
    if ← eatWord "declare" then Declarations.ambient? g inner decorators else pure none
  match ambient with
  | some t => node .exportDeclaration start [t]
  | none =>
    match ← opened? g decorators with
    | some t => node .exportDeclaration start [t]
    | none => others g start decorators

end Phrasebook.Syntax.Exchange
