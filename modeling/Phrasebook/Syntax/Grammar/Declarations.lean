import Phrasebook.Syntax.Grammar.Classes
import Phrasebook.Syntax.Grammar.Variables

/-!
# Declarations of types, enumerations and modules
-/

namespace Phrasebook.Syntax.Declarations

open Rule

variable (g : Grammar)

/-! ## Enumerations -/

def enumMemberName : Rule Tree := do
  let start ← currentStart
  match (← get).token with
  | .string _ | .number | .word _ _ =>
    bump
    node .enumMemberName start []
  | .sign "[" =>
    bump
    let e ← g.expression
    expect "]"
    node .enumMemberName start [e]
  | _ => fail (.expected "identifier")

def enumMember : Rule Tree := do
  let start ← currentStart
  let name ← enumMemberName g
  if ← eat "=" then
    let value ← g.assignment
    node .enumMember start [name, value]
  else node .enumMember start [name]

/-- An enumeration after its keyword. A comma between members may be missing. -/
def enumeration (start : Nat) : Rule Tree := do
  let _ ← anyName
  expect "\x7b"
  let members ← collect do
    if ← isSign "\x7d" then return none
    let m ← enumMember g
    let _ ← eat ","
    return some m
  expect "\x7d"
  node .enumeration start members

/-! ## Types -/

/-- An interface after its keyword. -/
def interface (start : Nat) : Rule Tree := do
  let _ ← anyName
  let generics ← Types.parameters? g
  let bases ← if ← eatWord "extends" then Classes.heritage g else pure []
  let members ← Types.members g
  node .interface start (generics ++ bases ++ members)

/-- A name for a type, after its keyword. -/
def typeAlias (start : Nat) : Rule Tree := do
  let _ ← anyName
  let generics ← Types.parameters? g
  expect "="
  let t ← g.type
  expectStatementEnd
  node .typeAlias start (generics ++ [t])

/-! ## Modules -/

/-- The contents of a module, which may hold imports and exports. -/
def contents : Rule Tree := do
  let start ← currentStart
  expect "\x7b"
  let items ← collect do
    if (← isSign "\x7d") || (← atEnd) then return none
    return some (← g.statement true true)
  let _ ← eat "\x7d"
  node .block start items

/-- A module with a name of its own, after its keyword. -/
def namedModule (start : Nat) : Rule Tree := do
  Types.entityName
  let inner ← contents g
  node .moduleDeclaration start [inner]

/-- A module that is named by a string, or the global one. -/
def outsideModule (start : Nat) : Rule Tree := do
  let nameStart ← currentStart
  if ← isString then bump else discard anyName
  let name ← node .moduleName nameStart []
  if ← isSign "\x7b" then
    let inner ← contents g
    node .moduleDeclaration start [name, inner]
  else
    expectStatementEnd
    node .moduleDeclaration start [name]

/-! ## By their first word -/

/-- The declaration that a word opens. `pending` says that the word is still to be passed. -/
def opened? (start : Nat) (decorators : List Tree) (text : String) (pending : Bool) :
    Rule (Option Tree) := do
  let pass : Rule Unit := if pending then bump else pure ()
  let named : Rule Bool := if pending then pure true else atReference
  match text with
  | "abstract" =>
    if pending || ((← isWord "class") && !(← afterNewline)) then
      pass
      return some (← Classes.definition g start decorators true)
    else return none
  | "enum" =>
    if ← named then
      pass
      return some (← enumeration g start)
    else return none
  | "interface" =>
    if ← named then
      pass
      return some (← interface g start)
    else return none
  | "namespace" =>
    if ← named then
      pass
      return some (← namedModule g start)
    else return none
  | "module" =>
    if ← afterNewline then return none
    pass
    if ← isString then return some (← outsideModule g start)
    else if ← named then return some (← namedModule g start)
    else return none
  | "type" =>
    if (← named) && (pending || !(← afterNewline)) then
      pass
      return some (← typeAlias g start)
    else return none
  | _ => return none

/-- A constant enumeration stands here. -/
def atConstantEnumeration : Rule Bool := return (← isWord "const") && (← peekIsWord "enum")

/-- A constant enumeration from `const` on. -/
def constantEnumeration : Rule Tree := do
  let start ← currentStart
  bump
  bump
  enumeration g start

/-- What is declared without a value, after `declare`. -/
def ambient? (start : Nat) (decorators : List Tree) : Rule (Option Tree) :=
  within (fun c => { c with ambient := true }) do
    if ← isWord "function" then return some (← Functions.definition g start false true)
    else if ← isWord "class" then return some (← Classes.definition g start decorators true)
    else if ← atConstantEnumeration then return some (← constantEnumeration g)
    else if ← Variables.atKeyword then return some (← Variables.declaration g)
    else if ← isWord "global" then return some (← outsideModule g start)
    else
      match ← word? with
      | some text => opened? g start decorators text true
      | none => return none

/-- The declaration that an expression of one name opens. -/
def afterName? (name : Tree) (decorators : List Tree) : Rule (Option Tree) := do
  match name.kind with
  | .name "declare" => ambient? g name.start decorators
  | .name "global" =>
    if ← isSign "\x7b" then
      let inner ← contents g
      return some (← node .moduleDeclaration name.start [inner])
    else return none
  | .name text => opened? g name.start decorators text false
  | _ => return none

end Phrasebook.Syntax.Declarations
