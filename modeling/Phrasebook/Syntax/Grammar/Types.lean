import Phrasebook.Syntax.Grammar.Basic

/-!
# Types

Types are read for where they end. Their nodes keep the string literals inside them.
-/

namespace Phrasebook.Syntax.Types

open Rule

variable (g : Grammar)

def typeNode (start : Nat) (children : List Tree) : Rule Tree := node .type start children

/-! ## Lists of types -/

/-- Types between angle brackets. -/
def arguments : Rule Tree := do
  splitLess
  let start ← currentStart
  expect "<"
  let types ← commaList ">" g.type
  expect ">"
  typeNode start types

/-- The type after a word or sign that was just passed, if it stands there. -/
def typeAfterWord? (word : String) : Rule (List Tree) := do
  if ← eatWord word then return [← g.type] else return []

def typeAfterSign? (sign : String) : Rule (List Tree) := do
  if ← eat sign then return [← g.type] else return []

/-- One parameter of a generic definition. -/
def parameter : Rule Tree := do
  let start ← currentStart
  let _ ← collect (modifier? ["const", "in", "out"] true)
  let _ ← anyName
  let bound ← typeAfterWord? g "extends"
  let default ← typeAfterSign? g "="
  typeNode start (bound ++ default)

/-- The parameters of a generic definition. -/
def parameters : Rule Tree := do
  splitLess
  let start ← currentStart
  expect "<"
  let params ← commaList ">" (parameter g)
  expect ">"
  typeNode start params

def parameters? : Rule (List Tree) := do
  if ← isSign "<" then return [← parameters g] else return []

def arguments? : Rule (List Tree) := do
  if ← isOneOf ["<", "<<"] then return [← arguments g] else return []

/-- A type after a colon, if one stands there. -/
def annotation? : Rule (List Tree) := do
  if ← eat ":" then return [← g.type] else return []

/-- A type, or a claim that a name has a type, after a sign. -/
def resultAfter (sign : String) : Rule Tree := do
  expect sign
  let start ← currentStart
  let next ← peek
  let asserts := (← isWord "asserts") && isReference next.token && !next.newline
  if asserts then bump
  let next ← peek
  if (← atReference) && next.token == .word "is" false && !next.newline then
    bump
    bump
    let t ← g.type
    typeNode start [t]
  else if asserts then
    bump
    typeNode start []
  else g.type

/-! ## Parameters of a signature -/

/-- A parameter's type and default value after its target. -/
def parameterRest (pattern : Tree) : Rule Tree := do
  if ← eat "?" then
    match pattern.kind with
    | .bindingName _ | .arrayPattern | .objectPattern => pure ()
    | _ => failAt (← previousStop) (.forbidden "an optional pattern")
  let typed := pattern.adding (← annotation? g)
  if ← eat "=" then
    let value ← g.assignment
    node .defaulted pattern.start [typed, value]
  else return typed

/-- A rest parameter after its dots. -/
def restParameter (start : Nat) : Rule Tree := do
  let pattern ← g.target
  let default ← if ← eat "=" then pure [← g.assignment] else pure []
  let types ← annotation? g
  let _ ← eat "?"
  node .rest start (pattern :: default ++ types)

/-- A parameter without decorators. -/
def plainParameter : Rule Tree := do
  let start ← currentStart
  if ← eat "..." then restParameter g start
  else
    skipParameterModifier
    parameterRest g (← g.target)

/-- The parameters of a signature after its opening parenthesis. Defaults are not allowed. -/
def signatureParameters : Rule (List Tree) := do
  let params ← commaListOrEnd ")" (plainParameter g)
  for p in params do
    if p.kind == .defaulted then fail .unexpected
  expect ")"
  return params

/-! ## Members of an object type -/

def memberEnd : Rule Unit := do
  if !(← eat ",") then expectStatementEnd

/-- The name of a member: its node, if it has one to keep. -/
def memberName : Rule (List Tree) := do
  if ← eat "[" then
    let key ← g.assignment
    expect "]"
    return [key]
  else if ← isString then return [← stringLiteral]
  else if ← isNumber then return [← literal]
  else
    let _ ← eat "#"
    let _ ← anyName
    return []

/-- A parameter list and a result. -/
def signature (resultSign : String) (resultNeeded : Bool) : Rule (List Tree) := do
  let generics ← parameters? g
  expect "("
  let params ← signatureParameters g
  let result ←
    if resultNeeded || (← isSign resultSign) then pure [← resultAfter g resultSign] else pure []
  return generics ++ params ++ result

/-- Whether an index signature stands at a bracket. -/
def atIndexSignature : Rule Bool := do
  if !(← isSign "[") then return false
  lookAhead do
    bump
    if !(← atReference) then return false
    bump
    isSign ":"

/-- A member that gives the type of all keys of a type. -/
def indexSignature : Rule (List Tree) := do
  expect "["
  let _ ← anyName
  let key ← annotation? g
  expect "]"
  let value ← annotation? g
  memberEnd
  return key ++ value

/-- A getter or a setter. -/
def accessorSignature : Rule (Option (List Tree)) := do
  let isGetter ← eatWord "get"
  if !isGetter then expectWord "set"
  let name ← memberName g
  let _ ← eat "?"
  expect "("
  if isGetter then
    expect ")"
    let t ← annotation? g
    memberEnd
    return some (name ++ t)
  else
    let params ← signatureParameters g
    if params.isEmpty then fail (.expected "parameter")
    memberEnd
    return some (name ++ params)

/-- Whether `new` starts a construct signature. -/
def atConstructSignature : Rule Bool := do
  if !(← isWord "new") then return false
  lookAhead do
    bump
    isOneOf ["(", "<"]

/-- A member of an object type, with what it keeps as children. -/
def member : Rule (List Tree) := do
  if ← isOneOf ["(", "<"] then
    let parts ← signature g ":" false
    memberEnd
    return parts
  else if ← atConstructSignature then
    bump
    let parts ← signature g ":" false
    memberEnd
    return parts
  else
    let readonly := (← modifier? ["readonly"] true).isSome
    if ← atIndexSignature then indexSignature g
    else
      match ← if readonly then pure none else attempt? (accessorSignature g) with
      | some parts => return parts
      | none =>
        let name ← memberName g
        let _ ← eat "?"
        if ← isOneOf ["(", "<"] then
          if readonly then fail (.forbidden "a readonly method")
          let parts ← signature g ":" false
          memberEnd
          return name ++ parts
        else
          let t ← annotation? g
          memberEnd
          return name ++ t

/-- The members of an object type in braces. -/
def members : Rule (List Tree) := do
  expect "\x7b"
  let found ← collect do
    if ← isSign "\x7d" then return none
    return some (← member g)
  expect "\x7d"
  return found.flatten

/-! ## Types -/

/-- A name with points, as of a type. -/
def entityName : Rule Unit := do
  let _ ← anyName
  let _ ← collect do
    if ← eat "." then
      let _ ← eat "#"
      let _ ← anyName
      return some ()
    else return none

/-- Type arguments on the same line. -/
def argumentsHere? : Rule (List Tree) := do
  if ← afterNewline then return [] else arguments? g

def typeReference : Rule Tree := do
  let start ← currentStart
  entityName
  typeNode start (← argumentsHere? g)

/-- The type of a module's contents. -/
def importType : Rule Tree := do
  let start ← currentStart
  expectWord "import"
  expect "("
  let source ← stringLiteral
  if ← eat "," then
    if !(← isSign ")") then
      let _ ← g.assignment
      let _ ← eat ","
  expect ")"
  if ← eat "." then entityName
  let args ← argumentsHere? g
  typeNode start (source :: args)

/-- The type of a variable. -/
def typeQuery : Rule Tree := do
  let start ← currentStart
  expectWord "typeof"
  if ← isWord "import" then
    let t ← importType g
    typeNode start [t]
  else
    entityName
    typeNode start (← argumentsHere? g)

/-- The sign of a mark that is added or removed. -/
def markSign : Rule Bool := do
  if ← eat "+" then return true else eat "-"

/-- Whether a brace opens a mapped type. -/
def atMappedType : Rule Bool :=
  lookAhead do
    bump
    if ← markSign then isWord "readonly"
    else
      let _ ← eatWord "readonly"
      if !(← eat "[") then return false
      if !(← atReference) then return false
      bump
      isWord "in"

/-- A mark that is added or removed. -/
def mappedMark (mark : Rule Bool) : Rule Unit := do
  if ← markSign then
    if !(← mark) then fail .unexpected
  else discard mark

/-- An object type with one member for each key of a type. -/
def mappedType : Rule Tree := do
  let start ← currentStart
  expect "\x7b"
  mappedMark (eatWord "readonly")
  expect "["
  let _ ← anyName
  expectWord "in"
  let keys ← g.type
  let renamed ← typeAfterWord? g "as"
  expect "]"
  mappedMark (eat "?")
  let value ← annotation? g
  expectStatementEnd
  expect "\x7d"
  typeNode start (keys :: renamed ++ value)

/-- The label of a tuple's element. -/
def elementLabel : Rule Unit := do
  let _ ← attempt? do
    let _ ← anyName
    let _ ← eat "?"
    expect ":"
    return some ()

def tupleElement : Rule Tree := do
  let start ← currentStart
  let _ ← eat "..."
  elementLabel
  let t ← g.type
  let _ ← eat "?"
  typeNode start [t]

def tupleType : Rule Tree := do
  let start ← currentStart
  expect "["
  let parts ← commaList "]" (tupleElement g)
  expect "]"
  typeNode start parts

/-- A template whose holes hold types. -/
def templateType : Rule Tree := do
  let start ← currentStart
  let parts ← templateOf g.type
  typeNode start parts

/-- Names of types that are written as plain words. -/
def plainTypeNames : List String :=
  ["void", "null", "any", "boolean", "bigint", "never", "number", "object", "string", "symbol",
    "unknown", "undefined", "intrinsic"]

/-- A claim about `this`, after it. -/
def thisPredicate (start : Nat) : Rule Tree := do
  if (← isWord "is") && !(← afterNewline) then
    bump
    let t ← g.type
    typeNode start [t]
  else typeNode start []

/-- A type that starts with a word. -/
def wordType (text : String) : Rule Tree := do
  let start ← currentStart
  if text == "import" then importType g
  else if text == "typeof" then typeQuery g
  else if text == "this" then
    bump
    thisPredicate g start
  else if text == "true" || text == "false" then
    bump
    typeNode start []
  else if text == "asserts" && (← peekIsWord "this") then
    bump
    bump
    thisPredicate g start
  else if plainTypeNames.contains text && !(← peekIs ".") then
    bump
    typeNode start []
  else if keywords.contains text && !(["void", "null", "await", "break"].contains text) then
    fail .unexpected
  else typeReference g

/-- A type without operators and brackets after it. -/
def primaryType : Rule Tree := do
  let start ← currentStart
  match (← get).token with
  | .word text _ => wordType g text
  | .string _ =>
    let s ← stringLiteral
    typeNode start [s]
  | .number =>
    bump
    typeNode start []
  | .template _ => templateType g
  | .sign "-" =>
    bump
    if !(← isNumber) then fail (.expected "number")
    bump
    typeNode start []
  | .sign "\x7b" =>
    if ← atMappedType then mappedType g
    else
      let parts ← members g
      typeNode start parts
  | .sign "[" => tupleType g
  | .sign "(" =>
    bump
    let t ← g.type
    expect ")"
    typeNode start [t]
  | _ => fail .unexpected

/-- A type with brackets after it. -/
def postfixType : Rule Tree := do
  let first ← primaryType g
  let more ← collect do
    if ← afterNewline then return none
    if !(← eat "[") then return none
    if ← eat "]" then return some []
    let t ← g.type
    expect "]"
    return some [t]
  if more.isEmpty then return first else typeNode first.start (first :: more.flatten)

/-- A bound that is no condition of a conditional type. -/
def inferBound : Rule (Option Tree) := do
  expectWord "extends"
  let t ← within (fun c => { c with plainTypes := true }) g.type
  if (← get).context.plainTypes || !(← isSign "?") then return some t else return none

/-- A type with operators in front. `fuel` bounds their number. -/
def operatorType : Nat → Rule Tree
  | 0 => fail .tooDeep
  | fuel + 1 => do
    let start ← currentStart
    match (← get).token with
    | .word "keyof" _ | .word "unique" _ | .word "readonly" _ =>
      bump
      let t ← operatorType fuel
      typeNode start [t]
    | .word "infer" _ =>
      bump
      let _ ← anyName
      let bound ← attempt? (inferBound g)
      typeNode start bound.toList
    | _ => postfixType g

/-- Types with a sign between them and perhaps one in front. -/
def joined (sign : String) (part : Rule Tree) : Rule Tree := do
  let start ← currentStart
  let _ ← eat sign
  let first ← part
  let more ← collect do
    if ← eat sign then return some (← part) else return none
  if more.isEmpty then return first else typeNode start (first :: more)

def unionType : Rule Tree := do
  let fuel ← remaining
  joined "|" (joined "&" (operatorType g fuel))

/-- Whether a parenthesis opens the parameters of a function type. -/
def atFunctionParameters : Rule Bool :=
  lookAhead do
    bump
    if ← isOneOf [")", "..."] then return true
    skipParameterModifier
    let skipped ←
      if ← isAnyWord then
        bump
        pure true
      else if ← isOneOf ["\x7b", "["] then
        let _ ← g.target
        pure true
      else pure false
    if !skipped then return false
    if ← isOneOf [":", ",", "?", "="] then return true
    if ← eat ")" then isSign "=>" else return false

def functionType : Rule Tree := do
  let start ← currentStart
  let parts ← signature g "=>" true
  typeNode start parts

/-- A type that is no condition. -/
def unconditional : Rule Tree := do
  if (← isSign "<") || ((← isSign "(") && (← atFunctionParameters g)) then functionType g
  else if ← isWord "new" then
    bump
    functionType g
  else if (← isWord "abstract") && (← peekIsWord "new") then
    bump
    bump
    functionType g
  else unionType g

def plainly (rule : Rule α) : Rule α := within (fun c => { c with plainTypes := true }) rule
def freely (rule : Rule α) : Rule α := within (fun c => { c with plainTypes := false }) rule

/-- A type. -/
def type : Rule Tree := do
  let checked ← unconditional g
  if (← afterNewline) || (← get).context.plainTypes || !(← isWord "extends") then return checked
  bump
  let bound ← plainly (unconditional g)
  expect "?"
  let yes ← freely g.type
  expect ":"
  let no ← freely g.type
  typeNode checked.start [checked, bound, yes, no]

end Phrasebook.Syntax.Types
