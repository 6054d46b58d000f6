import Phrasebook.Syntax.Reader

/-!
# The grammar's open places

Rules refer to each other in circles. Each rule is therefore written against a record of the rules
it may call; the record is closed once all rules are there.
-/

namespace Phrasebook.Syntax

/-- The rules that others call. -/
structure Grammar where
  /-- An expression, commas included. -/
  expression : Rule Tree
  /-- An expression without commas. -/
  assignment : Rule Tree
  /-- An expression with operators, but without a condition or an assignment. -/
  operation : Rule Tree
  /-- Goes on with operators after their first operand. -/
  operationAfter : Tree → Rule Tree
  unary : Rule Tree
  /-- An expression without operators. -/
  operand : Rule Tree
  /-- A statement; the flags allow declarations, and imports and exports. -/
  statement : (declarations : Bool) → (top : Bool) → Rule Tree
  type : Rule Tree
  /-- A name, or a pattern that takes an array or an object apart. -/
  target : Rule Tree
  /-- A markup element; the flag tells whether an expression or more markup follows. -/
  markup : (inExpression : Bool) → Rule Tree

/-- The rules that always fail. -/
def Grammar.closed : Grammar where
  expression := Rule.fail .tooDeep
  assignment := Rule.fail .tooDeep
  operation := Rule.fail .tooDeep
  operationAfter _ := Rule.fail .tooDeep
  unary := Rule.fail .tooDeep
  operand := Rule.fail .tooDeep
  statement _ _ := Rule.fail .tooDeep
  type := Rule.fail .tooDeep
  target := Rule.fail .tooDeep
  markup _ := Rule.fail .tooDeep

namespace Rule

/-! ## Names -/

/-- Words that never name anything. -/
def keywords : List String :=
  ["break", "case", "catch", "class", "const", "continue", "debugger", "default", "delete", "do",
    "else", "export", "extends", "false", "finally", "for", "function", "if", "import", "in",
    "instanceof", "new", "null", "return", "super", "switch", "this", "throw", "true", "try",
    "typeof", "var", "void", "while", "with", "await"]

/-- Words that module code keeps free. -/
def reservedWords : List String :=
  keywords ++ ["let", "yield", "enum", "implements", "package", "protected", "interface", "private",
    "public"]

/-- A word that may refer to a variable in module code. -/
def isReference (token : Token) : Bool :=
  match token with
  | .word text escaped => escaped || !reservedWords.contains text
  | _ => false

def atReference : Rule Bool := return isReference (← get).token

/-- Any word, as after a point. -/
def anyName : Rule String := do
  match ← word? with
  | some text =>
    bump
    return text
  | none => fail (.expected "identifier")

/-- A word that names a variable; a keyword is passed over before it is refused. -/
def variableName : Rule String := do
  let s ← get
  match s.token with
  | .word text escaped =>
    bump
    let allowed := escaped || !keywords.contains text || text == "this" ||
      (text == "await" && !s.context.asynchronous)
    if allowed then return text else failAt s.span.start (.expected "identifier")
  | _ => fail (.expected "identifier")

/-- A variable that is bound here. -/
def bindingName : Rule Tree := do
  let start ← currentStart
  let name ← variableName
  node (.bindingName name) start []

/-- Words that go in front of a name, unless they are the name. -/
def peekFollowsModifier : Rule Bool := do
  let next ← peek
  match next.token with
  | .word _ _ | .string _ | .number => return !next.newline
  | .sign sign => return !next.newline && ["[", "\x7b", "*", "...", "#"].contains sign
  | _ => return false

/-- One of these words, standing in front of a name. -/
def modifier? (allowed : List String) (beforeBlock : Bool) : Rule (Option String) := do
  match (← get).token with
  | .word text _ =>
    if !allowed.contains text then return none
    if !beforeBlock && text == "static" && (← peekIs "\x7b") then return none
    if ← peekFollowsModifier then
      bump
      return some text
    else return none
  | _ => return none

/-- Passes over a modifier of a parameter. -/
def skipParameterModifier : Rule Unit := do
  match (← get).token with
  | .word text false =>
    if ["public", "protected", "private", "readonly"].contains text then
      let next := (← peek).token
      let follows := match next with
        | .word _ _ => true
        | .sign sign => sign == "\x7b" || sign == "["
        | _ => false
      if follows then discard (modifier? ["public", "protected", "private", "readonly"] true)
  | _ => return

/-! ## Operators -/

/-- The signs of operators between two operands, with how tightly they bind. -/
def operatorSigns : List (String × Nat) :=
  [("??", 1), ("||", 1), ("&&", 2), ("|", 3), ("^", 4), ("&", 5),
    ("==", 6), ("!=", 6), ("===", 6), ("!==", 6),
    ("<", 7), (">", 7), ("<=", 7), (">=", 7), ("<<", 8), (">>", 8), (">>>", 8),
    ("+", 9), ("-", 9), ("*", 10), ("/", 10), ("%", 10), ("**", 11)]

def atOperatorSign : Rule Bool := do
  match (← get).token with
  | .sign sign => return (operatorSigns.lookup sign).isSome
  | _ => return false

/-- The signs that assign. -/
def assignmentSigns : List String :=
  ["=", "+=", "-=", "*=", "/=", "%=", "**=", "<<=", ">>=", ">>>=", "&=", "|=", "^=", "&&=", "||=",
    "??="]

/-- Words that may start an expression although they name nothing. -/
def startingKeywords : List String :=
  ["function", "this", "super", "class", "null", "true", "false", "typeof", "void", "delete",
    "await", "new", "import"]

/-- An expression may start here. -/
def atExpression : Rule Bool := do
  match (← get).token with
  | .word text escaped =>
    return escaped || !keywords.contains text || startingKeywords.contains text
  | .string _ | .number | .template _ | .regex => return true
  | .sign sign =>
    return ["(", "[", "\x7b", "+", "-", "!", "~", "++", "--", "<", "<<", "@", "#"].contains sign
  | _ => return false

/-! ## Lists -/

/-- Items with commas between them, up to a closing sign that is left standing. A comma may stand
before the closing sign. -/
def commaList (closing : String) (item : Rule α) : Rule (List α) :=
  collect do
    if ← isSign closing then return none
    let a ← item
    if !(← isSign closing) then expect ","
    return some a

/-- As `commaList`, and the list also stops at the end of the text. -/
def commaListOrEnd (closing : String) (item : Rule α) : Rule (List α) :=
  collect do
    if (← isSign closing) || (← atEnd) then return none
    let a ← item
    if !(← isSign closing) then expect ","
    return some a

/-! ## Templates -/

/-- What stands in the holes of a template, from the first one up to the closing backtick. -/
def templateHoles (hole : Rule α) : Rule (List α) := do
  let rec go : Nat → Rule (List α)
    | 0 => fail .tooDeep
    | fuel + 1 => do
      let a ← hole
      rescanTemplate
      match (← get).token with
      | .template last =>
        bump
        if last then return [a] else return a :: (← go fuel)
      | _ => fail (.expected "\x7d")
  go (← remaining)

/-- A template, whose holes are read by a rule. -/
def templateOf (hole : Rule α) : Rule (List α) := do
  match (← get).token with
  | .template last =>
    bump
    if last then return [] else templateHoles hole
  | _ => fail (.expected "template")

/-! ## Literals -/

/-- The current string. -/
def stringLiteral : Rule Tree := do
  let start ← currentStart
  match (← get).token with
  | .string value =>
    bump
    node (.stringLiteral value) start []
  | _ => fail (.expected "string")

/-- The current token as a literal. -/
def literal : Rule Tree := do
  let start ← currentStart
  bump
  node .literal start []

end Rule

end Phrasebook.Syntax
