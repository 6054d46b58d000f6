import Phrasebook.Syntax.Lexing
import Phrasebook.Syntax.Tree

/-!
# The state of reading

A rule of the grammar is a step on the state: it yields a value, or a fault together with the state
in which it arose. Rules may look ahead, take a step back on failure, or go on after a fault.
-/

namespace Phrasebook.Syntax

/-- What surrounds the place that is read, as far as it changes what may stand there. -/
structure Context where
  /-- `in` is an operator. -/
  inOperator : Bool
  /-- Inside a conditional expression. -/
  conditional : Bool
  /-- Before the colon of a conditional expression. -/
  colonAhead : Bool
  generator : Bool
  asynchronous : Bool
  parameters : Bool
  /-- Inside a declaration without values. -/
  ambient : Bool
  /-- A type may not be conditional here. -/
  plainTypes : Bool
  staticBlock : Bool
  deriving DecidableEq, Repr

def Context.initial : Context :=
  ⟨true, false, false, false, false, false, false, false, false⟩

/-- A syntax: whether markup is part of it. -/
structure Dialect where
  markup : Bool
  deriving DecidableEq, Repr

structure State where
  token : Token
  span : Span
  newline : Bool
  /-- The text after the current token, which ends at `span.stop`. -/
  following : List Char
  /-- The end of the token before. -/
  previousStop : Nat
  /-- The length of the whole text in bytes. -/
  size : Nat
  /-- Where an arrow function may start. -/
  arrowStart : Option Nat
  context : Context
  dialect : Dialect

/-- A rule of the grammar. -/
abbrev Rule (α : Type) := EStateM Fault State α

namespace Rule

/-- More than the tokens that are left. -/
def remaining : Rule Nat := do
  let s ← get
  return s.size - s.span.start + 2

/-- Makes a lexeme the current token. -/
def enter (l : Lexeme) : Rule Unit :=
  modify fun s =>
    { s with token := l.token, span := l.span, newline := l.newline, following := l.rest }

/-- Goes on to the next token. A stuck token stays. -/
def bump : Rule Unit := do
  let s ← get
  match s.token with
  | .invalid _ true => return
  | _ =>
    set { s with previousStop := s.span.stop }
    enter (lexeme (s.size - s.span.stop + 1) s.span.stop s.following)

/-- The token after the current one. -/
def peek : Rule Lexeme := do
  let s ← get
  return lexeme (s.size - s.span.stop + 1) s.span.stop s.following

def currentStart : Rule Nat := return (← get).span.start

def previousStop : Rule Nat := return (← get).previousStop

/-- The stretch from an offset to the end of the token before. -/
def spanFrom (start : Nat) : Rule Span := return ⟨start, ← previousStop⟩

def node (kind : Kind) (start : Nat) (children : List Tree) : Rule Tree :=
  return .node kind (← spanFrom start) children

/-- Fails at an offset. -/
def failAt (offset : Nat) (cause : Cause) : Rule α := throw ⟨offset, cause⟩

/-- Fails at the current token; an invalid token brings its own fault. -/
def fail (cause : Cause) : Rule α := do
  let s ← get
  match s.token with
  | .invalid fault _ =>
    bump
    throw fault
  | _ => throw ⟨s.span.start, cause⟩

/-! ## The current token -/

def isSign (sign : String) : Rule Bool := return (← get).token == .sign sign

def isOneOf (signs : List String) : Rule Bool := do
  match (← get).token with
  | .sign sign => return signs.contains sign
  | _ => return false

/-- The current token is this word, spelled without escapes. -/
def isWord (word : String) : Rule Bool := return (← get).token == .word word false

def word? : Rule (Option String) := do
  match (← get).token with
  | .word text _ => return some text
  | _ => return none

def isAnyWord : Rule Bool := return (← word?).isSome

def isString : Rule Bool := do
  match (← get).token with
  | .string _ => return true
  | _ => return false

def isNumber : Rule Bool := return (← get).token == .number

def atEnd : Rule Bool := return (← get).token == .endOfText

def isInvalid : Rule Bool := do
  match (← get).token with
  | .invalid _ _ => return true
  | _ => return false

def afterNewline : Rule Bool := return (← get).newline

def eat (sign : String) : Rule Bool := do
  if ← isSign sign then
    bump
    return true
  else return false

def eatWord (word : String) : Rule Bool := do
  if ← isWord word then
    bump
    return true
  else return false

def expect (sign : String) : Rule Unit := do
  if !(← eat sign) then fail (.expected sign)

def expectWord (word : String) : Rule Unit := do
  if !(← eatWord word) then fail (.expected word)

def peekIs (sign : String) : Rule Bool := return (← peek).token == .sign sign

def peekIsWord (word : String) : Rule Bool := return (← peek).token == .word word false

def peekAnyWord : Rule Bool := do
  match (← peek).token with
  | .word _ _ => return true
  | _ => return false

/-- A statement may end here: at a semicolon, a closing brace, a line end or the end. -/
def atStatementEnd : Rule Bool := do
  let s ← get
  return s.newline || s.token == .sign ";" || s.token == .sign "\x7d" || s.token == .endOfText

/-- Ends a statement if it may end here, and tells whether it did. -/
def eatStatementEnd : Rule Bool := do
  if ← eat ";" then return true
  else atStatementEnd

def expectStatementEnd : Rule Unit := do
  if !(← eatStatementEnd) then fail (.expected ";")

/-! ## Looking ahead and going on -/

/-- Runs a rule and steps back unless it yields something. -/
def attempt? (rule : Rule (Option α)) : Rule (Option α) := fun s =>
  match rule s with
  | .ok (some a) s' => .ok (some a) s'
  | _ => .ok none s

/-- The answer of a rule, without moving; a fault answers no. -/
def lookAhead (rule : Rule Bool) : Rule Bool := fun s =>
  match rule s with
  | .ok b _ => .ok b s
  | .error _ _ => .ok false s

/-- Runs a rule and stays where its fault arose. -/
def recover (rule : Rule α) : Rule (Option α) := fun s =>
  match rule s with
  | .ok a s' => .ok (some a) s'
  | .error _ s' => .ok none s'

/-- Runs a rule in another context. -/
def within (change : Context → Context) (rule : Rule α) : Rule α := fun s =>
  match rule { s with context := change s.context } with
  | .ok a s' => .ok a { s' with context := s.context }
  | .error f s' => .error f { s' with context := s.context }

def allowingIn (rule : Rule α) : Rule α := within (fun c => { c with inOperator := true }) rule

/-- Repeats a rule while it yields something. -/
def collect (rule : Rule (Option α)) : Rule (List α) := do
  let rec go : Nat → Rule (List α)
    | 0 => fail .tooDeep
    | fuel + 1 => do
      match ← rule with
      | none => return []
      | some a => return a :: (← go fuel)
  go (← remaining)

/-! ## Rescanning -/

/-- Reads the current slash as the start of a regular expression. -/
def rescanRegex : Rule Unit := do
  let s ← get
  let afterSlash := if s.token == .sign "/=" then '=' :: s.following else s.following
  enter (regexAt (s.size - s.span.start + 1) s.newline s.span.start afterSlash)

/-- Joins the current greater-than sign with those that follow it. -/
def rescanGreater : Rule Unit := do
  let s ← get
  if s.token == .sign ">" then enter (greaterAt s.newline s.span.start s.following)

/-- Takes the first of two joined less-than signs. -/
def splitLess : Rule Unit := do
  let s ← get
  if s.token == .sign "<<" then
    set { s with
      token := .sign "<", span := ⟨s.span.start, s.span.start + 1⟩, following := '<' :: s.following }

/-- Reads what stands between markup tags from an offset on. -/
def enterMarkupChild (offset : Nat) (text : List Char) : Rule Unit :=
  enter (markupChild offset text)

/-- Passes over the current token and reads what stands between markup tags. -/
def bumpToMarkupChild : Rule Unit := do
  let s ← get
  match s.token with
  | .invalid _ true => return
  | _ =>
    set { s with previousStop := s.span.stop }
    enterMarkupChild s.span.stop s.following

/-- Lets the current word go on over hyphens. -/
def rescanMarkupName : Rule Unit := do
  let s ← get
  match s.token with
  | .word text escaped =>
    let more := markupNameRest (s.size - s.span.stop + 1) s.span.stop s.following
    set { s with
      token := .word (text ++ String.ofList more.chars) (escaped || more.escaped)
      span := ⟨s.span.start, more.offset⟩
      following := more.rest }
  | _ => return

/-- Passes over the current token to the value of a markup attribute. -/
def bumpToMarkupValue : Rule Unit := do
  let s ← get
  set { s with previousStop := s.span.stop }
  enter (markupValue (s.size - s.span.stop + 1) s.span.stop s.following)

/-- Reads the current closing brace as the start of a stretch of a template. -/
def rescanTemplate : Rule Unit := do
  let s ← get
  if s.token == .sign "\x7d" then
    enter (templatePart ⟨s.newline, s.span.start, '}' :: s.following⟩ s.following)

end Rule

end Phrasebook.Syntax
