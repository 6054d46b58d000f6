import Phrasebook.Syntax.Grammar.Operands

/-!
# Operators, conditions and assignments
-/

namespace Phrasebook.Syntax.Operators

open Rule

variable (g : Grammar)

/-! ## In front of an operand -/

/-- A type asserted in angle brackets, where markup is not read. -/
def assertion : Rule Tree := do
  let start ← currentStart
  expect "<"
  if ← eatWord "const" then
    expect ">"
    let e ← g.unary
    node .typed start [e]
  else
    let t ← g.type
    expect ">"
    let e ← g.unary
    node .typed start [t, e]

/-- `await` is a plain name where nothing can be awaited. -/
def awaited : Rule Tree := do
  let start ← currentStart
  bump
  let c := (← get).context
  let endsHere : Rule Bool := return (← atStatementEnd) || (← isOneOf [")", "]", ","])
  if !c.asynchronous && (← endsHere) then node (.name "await") start []
  else
    let e ← g.unary
    node .await start [e]

/-- An operator in front of an operand. A fault in the operand is passed over. -/
def signed (start : Nat) : Rule Tree := do
  bump
  let place ← currentStart
  match ← recover g.unary with
  | some e => node .unary start [e]
  | none => node .unary start [.node .invalid ⟨place, place⟩ []]

/-- An operand and what raises or lowers it. -/
def updated : Rule Tree := do
  let e ← g.operand
  match e.kind with
  | .arrow _ => return e
  | _ =>
    if !(← afterNewline) && (← isOneOf ["++", "--"]) then
      bump
      node .update e.start [e]
    else return e

/-- Whether a less-than sign opens markup. -/
def atMarkup : Rule Bool := do
  if !(← isSign "<") || !(← get).dialect.markup then return false
  match (← peek).token with
  | .word _ _ => return true
  | .sign sign => return sign == ">"
  | _ => return false

def unary : Rule Tree := do
  let s ← get
  let start := s.span.start
  match s.token with
  | .sign "<" =>
    if !s.dialect.markup then assertion g
    else if ← atMarkup then g.markup true
    else updated g
  | .sign "++" | .sign "--" =>
    bump
    let e ← g.unary
    node .update start [e]
  | .sign "+" | .sign "-" | .sign "~" | .sign "!" => signed g start
  | .word "delete" false | .word "void" false | .word "typeof" false => signed g start
  | .word "await" false => awaited g
  | _ => updated g

/-! ## Between operands -/

/-- How tightly the operator here binds, and whether it is a comparison. -/
def operatorHere? : Rule (Option (Nat × Bool)) := do
  rescanGreater
  match (← get).token with
  | .sign sign =>
    let comparison := ["==", "!=", "===", "!=="].contains sign
    return (operatorSigns.lookup sign).map (·, comparison)
  | .word "in" false => return if (← get).context.inOperator then some (7, true) else none
  | .word "instanceof" false => return some (7, true)
  | _ => return none

/-- A type asserted behind an operand. -/
def assertedAfter? (left : Tree) (least : Nat) : Rule (Option Tree) := do
  if least ≥ 7 || (← afterNewline) then return none
  if ← isWord "as" then
    bump
    if ← eatWord "const" then return some (← node .typed left.start [left])
    else
      let t ← g.type
      return some (← node .typed left.start [left, t])
  else if ← isWord "satisfies" then
    bump
    let t ← g.type
    return some (← node .typed left.start [left, t])
  else return none

/-- Goes on after a first operand with operators that bind tighter than `least`. -/
def after : Nat → Nat → Tree → Rule Tree
  | 0, _, _ => fail .tooDeep
  | fuel + 1, least, left => do
    match ← assertedAfter? g left least with
    | some t => after fuel least t
    | none =>
      match ← operatorHere? with
      | none => return left
      | some (tightness, comparison) =>
        if tightness ≤ least then return left
        bump
        let power := tightness == 11
        if power && (left.kind == .unary || left.kind == .await) then
          fail (.forbidden "a power of an expression with a sign")
        let operand ← g.unary
        let right ← after fuel (if power then tightness - 1 else tightness) operand
        let t ← node (if comparison then .comparison else .binary) left.start [left, right]
        after fuel least t

def operationAfter (left : Tree) : Rule Tree := do
  after g (← remaining) 0 left

/-- An expression with operators. A missing first operand is passed over in front of an operator. -/
def operation : Rule Tree := do
  let start ← currentStart
  let read : Rule (Except Fault Tree) := fun s =>
    match g.unary s with
    | .ok t s' => .ok (.ok t) s'
    | .error fault s' => .ok (.error fault) s'
  match ← read with
  | .ok left =>
    match left.kind with
    | .arrow _ => return left
    | _ => operationAfter g left
  | .error fault =>
    let atOperator ←
      match (← get).token with
      | .word "in" false => pure (← get).context.inOperator
      | .word "instanceof" false => pure true
      | _ => atOperatorSign
    if atOperator then operationAfter g (.node .invalid ⟨start, start⟩ [])
    else throw fault

/-! ## Conditions and assignments -/

def conditional : Rule Tree := do
  let condition ← g.operation
  match condition.kind with
  | .arrow _ => return condition
  | _ => if ← isSign "?" then Arrows.outcomes g condition else return condition

def yielded : Rule Tree := do
  let start ← currentStart
  bump
  if (← atStatementEnd) || !((← isSign "*") || (← atExpression)) then node .yield start []
  else
    let _ ← eat "*"
    let e ← g.assignment
    node .yield start [e]

/-- Whether nothing can be assigned to an expression of this kind. -/
def isFinal : Kind → Bool
  | .arrow _ | .conditional | .binary | .comparison | .unary | .update => true
  | _ => false

/-- An expression without commas and without generic parameters in front. -/
def plainAssignment : Rule Tree := do
  let s ← get
  if s.context.generator && (← isWord "yield") then return ← yielded g
  if ← isInvalid then fail .unexpected
  let mayStartArrow := (← isAnyWord) || (← isSign "(")
  modify fun s => { s with arrowStart := if mayStartArrow then some s.span.start else none }
  let left ← conditional g
  if isFinal left.kind then return left else Patterns.assignmentAfter g left

/-- An expression without commas. In markup, an element goes before generic parameters. -/
def assignment : Rule Tree := fun s =>
  if s.token != .sign "<" then plainAssignment g s
  else if s.dialect.markup then
    match plainAssignment g s with
    | .ok t s' => .ok t s'
    | .error fault s' =>
      match Arrows.generic? g s with
      | .ok (some t) s'' => .ok t s''
      | _ => .error fault s'
  else
    match Arrows.generic? g s with
    | .ok (some t) s' => .ok t s'
    | _ => plainAssignment g s

def expression : Rule Tree := do
  let first ← g.assignment
  let more ← collect do
    if ← eat "," then return some (← g.assignment) else return none
  if more.isEmpty then return first else node .sequence first.start (first :: more)

end Phrasebook.Syntax.Operators
