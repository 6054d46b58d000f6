import Phrasebook.Syntax.Grammar.Types

/-!
# Markup

Between the tags of an element stands text, in which only braces and tags mean something; so the
token after a tag's end is read differently inside an element and after it.
-/

namespace Phrasebook.Syntax.Markup

open Rule

variable (g : Grammar)

/-! ## Names -/

/-- A word that may hold hyphens. -/
def word : Rule String := do
  rescanMarkupName
  anyName

/-- An element's or an attribute's name: its text, and whether it is a single word. -/
structure Name where
  text : String
  plain : Bool

/-- A word, perhaps behind the word of a name space. -/
def spacedName : Rule Name := do
  let first ← word
  if ← eat ":" then
    let second ← word
    return ⟨first ++ ":" ++ second, false⟩
  else return ⟨first, true⟩

/-- The name of an element. -/
def elementName : Rule Name := do
  let first ← spacedName
  let more ← collect do
    if ← eat "." then return some (← word) else return none
  return ⟨more.foldl (fun text part => text ++ "." ++ part) first.text, first.plain && more.isEmpty⟩

/-! ## Attributes -/

/-- An expression in braces, from the opening brace on. What is read after the closing brace is left
to the caller. -/
def embedded (emptyAllowed : Bool) : Rule Tree := do
  let start ← currentStart
  expect "\x7b"
  let stop (children : List Tree) : Rule Tree := do
    let s ← get
    return .node .markupExpression ⟨start, s.span.stop⟩ children
  if ← isSign "\x7d" then
    if emptyAllowed then stop [] else failAt start (.expected "expression")
  else
    let spread ← eat "..."
    let e ← g.expression
    if !(← isSign "\x7d") then fail (.expected "\x7d")
    if spread then stop [.node .spread e.span [e]] else stop [e]

/-- The value of an attribute. -/
def attributeValue : Rule Tree := do
  let start ← currentStart
  match (← get).token with
  | .markupString =>
    bump
    node .attributeText start []
  | .sign "\x7b" =>
    let e ← embedded g false
    bump
    return e
  | .sign "<" => g.markup true
  | _ => fail (.expected "attribute value")

def attributeOrSpread : Rule Tree := do
  let start ← currentStart
  if ← eat "\x7b" then
    expect "..."
    let e ← g.assignment
    expect "\x7d"
    node .spread start [e]
  else
    let name ← spacedName
    if ← isSign "=" then
      bumpToMarkupValue
      let value ← attributeValue g
      node (.attribute name.text) start [value]
    else node (.attribute name.text) start []

/-! ## Elements -/

/-- Passes over the end of a tag, to whatever is read next. -/
def tagEnd (inMarkup : Bool) : Rule Unit := do
  if !(← isSign ">") then fail (.expected ">")
  if inMarkup then bumpToMarkupChild else bump

/-- A child that follows in an element, unless it ends there. -/
def child? : Rule (Option Tree) := do
  let start ← currentStart
  match (← get).token with
  | .markupText =>
    bumpToMarkupChild
    return some (← node .markupText start [])
  | .sign "\x7b" =>
    let e ← embedded g true
    bumpToMarkupChild
    return some e
  | .sign "<" => return some (← g.markup false)
  | _ => return none

/-- The children of an element. After a fault in one the closing tag must follow. -/
def children : Rule (List Tree) :=
  collect do return (← recover (child? g)).join

/-- A closing tag, which must name what was opened. -/
def closing (opened : Option String) (inExpression : Bool) : Rule Unit := do
  if !(← isSign "</") then fail (.unterminated "markup")
  bump
  let start ← currentStart
  match opened with
  | none => tagEnd !inExpression
  | some name =>
    let found ← elementName
    tagEnd !inExpression
    if found.text != name then failAt start .closingTagMismatch

/-- Attributes up to the end of the tag. -/
def attributes : Rule (List Tree) :=
  collect do
    if ← isOneOf ["/", ">"] then return none
    return some (← attributeOrSpread g)

/-- An element or a fragment. -/
def element (inExpression : Bool) : Rule Tree := do
  let start ← currentStart
  expect "<"
  if ← isSign ">" then
    tagEnd true
    let inner ← children g
    closing none inExpression
    node .fragment start inner
  else
    let name ← elementName
    let types ← if ← isSign "<" then
        pure (← attempt? (return some (← Types.arguments g))).toList
      else pure []
    let attributes ← attributes g
    let tag := if name.plain then some name.text else none
    if ← eat "/" then
      let opening ← node .opening start (types ++ attributes)
      tagEnd !inExpression
      node (.element tag) start [opening]
    else
      let opening ← node .opening start (types ++ attributes)
      tagEnd true
      let inner ← children g
      closing (some name.text) inExpression
      node (.element tag) start (opening :: inner)

end Phrasebook.Syntax.Markup
