import Phrasebook.Syntax.Token

/-!
# Syntax trees

Every node has a kind, the stretch of text it was read from, and its children in reading order. The
kind says what the node is and names the part it plays under its parent where that matters: a
computed key, the test of a case, the name of a property.
-/

namespace Phrasebook.Syntax

inductive Kind where
  | module
  -- imports and exports
  /-- Binds the given local names. -/
  | importDeclaration (names : List String)
  | importEquals
  | moduleReference
  | exportNames
  | exportAll
  | exportDeclaration
  | exportDefault
  | exportAssignment
  | exportNamespace
  -- statements
  | expressionStatement
  | variables
  /-- Variables whose values are given back at the end of their block. -/
  | resources
  | declarator
  | block
  | emptyStatement
  | branch
  | loop
  | switchStatement
  | switchCase
  | caseTest
  | tryStatement
  | catchClause
  | throwStatement
  | returnStatement
  | jump
  | labelled
  | withStatement
  -- expressions
  | name (text : String)
  | privateName
  | this
  | super
  | stringLiteral (value : Option String)
  | literal
  | template
  | taggedTemplate
  | array
  | hole
  | spread
  | object
  | property
  | shorthand (name : String)
  | shorthandDefault (name : String)
  | objectMethod
  | propertyName (text : Option String)
  | function (name : Option String) (isAsync : Bool)
  | arrow (isAsync : Bool)
  | paren
  | sequence
  /-- A property picked by its name. -/
  | member (property : String)
  | privateMember
  | index
  | computedKey
  | superMember
  | superIndex
  | call
  | optionalCall
  | superCall
  | importCall
  | new
  | metaProperty
  | unary
  | update
  | await
  | yield
  | binary
  /-- An equality test, or a test by `in` or `instanceof`. -/
  | comparison
  | assignment (plain : Bool)
  | conditional
  /-- A member, index or call that may be passed over for want of an object. -/
  | chain
  /-- An expression with a type asserted of it. -/
  | typed
  | nonNull
  | invalid
  -- patterns
  | bindingName (text : String)
  | arrayPattern
  | objectPattern
  | patternProperty
  | patternShorthand
  | defaulted
  | rest
  -- classes
  | classDefinition
  | classMember
  | decorator
  -- markup
  /-- An element, with its tag where that is a plain name. -/
  | element (tag : Option String)
  | fragment
  | opening
  | attribute (name : String)
  | attributeText
  | markupText
  | markupExpression
  -- types and declarations of types
  | type
  | interface
  | typeAlias
  | enumeration
  | enumMember
  | enumMemberName
  | moduleName
  | moduleDeclaration
  deriving DecidableEq, Repr

inductive Tree where
  | node (kind : Kind) (span : Span) (children : List Tree)
  deriving Repr

namespace Tree

def kind : Tree → Kind
  | node k _ _ => k

def span : Tree → Span
  | node _ s _ => s

def children : Tree → List Tree
  | node _ _ cs => cs

def start (t : Tree) : Nat := t.span.start
def stop (t : Tree) : Nat := t.span.stop

/-- The same node with another kind. -/
def withKind (k : Kind) : Tree → Tree
  | node _ s cs => node k s cs

/-- The same node over another stretch. -/
def withSpan (s : Span) : Tree → Tree
  | node k _ cs => node k s cs

/-- The same node with further children. -/
def adding (more : List Tree) : Tree → Tree
  | node k s cs => node k s (cs ++ more)

end Tree

end Phrasebook.Syntax
