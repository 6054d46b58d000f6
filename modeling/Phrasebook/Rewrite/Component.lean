import Phrasebook.Syntax.Tree
import Phrasebook.Unicode.Uppercase

/-!
# The component of a module

Lookups need accessors, which are declared at the start of a component: the first exported function,
or exported variable bound to a function with a body in braces, whose name starts with a capital.
-/

namespace Phrasebook

open Syntax (Tree Kind)

structure Component where
  name : String
  isAsync : Bool
  /-- Where the opening brace of the body stands. -/
  bodyStart : Nat
  /-- Where the text goes on after the closing brace. -/
  bodyStop : Nat
  /-- Where the first statement of the body starts. -/
  firstStatement : Option Nat
  /-- Names of the variables that the body declares. -/
  declared : List String
  deriving DecidableEq, Repr

namespace Component

def isComponentName (name : String) : Bool :=
  match name.toList with
  | c :: _ => Unicode.isUppercase c
  | [] => false

/-- The name that a declarator or a pattern binds, if it is a single one. -/
def boundName? : Tree → Option String
  | .node (.bindingName name) _ _ => some name
  | _ => none

/-- The names of single variables among declarators. -/
def declaredNames (statement : Tree) : List String :=
  match statement with
  | .node .variables _ declarators =>
    declarators.filterMap fun declarator => declarator.children.head?.bind boundName?
  | _ => []

/-- The block that a function's tree ends with, if it has one. -/
def body? (function : Tree) : Option Tree :=
  match function.children.getLast? with
  | some t => if t.kind = .block then some t else none
  | none => none

/-- A component of a name and a body. -/
def ofBody? (name : String) (isAsync : Bool) (body : Tree) : Option Component :=
  if isComponentName name then
    some {
      name, isAsync
      bodyStart := body.start
      bodyStop := body.stop
      firstStatement := body.children.head?.map Tree.start
      declared := body.children.flatMap declaredNames }
  else none

/-- The component that a declared function is. -/
def ofFunction? (function : Tree) : Option Component :=
  match function.kind with
  | .function (some name) isAsync => (body? function).bind (ofBody? name isAsync)
  | _ => none

/-- The component that a variable bound to a function is. -/
def ofDeclarator? (declarator : Tree) : Option Component :=
  match declarator.children with
  | [.node (.bindingName name) _ _, value] =>
    match value.kind with
    | .arrow isAsync | .function _ isAsync => (body? value).bind (ofBody? name isAsync)
    | _ => none
  | _ => none

/-- The component that an item of a module exports. -/
def ofItem? : Tree → Option Component
  | .node .exportDeclaration _ [declaration] =>
    match declaration.kind with
    | .variables => declaration.children.findSome? ofDeclarator?
    | _ => ofFunction? declaration
  | .node .exportDefault _ [declaration] => ofFunction? declaration
  | _ => none

/-- The first component that a module exports. -/
def ofModule? (module : Tree) : Option Component := module.children.findSome? ofItem?

end Component

end Phrasebook
