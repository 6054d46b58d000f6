import Phrasebook.Syntax.Tree

/-!
# The head of a module

Directives come first in a module, then imports. A new import goes behind the last import, else
behind the last directive, else to the very start.
-/

namespace Phrasebook

open Syntax (Tree)

structure ModuleHead where
  lastImportStop : Option Nat
  directivesStop : Option Nat
  importedNames : List String
  deriving DecidableEq, Repr

namespace ModuleHead

/-- Where the directives at the start of a module end. -/
def directivesStop? : List Tree → Option Nat
  | .node .expressionStatement span [.node (.stringLiteral _) _ _] :: rest =>
    (directivesStop? rest).or (some span.stop)
  | _ => none

/-- The names that an item imports. -/
def namesOf : Tree → List String
  | .node (.importDeclaration names) _ _ => names
  | _ => []

def importStop? : Tree → Option Nat
  | .node (.importDeclaration _) span _ => some span.stop
  | _ => none

def ofModule (module : Tree) : ModuleHead where
  lastImportStop := (module.children.filterMap importStop?).getLast?
  directivesStop := directivesStop? module.children
  importedNames := module.children.flatMap namesOf

/-- Where a new import goes, if something stands before it. -/
def insertion? (h : ModuleHead) : Option Nat := h.lastImportStop.or h.directivesStop

end ModuleHead

end Phrasebook
