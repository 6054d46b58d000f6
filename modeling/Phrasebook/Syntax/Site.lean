import Phrasebook.Syntax.Tree

/-!
# Sites in a tree

A site is a node with the steps that lead down to it from the root.
-/

namespace Phrasebook.Syntax

/-- A step down, from a node to one of its children. -/
structure Step where
  parent : Tree
  index : Nat

/-- A node, and the steps that lead down to it, the last one first. -/
structure Site where
  steps : List Step
  node : Tree

mutual

/-- The sites of a tree in reading order, where some steps lead down to the tree. -/
def Tree.sitesBelow (steps : List Step) : Tree → List Site
  | .node kind span children =>
    ⟨steps, .node kind span children⟩ :: sitesOf steps (.node kind span children) 0 children

/-- The sites of the children of a node, from one of them on. -/
def sitesOf (steps : List Step) (parent : Tree) (index : Nat) : List Tree → List Site
  | [] => []
  | t :: rest =>
    t.sitesBelow (⟨parent, index⟩ :: steps) ++ sitesOf steps parent (index + 1) rest

end

/-- The sites of a tree in reading order. -/
def Tree.sites (t : Tree) : List Site := t.sitesBelow []

end Phrasebook.Syntax
