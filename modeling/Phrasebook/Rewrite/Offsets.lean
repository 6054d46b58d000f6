import Phrasebook.Candidate.Offsets
import Phrasebook.Rewrite.Basic

/-!
# Where a rewrite asks for positions

A rewrite reads and searches its source, looks up the indent of the component if anything is
replaced, and reads the result again.
-/

namespace Phrasebook

/-- The indent of a component's statements is looked up at the first one and at the brace. -/
def Component.askedByIndent (c : Component) (source : List Char) : List Asked :=
  (c.firstStatement.toList ++ [c.bodyStart]).map (⟨source, ·⟩)

namespace RewriteRules

variable (rules : RewriteRules) (file : String) (source : List Char) (tree : Syntax.Tree)
  (entries : List Entry) (d : Dictionary)

/-- The plan for entries of a source that was read. -/
def planFor : Plan :=
  let scene := rules.scene file source tree d
  Plan.ofEntries scene entries

/-- What a source becomes, if anything is edited. -/
def patched? : Option (List Char) :=
  let r := rules.edits (rules.scene file source tree d) tree (rules.planFor file source tree entries d)
  if r.isChanged then (Text.splice source r.edits).toOption else none

/-- The offsets whose positions are asked for when entries are applied to a source. -/
def asked : List Asked :=
  askedByReading file source ++
    match readSource file source with
    | .error _ => []
    | .ok tree =>
      Search.asked ⟨rules.search, file, source⟩ tree ++
        (if (rules.planFor file source tree entries d).edits.isEmpty then []
          else (Component.ofModule? tree).toList.flatMap (·.askedByIndent source)) ++
        (rules.patched? file source tree entries d).toList.flatMap (askedByReading file)

end RewriteRules

end Phrasebook
