import Phrasebook.Rewrite.Head
import Phrasebook.Rewrite.Plan

/-!
# Rewriting a source

The tokens of the entries are replaced by lookups. If any is, the component gets the accessors that
it lacks, and the module the import that they need. A source is rewritten as a whole or not at all,
and the result can be read again.
-/

namespace Phrasebook

open Text (Edit)

/-- What decides about rewrites. -/
structure RewriteRules where
  binding : Binding
  sourceLocale : String
  search : SearchRules

def RewriteRules.ofSettings (s : Settings) : RewriteRules where
  binding := s.binding
  sourceLocale := s.sourceLocale
  search := .ofSettings s

/-- A source with its entries applied. -/
structure Rewrite where
  file : String
  content : String
  /-- Every edit made: the lookups by start, then the import, then the accessors. -/
  edits : List Edit
  /-- How many tokens were replaced. -/
  applied : Nat
  skips : List Skip
  importAdded : Bool
  accessorsAdded : List String
  deriving DecidableEq, Repr

def Rewrite.isChanged (r : Rewrite) : Bool := !r.edits.isEmpty

/-- The function that a component binds its namespaces with, and where it comes from. -/
def Component.bindingOf (c : Component) (b : Binding) : String × String :=
  if c.isAsync then (b.server, b.serverSource) else (b.hook, b.hookSource)

/-! ## Imports -/

/-- The statement that imports a function. -/
def importStatement (name source : String) : String :=
  "import \x7b " ++ name ++ " \x7d from " ++ quoted source ++ ";"

/-- The edit that imports a function, if the module does not import that name. -/
def ModuleHead.importEdit? (h : ModuleHead) (name source : String) : Option Edit :=
  if h.importedNames.contains name then none
  else
    match h.insertion? with
    | some offset => some (.insert offset ("\n" ++ importStatement name source))
    | none => some (.insert 0 (importStatement name source ++ "\n"))

/-! ## Accessors -/

/-- The indent of the line that holds an offset. -/
def indentAt (source : List Char) (offset : Nat) : List Char :=
  let line := (Text.position source offset).line
  ((Text.lineText? source line).getD []).takeWhile fun c => c == ' ' || c == '\t'

namespace Component

/-- The indent of a component's statements: that of its first one, if it has a line of its own, else
two blanks more than the component's. -/
def indent (c : Component) (source : List Char) : List Char :=
  let line (offset : Nat) := (Text.position source offset).line
  match c.firstStatement with
  | some offset =>
    if line offset = line c.bodyStart then indentAt source c.bodyStart ++ [' ', ' ']
    else indentAt source offset
  | none => indentAt source c.bodyStart ++ [' ', ' ']

/-- The statement that declares the accessor of a namespace. -/
def declaration (c : Component) (binding spaceName : String) : String :=
  "const " ++ Key.accessor spaceName ++ " = " ++ (if c.isAsync then "await " else "") ++ binding ++
    "(" ++ quoted spaceName ++ ");"

/-- The namespaces whose accessors a component lacks. -/
def lacking (c : Component) (spaceNames : List String) : List String :=
  spaceNames.filter fun name => !c.declared.contains (Key.accessor name)

/-- The edit that declares an accessor at the start of a component. -/
def accessorEdit (c : Component) (source : List Char) (binding spaceName : String) : Edit :=
  .insert (c.bodyStart + 1)
    ("\n" ++ String.ofList (c.indent source) ++ c.declaration binding spaceName)

end Component

/-! ## Rewrites -/

namespace RewriteRules

/-- What entries of a file are applied to. -/
def scene (rules : RewriteRules) (file : String) (source : List Char) (tree : Syntax.Tree)
    (d : Dictionary) : RewriteScene where
  file := file
  source := source
  tokens := tokensOf source (occurrencesIn rules.search file source tree)
  component := Component.ofModule? tree
  text? := d.leaf? rules.sourceLocale

/-- The edits of a plan with the import and the accessors that it needs. -/
def edits (rules : RewriteRules) (scene : RewriteScene) (tree : Syntax.Tree) (plan : Plan) :
    Rewrite :=
  let bare : Rewrite :=
    ⟨scene.file, String.ofList scene.source, plan.edits, plan.edits.length, plan.skips, false, []⟩
  match scene.component with
  | none => bare
  | some c =>
    if plan.edits.isEmpty then bare
    else
      let (name, source) := c.bindingOf rules.binding
      let imported := (ModuleHead.ofModule tree).importEdit? name source
      let lacking := c.lacking plan.orderedSpaceNames
      { bare with
        edits := plan.edits ++ imported.toList ++ lacking.map (c.accessorEdit scene.source name)
        importAdded := imported.isSome
        accessorsAdded := lacking.map Key.accessor }

/-- Makes the edits of a rewrite; the result must be a module again. -/
def make (r : Rewrite) (source : List Char) : Except Failure Rewrite :=
  if r.isChanged then
    match Text.splice source r.edits with
    | .error e => .error (.storage r.file ("could not apply edits: " ++ e.message))
    | .ok content =>
      (readSource r.file content).map fun _ => { r with content := String.ofList content }
  else .ok r

/-- Applies entries to a source. -/
def rewrite (rules : RewriteRules) (file : String) (source : List Char) (entries : List Entry)
    (d : Dictionary) : Except Failure Rewrite := do
  let tree ← readSource file source
  let scene := rules.scene file source tree d
  make (rules.edits scene tree (Plan.ofEntries scene entries)) source

end RewriteRules

end Phrasebook
