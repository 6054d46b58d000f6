import Phrasebook.Dictionary.Basic
import Phrasebook.Notice

/-!
# Propagation

Every new key of the source locale gets a placeholder in each target locale: the marker and the
source text. A placeholder that is there already follows the source text; a real translation stays.
-/

namespace Phrasebook

/-- How many keys were treated in which way. -/
structure PropagationCounts where
  inserted : Nat
  refreshed : Nat
  preserved : Nat
  /-- Keys that the shape of a target's messages keeps out. -/
  conflicts : Nat
  deriving DecidableEq, Repr

namespace PropagationCounts

def zero : PropagationCounts := ⟨0, 0, 0, 0⟩

end PropagationCounts

/-- A propagation under way. -/
structure Propagation where
  dictionary : Dictionary
  counts : PropagationCounts
  notices : List Notice

namespace Propagation

def insert (p : Propagation) (target key text : String) : Propagation :=
  { p with
    dictionary := p.dictionary.write target key text
    counts := { p.counts with inserted := p.counts.inserted + 1 } }

def refresh (p : Propagation) (target key text : String) : Propagation :=
  { p with
    dictionary := p.dictionary.write target key text
    counts := { p.counts with refreshed := p.counts.refreshed + 1 } }

def preserve (p : Propagation) : Propagation :=
  { p with counts := { p.counts with preserved := p.counts.preserved + 1 } }

def conflict (p : Propagation) (target key place : String) : Propagation :=
  { p with
    counts := { p.counts with conflicts := p.counts.conflicts + 1 }
    notices := p.notices ++ [.warning ("Cannot add '" ++ key ++ "' to locale '" ++ target ++
      "': conflicts with '" ++ place ++ "'")] }

/-- Gives one key to one target. A key without a text in the source is passed over. -/
def step (source target key : String) (p : Propagation) : Propagation :=
  match p.dictionary.leaf? source key with
  | none => p
  | some text =>
    let marker := p.dictionary.placeholderPrefix
    let placeholder := marker ++ text
    match p.dictionary.probe target key placeholder with
    | .same => p.preserve
    | .free => p.insert target key placeholder
    | .different held =>
      if held.startsWith marker then p.refresh target key placeholder else p.preserve
    | .blocked place => p.conflict target key place

end Propagation

/-- Gives all new keys to all targets. -/
def Dictionary.propagate (d : Dictionary) (source : String) (targets : List String) : Propagation :=
  (targets.filter (· != source)).foldl
    (fun p target => d.pending.foldl (fun p key => p.step source target key) p) ⟨d, .zero, []⟩

end Phrasebook
