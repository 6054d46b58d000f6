import Mathlib.Data.Prod.Basic
import Mathlib.Data.String.Basic
import Phrasebook.Manifest
import Phrasebook.Proofs.Rewrite.Planning
import Phrasebook.Proofs.Text.Positions

/-!
# The order of a manifest

A manifest holds its entries by file and position, and entries of one place as they came. To put
them in order again changes nothing. Taken file after file they are the same list.
-/

namespace Phrasebook

open Text (Position)

/-! ## Lists that are split -/

/-- If what a test accepts comes first, to split a list by it changes nothing. -/
theorem filter_append_filter {accept : α → Bool} {items : List α}
    (ordered : items.Pairwise fun a b => accept b = true → accept a = true) :
    items.filter accept ++ items.filter (fun a => !accept a) = items := by
  induction items with
  | nil => rfl
  | cons a rest ih =>
    obtain ⟨first, others⟩ := List.pairwise_cons.mp ordered
    by_cases accepted : accept a = true
    · simp [accepted, ih others]
    · -- Nothing behind a refused item is accepted.
      have refused : ∀ b ∈ rest, ¬ accept b = true := fun b member again =>
        accepted (first b member again)
      have nothing : rest.filter accept = [] := List.filter_eq_nil_iff.mpr refused
      have rest' : rest.filter (fun a => !accept a) = rest :=
        List.filter_eq_self.mpr fun b member => by simp [refused b member]
      simp [accepted, nothing, rest']

/-- Items in the order of their names, taken name after name. -/
theorem flatMap_filter_eq (name : α → String) (names : List String) (items : List α)
    (ordered : items.Pairwise fun a b => name a ≤ name b) (rising : names.Pairwise (· < ·))
    (named : ∀ a ∈ items, name a ∈ names) :
    names.flatMap (fun each => items.filter fun a => name a == each) = items := by
  induction names generalizing items with
  | nil =>
    have nothing : items = [] := List.eq_nil_iff_forall_not_mem.mpr fun a member =>
      List.not_mem_nil (named a member)
    rw [List.flatMap_nil, nothing]
  | cons first rest ih =>
    obtain ⟨earliest, rising⟩ := List.pairwise_cons.mp rising
    -- Items of the least name come first, and the others are those of the other names.
    have least : ∀ a ∈ items, first ≤ name a := fun a member => by
      rcases List.mem_cons.mp (named a member) with same | later
      · exact same ▸ String.le_refl _
      · exact String.not_lt.mp (String.lt_asymm (earliest _ later))
    have front : items.Pairwise fun a b => (name b == first) = true → (name a == first) = true := by
      refine ordered.imp_of_mem fun member _ le same => ?_
      rw [beq_iff_eq] at same ⊢
      exact String.le_antisymm (same ▸ le) (least _ member)
    let others := items.filter fun a => !(name a == first)
    have behind : rest.flatMap (fun each => others.filter fun a => name a == each) = others := by
      refine ih others (ordered.filter _) rising fun a member => ?_
      obtain ⟨member, differs⟩ := List.mem_filter.mp member
      refine (List.mem_cons.mp (named a member)).resolve_left fun same => ?_
      simp [same] at differs
    have same : ∀ each ∈ rest, others.filter (fun a => name a == each) =
        items.filter fun a => name a == each := fun each member => by
      rw [List.filter_filter]
      refine List.filter_congr fun a _ => ?_
      by_cases here : name a = each
      · have differs : each ≠ first := fun same =>
          String.lt_irrefl first (same ▸ earliest _ member)
        simp [here, differs]
      · simp [here]
    rw [List.flatMap_cons, ← List.flatMap_congr same, behind]
    exact filter_append_filter front

/-! ## The order of entries -/

instance : IsTrans Position fun p q => q.before p = false :=
  ⟨fun _ _ _ first second => Position.not_before_trans second first⟩

instance : Std.Total fun p q : Position => q.before p = false :=
  ⟨fun p q => Position.not_before_total q p⟩

namespace Entry

theorem le_iff (a b : Entry) : le a b = true ↔ a.candidate.file < b.candidate.file ∨
    a.candidate.file = b.candidate.file ∧
      b.candidate.position.before a.candidate.position = false := by
  simp [le]

theorem le_iff_lex (a b : Entry) : le a b = true ↔
    Prod.Lex (· < ·) (fun p q : Position => q.before p = false)
      (a.candidate.file, a.candidate.position) (b.candidate.file, b.candidate.position) := by
  rw [le_iff, Prod.lex_iff]

theorem le_trans (a b c : Entry) (first : le a b = true) (second : le b c = true) :
    le a c = true :=
  (le_iff_lex a c).mpr (((le_iff_lex a b).mp first).trans ((le_iff_lex b c).mp second))

theorem le_total (a b : Entry) : (le a b || le b a) = true := by
  rw [Bool.or_eq_true, le_iff_lex, le_iff_lex]
  exact Std.Total.total _ _

theorem file_le_of_le {a b : Entry} (order : le a b = true) :
    a.candidate.file ≤ b.candidate.file := by
  rcases (le_iff a b).mp order with earlier | ⟨same, -⟩
  · exact String.not_lt.mp (String.lt_asymm earlier)
  · exact same ▸ String.le_refl _

end Entry

/-! ## Manifests -/

namespace Manifest

/-- A manifest whose entries are in order. -/
def IsOrdered (m : Manifest) : Prop := m.entries.Pairwise fun a b => Entry.le a b = true

theorem isOrdered_ofEntries (entries : List Entry) : (ofEntries entries).IsOrdered :=
  List.pairwise_mergeSort Entry.le_trans Entry.le_total entries

/-- What is read from a text is a manifest in order. -/
theorem isOrdered_of_ofText? {text : String} {m : Manifest} (found : ofText? text = some m) :
    m.IsOrdered := by
  rw [ofText?] at found
  split at found
  next =>
    obtain ⟨entries, -, rfl⟩ := Option.map_eq_some_iff.mp found
    exact isOrdered_ofEntries entries
  next => cases found

/-- Entries in order stay as they are. -/
theorem IsOrdered.ofEntries_eq {m : Manifest} (ordered : m.IsOrdered) : ofEntries m.entries = m :=
  congrArg Manifest.mk (List.mergeSort_of_pairwise ordered)

theorem perm_ofEntries (entries : List Entry) : (ofEntries entries).entries.Perm entries :=
  List.mergeSort_perm entries Entry.le

/-- Entries of one place keep their order. -/
theorem filter_ofEntries (entries : List Entry) (file : String) (position : Position) :
    (ofEntries entries).entries.filter
        (fun e => e.candidate.file = file ∧ e.candidate.position = position) =
      entries.filter (fun e => e.candidate.file = file ∧ e.candidate.position = position) := by
  let here (e : Entry) : Bool := e.candidate.file = file ∧ e.candidate.position = position
  have alike : (entries.filter here).Pairwise fun a b => Entry.le a b = true := by
    refine List.pairwise_of_forall_mem_list fun a member b member' => ?_
    have first := of_decide_eq_true (List.mem_filter.mp member).2
    have second := of_decide_eq_true (List.mem_filter.mp member').2
    rw [Entry.le_iff, first.1, first.2, second.1, second.2]
    exact .inr ⟨rfl, by simp [Position.before]⟩
  have kept : (entries.filter here).Sublist ((ofEntries entries).entries.filter here) := by
    have sorted := List.sublist_mergeSort Entry.le_trans Entry.le_total alike List.filter_sublist
    have again := sorted.filter here
    rwa [List.filter_filter, List.filter_congr (q := here) (by simp)] at again
  exact (kept.eq_of_length ((perm_ofEntries entries).filter here).length_eq.symm).symm

/-! ## Files -/

variable (m : Manifest)

theorem mem_files {file : String} :
    file ∈ m.files ↔ ∃ e ∈ m.entries, e.candidate.file = file := by
  rw [files, List.mem_mergeSort, List.mem_eraseDups, List.mem_map]

theorem nodup_files : m.files.Nodup :=
  (List.mergeSort_perm _ _).nodup_iff.mpr (nodup_eraseDups _)

theorem rising_files : m.files.Pairwise (· < ·) := by
  have order : m.files.Pairwise fun a b => (!decide (b < a)) = true := by
    refine List.pairwise_mergeSort (fun a b c first second => ?_) (fun a b => ?_) _
    · simp only [Bool.not_eq_true', decide_eq_false_iff_not, String.not_lt] at *
      exact String.le_trans first second
    · simp only [Bool.or_eq_true, Bool.not_eq_true', decide_eq_false_iff_not, String.not_lt]
      exact String.le_total a b
  refine (order.and m.nodup_files).imp fun ⟨le, differ⟩ => String.not_le.mp fun ge => differ ?_
  simp only [Bool.not_eq_true', decide_eq_false_iff_not, String.not_lt] at le
  exact String.le_antisymm le ge

/-- Groups that split the entries by file: each file stands once, in the order of files, with all
of its entries in the order of their positions. -/
structure IsSplit (groups : List (String × List Entry)) : Prop where
  whole : groups.flatMap (·.2) = m.entries
  rising : (groups.map (·.1)).Pairwise (· < ·)
  occupied : ∀ group ∈ groups, group.2 ≠ []
  own : ∀ group ∈ groups, ∀ e ∈ group.2, e.candidate.file = group.1
  inOrder : ∀ group ∈ groups, group.2.Pairwise fun a b =>
    b.candidate.position.before a.candidate.position = false

variable {m}

theorem IsOrdered.isSplit_byFile (ordered : m.IsOrdered) : m.IsSplit m.byFile := by
  have own (file : String) (e : Entry)
      (member : e ∈ m.entries.filter fun e => e.candidate.file == file) :
      e.candidate.file = file := eq_of_beq (List.mem_filter.mp member).2
  refine ⟨?_, ?_, ?_, ?_, ?_⟩
  · rw [byFile, List.flatMap_map]
    exact flatMap_filter_eq (·.candidate.file) m.files m.entries
      (ordered.imp Entry.file_le_of_le) m.rising_files fun e member =>
        m.mem_files.mpr ⟨e, member, rfl⟩
  · have names : m.byFile.map (·.1) = m.files := by
      rw [byFile, List.map_map]
      exact List.map_id' m.files
    exact names ▸ m.rising_files
  all_goals
    intro group member
    obtain ⟨file, listed, rfl⟩ := List.mem_map.mp member
  · obtain ⟨e, member, same⟩ := m.mem_files.mp listed
    exact List.ne_nil_of_mem (List.mem_filter.mpr ⟨member, beq_iff_eq.mpr same⟩)
  · exact own file
  · refine (ordered.filter _).imp_of_mem fun {a b} member member' order => ?_
    rcases (Entry.le_iff a b).mp order with earlier | ⟨-, order⟩
    · rw [own file a member, own file b member'] at earlier
      exact absurd earlier (String.lt_irrefl file)
    · exact order

end Manifest

end Phrasebook
