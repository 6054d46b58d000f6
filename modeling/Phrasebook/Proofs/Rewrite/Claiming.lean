import Mathlib.Data.List.Nodup
import Mathlib.Data.List.Pairwise
import Mathlib.Data.List.Perm.Basic
import Phrasebook.Proofs.Rewrite.Recorded

/-!
# What becomes of every entry

Entries are planned one after the other, those that stand later in the source first. An entry is
applied, or skipped with a reason, or late: its token was claimed by an entry planned before it, and
the plan says nothing of it. So the counts of a rewrite add up exactly if no two entries ask for one
token, and a token goes to the entry that was recorded last among those that ask for it.
-/

namespace Phrasebook

open Text (Edit byteLength)

/-! ## The ledger of a plan -/

namespace RewriteScene

/-- An entry asks for a start if its edit would stand there. -/
def Asks (scene : RewriteScene) (e : Entry) (start : Nat) : Prop :=
  ∃ edit, scene.edit? e = .ok edit ∧ edit.start = start

/-- Two entries that do not ask for one start. -/
def Apart (scene : RewriteScene) (a b : Entry) : Prop :=
  ∀ start, scene.Asks a start → ¬ scene.Asks b start

instance (scene : RewriteScene) : Std.Symm scene.Apart where
  symm _ _ apart start asks other := apart start other asks

/-- The skip of an entry that cannot be applied. -/
def skip? (scene : RewriteScene) (e : Entry) : Option Skip :=
  match scene.edit? e with
  | .error reason => some (.ofEntry scene.file e reason)
  | .ok _ => none

theorem skip?_eq_some_iff (scene : RewriteScene) (e : Entry) (skip : Skip) :
    scene.skip? e = some skip ↔
      scene.edit? e = .error skip.reason ∧ skip = .ofEntry scene.file e skip.reason := by
  unfold skip?
  split
  next reason failed =>
    rw [failed]
    constructor
    · rintro ⟨⟩
      exact ⟨rfl, rfl⟩
    · rintro ⟨same, equal⟩
      cases same
      exact congrArg some equal.symm
  next edit found => simp [found]

end RewriteScene

/-- Entries that were planned, by what became of them: those applied have the edits of the plan, one
each, those skipped have its skips, and those that came late ask for the start of an entry that is
recorded no earlier in the source. -/
structure Plan.Ledger (scene : RewriteScene) (entries : List Entry) (plan : Plan)
    (applied skipped late : List Entry) : Prop where
  whole : (applied ++ skipped ++ late).Perm entries
  sorted : plan.edits.Pairwise fun a b => a.start < b.start
  edited : (applied.map scene.edit?).Perm (plan.edits.map .ok)
  explained : skipped.map scene.skip? = plan.skips.map some
  beaten : ∀ e ∈ late, ∃ start, scene.Asks e start ∧ ∃ winner ∈ applied, scene.Asks winner start ∧
    winner.candidate.position.before e.candidate.position = false

namespace Plan

variable {scene : RewriteScene} {entries applied skipped late : List Entry} {plan : Plan}

theorem ledger_empty : Plan.empty.Ledger scene [] [] [] [] where
  whole := .nil
  sorted := .nil
  edited := .nil
  explained := rfl
  beaten := fun _ member => absurd member List.not_mem_nil

/-- An edit of the plan is that of an entry applied. -/
theorem Ledger.exists_applied (ledger : plan.Ledger scene entries applied skipped late)
    (edit : Edit) (member : edit ∈ plan.edits) : ∃ e ∈ applied, scene.edit? e = .ok edit :=
  List.mem_map.mp (ledger.edited.mem_iff.mpr (List.mem_map_of_mem member))

/-- An entry applied has an edit in the plan. -/
theorem Ledger.exists_edit (ledger : plan.Ledger scene entries applied skipped late) {e : Entry}
    (member : e ∈ applied) : ∃ edit ∈ plan.edits, scene.edit? e = .ok edit := by
  have mapped := ledger.edited.mem_iff.mp (List.mem_map_of_mem member)
  obtain ⟨edit, inside, same⟩ := List.mem_map.mp mapped
  exact ⟨edit, inside, same.symm⟩

/-- The edit of an entry applied is one of the plan. -/
theorem Ledger.mem_edits (ledger : plan.Ledger scene entries applied skipped late) {e : Entry}
    {edit : Edit} (member : e ∈ applied) (found : scene.edit? e = .ok edit) :
    edit ∈ plan.edits := by
  obtain ⟨edit', inside, same⟩ := ledger.exists_edit member
  cases found.symm.trans same
  exact inside

/-- A skip of the plan is that of an entry skipped. -/
theorem Ledger.exists_skipped (ledger : plan.Ledger scene entries applied skipped late)
    (skip : Skip) (member : skip ∈ plan.skips) :
    ∃ e ∈ skipped, scene.edit? e = .error skip.reason ∧
      skip = .ofEntry scene.file e skip.reason := by
  have mapped : some skip ∈ skipped.map scene.skip? :=
    ledger.explained ▸ List.mem_map_of_mem member
  obtain ⟨e, inside, same⟩ := List.mem_map.mp mapped
  exact ⟨e, inside, (scene.skip?_eq_some_iff e skip).mp same⟩

/-- The skip of an entry skipped is one of the plan. -/
theorem Ledger.mem_skips (ledger : plan.Ledger scene entries applied skipped late) {e : Entry}
    {reason : SkipReason} (member : e ∈ skipped) (failed : scene.edit? e = .error reason) :
    .ofEntry scene.file e reason ∈ plan.skips := by
  have mapped : scene.skip? e ∈ plan.skips.map some :=
    ledger.explained ▸ List.mem_map_of_mem member
  rw [(scene.skip?_eq_some_iff e (.ofEntry scene.file e reason)).mpr ⟨failed, rfl⟩] at mapped
  obtain ⟨skip, inside, same⟩ := List.mem_map.mp mapped
  cases same
  exact inside

theorem Ledger.mem_entries (ledger : plan.Ledger scene entries applied skipped late) (e : Entry) :
    e ∈ entries ↔ e ∈ applied ∨ e ∈ skipped ∨ e ∈ late := by
  rw [← ledger.whole.mem_iff, List.mem_append, List.mem_append, or_assoc]

/-- Planning one more entry, which is recorded no later than those planned before. -/
theorem Ledger.add (ledger : plan.Ledger scene entries applied skipped late) (e : Entry)
    (inOrder : ∀ x ∈ entries, x.candidate.position.before e.candidate.position = false) :
    ∃ applied skipped late,
      (plan.add scene e).Ledger scene (entries ++ [e]) applied skipped late := by
  have whole : (e :: (applied ++ skipped ++ late)).Perm (entries ++ [e]) :=
    (ledger.whole.cons e).trans (List.perm_append_singleton e entries).symm
  unfold Plan.add
  split
  next reason failed =>
    have skip : scene.skip? e = some (.ofEntry scene.file e reason) := by
      simp only [RewriteScene.skip?, failed]
    refine ⟨applied, skipped ++ [e], late, {
      ledger with whole := .trans ?_ whole, explained := ?_ }⟩
    · simp only [List.append_assoc]
      exact (List.perm_middle.append_left applied).trans List.perm_middle
    · simp only [List.map_append, ledger.explained, List.map_cons, skip, List.map_nil]
  next edit found =>
    split
    next edits done =>
      have perm := perm_insertEdit? edit plan.edits edits done
      refine ⟨e :: applied, skipped, late, {
        whole := whole
        sorted := sorted_insertEdit? edit plan.edits edits ledger.sorted done
        edited := ?_
        explained := ledger.explained
        beaten := fun x member => ?_ }⟩
      · rw [List.map_cons, found]
        exact (ledger.edited.cons _).trans (perm.map _)
      · obtain ⟨start, asks, winner, known, others⟩ := ledger.beaten x member
        exact ⟨start, asks, winner, List.mem_cons_of_mem e known, others⟩
    next refused =>
      -- The start is taken, by the edit of an entry that was planned before.
      obtain ⟨taken, inside, same⟩ := insertEdit?_eq_none edit plan.edits refused
      obtain ⟨winner, known, claims⟩ := ledger.exists_applied taken inside
      have planned : winner ∈ entries := (ledger.mem_entries winner).mpr (Or.inl known)
      refine ⟨applied, skipped, late ++ [e], {
        ledger with whole := .trans ?_ whole, beaten := fun x member => ?_ }⟩
      · rw [← List.append_assoc]
        exact List.perm_append_singleton e (applied ++ skipped ++ late)
      · rcases List.mem_append.mp member with old | new
        · exact ledger.beaten x old
        · rw [List.mem_singleton] at new
          subst new
          exact ⟨edit.start, ⟨edit, found, rfl⟩, winner, known, ⟨taken, claims, same⟩,
            inOrder winner planned⟩

/-- Planning entries one after the other. -/
theorem Ledger.foldl (ledger : plan.Ledger scene entries applied skipped late) (more : List Entry)
    (inOrder : (entries ++ more).Pairwise fun a b =>
      a.candidate.position.before b.candidate.position = false) :
    ∃ applied skipped late,
      (more.foldl (Plan.add scene) plan).Ledger scene (entries ++ more) applied skipped late := by
  induction more generalizing entries plan applied skipped late with
  | nil => exact ⟨applied, skipped, late, by simpa using ledger⟩
  | cons e more ih =>
    have first : ∀ x ∈ entries, x.candidate.position.before e.candidate.position = false :=
      fun x member => (List.pairwise_append.mp inOrder).2.2 x member e List.mem_cons_self
    obtain ⟨applied', skipped', late', added⟩ := ledger.add e first
    rw [← List.singleton_append, ← List.append_assoc] at inOrder
    have rest := ih added inOrder
    rwa [List.append_assoc] at rest

/-- The plan for entries has a ledger, in whatever order they come. -/
theorem exists_ledger (scene : RewriteScene) (entries : List Entry) :
    ∃ applied skipped late,
      (Plan.ofEntries scene entries).Ledger scene entries applied skipped late := by
  have first : Plan.empty.Ledger scene [] [] [] [] := ledger_empty
  obtain ⟨applied, skipped, late, ledger⟩ := first.foldl _ (sorted_entries entries)
  exact ⟨applied, skipped, late, { ledger with
    whole := ledger.whole.trans (List.mergeSort_perm entries _) }⟩

/-! ## Counting entries -/

theorem Ledger.length_eq (ledger : plan.Ledger scene entries applied skipped late) :
    plan.edits.length + plan.skips.length + late.length = entries.length := by
  have made := ledger.edited.length_eq
  have explained := congrArg List.length ledger.explained
  have whole := ledger.whole.length_eq
  simp only [List.length_append, List.length_map] at made explained whole
  omega

/-- Entries that are skipped ask for nothing. -/
theorem Ledger.not_asks_of_skipped (ledger : plan.Ledger scene entries applied skipped late)
    (e : Entry) (member : e ∈ skipped) (start : Nat) : ¬ scene.Asks e start := by
  have mapped : scene.skip? e ∈ plan.skips.map some :=
    ledger.explained ▸ List.mem_map_of_mem member
  obtain ⟨skip, -, same⟩ := List.mem_map.mp mapped
  have failed := ((scene.skip?_eq_some_iff e skip).mp same.symm).1
  rintro ⟨edit, found, -⟩
  exact nomatch failed.symm.trans found

/-- Entries that are applied ask for starts of their own, as the edits of a plan do. -/
theorem Ledger.apart (ledger : plan.Ledger scene entries applied skipped late) :
    applied.Pairwise scene.Apart := by
  let differ (a b : Except SkipReason Edit) : Prop :=
    ∀ x, a = .ok x → ∀ y, b = .ok y → x.start ≠ y.start
  have symmetric {a b : Except SkipReason Edit} (apart : differ a b) : differ b a :=
    fun x first y second => (apart y second x first).symm
  have edits : (plan.edits.map Except.ok).Pairwise differ := by
    refine List.pairwise_map.mpr (ledger.sorted.imp fun {a b} earlier x first y second => ?_)
    cases first
    cases second
    exact Nat.ne_of_lt earlier
  have entries := List.pairwise_map.mp ((ledger.edited.pairwise_iff symmetric).mpr edits)
  refine entries.imp fun {a b} apart start asks other => ?_
  obtain ⟨x, first, rfl⟩ := asks
  obtain ⟨y, second, same⟩ := other
  exact apart x first y second same.symm

/-- A start has one entry that is applied there. -/
theorem Ledger.eq_of_asks (ledger : plan.Ledger scene entries applied skipped late) {a b : Entry}
    {start : Nat} (first : a ∈ applied) (second : b ∈ applied) (asks : scene.Asks a start)
    (other : scene.Asks b start) : a = b :=
  Classical.byContradiction fun differ =>
    ledger.apart.forall first second differ start asks other

/-- No entry is late exactly if no two entries ask for one start. -/
theorem Ledger.late_eq_nil_iff (ledger : plan.Ledger scene entries applied skipped late) :
    late = [] ↔ entries.Pairwise scene.Apart := by
  rw [← ledger.whole.pairwise_iff (fun apart => symm apart)]
  constructor
  · rintro rfl
    have idle : ∀ e ∈ skipped, ∀ start, ¬ scene.Asks e start := ledger.not_asks_of_skipped
    rw [List.append_nil, List.pairwise_append]
    refine ⟨ledger.apart, ?_, fun a _ b member start _ => idle b member start⟩
    exact List.pairwise_of_forall_mem_list fun a member _ _ start asks =>
      absurd asks (idle a member start)
  · intro apart
    -- A late entry would stand beside the entry that came before it.
    rw [List.eq_nil_iff_forall_not_mem]
    intro e member
    obtain ⟨start, asks, winner, known, claims, -⟩ := ledger.beaten e member
    exact (List.pairwise_append.mp apart).2.2 winner (List.mem_append_left _ known) e member start
      claims asks

/-- A plan is complete: whatever entry can be applied is, and whatever cannot be is skipped, once
and with the reason. -/
structure Complete (scene : RewriteScene) (entries : List Entry) (plan : Plan) : Prop where
  applied : ∀ e ∈ entries, ∀ edit, scene.edit? e = .ok edit → edit ∈ plan.edits
  skipped : ∀ e ∈ entries, ∀ reason, scene.edit? e = .error reason →
    .ofEntry scene.file e reason ∈ plan.skips
  reasons : ∀ skip ∈ plan.skips, ∃ e ∈ entries, scene.edit? e = .error skip.reason
  counted : plan.edits.length + plan.skips.length = entries.length

/-- Where no two entries ask for one start, the plan for them is complete. -/
theorem complete_of_apart (apart : entries.Pairwise scene.Apart) :
    (Plan.ofEntries scene entries).Complete scene entries := by
  obtain ⟨applied, skipped, late, ledger⟩ := exists_ledger scene entries
  have none : late = [] := ledger.late_eq_nil_iff.mpr apart
  subst none
  have known (e : Entry) : e ∈ entries ↔ e ∈ applied ∨ e ∈ skipped := by
    simpa using ledger.mem_entries e
  exact {
    applied := fun e member edit found => by
      rcases (known e).mp member with here | there
      · exact ledger.mem_edits here found
      · exact absurd ⟨edit, found, rfl⟩ (ledger.not_asks_of_skipped e there edit.start)
    skipped := fun e member reason failed => by
      rcases (known e).mp member with here | there
      · obtain ⟨edit, -, found⟩ := ledger.exists_edit here
        exact nomatch failed.symm.trans found
      · exact ledger.mem_skips there failed
    reasons := fun skip member => by
      obtain ⟨e, there, failed, -⟩ := ledger.exists_skipped skip member
      exact ⟨e, (known e).mpr (Or.inr there), failed⟩
    counted := by simpa using ledger.length_eq }

/-! ## Who is applied -/

/-- Of the entries that ask for a start the one recorded last is applied there. -/
theorem Ledger.exists_winner (ledger : plan.Ledger scene entries applied skipped late) (e : Entry)
    (member : e ∈ entries) (start : Nat) (asks : scene.Asks e start) :
    ∃ winner ∈ applied, scene.Asks winner start ∧ ∀ other ∈ entries, scene.Asks other start →
      winner.candidate.position.before other.candidate.position = false := by
  -- Whoever asks for the start is applied there or gives way to an entry that is.
  have yields : ∀ other ∈ entries, scene.Asks other start → ∃ winner ∈ applied,
      scene.Asks winner start ∧
        winner.candidate.position.before other.candidate.position = false := by
    intro other member asks
    rcases (ledger.mem_entries other).mp member with first | skips | late
    · exact ⟨other, first, asks, by simp [Text.Position.before_eq_false_iff]⟩
    · exact absurd asks (ledger.not_asks_of_skipped other skips start)
    · obtain ⟨start', asks', winner, known, claims, inOrder⟩ := ledger.beaten other late
      obtain ⟨edit, found, rfl⟩ := asks
      obtain ⟨edit', found', rfl⟩ := asks'
      cases found.symm.trans found'
      exact ⟨winner, known, claims, inOrder⟩
  obtain ⟨winner, known, claims, -⟩ := yields e member asks
  refine ⟨winner, known, claims, fun other inside asks => ?_⟩
  obtain ⟨winner', known', claims', inOrder⟩ := yields other inside asks
  rwa [ledger.eq_of_asks known' known claims' claims] at inOrder

end Plan

/-! ## Accounts of rewrites -/

/-- What a rewrite says of entries: those applied have a lookup each, those skipped are listed once
each, and those that came late could be applied where another lookup stands. -/
structure Rewrite.AccountsFor (rules : RewriteRules) (file : String) (source : List Char)
    (tree : Syntax.Tree) (d : Dictionary) (r : Rewrite) (lookups : List Edit)
    (entries applied skipped late : List Entry) : Prop where
  whole : (applied ++ skipped ++ late).Perm entries
  edited : List.Forall₂ (fun e edit => e.AppliedBy rules file source tree d edit) applied lookups
  counted : r.applied = applied.length
  listed : List.Forall₂ (fun e skip => skip = .ofEntry file e skip.reason) skipped r.skips
  beaten : ∀ e ∈ late, ∃ own, e.AppliedBy rules file source tree d own ∧
    ∃ lookup ∈ lookups, lookup.start = own.start

namespace Plan

variable {scene : RewriteScene} {entries applied skipped late : List Entry} {plan : Plan}

/-- The applied entries can be listed as their edits are. -/
theorem Ledger.exists_aligned (ledger : plan.Ledger scene entries applied skipped late) :
    ∃ aligned, aligned.Perm applied ∧
      List.Forall₂ (fun e edit => scene.edit? e = .ok edit) aligned plan.edits := by
  have mapped : List.Forall₂ (fun e result => scene.edit? e = result) applied
      (applied.map scene.edit?) := by
    rw [List.forall₂_map_right_iff, List.forall₂_same]
    exact fun e _ => rfl
  obtain ⟨aligned, moved, edited⟩ :
      Relation.Comp List.Perm (List.Forall₂ fun e result => scene.edit? e = result) applied
        (plan.edits.map .ok) := by
    rw [← List.forall₂_comp_perm_eq_perm_comp_forall₂]
    exact ⟨_, mapped, ledger.edited⟩
  exact ⟨aligned, moved.symm, List.forall₂_map_right_iff.mp edited⟩

/-- Every skip names an entry, and the reason why it cannot be applied. -/
theorem Ledger.skips_forall₂ (ledger : plan.Ledger scene entries applied skipped late) :
    List.Forall₂ (fun e skip => scene.edit? e = .error skip.reason ∧
      skip = .ofEntry scene.file e skip.reason) skipped plan.skips := by
  have mapped : List.Forall₂ (fun e skip => scene.skip? e = some skip) skipped plan.skips := by
    refine List.forall₂_map_left_iff.mp (List.forall₂_map_right_iff.mp ?_)
    rw [ledger.explained, List.forall₂_same]
    exact fun _ _ => rfl
  exact mapped.imp fun e skip => (scene.skip?_eq_some_iff e skip).mp

end Plan

namespace RewriteRules

variable (rules : RewriteRules) (file : String) (source : List Char) (d : Dictionary)

/-- Every entry is applied, skipped or late, and none is late exactly if no two ask for one
start. -/
theorem rewrite_accounts_for_entries (entries : List Entry) (r : Rewrite)
    (returned : rules.rewrite file source entries d = .ok r) :
    ∃ tree lookups added applied skipped late, readSource file source = .ok tree ∧
      r.edits = lookups ++ added ∧ (lookups.Pairwise fun a b => a.start < b.start) ∧
      r.AccountsFor rules file source tree d lookups entries applied skipped late ∧
      (r.applied + r.skips.length = entries.length ↔
        entries.Pairwise (rules.scene file source tree d).Apart) := by
  obtain ⟨tree, read, reports⟩ := rules.rewrite_reports file source d entries r returned
  let scene := rules.scene file source tree d
  let plan := Plan.ofEntries scene entries
  obtain ⟨imports, accessors, parts⟩ :=
    rules.edits_madeOf file source tree d entries plan (Plan.covers_ofEntries scene entries)
  obtain ⟨applied, skipped, late, ledger⟩ := Plan.exists_ledger scene entries
  obtain ⟨aligned, perm, edited⟩ := ledger.exists_aligned
  have edits : r.edits = plan.edits ++ (imports ++ accessors) := by
    rw [reports.edits_eq, ← List.append_assoc]
    exact parts.edits_eq
  have applies (e : Entry) (edit : Edit) := rules.appliedBy_of_edit? file source tree d e edit
  refine ⟨tree, plan.edits, imports ++ accessors, aligned, skipped, late, read, edits,
    ledger.sorted, {
      whole := ((perm.append_right skipped).append_right late).trans ledger.whole
      edited := edited.imp applies
      counted := reports.applied_eq.trans edited.length_eq.symm
      listed := reports.skips_eq ▸ ledger.skips_forall₂.imp fun e skip reason => reason.2
      beaten := fun e member => ?_ }, ?_⟩
  · obtain ⟨start, ⟨own, found, rfl⟩, winner, known, ⟨lookup, claims, same⟩, -⟩ :=
      ledger.beaten e member
    exact ⟨own, applies e own found, lookup, ledger.mem_edits known claims, same⟩
  · have sum : plan.edits.length + plan.skips.length + late.length = entries.length :=
      ledger.length_eq
    have counted : r.applied = plan.edits.length := reports.applied_eq
    have skips : r.skips = plan.skips := reports.skips_eq
    rw [← ledger.late_eq_nil_iff, counted, skips, ← List.length_eq_zero_iff]
    omega

end RewriteRules

/-! An entry whose text has gone comes before one whose text stands where it was. -/

namespace Twofold

/-- An entry for a text that stood further on in the third line and is gone. -/
def gone : Entry := { entry with candidate := { entry.candidate with position := ⟨3, 9⟩ } }

theorem plan_gone (scene : RewriteScene) :
    Plan.ofEntries scene [gone, entry] = (Plan.empty.add scene gone).add scene entry := by
  rw [Plan.ofEntries, List.mergeSort_of_pairwise (by decide)]
  rfl

theorem rewrite_gone : rules.rewrite "a.ts" source [gone, entry] dictionary = .ok first := by
  have written := rewrite_of_plan dictionary [gone, entry] "tX('k')" first.content.toList ?_ ?_ ?_
  · rwa [String.ofList_toList] at written
  · rw [plan_gone]
    decide +kernel
  · decide +kernel
  · decide +kernel

end Twofold

namespace RewriteRules

theorem rewrite_accounts_for_entries_twofold :
    Twofold.rules.rewrite "a.ts" Twofold.source [Twofold.gone, Twofold.entry] Twofold.dictionary =
      .ok Twofold.first ∧
    ∃ tree lookups added applied skipped late,
      readSource "a.ts" Twofold.source = .ok tree ∧ Twofold.first.edits = lookups ++ added ∧
      (lookups.Pairwise fun a b => a.start < b.start) ∧
      Twofold.first.AccountsFor Twofold.rules "a.ts" Twofold.source tree Twofold.dictionary lookups
        [Twofold.gone, Twofold.entry] applied skipped late ∧
      (Twofold.first.applied + Twofold.first.skips.length =
          [Twofold.gone, Twofold.entry].length ↔
        [Twofold.gone, Twofold.entry].Pairwise
          (Twofold.rules.scene "a.ts" Twofold.source tree Twofold.dictionary).Apart) :=
  ⟨Twofold.rewrite_gone, rewrite_accounts_for_entries _ _ _ _ _ _ Twofold.rewrite_gone⟩

/-- An entry whose token is claimed already is neither applied nor skipped. -/
theorem rewrite_loses_entry :
    ([Twofold.gone, Twofold.entry].map fun e => e.candidate.position).Nodup ∧
    Twofold.rules.rewrite "a.ts" Twofold.source [Twofold.gone, Twofold.entry] Twofold.dictionary =
      .ok Twofold.first ∧
    Twofold.first.applied + Twofold.first.skips.length ≠ [Twofold.gone, Twofold.entry].length :=
  ⟨by decide, Twofold.rewrite_gone, by decide⟩

end RewriteRules

end Phrasebook
