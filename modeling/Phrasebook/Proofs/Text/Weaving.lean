import Phrasebook.Proofs.Text.Splicing

/-!
# Splicing makes all edits at once

Edits fit together when no two of them remove the same byte and none inserts strictly inside the
range of another. Splicing succeeds exactly on such edits. What it yields is the text woven with
their codes: the gaps between the edits and the codes, from left to right. Only insertions at one
offset depend on the order in which the edits are listed.
-/

namespace Phrasebook.Text

/-- The edit removes this byte of the text. -/
def Edit.Removes (e : Edit) (byte : Nat) : Prop := e.start ≤ byte ∧ byte < e.stop

/-- An insertion strictly inside the range of another edit. -/
def Edit.Splits (a b : Edit) : Prop := a.start = a.stop ∧ b.start < a.start ∧ a.start < b.stop

/-- Two edits that can be made together. -/
def Edit.Compatible (a b : Edit) : Prop :=
  (∀ byte, ¬ (a.Removes byte ∧ b.Removes byte)) ∧ ¬ a.Splits b ∧ ¬ b.Splits a

def insertionsAt (edits : List Edit) (offset : Nat) : List Edit :=
  edits.filter fun e => e.isInsertion && e.start == offset

/-- The same edits in another order, with the insertions at each offset in the same order. -/
structure Reordered (edits others : List Edit) : Prop where
  perm : others.Perm edits
  insertions : ∀ offset, insertionsAt others offset = insertionsAt edits offset

/-- The edits from left to right, insertions before a range that starts at the same offset. -/
structure Arranged (edits ordered : List Edit) : Prop extends Reordered edits ordered where
  ascending : ordered.Pairwise fun a b => a.start ≤ b.start
  insertionsFirst : ordered.Pairwise fun a b =>
    a.start = b.start → b.isInsertion = true → a.isInsertion = true

/-- The gaps between the edits and the codes of the edits, from an offset to the end. -/
def weave? (text : List Char) : Nat → List Edit → Option (List Char)
  | offset, [] => dropBytes? text offset
  | offset, e :: edits =>
    (slice? text offset e.start).bind fun gap =>
      (weave? text e.stop edits).map fun rest => gap ++ (e.code.toList ++ rest)

theorem Spliced.weave?_eq {offset : Nat} {front rest result : List Char} {edits : List Edit}
    (made : Spliced offset rest edits result) (length : byteLength front = offset) :
    weave? (front ++ rest) offset edits = some result := by
  induction made generalizing front with
  | done offset rest => exact (dropBytes?_eq_some_iff _ _ _).mpr ⟨front, rfl, length⟩
  | @edit offset gap range rest result e edits start stop made ih =>
    have before : slice? (front ++ (gap ++ (range ++ rest))) offset e.start = some gap :=
      (slice?_eq_some_iff _ _ _ _).mpr ⟨front, range ++ rest, rfl, length, start⟩
    have passed : byteLength (front ++ gap ++ range) = e.stop := by
      rw [byteLength_append, byteLength_append]
      omega
    have after := ih passed
    simp only [List.append_assoc] at after
    simp only [weave?, before, after, Option.bind_some, Option.map_some]

namespace Edit

theorem isInsertion_iff (e : Edit) : e.isInsertion = true ↔ e.start = e.stop := by
  simp [isInsertion]

theorem le_iff (a b : Edit) : a.le b = true ↔ a.start < b.start ∨
    (a.start = b.start ∧ (b.isInsertion = true → a.isInsertion = true)) := by
  cases first : a.isInsertion <;> cases second : b.isInsertion <;> simp [le, first, second]

theorem le_trans (a b c : Edit) (first : a.le b = true) (second : b.le c = true) :
    a.le c = true := by
  rw [le_iff] at first second ⊢
  rcases first with before | ⟨same, insertion⟩
  · exact .inl (by omega)
  · rcases second with after | ⟨same', insertion'⟩
    · exact .inl (by omega)
    · exact .inr ⟨by omega, fun last => insertion (insertion' last)⟩

theorem le_total (a b : Edit) : (a.le b || b.le a) = true := by
  rw [Bool.or_eq_true, le_iff, le_iff]
  rcases Nat.lt_trichotomy a.start b.start with before | same | after
  · exact .inl (.inl before)
  · by_cases insertion : a.isInsertion = true
    · exact .inl (.inr ⟨same, fun _ => insertion⟩)
    · exact .inr (.inr ⟨same.symm, fun first => absurd first insertion⟩)
  · exact .inr (.inl after)

/-- Of compatible edits one ends before the other starts. -/
theorem compatible_iff (a b : Edit) (first : a.start ≤ a.stop) (second : b.start ≤ b.stop) :
    a.Compatible b ↔ a.stop ≤ b.start ∨ b.stop ≤ a.start := by
  unfold Compatible Removes Splits
  constructor
  · rintro ⟨disjoint, outside, outside'⟩
    -- Two ranges that reach into each other share the later of their first bytes.
    have shared := disjoint (max a.start b.start)
    omega
  · intro apart
    refine ⟨fun byte => ?_, ?_, ?_⟩ <;> omega

end Edit

theorem mem_insertionsAt (edits : List Edit) (offset : Nat) (e : Edit) :
    e ∈ insertionsAt edits offset ↔ e ∈ edits ∧ e.isInsertion = true ∧ e.start = offset := by
  simp [insertionsAt]

/-- Sorting keeps the order of insertions at one offset. -/
theorem insertionsAt_mergeSort (edits : List Edit) (offset : Nat) :
    insertionsAt (edits.mergeSort Edit.le) offset = insertionsAt edits offset := by
  have inOrder : (insertionsAt edits offset).Pairwise fun a b => a.le b = true := by
    refine List.pairwise_of_forall_mem_list fun a first b second => ?_
    rw [mem_insertionsAt] at first second
    exact (Edit.le_iff a b).mpr (.inr ⟨by omega, fun _ => first.2.1⟩)
  have kept : (insertionsAt edits offset).Sublist (edits.mergeSort Edit.le) :=
    List.sublist_mergeSort Edit.le_trans Edit.le_total inOrder List.filter_sublist
  have within := kept.filter fun e => e.isInsertion && e.start == offset
  rw [insertionsAt, List.filter_filter] at within
  simp only [Bool.and_self] at within
  exact (within.eq_of_length
    ((List.mergeSort_perm edits Edit.le).filter _).length_eq.symm).symm

theorem arranged_mergeSort (edits : List Edit) : Arranged edits (edits.mergeSort Edit.le) := by
  have sorted := List.pairwise_mergeSort Edit.le_trans Edit.le_total edits
  refine ⟨⟨List.mergeSort_perm edits Edit.le, insertionsAt_mergeSort edits⟩,
    sorted.imp fun {a b} before => ?_, sorted.imp fun {a b} before same => ?_⟩
  · rcases (Edit.le_iff a b).mp before with earlier | ⟨same, -⟩ <;> omega
  · rcases (Edit.le_iff a b).mp before with earlier | ⟨-, insertion⟩
    · omega
    · exact insertion

theorem Arranged.sorted {edits ordered : List Edit} (arranged : Arranged edits ordered) :
    ordered.Pairwise fun a b => a.le b = true :=
  (arranged.ascending.and arranged.insertionsFirst).imp fun {a b} both => by
    rw [Edit.le_iff]
    rcases Nat.lt_or_eq_of_le both.1 with before | same
    · exact .inl before
    · exact .inr ⟨same, both.2 same⟩

/-- In sorted lists of the same compatible edits each list starts with what the other starts with:
two ranges cannot start at one offset, and the insertions there are in one order. -/
private theorem eq_of_sorted {one other : List Edit} (same : Reordered other one)
    (sorted : one.Pairwise fun a b => a.le b = true)
    (sorted' : other.Pairwise fun a b => a.le b = true) (fits : ∀ e ∈ one, e.start ≤ e.stop)
    (apart : one.Pairwise fun a b => a.stop ≤ b.start ∨ b.stop ≤ a.start) : one = other := by
  induction one generalizing other with
  | nil => exact same.perm.nil_eq
  | cons a one ih =>
    cases other with
    | nil => exact absurd same.perm.symm.nil_eq (by simp)
    | cons b other =>
      rw [List.pairwise_cons] at sorted sorted' apart
      rw [List.forall_mem_cons] at fits
      have later : b = a ∨ b ∈ one :=
        List.mem_cons.mp (same.perm.mem_iff.mpr List.mem_cons_self)
      have later' : a = b ∨ a ∈ other :=
        List.mem_cons.mp (same.perm.mem_iff.mp List.mem_cons_self)
      -- Each of the two heads sorts before the other, so they start together. Two insertions are
      -- the first of one list, and two ranges would overlap.
      have heads : a = b := by
        rcases later with rfl | later
        · rfl
        rcases later' with rfl | later'
        · rfl
        have before := (Edit.le_iff a b).mp (sorted.1 b later)
        have after := (Edit.le_iff b a).mp (sorted'.1 a later')
        have start : a.start = b.start := by omega
        by_cases insertion : a.isInsertion = true
        · have insertion' : b.isInsertion = true := by
            rcases after with after | ⟨-, first⟩
            · omega
            · exact first insertion
          have listed := same.insertions a.start
          simp only [insertionsAt, List.filter_cons, insertion, insertion', start, BEq.rfl,
            Bool.and_self, if_true, List.cons.injEq] at listed
          exact listed.1
        · rw [Edit.isInsertion_iff] at insertion
          have first := apart.1 b later
          have := fits.2 b later
          have removes : b.start ≠ b.stop := fun empty => by
            rcases before with before | ⟨-, first⟩
            · omega
            · exact insertion
                ((Edit.isInsertion_iff a).mp (first ((Edit.isInsertion_iff b).mpr empty)))
          omega
      subst heads
      have rest : Reordered other one := by
        refine ⟨(List.perm_cons a).mp same.perm, fun offset => ?_⟩
        have listed := same.insertions offset
        simp only [insertionsAt, List.filter_cons] at listed
        split at listed
        · exact (List.cons.inj listed).2
        · exact listed
      rw [ih rest sorted.2 sorted'.2 fits.2 apart.2]

variable {text : List Char} {edits ordered : List Edit}

/-- Edits that fit and are compatible follow each other once they are sorted. -/
theorem apart_mergeSort_iff (fits : ∀ e ∈ edits, e.Fits text) :
    ((edits.mergeSort Edit.le).Pairwise fun a b => a.stop ≤ b.start) ↔
      edits.Pairwise Edit.Compatible := by
  have perm := List.mergeSort_perm edits Edit.le
  have either : edits.Pairwise Edit.Compatible ↔
      (edits.mergeSort Edit.le).Pairwise fun a b => a.stop ≤ b.start ∨ b.stop ≤ a.start := by
    rw [perm.pairwise_iff Or.symm]
    exact List.Pairwise.iff_of_mem fun {a b} first second =>
      a.compatible_iff b (fits a first).1 (fits b second).1
  rw [either]
  refine ⟨fun apart => apart.imp Or.inl, fun apart => ?_⟩
  refine ((arranged_mergeSort edits).sorted.and apart).imp_of_mem fun {a b} first second both => ?_
  have := (fits a (perm.mem_iff.mp first)).1
  have := (fits b (perm.mem_iff.mp second)).1
  have before := (Edit.le_iff a b).mp both.1
  rw [Edit.isInsertion_iff, Edit.isInsertion_iff] at before
  omega

theorem Arranged.eq_mergeSort (arranged : Arranged edits ordered)
    (fits : ∀ e ∈ edits, e.Fits text) (compatible : edits.Pairwise Edit.Compatible) :
    ordered = edits.mergeSort Edit.le := by
  have sorted := arranged_mergeSort edits
  refine (eq_of_sorted ⟨sorted.perm.trans arranged.perm.symm, fun offset => ?_⟩ sorted.sorted
    arranged.sorted (fun e member => (fits e (sorted.perm.mem_iff.mp member)).1)
    (((apart_mergeSort_iff fits).mpr compatible).imp Or.inl)).symm
  rw [sorted.insertions, arranged.insertions]

/-- The text woven with compatible edits is what making them from the last to the first yields. -/
theorem splice_eq_ok_iff (text result : List Char) (edits : List Edit) :
    splice text edits = .ok result ↔ ((∀ e ∈ edits, e.Fits text) ∧
      edits.Pairwise Edit.Compatible) ∧ weave? text 0 (edits.mergeSort Edit.le) = some result := by
  by_cases sound : (∀ e ∈ edits, e.Fits text) ∧ edits.Pairwise Edit.Compatible
  · have arranged : arrange text edits = .ok (edits.mergeSort Edit.le) :=
      (arrange_eq_ok_iff _ _ _).mpr ⟨rfl, sound.1, (apart_mergeSort_iff sound.1).mpr sound.2⟩
    have woven : weave? text 0 (edits.mergeSort Edit.le) =
        some ((edits.mergeSort Edit.le).foldr Edit.make text) :=
      (spliced_of_arrange arranged).weave?_eq byteLength_nil
    rw [splice, arranged, woven, and_iff_right sound]
    simp only [Except.map, Except.ok.injEq, Option.some.injEq]
  · refine iff_of_false (fun returned => sound ?_) fun both => sound both.1
    cases arranged : arrange text edits with
    | error fault =>
      rw [splice, arranged] at returned
      cases returned
    | ok ordered =>
      obtain ⟨rfl, fits, apart⟩ := (arrange_eq_ok_iff _ _ _).mp arranged
      exact ⟨fits, (apart_mergeSort_iff fits).mp apart⟩

theorem exists_splice_iff (text : List Char) (edits : List Edit) :
    (∃ result, splice text edits = .ok result) ↔
      (∀ e ∈ edits, e.Fits text) ∧ edits.Pairwise Edit.Compatible := by
  constructor
  · rintro ⟨result, returned⟩
    exact ((splice_eq_ok_iff _ _ _).mp returned).1
  · intro sound
    have arranged : arrange text edits = .ok (edits.mergeSort Edit.le) :=
      (arrange_eq_ok_iff _ _ _).mpr ⟨rfl, sound.1, (apart_mergeSort_iff sound.1).mpr sound.2⟩
    exact ⟨_, by rw [splice, arranged]; rfl⟩

namespace Reordered

variable {others : List Edit}

theorem symm (same : Reordered edits others) : Reordered others edits :=
  ⟨same.perm.symm, fun offset => (same.insertions offset).symm⟩

theorem fits (same : Reordered edits others) (fits : ∀ e ∈ edits, e.Fits text) :
    ∀ e ∈ others, e.Fits text :=
  fun e member => fits e (same.perm.mem_iff.mp member)

theorem compatible (same : Reordered edits others) (compatible : edits.Pairwise Edit.Compatible) :
    others.Pairwise Edit.Compatible :=
  (same.perm.pairwise_iff fun both => ⟨fun byte shared => both.1 byte shared.symm, both.2.symm⟩).mpr
    compatible

/-- An order for some edits is one for the same edits listed otherwise. -/
theorem arranged (same : Reordered edits others) (arranged : Arranged edits ordered) :
    Arranged others ordered where
  perm := arranged.perm.trans same.perm.symm
  insertions offset := (arranged.insertions offset).trans (same.insertions offset).symm
  ascending := arranged.ascending
  insertionsFirst := arranged.insertionsFirst

/-- What comes out does not depend on how the edits are listed. -/
theorem splice_of (same : Reordered edits others) (result : List Char)
    (returned : splice text edits = .ok result) : splice text others = .ok result := by
  obtain ⟨⟨fits, compatible⟩, woven⟩ := (splice_eq_ok_iff _ _ _).mp returned
  have fits' := same.fits fits
  have compatible' := same.compatible compatible
  rw [splice_eq_ok_iff,
    ← (same.arranged (arranged_mergeSort edits)).eq_mergeSort fits' compatible']
  exact ⟨⟨fits', compatible'⟩, woven⟩

end Reordered

/-- Splicing is simultaneous. It succeeds exactly on edits that fit into the text and are
compatible, and yields the text woven with their codes from left to right. Edits listed in another
order, but for the insertions at one offset, yield the same text. -/
theorem splice_simultaneous (text : List Char) (edits : List Edit) :
    ((∃ result, splice text edits = .ok result) ↔
      (∀ e ∈ edits, e.Fits text) ∧ edits.Pairwise Edit.Compatible) ∧
    (∀ result, splice text edits = .ok result ↔
      ((∀ e ∈ edits, e.Fits text) ∧ edits.Pairwise Edit.Compatible) ∧
        ∃ ordered, Arranged edits ordered ∧ weave? text 0 ordered = some result) ∧
    ∀ others, Reordered edits others →
      ∀ result, splice text others = .ok result ↔ splice text edits = .ok result := by
  refine ⟨exists_splice_iff text edits, fun result => ⟨fun returned => ?_, ?_⟩,
    fun others same result => ⟨same.symm.splice_of result, same.splice_of result⟩⟩
  · obtain ⟨sound, woven⟩ := (splice_eq_ok_iff _ _ _).mp returned
    exact ⟨sound, _, arranged_mergeSort edits, woven⟩
  · rintro ⟨sound, ordered, arranged, woven⟩
    rw [splice_eq_ok_iff, ← arranged.eq_mergeSort sound.1 sound.2]
    exact ⟨sound, woven⟩

end Phrasebook.Text
