import Phrasebook.Proofs.Text.Bytes
import Phrasebook.Text.Splice

/-!
# What splicing does to a text

Splicing is described from left to right: the text up to an edit stays, the edit's range gives way
to its code, and the rest of the text follows with the later edits made. Splicing that succeeds is
described so by its edits in their order of application.
-/

namespace Phrasebook.Text

/-- An edit's range is a stretch of the text between two boundaries. -/
def Edit.Fits (text : List Char) (e : Edit) : Prop :=
  e.start ≤ e.stop ∧ e.stop ≤ byteLength text ∧
    isBoundary text e.start = true ∧ isBoundary text e.stop = true

theorem Edit.fault?_eq_none_iff (text : List Char) (e : Edit) :
    e.fault? text = none ↔ e.Fits text := by
  unfold Edit.fault? Edit.Fits
  split
  next outside =>
    simp only [Bool.or_eq_true, decide_eq_true_eq] at outside
    simp only [reduceCtorEq, false_iff, not_and]
    omega
  next inside =>
    simp only [Bool.or_eq_true, decide_eq_true_eq, not_or, Nat.not_lt] at inside
    by_cases first : isBoundary text e.start = true <;>
      by_cases last : isBoundary text e.stop = true <;> simp [first, last, inside]

theorem overlap?_some_eq_none_iff (widest : Edit) (edits : List Edit) :
    overlap? (some widest) edits = none ↔
      (∀ e ∈ edits, widest.stop ≤ e.start) ∧ edits.Pairwise fun a b => a.stop ≤ b.start := by
  induction edits generalizing widest with
  | nil => simp [overlap?]
  | cons e rest ih =>
    simp only [overlap?, List.forall_mem_cons, List.pairwise_cons]
    split
    next early =>
      simp only [reduceCtorEq, false_iff, not_and]
      intro after
      omega
    next late =>
      -- The one that ends later stands for both: what starts behind it starts behind the other.
      rw [ih]
      split
      next wider =>
        constructor
        · rintro ⟨after, apart⟩
          exact ⟨⟨by omega, fun b member => by have := after b member; omega⟩, after, apart⟩
        · rintro ⟨-, after, apart⟩
          exact ⟨after, apart⟩
      next narrower =>
        constructor
        · rintro ⟨after, apart⟩
          exact ⟨⟨by omega, after⟩, fun b member => by have := after b member; omega, apart⟩
        · rintro ⟨⟨-, after⟩, -, apart⟩
          exact ⟨after, apart⟩

/-- No edit overlaps an earlier one exactly if each ends before all later ones start. -/
theorem overlap?_none_eq_none_iff (edits : List Edit) :
    overlap? none edits = none ↔ edits.Pairwise fun a b => a.stop ≤ b.start := by
  cases edits with
  | nil => simp [overlap?]
  | cons e rest => rw [overlap?, overlap?_some_eq_none_iff, List.pairwise_cons]

theorem arrange_eq_ok_iff (text : List Char) (edits ordered : List Edit) :
    arrange text edits = .ok ordered ↔ ordered = edits.mergeSort Edit.le ∧
      (∀ e ∈ edits, e.Fits text) ∧ ordered.Pairwise fun a b => a.stop ≤ b.start := by
  unfold arrange
  split
  next fault found =>
    obtain ⟨e, member, faulty⟩ := List.exists_of_findSome?_eq_some found
    simp only [reduceCtorEq, false_iff, not_and]
    rintro - fits
    rw [(e.fault?_eq_none_iff text).mpr (fits e member)] at faulty
    cases faulty
  next sound =>
    have fits : ∀ e ∈ edits, e.Fits text := fun e member =>
      (e.fault?_eq_none_iff text).mp (List.findSome?_eq_none_iff.mp sound e member)
    simp only
    split
    next fault found =>
      simp only [reduceCtorEq, false_iff, not_and]
      rintro rfl -
      rw [← overlap?_none_eq_none_iff, found]
      simp
    next apart =>
      rw [overlap?_none_eq_none_iff] at apart
      simp only [Except.ok.injEq]
      constructor
      · rintro rfl
        exact ⟨rfl, fits, apart⟩
      · rintro ⟨rfl, -, -⟩
        rfl

/-- `Spliced offset text edits result`: a text that starts at a byte offset becomes the result when
the edits, which follow each other in the text, are made. Between the edits nothing changes. -/
inductive Spliced : Nat → List Char → List Edit → List Char → Prop
  | done (offset : Nat) (text : List Char) : Spliced offset text [] text
  | edit {offset : Nat} {gap range rest result : List Char} {e : Edit} {edits : List Edit} :
      e.start = offset + byteLength gap → e.stop = e.start + byteLength range →
      Spliced e.stop rest edits result →
      Spliced offset (gap ++ (range ++ rest)) (e :: edits) (gap ++ (e.code.toList ++ result))

/-- An edit on its own needs no order. -/
theorem splice_singleton (text : List Char) (e : Edit) (fits : e.fault? text = none) :
    splice text [e] = .ok (e.make text) := by
  have ordered : arrange text [e] = .ok [e] :=
    (arrange_eq_ok_iff _ _ _).mpr ⟨(List.mergeSort_singleton e).symm,
      List.forall_mem_singleton.mpr ((Edit.fault?_eq_none_iff text e).mp fits),
      List.pairwise_singleton _ e⟩
  rw [splice, ordered]
  rfl

/-- An edit replaces what stands in its range. -/
theorem Edit.make_append (e : Edit) (front range rest : List Char)
    (start : e.start = byteLength front) (stop : e.stop = e.start + byteLength range) :
    e.make (front ++ (range ++ rest)) = front ++ (e.code.toList ++ rest) := by
  have before : takeBytes? (front ++ (range ++ rest)) e.start = some front :=
    (takeBytes?_eq_some_iff _ _ _).mpr ⟨range ++ rest, rfl, start.symm⟩
  have after : dropBytes? (front ++ (range ++ rest)) e.stop = some rest :=
    (dropBytes?_eq_some_iff _ _ _).mpr ⟨front ++ range, by simp, by
      rw [byteLength_append]; omega⟩
  simp only [Edit.make, before, after, List.append_assoc]

/-- The later edits are made first and leave alone what stands before them. -/
private theorem foldr_make (text : List Char) (edits : List Edit)
    (fits : ∀ e ∈ edits, e.Fits text) (apart : edits.Pairwise fun a b => a.stop ≤ b.start)
    (front rest : List Char) (cut : front ++ rest = text)
    (ahead : ∀ e ∈ edits, byteLength front ≤ e.start) :
    ∃ result, edits.foldr Edit.make text = front ++ result ∧
      Spliced (byteLength front) rest edits result := by
  induction edits generalizing front rest with
  | nil => exact ⟨rest, cut.symm, .done _ rest⟩
  | cons e edits ih =>
    rw [List.forall_mem_cons] at fits ahead
    rw [List.pairwise_cons] at apart
    obtain ⟨⟨ordered, -, first, last⟩, others⟩ := fits
    -- The text falls into what stands before the edit, its range, and what stands after it. The
    -- later edits see the first two as their front.
    obtain ⟨before, tail, cutStart, start⟩ := (isBoundary_iff _ _).mp first
    obtain ⟨through, after, cutStop, stop⟩ := (isBoundary_iff _ _).mp last
    obtain ⟨gap, rfl, rfl⟩ := append_le_append (cut.trans cutStart.symm) (by omega)
    obtain ⟨range, rfl, rfl⟩ := append_le_append (cutStart.trans cutStop.symm) (by omega)
    obtain ⟨result, made, spliced⟩ :=
      ih others apart.2 (front ++ gap ++ range) after cutStop
        fun b member => by have := apart.1 b member; omega
    refine ⟨gap ++ (e.code.toList ++ result), ?_, .edit ?_ ?_ ?_⟩
    · rw [List.foldr_cons, made, List.append_assoc _ range,
        e.make_append (front ++ gap) range result start.symm (by
          rw [byteLength_append] at stop; omega), List.append_assoc]
    · rw [byteLength_append] at start
      omega
    · rw [byteLength_append] at stop
      omega
    · rw [stop] at spliced
      exact spliced

/-- Edits that are arranged turn the text into what making them one by one yields. -/
theorem spliced_of_arrange {text : List Char} {edits ordered : List Edit}
    (arranged : arrange text edits = .ok ordered) :
    Spliced 0 text ordered (ordered.foldr Edit.make text) := by
  obtain ⟨sorted, fits, apart⟩ := (arrange_eq_ok_iff _ _ _).mp arranged
  have perm : ordered.Perm edits := sorted ▸ List.mergeSort_perm edits Edit.le
  obtain ⟨made, same, spliced⟩ := foldr_make text ordered
    (fun e member => fits e (perm.mem_iff.mp member)) apart [] text rfl (by simp)
  rw [same, List.nil_append]
  exact spliced

/-- What splicing yields is the text with its edits made in order, and with nothing else changed. -/
theorem splice_spliced (text result : List Char) (edits : List Edit)
    (returned : splice text edits = .ok result) :
    ∃ ordered, ordered.Perm edits ∧ (ordered.Pairwise fun a b => a.stop ≤ b.start) ∧
      Spliced 0 text ordered result := by
  unfold splice at returned
  cases arranged : arrange text edits with
  | error fault =>
    rw [arranged] at returned
    cases returned
  | ok ordered =>
    rw [arranged] at returned
    obtain ⟨sorted, -, apart⟩ := (arrange_eq_ok_iff _ _ _).mp arranged
    have whole : ordered.foldr Edit.make text = result := Except.ok.inj returned
    exact ⟨ordered, sorted ▸ List.mergeSort_perm edits Edit.le, apart,
      whole ▸ spliced_of_arrange arranged⟩

/-- The code of every edit stands in the result. -/
theorem Spliced.code_isInfix {offset : Nat} {text result : List Char} {edits : List Edit}
    (spliced : Spliced offset text edits result) (e : Edit) (member : e ∈ edits) :
    e.code.toList <:+: result := by
  induction spliced with
  | done => cases member
  | @edit offset gap range rest result first edits start stop _ ih =>
    rcases List.mem_cons.mp member with rfl | later
    · exact ⟨gap, result, by simp⟩
    · obtain ⟨front, back, rfl⟩ := ih later
      exact ⟨gap ++ first.code.toList ++ front, back, by simp⟩

namespace Spliced

variable {offset : Nat} {text front rest result : List Char} {edits : List Edit}

/-- No edit starts before the text. -/
theorem le_start (made : Spliced offset text edits result) : ∀ e ∈ edits, offset ≤ e.start := by
  induction made with
  | done => exact fun _ member => absurd member List.not_mem_nil
  | @edit offset gap range rest result first edits start stop _ ih =>
    refine List.forall_mem_cons.mpr ⟨by omega, fun e later => ?_⟩
    have := ih e later
    omega

/-- No edit ends behind the text. -/
theorem stop_le (made : Spliced offset text edits result) :
    ∀ e ∈ edits, e.stop ≤ offset + byteLength text := by
  induction made with
  | done => exact fun _ member => absurd member List.not_mem_nil
  | @edit offset gap range rest result first edits start stop _ ih =>
    rw [byteLength_append, byteLength_append]
    refine List.forall_mem_cons.mpr ⟨by omega, fun e later => ?_⟩
    have := ih e later
    omega

/-- Where no edit reaches across a place, what stands before it and what follows are edited one by
one. -/
theorem cut (made : Spliced offset (front ++ rest) edits result)
    (apart : ∀ e ∈ edits, e.start < offset + byteLength front → e.stop ≤ offset + byteLength front) :
    ∃ before after first last, edits = before ++ after ∧ result = first ++ last ∧
      Spliced offset front before first ∧ Spliced (offset + byteLength front) rest after last ∧
      ∀ e ∈ before, e.start < offset + byteLength front := by
  generalize whole : front ++ rest = text at made
  induction made generalizing front with
  | done offset text =>
    exact ⟨[], [], front, rest, rfl, whole.symm, .done _ _, .done _ _, by simp⟩
  | @edit offset gap range tail result e edits start stop made ih =>
    rw [List.forall_mem_cons] at apart
    by_cases early : e.start < offset + byteLength front
    · -- The edit lies in front: its gap and its range are cut off.
      have within := apart.1 early
      rw [← List.append_assoc] at whole
      obtain ⟨front, rfl, rfl⟩ := append_le_append whole.symm (by rw [byteLength_append]; omega)
      have length : offset + byteLength (gap ++ range ++ front) = e.stop + byteLength front := by
        rw [byteLength_append, byteLength_append]
        omega
      rw [length] at apart ⊢
      obtain ⟨before, after, first, last, rfl, rfl, head, behind, inner⟩ := ih apart.2 rfl
      refine ⟨e :: before, after, gap ++ (e.code.toList ++ first), last, rfl, by simp, ?_, behind,
        List.forall_mem_cons.mpr ⟨?_, inner⟩⟩
      · rw [List.append_assoc]
        exact .edit start stop head
      · omega
    · -- All edits stand behind the place.
      obtain ⟨gap, rfl, rfl⟩ := append_le_append whole (by omega)
      refine ⟨[], e :: edits, front, gap ++ (e.code.toList ++ result), rfl, by simp, .done _ _, ?_,
        by simp⟩
      refine .edit ?_ stop made
      rw [byteLength_append] at start
      omega

/-- Insertions at the start of a text stand in front of what the other edits make of it. -/
theorem insertions {added : List Edit} (here : ∀ e ∈ added, e.start = offset ∧ e.stop = offset)
    (made : Spliced offset text (added ++ edits) result) :
    ∃ last, result = added.flatMap (·.code.toList) ++ last ∧ Spliced offset text edits last := by
  induction added generalizing result with
  | nil => exact ⟨result, rfl, made⟩
  | cons e added ih =>
    rw [List.forall_mem_cons] at here
    obtain ⟨⟨starts, stops⟩, others⟩ := here
    cases made with
    | @edit _ gap range rest result _ _ start stop made =>
      have empty : byteLength gap = 0 ∧ byteLength range = 0 := by omega
      rw [byteLength_eq_zero, byteLength_eq_zero] at empty
      obtain ⟨rfl, rfl⟩ := empty
      rw [stops] at made
      obtain ⟨last, rfl, more⟩ := ih others made
      exact ⟨last, by simp, more⟩

/-- A text in front of all edits stays. -/
theorem keeps_front (made : Spliced offset (front ++ rest) edits result)
    (behind : ∀ e ∈ edits, offset + byteLength front ≤ e.start) :
    ∃ last, result = front ++ last ∧ Spliced (offset + byteLength front) rest edits last := by
  obtain ⟨before, after, first, last, rfl, rfl, head, tail, early⟩ :=
    made.cut fun e member starts => absurd starts (Nat.not_lt.mpr (behind e member))
  have none : before = [] := by
    refine List.eq_nil_iff_forall_not_mem.mpr fun e member => ?_
    have := early e member
    have := behind e (List.mem_append_left _ member)
    omega
  subst none
  cases head
  exact ⟨last, rfl, tail⟩

end Spliced

/-- Of edits that can be made together, those that remove something and start one after the other
also end before the next one starts. -/
theorem apart_of_sorted (edits ordered chosen : List Edit) (perm : ordered.Perm edits)
    (apart : ordered.Pairwise fun a b => a.stop ≤ b.start) (part : chosen.Sublist edits)
    (sorted : chosen.Pairwise fun a b => a.start < b.start)
    (nonempty : ∀ e ∈ chosen, e.start < e.stop) : chosen.Pairwise fun a b => a.stop ≤ b.start := by
  -- Of any two edits one ends before the other starts, in whatever order they are listed; the
  -- starts say which one.
  have either : edits.Pairwise fun a b => a.stop ≤ b.start ∨ b.stop ≤ a.start :=
    (perm.pairwise_iff Or.symm).mp (apart.imp Or.inl)
  refine (sorted.and (either.sublist part)).imp_of_mem fun {a b} _ member both => ?_
  have := nonempty b member
  omega

end Phrasebook.Text
