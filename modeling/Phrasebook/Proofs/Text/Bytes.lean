import Phrasebook.Text.Bytes

/-!
# Boundaries cut a text in two

A byte offset is a boundary when the text falls into a front of that many bytes and a rest. Cutting
at the offset yields exactly these two parts, and no other parts have that length.
-/

namespace Phrasebook.Text

theorem byteLength_pos (c : Char) (rest : List Char) : 0 < byteLength (c :: rest) := by
  have := c.utf8Size_pos
  simp only [byteLength_cons]
  omega

@[simp] theorem byteLength_eq_zero (text : List Char) : byteLength text = 0 ↔ text = [] := by
  cases text with
  | nil => simp
  | cons c rest =>
    have := byteLength_pos c rest
    simp only [reduceCtorEq, iff_false]
    omega

theorem dropBytes?_eq_some_iff (text : List Char) (n : Nat) (rest : List Char) :
    dropBytes? text n = some rest ↔ ∃ front, front ++ rest = text ∧ byteLength front = n := by
  -- A step cuts one character off the front, with the bytes that it takes.
  fun_induction dropBytes? text n with
  | case1 text =>
    constructor
    · intro same
      cases same
      exact ⟨[], rfl, rfl⟩
    · rintro ⟨front, cut, empty⟩
      rw [byteLength_eq_zero] at empty
      subst empty
      rw [← cut, List.nil_append]
  | case2 n =>
    simp only [reduceCtorEq, List.append_eq_nil_iff, false_iff, not_exists, not_and, and_imp]
    rintro front rfl -
    simp
  | case3 c text n fits ih =>
    rw [ih]
    clear ih
    constructor
    · rintro ⟨front, rfl, length⟩
      exact ⟨c :: front, rfl, by rw [byteLength_cons]; omega⟩
    · rintro ⟨front, cut, length⟩
      cases front with
      | nil => simp at length
      | cons d front =>
        obtain ⟨rfl, rfl⟩ := List.cons.inj cut
        rw [byteLength_cons] at length
        exact ⟨front, rfl, by omega⟩
  | case4 c text n large =>
    -- The offset lies inside the first character, and no front ends there.
    simp only [reduceCtorEq, false_iff, not_exists, not_and]
    intro front cut length
    cases front with
    | nil => simp at length
    | cons d front =>
      obtain ⟨rfl, rfl⟩ := List.cons.inj cut
      rw [byteLength_cons] at length
      omega

theorem takeBytes?_eq_some_iff (text : List Char) (n : Nat) (front : List Char) :
    takeBytes? text n = some front ↔ ∃ rest, front ++ rest = text ∧ byteLength front = n := by
  -- The same steps; here the front is what a step builds up.
  fun_induction takeBytes? text n generalizing front with
  | case1 text =>
    simp only [Option.some.injEq, byteLength_eq_zero]
    constructor
    · rintro rfl
      exact ⟨text, rfl, rfl⟩
    · rintro ⟨rest, -, rfl⟩
      rfl
  | case2 n =>
    simp only [reduceCtorEq, List.append_eq_nil_iff, false_iff, not_exists, not_and, and_imp]
    rintro rest rfl -
    simp
  | case3 c text n fits ih =>
    simp only [Option.map_eq_some_iff, ih]
    clear ih
    constructor
    · rintro ⟨front, ⟨rest, rfl, length⟩, rfl⟩
      exact ⟨rest, rfl, by rw [byteLength_cons]; omega⟩
    · rintro ⟨rest, cut, length⟩
      cases front with
      | nil => simp at length
      | cons d front =>
        obtain ⟨rfl, rfl⟩ := List.cons.inj cut
        rw [byteLength_cons] at length
        exact ⟨front, ⟨rest, rfl, by omega⟩, rfl⟩
  | case4 c text n large =>
    simp only [reduceCtorEq, false_iff, not_exists, not_and]
    intro rest cut length
    cases front with
    | nil => simp at length
    | cons d front =>
      obtain ⟨rfl, rfl⟩ := List.cons.inj cut
      rw [byteLength_cons] at length
      omega

theorem isBoundary_iff (text : List Char) (n : Nat) :
    isBoundary text n = true ↔ ∃ front rest, front ++ rest = text ∧ byteLength front = n := by
  simp only [isBoundary, Option.isSome_iff_exists, dropBytes?_eq_some_iff]
  exact exists_comm

/-- A slice is what stands between a front and a rest. -/
theorem slice?_eq_some_iff (text : List Char) (start stop : Nat) (part : List Char) :
    slice? text start stop = some part ↔ ∃ front rest, front ++ (part ++ rest) = text ∧
      byteLength front = start ∧ stop = start + byteLength part := by
  unfold slice?
  split
  next ordered =>
    simp only [Option.bind_eq_some_iff, dropBytes?_eq_some_iff, takeBytes?_eq_some_iff]
    constructor
    · rintro ⟨rest, ⟨front, cut, length⟩, tail, rfl, size⟩
      exact ⟨front, tail, cut, length, by omega⟩
    · rintro ⟨front, tail, cut, length, size⟩
      exact ⟨part ++ tail, ⟨front, cut, length⟩, tail, rfl, by omega⟩
  next unordered =>
    simp only [reduceCtorEq, false_iff, not_exists, not_and]
    intro front rest cut length
    omega

/-- Of two cuts of one text the earlier front is part of the later one. -/
theorem append_le_append {a b c d : List Char} (same : a ++ b = c ++ d)
    (shorter : byteLength a ≤ byteLength c) : ∃ between, c = a ++ between ∧ b = between ++ d := by
  rcases List.append_eq_append_iff.mp same with ⟨between, rfl, rfl⟩ | ⟨between, rfl, rfl⟩
  · exact ⟨between, rfl, rfl⟩
  · rw [byteLength_append] at shorter
    have none : byteLength between = 0 := by omega
    rw [byteLength_eq_zero] at none
    subst none
    exact ⟨[], by simp, by simp⟩

end Phrasebook.Text
