import Mathlib
import Phrasebook.Text.Lines
import Phrasebook.Text.Split

/-!
# Parts of texts

A text is its parts with what it was split at between them, and its lines with line feeds between
them.
-/

namespace Phrasebook.Text

theorem contains_iff (part text : List Char) : contains part text = true ↔ part <:+: text := by
  induction text with
  | nil => simp [contains]
  | cons c rest ih =>
    rw [contains, Bool.or_eq_true, ih, List.isPrefixOf_iff_prefix, List.infix_cons_iff]

theorem after?_append (start rest : List Char) : after? start (start ++ rest) = some rest := by
  induction start with
  | nil => rfl
  | cons c start ih => simpa [after?] using ih

theorem after?_eq_some (start text rest : List Char) (found : after? start text = some rest) :
    text = start ++ rest := by
  induction start generalizing text with
  | nil => exact Option.some.inj found
  | cons c start ih =>
    cases text with
    | nil => cases found
    | cons c' text =>
      rw [after?] at found
      split at found
      next same => rw [same, ih text found, List.cons_append]
      next => cases found

theorem splitBy_ne_nil (test : Char → Bool) (text : List Char) : splitBy test text ≠ [] := by
  fun_induction splitBy test text <;> simp

theorem length_splitBy (test : Char → Bool) (text : List Char) :
    (splitBy test text).length = text.countP test + 1 := by
  induction text with
  | nil => rfl
  | cons c text ih =>
    rw [splitBy, List.countP_cons]
    split
    next => rw [List.length_cons, ih]
    next =>
      split
      next first more split => rw [← ih, split, List.length_cons, List.length_cons, Nat.add_zero]
      next none => exact absurd none (splitBy_ne_nil test text)

/-- A text without marks is a single part. -/
theorem splitBy_of_forall {test : Char → Bool} {text : List Char}
    (whole : ∀ c ∈ text, test c = false) : splitBy test text = [text] := by
  induction text with
  | nil => rfl
  | cons c text ih =>
    obtain ⟨first, others⟩ := List.forall_mem_cons.mp whole
    simp [splitBy, first, ih others]

/-- There are no marks in parts. -/
theorem forall_mem_splitBy (test : Char → Bool) (text : List Char) :
    ∀ part ∈ splitBy test text, ∀ c ∈ part, test c = false := by
  induction text with
  | nil => simp [splitBy]
  | cons c text ih =>
    obtain ⟨first, more, split⟩ := List.exists_cons_of_ne_nil (splitBy_ne_nil test text)
    rw [split] at ih
    obtain ⟨head, others⟩ := List.forall_mem_cons.mp ih
    rw [splitBy, split]
    by_cases here : test c = true
    · rw [if_pos here]
      exact List.forall_mem_cons.mpr ⟨List.forall_mem_nil _, ih⟩
    · rw [if_neg here]
      have first : ∀ d ∈ c :: first, test d = false :=
        List.forall_mem_cons.mpr ⟨Bool.eq_false_iff.mpr here, head⟩
      exact List.forall_mem_cons.mpr ⟨first, others⟩

/-- A mark between two texts parts them. -/
theorem splitBy_append_cons {test : Char → Bool} {mark : Char} (marks : test mark = true)
    (front back : List Char) :
    splitBy test (front ++ mark :: back) = splitBy test front ++ splitBy test back := by
  induction front with
  | nil => simp [splitBy, marks]
  | cons c front ih =>
    rw [List.cons_append, splitBy, splitBy, ih]
    by_cases here : test c = true
    · simp [here]
    · obtain ⟨first, more, split⟩ := List.exists_cons_of_ne_nil (splitBy_ne_nil test front)
      simp [here, split]

/-- The last part of a text ends as the text does. -/
theorem getLast?_splitBy (test : Char → Bool) (front ending : List Char)
    (whole : ∀ c ∈ ending, test c = false) :
    ∃ part, (splitBy test (front ++ ending)).getLast? = some (part ++ ending) := by
  induction front with
  | nil =>
    exact ⟨[], by rw [List.nil_append, splitBy_of_forall whole]; rfl⟩
  | cons c front ih =>
    obtain ⟨part, last⟩ := ih
    obtain ⟨first, more, split⟩ :=
      List.exists_cons_of_ne_nil (splitBy_ne_nil test (front ++ ending))
    rw [split] at last
    rw [List.cons_append, splitBy, split]
    by_cases here : test c = true
    · rw [if_pos here]
      exact ⟨part, last⟩
    · rw [if_neg here]
      cases more with
      | nil =>
        cases last
        exact ⟨c :: part, rfl⟩
      | cons next more => exact ⟨part, last⟩

/-- Parts joined by the character that they were split at are the text again. -/
theorem intercalate_splitBy (test : Char → Bool) (mark : Char) (text : List Char)
    (marked : ∀ c ∈ text, test c = true → c = mark) :
    [mark].intercalate (splitBy test text) = text := by
  induction text with
  | nil => rfl
  | cons c rest ih =>
    obtain ⟨first, others⟩ := List.forall_mem_cons.mp marked
    have below := ih others
    obtain ⟨word, more, split⟩ := List.exists_cons_of_ne_nil (splitBy_ne_nil test rest)
    rw [split] at below
    by_cases here : test c = true
    · rw [splitBy, if_pos here, split, List.intercalate_cons_cons, below, first here]
      rfl
    · rw [splitBy, if_neg here, split]
      cases more with
      | nil =>
        simp only [List.intercalate_singleton] at below ⊢
        rw [below]
      | cons next more =>
        simp only [List.intercalate_cons_cons, List.cons_append] at below ⊢
        rw [below]

/-- What is joined holds marks and the characters of the parts. -/
theorem mem_of_mem_intercalate {mark c : Char} {parts : List (List Char)}
    (member : c ∈ [mark].intercalate parts) : c = mark ∨ ∃ part ∈ parts, c ∈ part := by
  induction parts with
  | nil => exact absurd member List.not_mem_nil
  | cons first rest ih =>
    cases rest with
    | nil =>
      rw [List.intercalate_singleton] at member
      exact Or.inr ⟨first, List.mem_cons_self, member⟩
    | cons next rest =>
      rw [List.intercalate_cons_cons, List.append_assoc, List.singleton_append] at member
      rcases List.mem_append.mp member with here | behind
      · exact Or.inr ⟨first, List.mem_cons_self, here⟩
      · rcases List.mem_cons.mp behind with rfl | later
        · exact Or.inl rfl
        · exact (ih later).imp_right fun ⟨part, listed, inside⟩ =>
            ⟨part, List.mem_cons_of_mem _ listed, inside⟩

/-! ## Lines -/

theorem lines_of_not_mem (text : List Char) (plain : '\n' ∉ text) : lines text = [text] := by
  induction text with
  | nil => rfl
  | cons c rest ih =>
    obtain ⟨first, others⟩ := not_or.mp (mt List.mem_cons.mpr plain)
    rw [lines, if_neg (Ne.symm first), ih others]

/-- Where two texts meet, the last line of the one and the first of the other are one line. -/
theorem lines_meet (text more : List Char) : ∃ init last first others,
    lines text = init ++ [last] ∧ lines more = first :: others ∧
      lines (text ++ more) = init ++ (last ++ first) :: others := by
  induction text with
  | nil =>
    obtain ⟨first, others, split⟩ := List.exists_cons_of_ne_nil (lines_ne_nil more)
    exact ⟨[], [], first, others, rfl, split, split⟩
  | cons c rest ih =>
    obtain ⟨init, last, first, others, front, behind, whole⟩ := ih
    by_cases feed : c = '\n'
    · refine ⟨[] :: init, last, first, others, ?_, behind, ?_⟩
      · rw [lines, if_pos feed, front, List.cons_append]
      · rw [List.cons_append, lines, if_pos feed, whole, List.cons_append]
    · cases init with
      | nil =>
        refine ⟨[], c :: last, first, others, ?_, behind, ?_⟩
        · rw [lines, if_neg feed, front]
          rfl
        · rw [List.cons_append, lines, if_neg feed, whole]
          rfl
      | cons line init =>
        refine ⟨(c :: line) :: init, last, first, others, ?_, behind, ?_⟩
        · rw [lines, if_neg feed, front]
          rfl
        · rw [List.cons_append, lines, if_neg feed, whole]
          rfl

end Phrasebook.Text
