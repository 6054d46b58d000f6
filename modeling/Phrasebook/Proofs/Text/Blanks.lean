import Phrasebook.Proofs.Text.Parts
import Phrasebook.Text.Slug
import Phrasebook.Text.Spacing

/-!
# Blanks and slugs

There are so few blanks that a kind of characters is told apart from them one by one. The words of a
text hold none of them, and blanks around a text change neither its words nor the blanks between
them. A slug, which is made from the words, holds small ASCII letters, digits and underscores,
whatever the text is, and one that is not empty starts with a letter or a digit.
-/

namespace Phrasebook

namespace Unicode

/-- All blanks. -/
def blanks : List Char :=
  blankRanges.flatMap fun (low, high) => (List.range' low (high + 1 - low)).map Char.ofNat

theorem mem_blanks_of_isBlank {c : Char} (blank : isBlank c = true) : c ∈ blanks := by
  obtain ⟨⟨low, high⟩, listed, within⟩ := List.any_eq_true.mp blank
  simp only [Bool.and_eq_true, decide_eq_true_eq] at within
  refine List.mem_flatMap.mpr ⟨(low, high), listed, List.mem_map.mpr ⟨c.toNat, ?_, c.ofNat_toNat⟩⟩
  rw [List.mem_range'_1]
  omega

/-- Characters of a kind that holds for no blank are not blank. -/
theorem isBlank_eq_false {kind : Char → Bool} (apart : blanks.all (fun c => !kind c) = true)
    {c : Char} (known : kind c = true) : isBlank c = false := by
  refine Bool.eq_false_iff.mpr fun blank => ?_
  have other := List.all_eq_true.mp apart c (mem_blanks_of_isBlank blank)
  rw [known] at other
  cases other

/-- No character lies both in one of some ranges and in one of others. -/
def areApart (ranges others : List (Nat × Nat)) : Bool :=
  ranges.all fun r => others.all fun s => Nat.blt r.2 s.1 || Nat.blt s.2 r.1

/-- Ranges that are apart from the blanks hold none of them. -/
theorem isBlank_eq_false_of_inRanges {ranges : List (Nat × Nat)}
    (apart : areApart ranges blankRanges = true) {c : Char} (known : inRanges ranges c = true) :
    isBlank c = false := by
  refine Bool.eq_false_iff.mpr fun blank => ?_
  obtain ⟨r, listed, within⟩ := List.any_eq_true.mp known
  obtain ⟨s, listed', within'⟩ := List.any_eq_true.mp blank
  have split := List.all_eq_true.mp (List.all_eq_true.mp apart r listed) s listed'
  simp only [Bool.or_eq_true, Nat.blt_eq, Bool.and_eq_true, decide_eq_true_eq] at split within within'
  omega

end Unicode

namespace Text

open Unicode (isBlank)

/-! ## Words -/

theorem mem_of_mem_pushWord {c : Char} {words : List (List Char)} {word : List Char}
    (member : word ∈ pushWord c words) :
    ∀ d ∈ word, d = c ∧ isBlank c = false ∨ ∃ other ∈ words, d ∈ other := by
  intro d inside
  unfold pushWord at member
  split at member
  next =>
    split at member
    next => exact absurd member List.not_mem_nil
    next visible =>
      rw [List.mem_singleton.mp member] at inside
      exact Or.inl ⟨List.mem_singleton.mp inside, Bool.eq_false_iff.mpr visible⟩
  next first rest =>
    split at member
    next =>
      split at member
      · exact Or.inr ⟨word, member, inside⟩
      · rcases List.mem_cons.mp member with rfl | old
        · exact absurd inside List.not_mem_nil
        · exact Or.inr ⟨word, old, inside⟩
    next visible =>
      rcases List.mem_cons.mp member with rfl | old
      · exact (List.mem_cons.mp inside).imp (fun same => ⟨same, Bool.eq_false_iff.mpr visible⟩)
          fun inside => ⟨first, List.mem_cons_self, inside⟩
      · exact Or.inr ⟨word, List.mem_cons_of_mem _ old, inside⟩

/-- Words are made of the characters of the text that are not blank. -/
theorem mem_of_mem_words {text word : List Char} (member : word ∈ words text) :
    ∀ d ∈ word, d ∈ text ∧ isBlank d = false := by
  replace member := (List.mem_filter.mp member).1
  induction text generalizing word with
  | nil => exact absurd member List.not_mem_nil
  | cons c text ih =>
    intro d inside
    rcases mem_of_mem_pushWord member d inside with ⟨rfl, visible⟩ | ⟨other, old, inside⟩
    · exact ⟨List.mem_cons_self, visible⟩
    · exact (ih old d inside).imp_left (List.mem_cons_of_mem _)

theorem words_cons_of_isBlank {c : Char} (blank : isBlank c = true) (text : List Char) :
    words (c :: text) = words text := by
  rw [words, words, List.foldr_cons]
  generalize text.foldr pushWord [] = found
  cases found with
  | nil => simp [pushWord, blank]
  | cons word rest =>
    cases word with
    | nil => simp [pushWord, blank]
    | cons d word => simp [pushWord, blank]

theorem words_append_of_isBlank (text : List Char) {blanks : List Char}
    (blank : ∀ c ∈ blanks, isBlank c = true) : words (text ++ blanks) = words text := by
  have nothing : blanks.foldr pushWord [] = [] := by
    induction blanks with
    | nil => rfl
    | cons c blanks ih =>
      obtain ⟨first, others⟩ := List.forall_mem_cons.mp blank
      rw [List.foldr_cons, ih others, pushWord, if_pos first]
  rw [words, List.foldr_append, nothing, words]

/-! ## Trimming -/

theorem exists_trimStart (text : List Char) :
    ∃ blanks, text = blanks ++ trimStart text ∧ ∀ c ∈ blanks, isBlank c = true :=
  ⟨text.takeWhile isBlank, List.takeWhile_append_dropWhile.symm,
    fun _ member => List.mem_takeWhile_imp member⟩

theorem exists_trimEnd (text : List Char) :
    ∃ blanks, text = trimEnd text ++ blanks ∧ ∀ c ∈ blanks, isBlank c = true := by
  obtain ⟨blanks, split, blank⟩ := exists_trimStart text.reverse
  refine ⟨blanks.reverse, ?_, fun c member => blank c (List.mem_reverse.mp member)⟩
  rw [trimEnd, ← List.reverse_append]
  exact List.reverse_eq_iff.mp split

/-- The words of a text are those between the blanks around it. -/
theorem words_trim (text : List Char) : words (trim text) = words text := by
  obtain ⟨leading, front, blank⟩ := exists_trimStart text
  obtain ⟨trailing, back, blank'⟩ := exists_trimEnd (trimStart text)
  have start (blanks more : List Char) (blank : ∀ c ∈ blanks, isBlank c = true) :
      words (blanks ++ more) = words more := by
    induction blanks with
    | nil => rfl
    | cons c blanks ih =>
      obtain ⟨first, others⟩ := List.forall_mem_cons.mp blank
      rw [List.cons_append, words_cons_of_isBlank first, ih others]
  calc words (trim text)
      = words (trimEnd (trimStart text) ++ trailing) := (words_append_of_isBlank _ blank').symm
    _ = words (trimStart text) := by rw [← back]
    _ = words (leading ++ trimStart text) := (start _ _ blank).symm
    _ = words text := by rw [← front]

/-- What is not blank stays when a text is trimmed. -/
theorem mem_trim {text : List Char} {c : Char} (member : c ∈ text) (visible : isBlank c = false) :
    c ∈ trim text := by
  obtain ⟨leading, front, blank⟩ := exists_trimStart text
  obtain ⟨trailing, back, blank'⟩ := exists_trimEnd (trimStart text)
  rw [front, back, List.mem_append, List.mem_append] at member
  rcases member with outside | inside | outside
  · rw [blank c outside] at visible
    cases visible
  · exact inside
  · rw [blank' c outside] at visible
    cases visible

/-! ## Texts of several words -/

/-- A blank stands between two characters that are none. -/
def IsMultiWord (text : List Char) : Prop :=
  ∃ front gap back, text = front ++ gap :: back ∧ isBlank gap = true ∧
    (∃ c ∈ front, isBlank c = false) ∧ ∃ c ∈ back, isBlank c = false

theorem trimStart_append {front : List Char} (visible : ∃ c ∈ front, isBlank c = false)
    (back : List Char) : trimStart (front ++ back) = trimStart front ++ back := by
  obtain ⟨c, member, shown⟩ := visible
  rw [trimStart, List.dropWhile_append, if_neg]
  · rfl
  · rw [List.isEmpty_iff, List.dropWhile_eq_nil_iff]
    exact fun all => by rw [all c member] at shown; cases shown

theorem trimEnd_append (front : List Char) {back : List Char}
    (visible : ∃ c ∈ back, isBlank c = false) : trimEnd (front ++ back) = front ++ trimEnd back := by
  obtain ⟨c, member, shown⟩ := visible
  have start := trimStart_append ⟨c, List.mem_reverse.mpr member, shown⟩ front.reverse
  rw [trimStart, trimStart] at start
  rw [trimEnd, List.reverse_append, start, List.reverse_append, List.reverse_reverse, trimEnd]

/-- A blank between words stays when a text is trimmed. -/
theorem IsMultiWord.exists_mem_trim {text : List Char} (multi : IsMultiWord text) :
    ∃ c ∈ trim text, isBlank c = true := by
  obtain ⟨front, gap, back, rfl, blank, before, behind⟩ := multi
  refine ⟨gap, ?_, blank⟩
  rw [trim, trimStart_append before, List.append_cons, trimEnd_append _ behind]
  simp

/-! ## Slugs -/

/-- A small ASCII letter or a digit. -/
def isSlugStart (c : Char) : Bool := c.isLower || c.isDigit

/-- What a slug holds. -/
def isSlugPart (c : Char) : Bool := isSlugStart c || c == '_'

/-- Folding leaves small letters, digits, underscores and blanks. -/
theorem isSlugPart_of_mem_foldForSlug {text : List Char} {c : Char} (member : c ∈ foldForSlug text)
    (visible : isBlank c = false) : isSlugPart c = true := by
  obtain ⟨folded, source⟩ := List.mem_filter.mp member
  obtain ⟨d, -, rfl⟩ := List.mem_map.mp folded
  have small : d.toLower.isUpper = false := d.isUpper_toLower_eq_false
  simpa [isSlugSource, isSlugPart, isSlugStart, Char.isAlphanum, Char.isAlpha, small, visible]
    using source

theorem mem_of_mem_trimUnderscores {text : List Char} {c : Char}
    (member : c ∈ trimUnderscores text) : c ∈ text := by
  have inner := (List.dropWhile_sublist _).mem (List.mem_reverse.mp member)
  exact (List.dropWhile_sublist _).mem (List.mem_reverse.mp inner)

theorem isSlugPart_of_mem_slug {maxWords maxChars : Nat} {text : List Char} {c : Char}
    (member : c ∈ slug maxWords maxChars text) : isSlugPart c = true := by
  have joined := List.mem_of_mem_take (mem_of_mem_trimUnderscores member)
  rcases mem_of_mem_intercalate joined with rfl | ⟨word, listed, inside⟩
  · rfl
  · obtain ⟨folded, visible⟩ := mem_of_mem_words (List.mem_of_mem_take listed) c inside
    exact isSlugPart_of_mem_foldForSlug folded visible

/-- A trimmed text does not start with an underscore. -/
theorem head?_trimUnderscores_ne (text : List Char) :
    (trimUnderscores text).head? ≠ some '_' := by
  intro first
  obtain ⟨rest, trimmed⟩ := List.head?_eq_some_iff.mp first
  -- Trimming the end leaves a part of the front, which starts with no underscore.
  have suffix := List.dropWhile_suffix (· == '_') (l := (text.dropWhile (· == '_')).reverse)
  have front : trimUnderscores text <+: text.dropWhile (· == '_') := by
    simpa [trimUnderscores] using suffix.reverse
  obtain ⟨more, split⟩ := front
  have other := List.head?_dropWhile_not (· == '_') text
  rw [← split, trimmed] at other
  cases other

/-- A text that may stand last in a key: small letters, digits and underscores, the first of them
no underscore. -/
def IsSlug (text : List Char) : Prop :=
  (∃ c ∈ text.head?, isSlugStart c = true) ∧ ∀ c ∈ text, isSlugPart c = true

theorem isSlug_slug {maxWords maxChars : Nat} {text : List Char}
    (nonempty : slug maxWords maxChars text ≠ []) : IsSlug (slug maxWords maxChars text) := by
  have parts : ∀ c ∈ slug maxWords maxChars text, isSlugPart c = true :=
    fun _ => isSlugPart_of_mem_slug
  refine ⟨?_, parts⟩
  obtain ⟨c, rest, same⟩ := List.exists_cons_of_ne_nil nonempty
  have other : c ≠ '_' := fun under =>
    head?_trimUnderscores_ne _ (by rw [← slug, same, under]; rfl)
  have part := parts c (same ▸ List.mem_cons_self)
  exact ⟨c, by rw [same]; rfl, by simpa [isSlugPart, other] using part⟩

theorem point_notMem_slug (maxWords maxChars : Nat) (text : List Char) :
    '.' ∉ slug maxWords maxChars text := fun member =>
  absurd (isSlugPart_of_mem_slug member) (by decide)

end Text

end Phrasebook
