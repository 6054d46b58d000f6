import Phrasebook.Proofs.Text.Blanks

/-!
# Slugs of slugs

Whatever a text is, its slug is made of small ASCII letters, digits and underscores, is no longer
than it may be, and has no underscore at an end. Folding leaves such a text as it is, and so does
cutting it to a word and to that length: it is its own slug. That folding writes ASCII letters small
and no others makes no difference to a slug.
-/

namespace Phrasebook.Text

open Unicode (isBlank isMark decompose decomposed placeMark combiningClass)

/-! ## Folding -/

/-- What a slug holds are visible ASCII characters. -/
theorem isSlugPart_range {c : Char} (part : isSlugPart c = true) :
    0x20 < c.toNat ∧ c.toNat < 0x7B := by
  simp only [isSlugPart, isSlugStart, Char.isLower, Char.isDigit, Bool.or_eq_true,
    Bool.and_eq_true, decide_eq_true_eq, beq_iff_eq] at part
  rcases part with (⟨low, high⟩ | ⟨low, high⟩) | rfl
  · have low : 97 ≤ c.toNat := low
    have high : c.toNat ≤ 122 := high
    omega
  · have low : 48 ≤ c.toNat := low
    have high : c.toNat ≤ 57 := high
    omega
  · decide

/-- Characters in some ranges that start behind ASCII are no parts of a slug. -/
theorem inRanges_eq_false {ranges : List (Nat × Nat)}
    (apart : ranges.all (fun r => Nat.ble 0x7B r.1 || Nat.ble r.2 0x20) = true) {c : Char}
    (part : isSlugPart c = true) : Unicode.inRanges ranges c = false := by
  obtain ⟨low, high⟩ := isSlugPart_range part
  refine List.any_eq_false.mpr fun r listed within => ?_
  have bounds := List.all_eq_true.mp apart r listed
  simp only [Bool.or_eq_true, Nat.ble_eq, Bool.and_eq_true, decide_eq_true_eq] at bounds within
  omega

theorem isBlank_of_isSlugPart {c : Char} (part : isSlugPart c = true) : isBlank c = false :=
  inRanges_eq_false (by decide) part

theorem isMark_of_isSlugPart {c : Char} (part : isSlugPart c = true) : isMark c = false :=
  inRanges_eq_false (by decide +kernel) part

theorem toLower_of_isSlugPart {c : Char} (part : isSlugPart c = true) : c.toLower = c := by
  refine Char.toLower_eq_of_not_isUpper fun upper => ?_
  simp only [isSlugPart, isSlugStart, Char.isLower, Char.isDigit, Char.isUpper, Bool.or_eq_true,
    Bool.and_eq_true, decide_eq_true_eq, beq_iff_eq] at part upper
  have low : 65 ≤ c.toNat := upper.1
  have high : c.toNat ≤ 90 := upper.2
  rcases part with (⟨least, -⟩ | ⟨-, most⟩) | rfl
  · have least : 97 ≤ c.toNat := least
    omega
  · have most : c.toNat ≤ 57 := most
    omega
  · exact absurd high (by decide)

theorem isSlugSource_of_isSlugPart {c : Char} (part : isSlugPart c = true) :
    isSlugSource c = true := by
  simp only [isSlugPart, isSlugStart, Bool.or_eq_true] at part
  simp only [isSlugSource, Char.isAlphanum, Char.isAlpha, Bool.or_eq_true]
  tauto

theorem combiningClass_of_ascii {c : Char} (ascii : c.toNat < 0x80) : combiningClass c = 0 := by
  rw [combiningClass, if_pos (by omega)]

/-- No character is moved behind ASCII characters. -/
theorem foldr_placeMark_of_ascii {text : List Char} (ascii : ∀ c ∈ text, c.toNat < 0x80) :
    text.foldr placeMark [] = text := by
  induction text with
  | nil => rfl
  | cons c text ih =>
    obtain ⟨-, others⟩ := List.forall_mem_cons.mp ascii
    rw [List.foldr_cons, ih others]
    cases text with
    | nil => rfl
    | cons d text => simp [placeMark, combiningClass_of_ascii (others d List.mem_cons_self)]

/-- ASCII characters are neither taken apart nor moved. -/
theorem decomposed_of_ascii {text : List Char} (ascii : ∀ c ∈ text, c.toNat < 0x80) :
    decomposed text = text := by
  have single : ∀ c ∈ text, decompose 4 c = [c] := fun c member => by
    have small := ascii c member
    rw [decompose, if_pos (by omega)]
  rw [decomposed, List.flatMap_congr single, List.flatMap_singleton',
    foldr_placeMark_of_ascii ascii]

/-- Folding leaves the characters of a slug. -/
theorem foldForSlug_of_isSlugPart {text : List Char} (parts : ∀ c ∈ text, isSlugPart c = true) :
    foldForSlug text = text := by
  have ascii : ∀ c ∈ text, c.toNat < 0x80 := fun c member => by
    have range := isSlugPart_range (parts c member)
    omega
  have unmarked : text.filter (fun c => !isMark c) = text :=
    List.filter_eq_self.mpr fun c member => by rw [isMark_of_isSlugPart (parts c member)]; rfl
  have small : text.map Char.toLower = text :=
    (List.map_congr_left fun c member => toLower_of_isSlugPart (parts c member)).trans
      (List.map_id' text)
  rw [foldForSlug, decomposed_of_ascii ascii, unmarked, small]
  exact List.filter_eq_self.mpr fun c member => isSlugSource_of_isSlugPart (parts c member)

/-! ## Lower-casing -/

/-- Characters that are taken apart and have an ASCII letter in their small form: the capital I with
a dot and the sign for kelvins. -/
def disguisedLetters : List Char := [Char.ofNat 0x130, Char.ofNat 0x212A]

/-- A way to write characters small, each as one character or as several. ASCII characters are
written small as usual. The small forms of others hold nothing that a slug is made from that was not
there before, the disguised letters apart. -/
structure IsLowering (small : Char → List Char) : Prop where
  ascii : ∀ c, c.toNat < 0x80 → small c = [c.toLower]
  others : ∀ c, 0x80 ≤ c.toNat → c ∉ disguisedLetters →
    (small c).filter isSlugSource = [c].filter isSlugSource

theorem mem_placeMark {c d : Char} {text : List Char} (member : d ∈ placeMark c text) :
    d = c ∨ d ∈ text := by
  induction text with
  | nil => exact Or.inl (List.mem_singleton.mp member)
  | cons e text ih =>
    rw [placeMark] at member
    split at member
    next =>
      rcases List.mem_cons.mp member with rfl | behind
      · exact Or.inr List.mem_cons_self
      · exact (ih behind).imp_right (List.mem_cons_of_mem e)
    next => exact List.mem_cons.mp member

theorem mem_foldr_placeMark {d : Char} {text : List Char} (member : d ∈ text.foldr placeMark []) :
    d ∈ text := by
  induction text with
  | nil => exact member
  | cons c text ih =>
    rcases mem_placeMark member with rfl | behind
    · exact List.mem_cons_self
    · exact List.mem_cons_of_mem c (ih behind)

/-- The parts of syllables are no disguised letters. -/
theorem notMem_syllableParts {d : Char} (disguised : d ∈ disguisedLetters) {n : Nat}
    (syllable : Unicode.isSyllable n = true) : d ∉ Unicode.syllableParts n := by
  have jamo (k : Nat) (short : k < 0x100) : d ≠ Char.ofNat (0x1100 + k) := by
    have apart : ∀ k < 0x100, Char.ofNat (0x1100 + k) ∉ disguisedLetters := by decide +kernel
    rintro rfl
    exact apart k short disguised
  simp only [Unicode.isSyllable, Bool.and_eq_true, decide_eq_true_eq] at syllable
  simp only [Unicode.hangulBase, Unicode.leadCount, Unicode.vowelCount, Unicode.tailCount]
    at syllable
  have lead := jamo ((n - 0xAC00) / 588) (by omega)
  have vowel := jamo (0x61 + (n - 0xAC00) % 588 / 28) (by omega)
  have tail := jamo (0xA7 + (n - 0xAC00) % 28) (by omega)
  rw [← Nat.add_assoc] at vowel tail
  unfold Unicode.syllableParts
  dsimp only
  split
  · rw [List.mem_pair]
    rintro (same | same)
    · exact lead same
    · exact vowel same
  · rw [List.mem_cons, List.mem_pair]
    rintro (same | same | same)
    · exact lead same
    · exact vowel same
    · exact tail same

/-- Disguised letters do not come out of other characters. -/
theorem notMem_decompose {d : Char} (disguised : d ∈ disguisedLetters) (depth : Nat) {c : Char}
    (other : d ≠ c) : d ∉ decompose depth c := by
  have made : Unicode.decompositions.all (fun entry =>
      Char.ofNat entry.2.1 ∉ disguisedLetters && Char.ofNat entry.2.2 ∉ disguisedLetters) = true := by
    decide +kernel
  induction depth generalizing c with
  | zero =>
    unfold decompose
    split
    next => simpa using other
    next =>
      split
      next syllable => exact notMem_syllableParts disguised syllable
      next => simpa using other
  | succ depth ih =>
    unfold decompose
    split
    next => simpa using other
    next =>
      split
      next syllable => exact notMem_syllableParts disguised syllable
      next =>
        dsimp only
        split
        next n a b found =>
          have fresh := List.all_eq_true.mp made _ (List.mem_of_find?_eq_some found)
          simp only [Bool.and_eq_true, decide_eq_true_eq] at fresh
          rw [List.mem_append]
          rintro (inside | inside)
          · exact ih (by rintro rfl; exact fresh.1 disguised) inside
          · split at inside
            next => cases inside
            next => exact fresh.2 (List.mem_singleton.mp inside ▸ disguised)
        next => simpa using other

theorem notMem_decomposed {d : Char} (disguised : d ∈ disguisedLetters) (text : List Char) :
    d ∉ decomposed text := by
  have dotted : decompose 4 (Char.ofNat 0x130) = [Char.ofNat 0x49, Char.ofNat 0x307] := by
    decide
  have kelvin : decompose 4 (Char.ofNat 0x212A) = [Char.ofNat 0x4B] := by decide +kernel
  have apart : d ∉ decompose 4 d := by
    rcases List.mem_pair.mp disguised with rfl | rfl
    · rw [dotted]
      decide
    · rw [kelvin]
      decide
  intro member
  obtain ⟨c, -, inside⟩ := List.mem_flatMap.mp (mem_foldr_placeMark member)
  by_cases same : d = c
  · exact apart (same ▸ inside)
  · exact notMem_decompose disguised 4 same inside

/-- The small forms of ASCII letters are all that lower-casing adds to a slug. -/
theorem foldForSlug_eq_of_isLowering {small : Char → List Char} (lowering : IsLowering small)
    (text : List Char) : foldForSlug text =
      (((decomposed text).filter fun c => !isMark c).flatMap small).filter isSlugSource := by
  have plain : ∀ c ∈ (decomposed text).filter (fun c => !isMark c), c ∉ disguisedLetters :=
    fun c member disguised => notMem_decomposed disguised text (List.mem_of_mem_filter member)
  rw [foldForSlug]
  generalize (decomposed text).filter (fun c => !isMark c) = letters at plain ⊢
  induction letters with
  | nil => rfl
  | cons c rest ih =>
    obtain ⟨first, others⟩ := List.forall_mem_cons.mp plain
    rw [List.map_cons, List.flatMap_cons, List.filter_append, ← ih others, ← List.singleton_append,
      List.filter_append]
    congr 1
    by_cases ascii : c.toNat < 0x80
    · rw [lowering.ascii c ascii]
    · have small : c.toLower = c := by
        refine Char.toLower_eq_of_not_isUpper fun upper => ascii ?_
        simp only [Char.isUpper, decide_eq_true_eq] at upper
        have high : c.toNat ≤ 90 := upper.2
        omega
      rw [lowering.others c (by omega) first, small]

/-! ## Cutting -/

/-- A text without blanks is a single word. -/
theorem words_of_visible {text : List Char} (nonempty : text ≠ [])
    (visible : ∀ c ∈ text, isBlank c = false) : words text = [text] := by
  have pushed : text.foldr pushWord [] = [text] := by
    induction text with
    | nil => exact absurd rfl nonempty
    | cons c text ih =>
      obtain ⟨first, others⟩ := List.forall_mem_cons.mp visible
      rw [List.foldr_cons]
      cases text with
      | nil => simp [pushWord, first]
      | cons d text =>
        rw [ih (List.cons_ne_nil d text) others]
        simp [pushWord, first]
  simp [words, pushed, nonempty]

theorem dropWhile_of_head? {test : Char → Bool} {text : List Char}
    (other : ∀ c ∈ text.head?, test c = false) : text.dropWhile test = text := by
  cases text with
  | nil => rfl
  | cons c text => exact List.dropWhile_cons_of_neg (Bool.eq_false_iff.mp (other c rfl))

/-- Nothing is trimmed where no underscore stands at an end. -/
theorem trimUnderscores_of_ends {text : List Char} (first : text.head? ≠ some '_')
    (last : text.getLast? ≠ some '_') : trimUnderscores text = text := by
  have front : text.dropWhile (· == '_') = text :=
    dropWhile_of_head? fun c start => beq_eq_false_iff_ne.mpr fun under => first (under ▸ start)
  have back : text.reverse.dropWhile (· == '_') = text.reverse := by
    refine dropWhile_of_head? fun c ending => beq_eq_false_iff_ne.mpr fun under => last ?_
    rw [List.head?_reverse] at ending
    exact under ▸ ending
  rw [trimUnderscores, front, back, List.reverse_reverse]

/-- A trimmed text does not end with an underscore. -/
theorem getLast?_trimUnderscores_ne (text : List Char) :
    (trimUnderscores text).getLast? ≠ some '_' := by
  rw [trimUnderscores, List.getLast?_reverse]
  intro first
  have other := List.head?_dropWhile_not (· == '_') (text.dropWhile (· == '_')).reverse
  rw [first] at other
  cases other

theorem length_trimUnderscores_le (text : List Char) :
    (trimUnderscores text).length ≤ text.length := by
  have front := (List.dropWhile_sublist (· == '_') (l := text)).length_le
  have back := (List.dropWhile_sublist (· == '_')
    (l := (text.dropWhile (· == '_')).reverse)).length_le
  rw [List.length_reverse] at back
  rw [trimUnderscores, List.length_reverse]
  exact back.trans front

/-! ## Slugs -/

/-- What the slug of a text can be: at most so many small ASCII letters, digits and underscores, no
underscore at an end. -/
structure IsBoundedSlug (maxChars : Nat) (text : List Char) : Prop where
  parts : ∀ c ∈ text, isSlugPart c = true
  short : text.length ≤ maxChars
  first : text.head? ≠ some '_'
  last : text.getLast? ≠ some '_'

theorem isBoundedSlug_slug (maxWords maxChars : Nat) (text : List Char) :
    IsBoundedSlug maxChars (slug maxWords maxChars text) where
  parts := fun _ => isSlugPart_of_mem_slug
  short := (length_trimUnderscores_le _).trans (List.length_take_le _ _)
  first := head?_trimUnderscores_ne _
  last := getLast?_trimUnderscores_ne _

/-- Such a text is a single word that needs no cut. -/
theorem IsBoundedSlug.slug_eq {maxChars : Nat} {text : List Char}
    (bounded : IsBoundedSlug maxChars text) {maxWords : Nat} (words : 0 < maxWords) :
    slug maxWords maxChars text = text := by
  have joined : ['_'].intercalate ((Text.words (foldForSlug text)).take maxWords) = text := by
    rw [foldForSlug_of_isSlugPart bounded.parts]
    by_cases nothing : text = []
    · rw [nothing, show Text.words [] = [] from rfl, List.take_nil]
      rfl
    · rw [words_of_visible nothing fun c member => isBlank_of_isSlugPart (bounded.parts c member),
        List.take_of_length_le (by rwa [List.length_singleton]), List.intercalate_singleton]
  rw [slug, joined, List.take_of_length_le bounded.short,
    trimUnderscores_of_ends bounded.first bounded.last]

/-- The slug of any text is short, is made of small ASCII letters, digits and underscores, has no
underscore at an end, and is its own slug. -/
theorem slug_isBounded_and_slug_slug (maxWords maxChars : Nat) (text : List Char) :
    IsBoundedSlug maxChars (slug maxWords maxChars text) ∧
      slug maxWords maxChars (slug maxWords maxChars text) = slug maxWords maxChars text := by
  have bounded := isBoundedSlug_slug maxWords maxChars text
  refine ⟨bounded, ?_⟩
  rcases Nat.eq_zero_or_pos maxWords with rfl | words
  · -- No words are left of any text.
    have nothing (text : List Char) : slug 0 maxChars text = [] := by simp [slug, trimUnderscores]
    rw [nothing, nothing]
  · exact bounded.slug_eq words

end Phrasebook.Text
