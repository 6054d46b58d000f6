import Phrasebook.Proofs.Text.Bytes
import Phrasebook.Rewrite.Lookup
import Phrasebook.Syntax.Lexing

/-!
# Words and strings that are read back

A word is read up to the first character that may not stand in one, and a text that was put in plain
quotes is read back as it was, if it keeps to its line.
-/

namespace Phrasebook

open Text (byteLength)

/-- A text without the line breaks that end a string. -/
def IsSingleLine (text : List Char) : Prop := ∀ c ∈ text, c ≠ '\n' ∧ c ≠ '\r'

instance (text : List Char) : Decidable (IsSingleLine text) := List.decidableBAll ..

theorem Text.length_le_byteLength (text : List Char) : text.length ≤ byteLength text := by
  induction text with
  | nil => exact Nat.le_refl 0
  | cons c rest ih =>
    have size := c.utf8Size_pos
    simp only [List.length_cons, byteLength_cons]
    omega

namespace Syntax

/-! ## Words -/

/-- What no word goes on with. -/
def EndsWord (rest : List Char) : Prop := ∀ c ∈ rest.head?, isWordPart c = false ∧ c ≠ '\\'

theorem wordRest_append (chars rest : List Char) (part : ∀ c ∈ chars, isWordPart c = true)
    (ends : EndsWord rest) (fuel offset : Nat) (enough : chars.length < fuel) :
    wordRest fuel offset (chars ++ rest) = ⟨chars, false, offset + byteLength chars, rest⟩ := by
  induction chars generalizing fuel offset with
  | nil =>
    obtain ⟨fuel, rfl⟩ := Nat.exists_eq_succ_of_ne_zero (Nat.ne_of_gt enough)
    rcases rest with _ | ⟨c, rest⟩
    · rfl
    · obtain ⟨other, plain⟩ := ends c rfl
      simp [wordRest, other, plain]
  | cons c chars ih =>
    obtain ⟨fuel, rfl⟩ := Nat.exists_eq_succ_of_ne_zero (Nat.ne_of_gt (Nat.zero_lt_of_lt enough))
    obtain ⟨first, more⟩ := List.forall_mem_cons.mp part
    have next := ih more fuel (offset + c.utf8Size) (Nat.lt_of_succ_lt_succ enough)
    unfold wordRest
    simp [first, next, Nat.add_assoc]

/-! ## Strings -/

/-- No character is half a surrogate pair, so nothing is joined. -/
theorem pushUnit_toNat (c : Char) (units : List Nat) : pushUnit c.toNat units = c.toNat :: units := by
  have whole : ¬ (0xDC00 ≤ c.toNat ∧ c.toNat < 0xE000) := by
    rcases c.valid with low | ⟨high, -⟩
    · exact fun surrogate =>
        absurd (Nat.lt_of_lt_of_le low (by decide)) (Nat.not_lt.mpr surrogate.1)
    · exact fun surrogate => absurd high (Nat.not_lt.mpr (Nat.le_of_lt_succ surrogate.2))
  rcases units with _ | ⟨unit, units⟩
  · rfl
  · rw [pushUnit, if_neg]
    simp only [Bool.and_eq_true, decide_eq_true_eq]
    exact fun joined => whole ⟨joined.1.2, joined.2⟩

theorem unitsText?_reverse (chars : List Char) :
    unitsText? (chars.map Char.toNat).reverse = some (String.ofList chars) := by
  have whole : ∀ c ∈ chars, c.toNat < 0xD800 ∨ 0xE000 ≤ c.toNat := fun c _ => by
    rcases c.valid with low | ⟨high, -⟩
    · exact Or.inl low
    · exact Or.inr high
  rw [unitsText?, if_pos]
  · simp [Function.comp_def, Char.ofNat_toNat]
  · simpa using whole

/-- The rest of a text in plain quotes is read to its closing quote. -/
theorem stringRest_quoted (chars rest : List Char) (line : IsSingleLine chars) (fuel : Nat)
    (units : List Nat) (offset : Nat) (enough : chars.length < fuel) :
    stringRest '\'' fuel units offset (chars.flatMap quotedChar ++ '\'' :: rest) =
      .ok ((chars.map Char.toNat).reverse ++ units,
        offset + byteLength (chars.flatMap quotedChar) + 1, rest) := by
  induction chars generalizing fuel units offset with
  | nil =>
    obtain ⟨fuel, rfl⟩ := Nat.exists_eq_succ_of_ne_zero (Nat.ne_of_gt enough)
    rfl
  | cons c chars ih =>
    obtain ⟨fuel, rfl⟩ := Nat.exists_eq_succ_of_ne_zero (Nat.ne_of_gt (Nat.zero_lt_of_lt enough))
    obtain ⟨⟨noFeed, noReturn⟩, more⟩ := List.forall_mem_cons.mp line
    have next (offset : Nat) := ih more fuel (c.toNat :: units) offset
      (Nat.lt_of_succ_lt_succ enough)
    rw [List.flatMap_cons, quotedChar]
    split
    next marked =>
      -- A quote or a backslash stands behind a backslash, which takes one byte more.
      have escape : stringEscape? (c :: (chars.flatMap quotedChar ++ '\'' :: rest)) =
          some (some c.toNat, c.utf8Size, chars.flatMap quotedChar ++ '\'' :: rest) := by
        simp only [Bool.or_eq_true, beq_iff_eq] at marked
        rcases marked with rfl | rfl <;> rfl
      have mark : '\\'.utf8Size = 1 := rfl
      simp [stringRest, escape, pushUnit_toNat, next, mark, Nat.add_assoc]
    next plain =>
      simp only [Bool.or_eq_true, beq_iff_eq, not_or] at plain
      simp [stringRest, plain, noFeed, noReturn, pushUnit_toNat, next, Nat.add_assoc]

theorem toList_quoted (text : String) :
    (quoted text).toList = '\'' :: (text.toList.flatMap quotedChar ++ ['\'']) := by
  simp [quoted]

theorem byteLength_quoted (text : String) :
    byteLength (quoted text).toList = byteLength (text.toList.flatMap quotedChar) + 2 := by
  have mark : '\''.utf8Size = 1 := rfl
  simp only [toList_quoted, Text.byteLength_cons, Text.byteLength_append, Text.byteLength_nil, mark]
  omega

theorem length_le_byteLength_quoted (text : String) :
    text.toList.length ≤ byteLength (quoted text).toList := by
  have body : text.toList.length ≤ (text.toList.flatMap quotedChar).length := by
    induction text.toList with
    | nil => exact Nat.le_refl 0
    | cons c rest ih =>
      have one : 1 ≤ (quotedChar c).length := by
        unfold quotedChar
        split <;> simp
      rw [List.flatMap_cons, List.length_append, List.length_cons]
      omega
  have bytes := Text.length_le_byteLength (text.toList.flatMap quotedChar)
  rw [byteLength_quoted]
  omega


/-- A text in plain quotes is read as a string that holds it. -/
theorem lexeme_quoted (text : String) (line : IsSingleLine text.toList) (fuel offset : Nat)
    (rest : List Char) (enough : text.toList.length < fuel) :
    lexeme fuel offset ((quoted text).toList ++ rest) =
      ⟨.string (some text), ⟨offset, offset + byteLength (quoted text).toList⟩, false, rest⟩ := by
  have body := stringRest_quoted text.toList rest line fuel [] (offset + 1) enough
  have stop : offset + 1 + byteLength (text.toList.flatMap quotedChar) + 1 =
      offset + byteLength (quoted text).toList := by
    rw [byteLength_quoted]
    omega
  have opening : lexeme fuel offset ((quoted text).toList ++ rest) =
      quotedString fuel ⟨false, offset, (quoted text).toList ++ rest⟩ '\''
        (text.toList.flatMap quotedChar ++ '\'' :: rest) := by
    rw [toList_quoted, List.cons_append, List.append_assoc]
    rfl
  rw [opening, quotedString, body, stop]
  simp [located, unitsText?_reverse]

end Syntax

end Phrasebook
