import Phrasebook.Json.Reader
import Phrasebook.Json.Writer
import Phrasebook.Proofs.Outcome

/-!
# Reading numbers

A number is read up to the first character that can stand in no number, whatever that is.
-/

namespace Phrasebook.Json

open Number (Binary64)

/-- Whether a character can stand in a number. -/
def isNumeric (c : Char) : Bool :=
  c.isDigit || c == '+' || c == '-' || c == '.' || c == 'e' || c == 'E'

theorem isNumeric_of_isDigit {c : Char} (digit : c.isDigit = true) : isNumeric c = true := by
  simp [isNumeric, digit]

/-- What can follow a number without belonging to it. -/
def Ends (rest : List Char) : Prop := ∀ c ∈ rest.head?, isNumeric c = false

theorem Ends.ne {rest : List Char} (ends : Ends rest) {c d : Char} (first : c ∈ rest.head?)
    (numeric : isNumeric d = true) : c ≠ d := fun same => by
  rw [← same, ends c first] at numeric
  cases numeric

theorem Ends.not_isDigit {rest : List Char} (ends : Ends rest) {c : Char}
    (first : c ∈ rest.head?) : ¬ c.isDigit = true := fun digit =>
  ends.ne first (isNumeric_of_isDigit digit) rfl

/-- A step reads the same whatever follows. -/
def Step.Local (step : Step α) : Prop := ∀ text rest, Ends rest →
  step (text ++ rest) = (step text).map fun (value, left) => (value, left ++ rest)

/-- A text of characters of numbers. -/
def Numeric (text : List Char) : Prop := ∀ c ∈ text, isNumeric c = true

instance (text : List Char) : Decidable (Numeric text) :=
  decidable_of_iff (text.all isNumeric = true) List.all_eq_true

theorem Numeric.append {text more : List Char} (numeric : Numeric text) (numeric' : Numeric more) :
    Numeric (text ++ more) := List.forall_mem_append.mpr ⟨numeric, numeric'⟩

theorem Numeric.of_subset {text more : List Char} (numeric : Numeric text) (part : more ⊆ text) :
    Numeric more := fun c member => numeric c (part member)

/-- A text goes on as `rest` after characters of numbers. -/
def NumericTo (text rest : List Char) : Prop := ∃ front, text = front ++ rest ∧ Numeric front

theorem NumericTo.refl (text : List Char) : NumericTo text text :=
  ⟨[], rfl, fun _ member => absurd member List.not_mem_nil⟩

theorem NumericTo.trans {a b c : List Char} (first : NumericTo a b) (second : NumericTo b c) :
    NumericTo a c := by
  obtain ⟨front, rfl, numeric⟩ := first
  obtain ⟨more, rfl, numeric'⟩ := second
  exact ⟨front ++ more, (List.append_assoc ..).symm, numeric.append numeric'⟩

theorem NumericTo.cons (c : Char) (numeric : isNumeric c = true) {text rest : List Char}
    (takes : NumericTo text rest) : NumericTo (c :: text) rest :=
  .trans ⟨[c], rfl, List.forall_mem_singleton.mpr numeric⟩ takes

/-- A step takes only characters of numbers. -/
def Step.TakesNumeric (step : Step α) : Prop :=
  ∀ text value rest, step text = .ok (value, rest) → NumericTo text rest

/-! ## Runs of digits -/

theorem takeWhile_digits_append (text rest : List Char) (ends : Ends rest) :
    (text ++ rest).takeWhile Char.isDigit = text.takeWhile Char.isDigit := by
  induction text with
  | nil =>
    cases rest with
    | nil => rfl
    | cons c rest => exact List.takeWhile_cons_of_neg (ends.not_isDigit rfl)
  | cons c text ih => simp only [List.cons_append, List.takeWhile_cons, ih]

theorem dropWhile_digits_append (text rest : List Char) (ends : Ends rest) :
    (text ++ rest).dropWhile Char.isDigit = text.dropWhile Char.isDigit ++ rest := by
  induction text with
  | nil =>
    cases rest with
    | nil => rfl
    | cons c rest => exact List.dropWhile_cons_of_neg (ends.not_isDigit rfl)
  | cons c text ih =>
    simp only [List.cons_append, List.dropWhile_cons, ih]
    split <;> rfl

theorem takeDigits_append (value count : Nat) (text rest : List Char) (ends : Ends rest) :
    takeDigits value count (text ++ rest) =
      let (value, count, left) := takeDigits value count text
      (value, count, left ++ rest) := by
  fun_induction takeDigits value count text with
  | case1 value count =>
    cases rest with
    | nil => rfl
    | cons c rest => simp [takeDigits, ends.not_isDigit rfl]
  | case2 value count c text fits ih => rw [List.cons_append, takeDigits, if_pos fits, ih]
  | case3 value count c text stop => rw [List.cons_append, takeDigits, if_neg stop]; rfl

theorem takeDigits_numericTo (value count : Nat) (text : List Char) :
    NumericTo text (takeDigits value count text).2.2 := by
  fun_induction takeDigits value count text with
  | case1 value count => exact .refl _
  | case2 value count c text fits ih =>
    exact .cons c (isNumeric_of_isDigit (Bool.and_eq_true_iff.mp fits).1) ih
  | case3 value count c text stop => exact .refl _

theorem dropWhile_numericTo (text : List Char) : NumericTo text (text.dropWhile Char.isDigit) :=
  ⟨text.takeWhile Char.isDigit, List.takeWhile_append_dropWhile.symm, fun c member =>
    isNumeric_of_isDigit (List.all_eq_true.mp List.all_takeWhile c member)⟩

/-! ## The parts of a number -/

/-- The digits of an exponent, after its sign. -/
def exponentDigits (negative : Bool) (significand : Nat) (scale : Int) (down : Bool) :
    Step JsonNumber := fun text =>
  if (text.takeWhile Char.isDigit).isEmpty then .error .unexpected
  else
    let exponent := (text.takeWhile Char.isDigit).foldl (fun n c => n * 10 + digitValue c) 0
    if maxExponent < exponent then
      if significand ≠ 0 && !down then .error .numberOutOfRange
      else .ok (.real (.zero negative), text.dropWhile Char.isDigit)
    else
      (realOfParts negative significand (if down then scale - exponent else scale + exponent)).map
        (·, text.dropWhile Char.isDigit)

/-- Whether an exponent is negative, and what follows its sign. -/
def exponentSign (text : List Char) : Bool × List Char :=
  match text with
  | '+' :: rest => (false, rest)
  | '-' :: rest => (true, rest)
  | _ => (false, text)

theorem exponentPart_eq (negative : Bool) (significand : Nat) (scale : Int) (text : List Char) :
    exponentPart negative significand scale text =
      exponentDigits negative significand scale (exponentSign text).1 (exponentSign text).2 := rfl

theorem exponentSign_append (text rest : List Char) (ends : Ends rest) :
    exponentSign (text ++ rest) = ((exponentSign text).1, (exponentSign text).2 ++ rest) := by
  rcases text with _ | ⟨c, text⟩
  · rcases rest with _ | ⟨c, rest⟩
    · rfl
    · -- Nothing that ends a number is a sign.
      have plus : c ≠ '+' := ends.ne rfl rfl
      have minus : c ≠ '-' := ends.ne rfl rfl
      simp [exponentSign, plus, minus]
  · by_cases plus : c = '+'
    · subst plus; rfl
    · by_cases minus : c = '-'
      · subst minus; rfl
      · simp [exponentSign, plus, minus]

theorem exponentSign_numericTo (text : List Char) : NumericTo text (exponentSign text).2 := by
  unfold exponentSign
  split
  · exact .cons '+' rfl (.refl _)
  · exact .cons '-' rfl (.refl _)
  · exact .refl _

theorem exponentDigits_local (negative : Bool) (significand : Nat) (scale : Int) (down : Bool) :
    (exponentDigits negative significand scale down).Local := by
  intro text rest ends
  simp only [exponentDigits, takeWhile_digits_append text rest ends,
    dropWhile_digits_append text rest ends]
  split
  · rfl
  · split
    · split <;> rfl
    · cases realOfParts negative significand _ <;> rfl

theorem exponentPart_local (negative : Bool) (significand : Nat) (scale : Int) :
    (exponentPart negative significand scale).Local := by
  intro text rest ends
  rw [exponentPart_eq, exponentPart_eq, exponentSign_append text rest ends]
  exact exponentDigits_local negative significand scale _ _ rest ends

/-- An exponent has digits, and ends with the last of them. -/
theorem exponentDigits_eq_ok {negative : Bool} {significand : Nat} {scale : Int} {down : Bool}
    {text rest : List Char} {n : JsonNumber}
    (returned : exponentDigits negative significand scale down text = .ok (n, rest)) :
    text.takeWhile Char.isDigit ≠ [] ∧ rest = text.dropWhile Char.isDigit := by
  unfold exponentDigits at returned
  split at returned
  next => cases returned
  next some =>
    refine ⟨fun none => some (List.isEmpty_iff.mpr none), ?_⟩
    dsimp only at returned
    split at returned
    next =>
      split at returned
      next => cases returned
      next => cases returned; rfl
    next =>
      obtain ⟨number, -, same⟩ := map_eq_ok_iff.mp returned
      exact (Prod.mk.inj same).2.symm

theorem exponentDigits_takesNumeric (negative : Bool) (significand : Nat) (scale : Int)
    (down : Bool) : (exponentDigits negative significand scale down).TakesNumeric := by
  intro text value rest returned
  rw [(exponentDigits_eq_ok returned).2]
  exact dropWhile_numericTo text

theorem exponentPart_takesNumeric (negative : Bool) (significand : Nat) (scale : Int) :
    (exponentPart negative significand scale).TakesNumeric := by
  intro text value rest returned
  rw [exponentPart_eq] at returned
  exact (exponentSign_numericTo text).trans
    (exponentDigits_takesNumeric negative significand scale _ _ value rest returned)

theorem exponentOrEnd_local (negative : Bool) (significand : Nat) (scale : Int) :
    (exponentOrEnd negative significand scale).Local := by
  intro text rest ends
  have plain (text : List Char) (head : ∀ c ∈ text.head?, c ≠ 'e' ∧ c ≠ 'E') :
      exponentOrEnd negative significand scale text =
        (realOfParts negative significand scale).map (·, text) := by
    unfold exponentOrEnd
    split
    next => exact absurd rfl (head 'e' rfl).1
    next => exact absurd rfl (head 'E' rfl).2
    next => rfl
  rcases text with _ | ⟨c, text⟩
  · rw [List.nil_append, plain [] (by simp), plain rest ?_]
    · cases realOfParts negative significand scale <;> rfl
    · exact fun c first => ⟨ends.ne first rfl, ends.ne first rfl⟩
  · by_cases exponent : c = 'e' ∨ c = 'E'
    · rcases exponent with rfl | rfl
      · exact exponentPart_local negative significand scale text rest ends
      · exact exponentPart_local negative significand scale text rest ends
    · obtain ⟨small, capital⟩ := not_or.mp exponent
      rw [List.cons_append, plain _ (by simp [small, capital]), plain _ (by simp [small, capital])]
      cases realOfParts negative significand scale <;> rfl

theorem exponentOrEnd_takesNumeric (negative : Bool) (significand : Nat) (scale : Int) :
    (exponentOrEnd negative significand scale).TakesNumeric := by
  intro text value rest returned
  have exponent := exponentPart_takesNumeric negative significand scale
  unfold exponentOrEnd at returned
  split at returned
  next => exact .cons 'e' rfl (exponent _ _ _ returned)
  next => exact .cons 'E' rfl (exponent _ _ _ returned)
  next =>
    obtain ⟨number, -, same⟩ := map_eq_ok_iff.mp returned
    cases same
    exact .refl _

theorem fractionPart_local (negative : Bool) (significand : Nat) (scale : Int) :
    (fractionPart negative significand scale).Local := by
  intro text rest ends
  simp only [fractionPart, takeDigits_append _ _ text rest ends,
    dropWhile_digits_append _ rest ends, List.length_append, Nat.add_right_cancel_iff]
  split
  · rfl
  · exact exponentOrEnd_local _ _ _ _ rest ends

theorem fractionPart_takesNumeric (negative : Bool) (significand : Nat) (scale : Int) :
    (fractionPart negative significand scale).TakesNumeric := by
  intro text value rest returned
  simp only [fractionPart] at returned
  split at returned
  next => cases returned
  next =>
    exact ((takeDigits_numericTo significand 0 text).trans (dropWhile_numericTo _)).trans
      (exponentOrEnd_takesNumeric _ _ _ _ _ _ returned)

/-! ## Numbers after their sign -/

/-- What stands behind the digits of a whole number: a fraction, an exponent, or its end. -/
def wholeThen (fraction exponent whole : Step JsonNumber) : Step JsonNumber
  | '.' :: tail => fraction tail
  | 'e' :: tail | 'E' :: tail => exponent tail
  | past => whole past

theorem wholeThen_of_other (fraction exponent whole : Step JsonNumber) (text : List Char)
    (other : ∀ c ∈ text.head?, c ≠ '.' ∧ c ≠ 'e' ∧ c ≠ 'E') :
    wholeThen fraction exponent whole text = whole text := by
  unfold wholeThen
  split
  next => exact absurd rfl (other '.' rfl).1
  next => exact absurd rfl (other 'e' rfl).2.1
  next => exact absurd rfl (other 'E' rfl).2.2
  next => rfl

theorem wholeThen_local {fraction exponent whole : Step JsonNumber} (fractions : fraction.Local)
    (exponents : exponent.Local) (wholes : whole.Local) :
    (wholeThen fraction exponent whole).Local := by
  intro text rest ends
  rcases text with _ | ⟨c, text⟩
  · have other : ∀ c ∈ rest.head?, c ≠ '.' ∧ c ≠ 'e' ∧ c ≠ 'E' := fun c first =>
      ⟨ends.ne first rfl, ends.ne first rfl, ends.ne first rfl⟩
    rw [List.nil_append, wholeThen_of_other _ _ _ rest other, wholeThen_of_other _ _ _ [] nofun]
    exact wholes [] rest ends
  · by_cases marked : c = '.' ∨ c = 'e' ∨ c = 'E'
    · rcases marked with rfl | rfl | rfl
      · exact fractions text rest ends
      · exact exponents text rest ends
      · exact exponents text rest ends
    · have other : ∀ d ∈ some c, d ≠ '.' ∧ d ≠ 'e' ∧ d ≠ 'E' := by simpa using marked
      rw [wholeThen_of_other _ _ _ (c :: text) other, List.cons_append,
        wholeThen_of_other _ _ _ (c :: (text ++ rest)) other]
      exact wholes (c :: text) rest ends

theorem wholeThen_takesNumeric {fraction exponent whole : Step JsonNumber}
    (fractions : fraction.TakesNumeric) (exponents : exponent.TakesNumeric)
    (wholes : whole.TakesNumeric) : (wholeThen fraction exponent whole).TakesNumeric := by
  intro text value rest returned
  unfold wholeThen at returned
  split at returned
  next => exact .cons '.' rfl (fractions _ _ _ returned)
  next => exact .cons 'e' rfl (exponents _ _ _ returned)
  next => exact .cons 'E' rfl (exponents _ _ _ returned)
  next => exact wholes _ _ _ returned

/-- The end of a number that starts with a zero: no further digit. -/
def zeroEnd (negative : Bool) : Step JsonNumber := fun rest =>
  if rest.head?.any Char.isDigit then .error .unexpected
  else .ok (if negative then .real (.zero true) else .natural 0, rest)

/-- The end of a whole number with `more` digits behind those of `value`. -/
def wholeEnd (negative : Bool) (value : Nat) (more : List Char) : Step JsonNumber := fun past =>
  if more.isEmpty then
    if !negative then .ok (.natural value, past)
    else if value ≤ Nat.pow 2 63 then .ok (.negative value, past)
    else (realOfParts negative value 0).map (·, past)
  else (realOfParts negative value more.length).map (·, past)

/-- The digits of a whole number that does not start with a zero, and what stands behind them. -/
def wholeDigits (negative : Bool) : Step JsonNumber := fun text =>
  if (takeDigits 0 0 text).2.1 = 0 then .error .unexpected
  else
    let value := (takeDigits 0 0 text).1
    let more := (takeDigits 0 0 text).2.2.takeWhile Char.isDigit
    wholeThen (fractionPart negative value more.length) (exponentPart negative value more.length)
      (wholeEnd negative value more) ((takeDigits 0 0 text).2.2.dropWhile Char.isDigit)

theorem unsigned_eq (negative : Bool) (text : List Char) :
    unsigned negative text =
      match text with
      | '0' :: rest =>
        wholeThen (fractionPart negative 0 0) (exponentPart negative 0 0) (zeroEnd negative) rest
      | text => wholeDigits negative text := by
  unfold unsigned
  split
  next rest =>
    simp only [wholeThen, zeroEnd]
    split <;> simp only
  next =>
    simp only [wholeDigits, wholeThen, wholeEnd]
    split
    · rfl
    · generalize List.dropWhile Char.isDigit (takeDigits 0 0 _).2.2 = past
      split <;> simp only

theorem zeroEnd_local (negative : Bool) : (zeroEnd negative).Local := by
  intro text rest ends
  rcases text with _ | ⟨c, text⟩
  · rcases rest with _ | ⟨c, rest⟩
    · rfl
    · simp [zeroEnd, ends.not_isDigit rfl, Except.map]
  · by_cases digit : c.isDigit = true <;> simp [zeroEnd, digit, Except.map]

theorem wholeEnd_local (negative : Bool) (value : Nat) (more : List Char) :
    (wholeEnd negative value more).Local := by
  intro text rest ends
  unfold wholeEnd
  split
  · split
    · rfl
    · split
      · rfl
      · cases realOfParts negative value 0 <;> rfl
  · cases realOfParts negative value more.length <;> rfl

/-- The end of a number takes nothing. -/
theorem zeroEnd_rest {negative : Bool} {text rest : List Char} {n : JsonNumber}
    (returned : zeroEnd negative text = .ok (n, rest)) : text = rest := by
  unfold zeroEnd at returned
  split at returned
  next => cases returned
  next => exact (Prod.mk.inj (Except.ok.inj returned)).2

theorem wholeEnd_rest {negative : Bool} {value : Nat} {more text rest : List Char} {n : JsonNumber}
    (returned : wholeEnd negative value more text = .ok (n, rest)) : text = rest := by
  unfold wholeEnd at returned
  split at returned
  · split at returned
    · cases returned; rfl
    · split at returned
      · cases returned; rfl
      · obtain ⟨number, -, same⟩ := map_eq_ok_iff.mp returned
        exact (Prod.mk.inj same).2
  · obtain ⟨number, -, same⟩ := map_eq_ok_iff.mp returned
    exact (Prod.mk.inj same).2

theorem wholeEnd_takesNumeric (negative : Bool) (value : Nat) (more : List Char) :
    (wholeEnd negative value more).TakesNumeric := fun text _ _ returned =>
  wholeEnd_rest returned ▸ .refl text

theorem wholeDigits_local (negative : Bool) : (wholeDigits negative).Local := by
  intro text rest ends
  simp only [wholeDigits, takeDigits_append _ _ text rest ends,
    takeWhile_digits_append _ rest ends, dropWhile_digits_append _ rest ends]
  split
  · rfl
  · exact wholeThen_local (fractionPart_local _ _ _) (exponentPart_local _ _ _)
      (wholeEnd_local _ _ _) _ rest ends

theorem wholeDigits_takesNumeric (negative : Bool) : (wholeDigits negative).TakesNumeric := by
  intro text number rest returned
  simp only [wholeDigits] at returned
  split at returned
  next => cases returned
  next =>
    exact ((takeDigits_numericTo 0 0 text).trans (dropWhile_numericTo _)).trans
      (wholeThen_takesNumeric (fractionPart_takesNumeric _ _ _) (exponentPart_takesNumeric _ _ _)
        (wholeEnd_takesNumeric _ _ _) _ _ _ returned)

theorem unsigned_local (negative : Bool) : (unsigned negative).Local := by
  intro text rest ends
  have zero := wholeThen_local (fractionPart_local negative 0 0) (exponentPart_local negative 0 0)
    (zeroEnd_local negative)
  rw [unsigned_eq, unsigned_eq]
  rcases text with _ | ⟨c, text⟩
  · have digits := wholeDigits_local negative [] rest ends
    rcases rest with _ | ⟨c, rest⟩
    · exact digits
    · have other : c ≠ '0' := ends.ne rfl rfl
      simpa [other] using digits
  · by_cases first : c = '0'
    · subst first
      exact zero text rest ends
    · simpa [first] using wholeDigits_local negative (c :: text) rest ends

theorem unsigned_takesNumeric (negative : Bool) : (unsigned negative).TakesNumeric := by
  intro text number rest returned
  rw [unsigned_eq] at returned
  split at returned
  next tail =>
    exact .cons '0' rfl (wholeThen_takesNumeric (fractionPart_takesNumeric _ _ _)
      (exponentPart_takesNumeric _ _ _)
      (fun text _ _ returned => zeroEnd_rest returned ▸ .refl text) _ _ _ returned)
  next => exact wholeDigits_takesNumeric negative _ _ _ returned

/-! ## Texts of numbers -/

theorem numeric_toDigits (n : Nat) : Numeric (Nat.toDigits 10 n) := fun _ member =>
  isNumeric_of_isDigit (Nat.isDigit_of_mem_toDigits (by decide) (by decide) member)

theorem numeric_toString (n : Nat) : Numeric (toString n).toList := by
  rw [Nat.toString_eq_ofList_toDigits, String.toList_ofList]
  exact numeric_toDigits n

theorem numeric_exponentText (n : Int) : Numeric (Binary64.exponentText n).toList := by
  have sign (c : Char) (numeric : isNumeric c = true) : Numeric [c] :=
    List.forall_mem_singleton.mpr numeric
  have whole : Numeric (toString n).toList := by
    rw [Int.toString_eq_repr, Int.repr_eq_if]
    split
    · exact numeric_toString _
    · rw [String.toList_append]
      exact (sign '-' rfl).append (numeric_toString _)
  unfold Binary64.exponentText
  split
  · exact whole
  · rw [String.toList_append]
    exact (sign '+' rfl).append whole

theorem numeric_decimalText (layout : Binary64.Layout) (d : Binary64.Decimal) :
    Numeric (d.text layout).toList := by
  have digits := numeric_toDigits d.digits
  have zeros (n : Nat) : Numeric (List.replicate n '0') := fun c member => by
    rw [List.eq_of_mem_replicate member]
    rfl
  have front (n : Nat) := digits.of_subset (List.take_subset n _)
  have behind (n : Nat) := digits.of_subset (List.drop_subset n _)
  have point : Numeric ['.'] := List.forall_mem_singleton.mpr rfl
  unfold Binary64.Decimal.text
  split
  · decide
  · dsimp only
    split
    · split
      · rw [String.toList_ofList]
        exact (digits.append (zeros _)).append (by decide)
      · split
        · rw [String.toList_ofList]
          exact ((front _).append point).append (behind _)
        · rw [String.toList_ofList]
          exact (Numeric.append (by decide) (zeros _)).append digits
    · rw [String.toList_ofList]
      refine ((((front 1).append ?_).append (by decide)).append (numeric_exponentText _))
      split
      · exact fun _ member => absurd member List.not_mem_nil
      · exact point.append (behind 1)

/-- Numbers are written with characters of numbers. -/
theorem numeric_text (n : JsonNumber) : Numeric (JsonNumber.text n).toList := by
  cases n with
  | natural n => exact numeric_toString n
  | negative n =>
    rw [JsonNumber.text, String.toList_append]
    exact Numeric.append (by decide) (numeric_toString n)
  | real x =>
    rw [JsonNumber.text, Binary64.text, String.toList_append]
    refine Numeric.append ?_ (numeric_decimalText _ _)
    split <;> decide

theorem text_ne_nil (n : JsonNumber) : (JsonNumber.text n).toList ≠ [] := by
  have digits (n : Nat) : Nat.toDigits 10 n ≠ [] := Nat.toDigits_ne_nil
  have whole (n : Nat) : (toString n).toList ≠ [] := by
    rw [Nat.toString_eq_ofList_toDigits, String.toList_ofList]
    exact digits n
  cases n with
  | natural n => exact whole n
  | negative n => simp [JsonNumber.text]
  | real x =>
    have decimal (d : Binary64.Decimal) : (d.text realLayout).toList ≠ [] := by
      unfold Binary64.Decimal.text
      split
      · decide
      · dsimp only
        split
        · split
          · simp
          · split <;> simp
        · simp
    rw [JsonNumber.text, Binary64.text, String.toList_append]
    exact fun none => decimal _ (List.append_eq_nil_iff.mp none).2

end Phrasebook.Json
