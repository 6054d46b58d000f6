import Phrasebook.Proofs.Dictionary.Messages
import Phrasebook.Proofs.Json.Writing

/-!
# Values that nest too deep

A value is read the same wherever it may nest deeper. So a value that is written can be read again
only if it nests no deeper than values that are read.
-/

namespace Phrasebook.Json

/-- What one step reads, the other one reads the same. -/
def Step.Refines (step other : Step α) : Prop :=
  ∀ text result, step text = .ok result → other text = .ok result

section

variable {part other : Step α} {close : Char}

theorem moreParts_refines (refines : part.Refines other) (fuel : Nat) :
    (moreParts close part fuel).Refines (moreParts close other fuel) := by
  induction fuel with
  | zero => exact fun _ _ returned => nomatch returned
  | succ fuel ih =>
    intro text result returned
    rw [moreParts] at returned ⊢
    split at returned
    next => cases returned
    next c behind blanks =>
      split at returned
      next close => rwa [if_pos close]
      next inside =>
        split at returned
        next comma =>
          obtain ⟨⟨first, later⟩, head, returned⟩ := bind_eq_ok_iff.mp returned
          obtain ⟨⟨more, last⟩, tail, same⟩ := bind_eq_ok_iff.mp returned
          simp only [if_neg inside, if_pos comma, refines _ _ head, ih _ _ tail, ok_bind]
          exact same
        next => cases returned

theorem partsBody_refines (refines : part.Refines other) :
    (partsBody close part).Refines (partsBody close other) := by
  intro text result returned
  unfold partsBody at returned ⊢
  split at returned
  next closed => rwa [if_pos closed]
  next inside =>
    obtain ⟨⟨first, later⟩, head, returned⟩ := bind_eq_ok_iff.mp returned
    obtain ⟨⟨more, last⟩, tail, same⟩ := bind_eq_ok_iff.mp returned
    simp only [if_neg inside, refines _ _ head, moreParts_refines refines _ _ _ tail, ok_bind]
    exact same

end

theorem memberPart_refines {value other : Step Json} (refines : value.Refines other) :
    (memberPart value).Refines (memberPart other) := by
  intro text result returned
  unfold memberPart at returned ⊢
  split at returned
  next behind blanks =>
    obtain ⟨⟨name, later⟩, quote, returned⟩ := bind_eq_ok_iff.mp returned
    dsimp only at returned
    split at returned
    next colon between =>
      obtain ⟨⟨item, last⟩, inner, same⟩ := bind_eq_ok_iff.mp returned
      simp only [quote, ok_bind, between, refines _ _ inner]
      exact same
    next => cases returned
  next => cases returned

/-- A value is read the same where it may nest deeper. -/
theorem writtenValue_refines (depth : Nat) :
    (writtenValue depth).Refines (writtenValue (depth + 1)) := by
  induction depth with
  | zero =>
    intro text result returned
    rw [writtenValue.eq_def] at returned ⊢
    dsimp only at returned ⊢
    -- Without depth the arms of an array and of an object fail; no other arm looks at the depth.
    split at returned
    case h_6 | h_7 => cases returned
    all_goals exact returned
  | succ depth ih =>
    intro text result returned
    rw [writtenValue.eq_def] at returned ⊢
    dsimp only at returned ⊢
    split at returned
    case h_6 behind blanks =>
      split at returned
      next => cases returned
      next => cases returned
      next below proper deep =>
        cases deep
        show (arrayBody (writtenValue (depth + 1)) behind).map _ = _
        rw [arrayBody_eq] at returned ⊢
        obtain ⟨read, inner, same⟩ := map_eq_ok_iff.mp returned
        exact map_eq_ok_iff.mpr ⟨read, partsBody_refines ih _ _ inner, same⟩
    case h_7 behind blanks =>
      split at returned
      next => cases returned
      next => cases returned
      next below proper deep =>
        cases deep
        show (objectBody (writtenValue (depth + 1)) behind).map _ = _
        rw [objectBody_eq] at returned ⊢
        obtain ⟨read, inner, same⟩ := map_eq_ok_iff.mp returned
        exact map_eq_ok_iff.mpr ⟨read, partsBody_refines (memberPart_refines ih) _ _ inner, same⟩
    all_goals exact returned

/-! ## What is written and read again -/

/-- A way in a value is no longer than the value is deep. -/
theorem Fits.length_le {kind : JsonNumber → Prop} {depth : Nat} {root value : Json}
    (fits : Fits kind depth root) {path : List String} (found : valueAt? path root = some value) :
    path.length ≤ depth := by
  induction path generalizing depth root with
  | nil => exact Nat.zero_le depth
  | cons name rest ih =>
    rcases root.isLeaf_or_object with leaf | ⟨members, rfl⟩
    · rw [valueAt?_cons_of_isLeaf leaf] at found
      cases found
    · cases fits with
      | object depth _ _ inside =>
        obtain ⟨inner, here, found⟩ := Option.bind_eq_some_iff.mp found
        exact Nat.succ_le_succ (ih (inside _ (Table.mem_of_get? here)) found)

/-- A value that is written nests only so deep if it is read again. -/
theorem fits_of_read_pretty {l : Layout} (blank : l.IsBlank) {kind : JsonNumber → Prop}
    {f : JsonNumber → JsonNumber}
    (numbers : ∀ n, kind n → read (JsonNumber.text n) = .ok (.number (f n))) {depth : Nat}
    {j : Json} (fits : Fits kind depth j) {tail : List Char} (blanks : ∀ c ∈ tail, isBlank c = true)
    {value : Json} (returned : read (String.ofList (prettyChars l 0 j ++ tail)) = .ok value) :
    Fits (fun _ => True) deepest (mapNumbers f j) := by
  have ends : Ends tail := .of_isBlank blanks
  have deeper (more : Nat) :
      (writtenValue (deepest + 1)).Refines (writtenValue (deepest + 1 + more)) := by
    induction more with
    | zero => exact fun _ _ same => same
    | succ more ih => exact fun text result same => writtenValue_refines _ _ _ (ih _ _ same)
  have more : Fits kind (deepest + depth) j := fits.mono (Nat.le_add_left ..)
  have whole := writtenValue_pretty blank numbers more.nests 0 tail ends
  rw [read, String.toList_ofList] at returned
  obtain ⟨written, whole', -⟩ := map_eq_ok_iff.mp returned
  obtain ⟨⟨other, rest⟩, front, -⟩ := bind_eq_ok_iff.mp whole'
  have again := deeper depth _ _ front
  rw [Nat.add_right_comm, whole] at again
  cases again
  have known : Fits (fun _ => True) depth (mapNumbers f j) := fits.mapNumbers fun _ _ => trivial
  have sound : (writtenValue (deepest + 1)).Sound fun j =>
      Fits (fun _ => True) deepest (normalize j) :=
    writtenValue_sound (fun _ _ _ _ _ => trivial) deepest
  exact known.normalize_eq ▸ (sound _ _ _ front).2

end Phrasebook.Json
