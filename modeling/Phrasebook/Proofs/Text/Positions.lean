import Phrasebook.Proofs.Text.Bytes
import Phrasebook.Text.Lines

/-!
# Positions and byte offsets

The position of a boundary is where reading stands after the characters before it. Reading only
goes forward, so boundaries with the same position are the same, and the offset of a position, where
there is one, has that position.

A boundary is found again from its position, with one exception: the place between the carriage
return and the line feed of a line's end, or behind a carriage return at the end of the text, is
in no line's shown text, so its position has no offset. Every offset that a position has stands at
that position, and positions grow with their boundaries.
-/

namespace Phrasebook.Text

/-! ## The position of a boundary -/

theorem positionFrom_append (p : Position) (front rest : List Char) :
    positionFrom p (front ++ rest) (byteLength front) = front.foldl Position.advance p := by
  induction front generalizing p with
  | nil => cases rest <;> rfl
  | cons c front ih =>
    -- Reading looks at a successor, which the length of a text that is not empty is.
    obtain ⟨n, size⟩ : ∃ n, byteLength (c :: front) = n + 1 :=
      Nat.exists_eq_add_one.mpr (byteLength_pos c front)
    have left : n + 1 - c.utf8Size = byteLength front := by
      rw [byteLength_cons] at size
      omega
    rw [size, List.cons_append, positionFrom, left, ih, List.foldl_cons]

theorem position_append (front rest : List Char) :
    position (front ++ rest) (byteLength front) = front.foldl Position.advance ⟨1, 1⟩ :=
  positionFrom_append _ _ _

/-! ## Reading goes forward -/

attribute [ext] Position

theorem Position.before_iff (p q : Position) :
    p.before q = true ↔ p.line < q.line ∨ p.line = q.line ∧ p.column < q.column := by
  simp [Position.before]

theorem Position.before_trans {p q r : Position} (first : p.before q = true)
    (second : q.before r = true) : p.before r = true := by
  rw [Position.before_iff] at *
  omega

theorem Position.before_eq_false_iff (p q : Position) :
    p.before q = false ↔ q.line < p.line ∨ q.line = p.line ∧ q.column ≤ p.column := by
  rw [← Bool.not_eq_true, Position.before_iff]
  omega

theorem Position.not_before_trans {p q r : Position} (first : p.before q = false)
    (second : q.before r = false) : p.before r = false := by
  rw [Position.before_eq_false_iff] at *
  omega

theorem Position.not_before_total (p q : Position) : p.before q = false ∨ q.before p = false := by
  rw [Position.before_eq_false_iff, Position.before_eq_false_iff]
  omega

/-- Of two places one is before the other. -/
theorem Position.before_of_ne {p q : Position} (after : p.before q = false) (differ : p ≠ q) :
    q.before p = true := by
  rw [Position.before_eq_false_iff] at after
  rw [Position.before_iff]
  have other : ¬ (p.line = q.line ∧ p.column = q.column) :=
    fun same => differ (Position.ext same.1 same.2)
  omega

/-- Sorting leaves nothing in the wrong order. -/
theorem sorted_mergeSort {α : Type} (wrong : α → α → Bool)
    (trans : ∀ a b c, wrong a b = false → wrong b c = false → wrong a c = false)
    (total : ∀ a b, wrong a b = false ∨ wrong b a = false) (xs : List α) :
    (xs.mergeSort fun a b => !wrong a b).Pairwise fun a b => wrong a b = false := by
  let le (a b : α) : Bool := !wrong a b
  have sorted : (xs.mergeSort le).Pairwise fun a b => le a b = true := by
    refine List.pairwise_mergeSort (fun a b c first second => ?_) (fun a b => ?_) xs
    · rw [Bool.not_eq_true'] at *
      exact trans a b c first second
    · rw [Bool.or_eq_true, Bool.not_eq_true', Bool.not_eq_true']
      exact total a b
  simpa only [le, Bool.not_eq_true'] using sorted

theorem Position.before_advance (p : Position) (c : Char) : p.before (p.advance c) = true := by
  rw [Position.before_iff]
  unfold Position.advance
  split
  · exact Or.inl (Nat.lt_succ_self _)
  · exact Or.inr ⟨rfl, Nat.lt_succ_self _⟩

theorem Position.before_foldl_advance (p : Position) (c : Char) (text : List Char) :
    p.before ((c :: text).foldl Position.advance p) = true := by
  induction text generalizing p c with
  | nil => exact p.before_advance c
  | cons d text ih => exact Position.before_trans (p.before_advance c) (ih _ d)

/-- The later of two boundaries has the later position. -/
theorem position_before {text : List Char} {m n : Nat} (first : isBoundary text m = true)
    (second : isBoundary text n = true) (earlier : m < n) :
    (position text m).before (position text n) = true := by
  obtain ⟨front, rest, cut, rfl⟩ := (isBoundary_iff _ _).mp first
  obtain ⟨through, after, rfl, rfl⟩ := (isBoundary_iff _ _).mp second
  obtain ⟨between, rfl, rfl⟩ := append_le_append cut (Nat.le_of_lt earlier)
  rw [position_append, List.append_assoc, position_append, List.foldl_append]
  cases between with
  | nil => simp at earlier
  | cons c between => exact Position.before_foldl_advance _ c between

/-- Boundaries are told apart by their positions. -/
theorem position_injective {text : List Char} {m n : Nat} (first : isBoundary text m = true)
    (second : isBoundary text n = true) (same : position text m = position text n) : m = n := by
  rcases Nat.lt_trichotomy m n with earlier | equal | later
  · have := position_before first second earlier
    rw [same, Position.before_iff] at this
    omega
  · exact equal
  · have := position_before second first later
    rw [same, Position.before_iff] at this
    omega

/-! ## The offset of a position -/

/-- Lines with their line feeds. -/
def endedLines (lines : List (List Char)) : List Char := lines.flatMap fun line => line ++ ['\n']

theorem newline_notMem_lines (text : List Char) : ∀ line ∈ lines text, '\n' ∉ line := by
  fun_induction lines text with
  | case1 => simp
  | case2 rest ih => simpa using ih
  | case3 c rest other found => simpa using Ne.symm other
  | case4 c rest other line more found ih =>
    rw [found] at ih
    simp only [List.forall_mem_cons] at ih ⊢
    exact ⟨by simpa using ⟨Ne.symm other, ih.1⟩, ih.2⟩

/-- A text is its lines up to one, that line, and what follows it. -/
theorem lines_cut (text line : List Char) (index : Nat) (found : (lines text)[index]? = some line) :
    ∃ rest, endedLines ((lines text).take index) ++ (line ++ rest) = text := by
  -- A line feed ends the first line. Any other character joins it, and the cut stays behind the
  -- same lines.
  fun_induction lines text generalizing index line with
  | case1 =>
    cases index with
    | zero =>
      cases found
      exact ⟨[], rfl⟩
    | succ index => simp at found
  | case2 rest ih =>
    cases index with
    | zero =>
      cases found
      exact ⟨'\n' :: rest, rfl⟩
    | succ index =>
      obtain ⟨after, cut⟩ := ih line index (by simpa using found)
      exact ⟨after, by simp [endedLines] at cut ⊢; exact cut⟩
  | case3 c rest other none ih =>
    cases index with
    | zero =>
      cases found
      exact ⟨rest, rfl⟩
    | succ index => simp at found
  | case4 c rest other first more split ih =>
    rw [split] at ih
    cases index with
    | zero =>
      cases found
      obtain ⟨after, cut⟩ := ih first 0 rfl
      exact ⟨after, by simp [endedLines] at cut ⊢; exact cut⟩
    | succ index =>
      obtain ⟨after, cut⟩ := ih line (index + 1) (by simpa using found)
      exact ⟨after, by simp [endedLines] at cut ⊢; exact cut⟩

private theorem foldl_advance_line (line : List Char) (within : '\n' ∉ line) (p : Position) :
    line.foldl Position.advance p = ⟨p.line, p.column + line.length⟩ := by
  induction line generalizing p with
  | nil => rfl
  | cons c line ih =>
    rw [List.mem_cons, not_or] at within
    have stays : p.advance c = ⟨p.line, p.column + 1⟩ := by
      unfold Position.advance
      rw [if_neg (Ne.symm within.1)]
    rw [List.foldl_cons, stays, ih within.2, List.length_cons]
    simp only [Position.mk.injEq, true_and]
    omega

private theorem foldl_advance_endedLines (ls : List (List Char)) (within : ∀ l ∈ ls, '\n' ∉ l)
    (n : Nat) : (endedLines ls).foldl Position.advance ⟨n, 1⟩ = ⟨n + ls.length, 1⟩ := by
  induction ls generalizing n with
  | nil => rfl
  | cons l ls ih =>
    rw [List.forall_mem_cons] at within
    have first : (l ++ ['\n']).foldl Position.advance ⟨n, 1⟩ = ⟨n + 1, 1⟩ := by
      rw [List.foldl_append, foldl_advance_line l within.1]
      rfl
    have rest := ih within.2 (n + 1)
    rw [endedLines] at rest ⊢
    rw [List.flatMap_cons, List.foldl_append, first, rest, List.length_cons]
    simp only [Position.mk.injEq, and_true]
    omega

private theorem foldl_lineLengths (ls : List (List Char)) (n : Nat) :
    ls.foldl (fun n l => n + byteLength l + 1) n = n + byteLength (endedLines ls) := by
  induction ls generalizing n with
  | nil => rfl
  | cons l ls ih =>
    have feed : byteLength ['\n'] = 1 := by decide
    rw [List.foldl_cons, ih, endedLines, endedLines, List.flatMap_cons, byteLength_append,
      byteLength_append, feed]
    omega

theorem trimReturn_isPrefix (line : List Char) : trimReturn line <+: line := by
  unfold trimReturn
  split
  · exact List.dropLast_prefix line
  · exact List.prefix_refl line

/-- The offset of a position, where there is one, cuts the text at that position. -/
theorem offset?_cut (text : List Char) (p : Position) (offset : Nat)
    (found : offset? text p = some offset) :
    ∃ front rest, front ++ rest = text ∧ byteLength front = offset ∧
      front.foldl Position.advance ⟨1, 1⟩ = p := by
  obtain ⟨line, column⟩ := p
  dsimp only [offset?] at found
  split at found
  next => cases found
  next positive =>
    simp only [Option.bind_eq_bind, Option.bind_eq_some_iff] at found
    obtain ⟨start, started, shown, text?, found⟩ := found
    unfold lineStart? at started
    unfold lineText? at text?
    split at text?
    next => cases text?
    next counted =>
      rw [if_neg counted] at started
      split at started
      next within =>
        split at found
        next fits =>
          obtain ⟨whole, member, rfl⟩ := Option.map_eq_some_iff.mp text?
          obtain ⟨after, cut⟩ := lines_cut text whole (line - 1) member
          obtain ⟨tail, trimmed⟩ := trimReturn_isPrefix whole
          -- The front is the lines before and the first characters of the line; what is left of the
          -- line, the carriage return and the line feed included, belongs to the rest.
          refine ⟨endedLines ((lines text).take (line - 1)) ++ (trimReturn whole).take (column - 1),
            (trimReturn whole).drop (column - 1) ++ (tail ++ after), ?_, ?_, ?_⟩
          · rw [List.append_assoc, ← List.append_assoc (List.take _ _), List.take_append_drop,
              ← List.append_assoc (trimReturn whole), trimmed, cut]
          · rw [foldl_lineLengths] at started
            rw [byteLength_append]
            simp only [Option.some.injEq] at started found
            omega
          · have clean := newline_notMem_lines text
            have fewer : ∀ l ∈ (lines text).take (line - 1), '\n' ∉ l :=
              fun l member => clean l (List.mem_of_mem_take member)
            have part : '\n' ∉ (trimReturn whole).take (column - 1) := fun inside =>
              clean whole (List.mem_of_getElem? member)
                ((trimReturn_isPrefix whole).subset (List.mem_of_mem_take inside))
            have count := (List.getElem?_eq_some_iff.mp member).1
            rw [List.foldl_append, foldl_advance_endedLines _ fewer, foldl_advance_line _ part,
              List.length_take, List.length_take]
            simp only [Position.mk.injEq]
            omega
        next => cases found
      next => cases started

theorem isBoundary_of_offset? {text : List Char} {p : Position} {offset : Nat}
    (found : offset? text p = some offset) : isBoundary text offset = true := by
  obtain ⟨front, rest, cut, length, -⟩ := offset?_cut text p offset found
  exact (isBoundary_iff _ _).mpr ⟨front, rest, cut, length⟩

theorem position_of_offset? {text : List Char} {p : Position} {offset : Nat}
    (found : offset? text p = some offset) : position text offset = p := by
  obtain ⟨front, rest, rfl, rfl, reached⟩ := offset?_cut text p offset found
  rw [position_append, reached]

/-- If the position of a boundary has an offset, that is the boundary. -/
theorem offset?_position {text : List Char} {n offset : Nat} (boundary : isBoundary text n = true)
    (found : offset? text (position text n) = some offset) : offset = n :=
  position_injective (isBoundary_of_offset? found) boundary (position_of_offset? found)

/-! ## The position of a character has an offset -/

/-- Where a text is cut, the lines before the cut stay, and the line that is cut goes on with the
first line of the rest. -/
theorem lines_split (front rest : List Char) : ∃ done part first others,
    lines rest = first :: others ∧ lines (front ++ rest) = done ++ (part ++ first) :: others ∧
      front = endedLines done ++ part ∧ (∀ l ∈ done, '\n' ∉ l) ∧ '\n' ∉ part := by
  -- A line feed in front ends a line of its own; any other character joins the first line.
  induction front with
  | nil =>
    obtain ⟨first, others, split⟩ := List.exists_cons_of_ne_nil (lines_ne_nil rest)
    exact ⟨[], [], first, others, split, split, rfl, by simp, by simp⟩
  | cons d front ih =>
    obtain ⟨done, part, first, others, behind, split, rfl, whole, clean⟩ := ih
    rw [List.cons_append, lines, split]
    by_cases feed : d = '\n'
    · subst feed
      exact ⟨[] :: done, part, first, others, behind, by simp, by simp [endedLines],
        by simpa using whole, clean⟩
    · rw [if_neg feed]
      cases done with
      | nil =>
        exact ⟨[], d :: part, first, others, behind, rfl, rfl, by simp,
          by simp [Ne.symm feed, clean]⟩
      | cons l done =>
        rw [List.forall_mem_cons] at whole
        exact ⟨(d :: l) :: done, part, first, others, behind, rfl, by simp [endedLines],
          List.forall_mem_cons.mpr ⟨by simp [Ne.symm feed, whole.1], whole.2⟩, clean⟩

/-- The lines before a character that is no line feed, and its line. -/
theorem lines_append (front rest : List Char) (c : Char) (plain : c ≠ '\n') :
    ∃ done part more others, lines (front ++ c :: rest) = done ++ (part ++ c :: more) :: others ∧
      front = endedLines done ++ part ∧ (∀ l ∈ done, '\n' ∉ l) ∧ '\n' ∉ part := by
  obtain ⟨done, part, first, others, behind, split, cut, whole, clean⟩ :=
    lines_split front (c :: rest)
  obtain ⟨more, rfl⟩ : ∃ more, first = c :: more := by
    rw [lines, if_neg plain] at behind
    split at behind
    next => exact ⟨[], (List.cons.inj behind).1.symm⟩
    next line _ _ => exact ⟨line, (List.cons.inj behind).1.symm⟩
  exact ⟨done, part, more, others, split, cut, whole, clean⟩

/-- Without its carriage return a line still holds what stands before any place but its end. -/
theorem length_trimReturn (part more : List Char) :
    part.length ≤ (trimReturn (part ++ more)).length ↔
      ¬ (more = [] ∧ part.getLast? = some '\r') := by
  unfold trimReturn
  split
  next last =>
    cases more with
    | nil =>
      rw [List.append_nil] at last ⊢
      have nonempty : 0 < part.length := List.length_pos_of_mem (List.mem_of_getLast? last)
      simp only [last, and_self, not_true_eq_false, List.length_dropLast, iff_false]
      omega
    | cons c more => simp
  next other =>
    cases more with
    | nil => simpa using other
    | cons c more => simp

/-- The position of a cut has an offset, that of the cut, if what its line shows reaches there. -/
theorem offset?_split (front rest : List Char) : ∃ done part first others,
    lines rest = first :: others ∧ front = endedLines done ++ part ∧
      offset? (front ++ rest) (position (front ++ rest) (byteLength front)) =
        if part.length ≤ (trimReturn (part ++ first)).length then some (byteLength front)
        else none := by
  obtain ⟨done, part, first, others, behind, split, rfl, whole, clean⟩ := lines_split front rest
  refine ⟨done, part, first, others, behind, rfl, ?_⟩
  have reached : position (endedLines done ++ part ++ rest)
      (byteLength (endedLines done ++ part)) = ⟨1 + done.length, 1 + part.length⟩ := by
    rw [position_append, List.foldl_append, foldl_advance_endedLines done whole 1,
      foldl_advance_line part clean]
  have started : lineStart? (endedLines done ++ part ++ rest) (1 + done.length) =
      some (byteLength (endedLines done)) := by
    rw [lineStart?, lineCount, split, if_neg (by omega), if_pos (by simp; omega), foldl_lineLengths,
      Nat.add_sub_cancel_left, List.take_left, Nat.zero_add]
  have shown : lineText? (endedLines done ++ part ++ rest) (1 + done.length) =
      some (trimReturn (part ++ first)) := by
    rw [lineText?, split, if_neg (by omega), Nat.add_sub_cancel_left]
    simp
  rw [reached]
  simp only [offset?, started, shown, Option.bind_eq_bind, Option.bind_some,
    Nat.add_sub_cancel_left, byteLength_append]
  -- What is shown up to the cut is the part before it, as nothing but the line's end is left out.
  by_cases long : part.length ≤ (trimReturn (part ++ first)).length
  · have cut : (trimReturn (part ++ first)).take part.length = part := by
      have both := List.prefix_of_prefix_length_le (List.prefix_append part first)
        (trimReturn_isPrefix (part ++ first)) long
      exact (List.prefix_iff_eq_take.mp both).symm
    simp [long, cut]
  · simp [long]

/-- The position of any character but a line feed has an offset, that of the character. -/
theorem offset?_append (front rest : List Char) (c : Char) (plain : c ≠ '\n') :
    offset? (front ++ c :: rest) (position (front ++ c :: rest) (byteLength front)) =
      some (byteLength front) := by
  obtain ⟨done, part, first, others, behind, -, found⟩ := offset?_split front (c :: rest)
  have inside : first ≠ [] := by
    rintro rfl
    rw [lines, if_neg plain] at behind
    split at behind <;> cases behind
  rw [found, if_pos ((length_trimReturn part first).mpr fun ends => inside ends.1)]

/-! ## Positions and offsets are inverse -/

/-- An offset directly behind a carriage return that ends its line: a line feed follows, or the text
ends. -/
def FollowsReturn (text : List Char) (offset : Nat) : Prop :=
  ∃ front rest, front ++ '\r' :: rest = text ∧ byteLength (front ++ ['\r']) = offset ∧
    (rest = [] ∨ rest.head? = some '\n')

/-- An offset where a line starts. -/
def StartsLine (text : List Char) (offset : Nat) : Prop :=
  ∃ line, lineStart? text line = some offset

/-- The first line of a text is empty if the text is, or starts with a line feed. -/
theorem lines_head_eq_nil {text first : List Char} {others : List (List Char)}
    (split : lines text = first :: others) :
    first = [] ↔ text = [] ∨ text.head? = some '\n' := by
  cases text with
  | nil =>
    cases split
    simp
  | cons c rest =>
    rw [lines] at split
    by_cases feed : c = '\n'
    · rw [if_pos feed] at split
      cases split
      simp [feed]
    · rw [if_neg feed] at split
      split at split <;> cases split <;> simp [feed]

/-- A line that is not ended yet holds the carriage return at the end of a text. -/
theorem getLast?_endedLines_append (done : List (List Char)) (part : List Char) :
    (endedLines done ++ part).getLast? = some '\r' ↔ part.getLast? = some '\r' := by
  cases part with
  | nil =>
    -- What ends with an ended line ends with a line feed.
    rcases List.eq_nil_or_concat done with rfl | ⟨before, line, rfl⟩
    · rfl
    · simp [endedLines]
  | cons c part => rw [List.getLast?_append, List.getLast?_cons, Option.some_or]

theorem followsReturn_append (front rest : List Char) :
    FollowsReturn (front ++ rest) (byteLength front) ↔
      front.getLast? = some '\r' ∧ (rest = [] ∨ rest.head? = some '\n') := by
  constructor
  · rintro ⟨before, after, cut, length, ends⟩
    -- Both cuts are at one offset, so they are the same.
    have same : (before ++ ['\r']) ++ after = front ++ rest := by simpa using cut
    obtain ⟨between, rfl, rfl⟩ := append_le_append same (Nat.le_of_eq length)
    rw [byteLength_append (before ++ ['\r'])] at length
    obtain rfl : between = [] := (byteLength_eq_zero between).mp (by omega)
    exact ⟨by simp, ends⟩
  · rintro ⟨last, ends⟩
    obtain ⟨before, rfl⟩ := List.getLast?_eq_some_iff.mp last
    exact ⟨before, rest, by simp, rfl, ends⟩

/-- The position of a boundary has no offset exactly if the boundary directly follows the carriage
return of a line's end; else it has that of the boundary. -/
theorem offset?_position_eq {text : List Char} {n : Nat} (boundary : isBoundary text n = true) :
    (offset? text (position text n) = none ↔ FollowsReturn text n) ∧
      (¬ FollowsReturn text n → offset? text (position text n) = some n) := by
  obtain ⟨front, rest, rfl, rfl⟩ := (isBoundary_iff _ _).mp boundary
  obtain ⟨done, part, first, others, behind, cut, found⟩ := offset?_split front rest
  have follows : FollowsReturn (front ++ rest) (byteLength front) ↔
      first = [] ∧ part.getLast? = some '\r' := by
    rw [lines_head_eq_nil behind, ← getLast?_endedLines_append done part, ← cut,
      followsReturn_append, and_comm]
  -- Of the two parts of the line the first is shown in full, or it ends with the line's return.
  have long := length_trimReturn part first
  by_cases ends : first = [] ∧ part.getLast? = some '\r'
  · rw [found, if_neg fun fits => long.mp fits ends, follows]
    exact ⟨iff_of_true rfl ends, fun other => absurd ends other⟩
  · rw [found, if_pos (long.mpr ends), follows]
    exact ⟨iff_of_false nofun ends, fun _ => rfl⟩

/-- The start of a line is the offset of its first column. -/
theorem offset?_of_lineStart? {text : List Char} {line start : Nat}
    (found : lineStart? text line = some start) : offset? text ⟨line, 1⟩ = some start := by
  have started := found
  unfold lineStart? at started
  split at started
  next => cases started
  next counted =>
    split at started
    next within =>
      have listed : line - 1 < (lines text).length := by
        rw [lineCount] at within
        omega
      simp [offset?, found, lineText?, counted, listed]
    next => cases started

/-- Between the two characters of a line's end no line starts. -/
theorem not_startsLine_of_followsReturn {text : List Char} {n : Nat}
    (follows : FollowsReturn text n) : ¬ StartsLine text n := by
  rintro ⟨line, started⟩
  have found := offset?_of_lineStart? started
  have nowhere := (offset?_position_eq (isBoundary_of_offset? found)).1.mpr follows
  rw [position_of_offset? found, found] at nowhere
  cases nowhere

/-- A boundary is the offset of its position, unless it directly follows the carriage return of a
line's end, where no line starts and no offset has its position. An offset that a position has is a
boundary with that position. The later of two boundaries has the later position. -/
theorem positions_inverse (text : List Char) :
    (∀ n, isBoundary text n = true →
      (FollowsReturn text n ∧ ¬ StartsLine text n → offset? text (position text n) = none) ∧
      (¬ (FollowsReturn text n ∧ ¬ StartsLine text n) →
        offset? text (position text n) = some n)) ∧
    (∀ p n, offset? text p = some n → isBoundary text n = true ∧ position text n = p) ∧
    ∀ m n, isBoundary text m = true → isBoundary text n = true → m < n →
      (position text m).before (position text n) = true := by
  refine ⟨fun n boundary => ?_, fun p n found => ?_, fun m n => position_before⟩
  · obtain ⟨nowhere, here⟩ := offset?_position_eq boundary
    exact ⟨fun follows => nowhere.mpr follows.1, fun other => here fun follows =>
      other ⟨follows, not_startsLine_of_followsReturn follows⟩⟩
  · exact ⟨isBoundary_of_offset? found, position_of_offset? found⟩

end Phrasebook.Text
