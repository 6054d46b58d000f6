import Mathlib
import Phrasebook.Table

/-!
# Tables in order

Binding names in any order yields a table in order, and a table in order is what its own bindings
yield.
-/

namespace Phrasebook.Table

variable {α : Type}

/-- Names stand in order, each once. -/
def IsOrdered (table : Table α) : Prop := table.Pairwise fun a b => a.1 < b.1

instance (table : Table α) : Decidable (IsOrdered table) :=
  inferInstanceAs (Decidable (table.Pairwise fun a b => a.1 < b.1))

theorem mem_put {name : String} {value : α} {table : Table α} {binding : String × α}
    (member : binding ∈ put name value table) : binding = (name, value) ∨ binding ∈ table := by
  fun_induction put name value table with
  | case1 => exact Or.inl (List.mem_singleton.mp member)
  | case2 rest old => exact (List.mem_cons.mp member).imp_right (List.mem_cons_of_mem _)
  | case3 other old rest differs earlier => exact List.mem_cons.mp member
  | case4 other old rest differs later ih =>
    rcases List.mem_cons.mp member with first | inside
    · exact Or.inr (first ▸ List.mem_cons_self)
    · exact (ih inside).imp_right (List.mem_cons_of_mem _)

theorem IsOrdered.put {table : Table α} (ordered : IsOrdered table) (name : String) (value : α) :
    IsOrdered (put name value table) := by
  fun_induction Table.put name value table with
  | case1 => exact List.pairwise_singleton _ _
  | case2 rest old => exact List.pairwise_cons.mpr (List.pairwise_cons.mp ordered)
  | case3 other old rest differs earlier =>
    obtain ⟨first, -⟩ := List.pairwise_cons.mp ordered
    refine List.pairwise_cons.mpr ⟨fun binding member => ?_, ordered⟩
    rcases List.mem_cons.mp member with rfl | inside
    · exact earlier
    · exact String.lt_trans earlier (first binding inside)
  | case4 other old rest differs later ih =>
    obtain ⟨first, others⟩ := List.pairwise_cons.mp ordered
    refine List.pairwise_cons.mpr ⟨fun binding member => ?_, ih others⟩
    rcases mem_put member with rfl | inside
    · exact Decidable.byContradiction fun before =>
        differs (String.le_antisymm (String.not_lt.mp later) (String.not_lt.mp before))
    · exact first binding inside

/-- Of two bindings of one name the later one stays. -/
theorem put_put_self (name : String) (value old : α) (table : Table α) :
    put name value (put name old table) = put name value table := by
  fun_induction put name old table with
  | case1 => simp [put]
  | case2 rest held => simp [put]
  | case3 other held rest differs earlier => simp [put, differs, earlier]
  | case4 other held rest differs later ih => simp [put, differs, later, ih]

/-- Different names can be bound in either order. -/
theorem put_comm {name other : String} (differs : name ≠ other) (value new : α) (table : Table α) :
    put name value (put other new table) = put other new (put name value table) := by
  wlog before : name < other generalizing name other value new
  · have after : other < name := Decidable.byContradiction fun reversed =>
      differs (String.le_antisymm (String.not_lt.mp reversed) (String.not_lt.mp before))
    exact (this differs.symm new value after).symm
  have notAfter := String.lt_asymm before
  induction table with
  | nil => simp [put, differs, differs.symm, before, notAfter]
  | cons binding rest ih =>
    obtain ⟨held, old⟩ := binding
    by_cases first : held = name
    · subst first
      simp [put, differs, notAfter]
    by_cases second : held = other
    · subst second
      simp [put, first, differs, before, notAfter]
    -- Both names come behind what is bound here, or one of them or both come before it.
    by_cases behind : name < held
    · by_cases between : other < held <;>
        simp [put, first, second, differs, differs.symm, before, notAfter, behind, between]
    · have later : ¬ other < held := fun earlier => behind (String.lt_trans before earlier)
      simp [put, first, second, behind, later, ih]

/-- A name that comes last is bound at the end. -/
theorem put_of_last {table : Table α} {name : String} (value : α)
    (last : ∀ binding ∈ table, binding.1 < name) :
    put name value table = table ++ [(name, value)] := by
  induction table with
  | nil => rfl
  | cons binding rest ih =>
    obtain ⟨first, others⟩ := List.forall_mem_cons.mp last
    have differs : binding.1 ≠ name := fun same => String.lt_irrefl _ (same ▸ first)
    rw [put, if_neg differs, if_neg (String.lt_asymm first), ih others, List.cons_append]

private theorem foldl_put (table bindings : Table α) (ordered : IsOrdered (table ++ bindings)) :
    bindings.foldl (fun table (name, value) => put name value table) table = table ++ bindings := by
  induction bindings generalizing table with
  | nil => simp
  | cons binding rest ih =>
    obtain ⟨name, value⟩ := binding
    obtain ⟨-, -, before⟩ := List.pairwise_append.mp ordered
    have last : put name value table = table ++ [(name, value)] :=
      put_of_last value fun other member => before other member (name, value) List.mem_cons_self
    simp only [List.foldl_cons, last]
    rw [ih _ (by rwa [List.append_assoc]), List.append_assoc, List.singleton_append]

theorem ofList_of_isOrdered {table : Table α} (ordered : IsOrdered table) : ofList table = table :=
  foldl_put [] table ordered

theorem isOrdered_ofList (bindings : List (String × α)) : IsOrdered (ofList bindings) := by
  have step (table : Table α) (ordered : IsOrdered table) : IsOrdered
      (bindings.foldl (fun table (name, value) => Table.put name value table) table) := by
    induction bindings generalizing table with
    | nil => exact ordered
    | cons binding rest ih => exact ih _ (ordered.put binding.1 binding.2)
  exact step [] .nil

private theorem mem_foldl_put {binding : String × α} (table bindings : Table α)
    (member : binding ∈ bindings.foldl (fun table (name, value) => put name value table) table) :
    binding ∈ table ∨ binding ∈ bindings := by
  induction bindings generalizing table with
  | nil => exact Or.inl member
  | cons first rest ih =>
    rcases ih _ member with inside | later
    · rcases mem_put inside with rfl | old
      · exact Or.inr List.mem_cons_self
      · exact Or.inl old
    · exact Or.inr (List.mem_cons_of_mem _ later)

theorem mem_of_mem_ofList {bindings : List (String × α)} {binding : String × α}
    (member : binding ∈ ofList bindings) : binding ∈ bindings :=
  (mem_foldl_put [] bindings member).resolve_left List.not_mem_nil

theorem mem_of_get? {table : Table α} {name : String} {value : α}
    (found : get? name table = some value) : (name, value) ∈ table := by
  fun_induction get? name table with
  | case1 => cases found
  | case2 held rest =>
    cases found
    exact List.mem_cons_self
  | case3 other held rest differs ih => exact List.mem_cons_of_mem _ (ih found)

end Phrasebook.Table
