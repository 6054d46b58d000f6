/-!
# Tables

Values bound to names, each name once, in the order of the names.
-/

namespace Phrasebook

abbrev Table (α : Type) := List (String × α)

namespace Table

variable {α : Type}

/-- The value a name is bound to. -/
def get? (name : String) : Table α → Option α
  | [] => none
  | (other, value) :: rest => if other = name then some value else get? name rest

/-- Binds a name, replacing its earlier binding. -/
def put (name : String) (value : α) : Table α → Table α
  | [] => [(name, value)]
  | (other, old) :: rest =>
    if other = name then (name, value) :: rest
    else if name < other then (name, value) :: (other, old) :: rest
    else (other, old) :: put name value rest

/-- Changes what a name is bound to; `missing` stands for what is not bound yet. -/
def modify (name : String) (missing : α) (change : α → α) (table : Table α) : Table α :=
  put name (change ((get? name table).getD missing)) table

/-- Bindings in any order; a later one of a name replaces an earlier one. -/
def ofList (bindings : List (String × α)) : Table α :=
  bindings.foldl (fun table (name, value) => put name value table) []

@[simp] theorem get?_put_self (name : String) (value : α) (table : Table α) :
    get? name (put name value table) = some value := by
  induction table with
  | nil => simp [put, get?]
  | cons binding rest ih =>
    obtain ⟨other, old⟩ := binding
    by_cases same : other = name
    · simp [put, get?, same]
    · by_cases earlier : name < other <;> simp [put, get?, same, earlier, ih]

theorem get?_put_of_ne {name probe : String} (differs : name ≠ probe) (value : α)
    (table : Table α) : get? probe (put name value table) = get? probe table := by
  induction table with
  | nil => simp [put, get?, differs]
  | cons binding rest ih =>
    obtain ⟨other, old⟩ := binding
    by_cases same : other = name
    · subst same
      simp [put, get?, differs]
    · by_cases earlier : name < other <;> simp [put, get?, same, earlier, differs, ih]

end Table

end Phrasebook
