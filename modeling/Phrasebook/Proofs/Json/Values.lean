import Phrasebook.Json.Reader
import Phrasebook.Proofs.Table

/-!
# Values as they are kept

A value that was read has the members of its objects in order, each name once, and its arrays and
objects nest only so deep. Such a value is in normal form.
-/

namespace Phrasebook.Json

/-- Arrays and objects of a text that can be read nest this deep at most. -/
def deepest : Nat := depthLimit - 1

/-- A value whose names are in order, whose numbers are of a kind, and whose arrays and objects
nest at most `depth` deep. -/
inductive Fits (kind : JsonNumber → Prop) : Nat → Json → Prop
  | null (depth : Nat) : Fits kind depth .null
  | bool (depth : Nat) (b : Bool) : Fits kind depth (.bool b)
  | number (depth : Nat) (n : JsonNumber) (known : kind n) : Fits kind depth (.number n)
  | string (depth : Nat) (s : String) : Fits kind depth (.string s)
  | array (depth : Nat) (items : List Json) (inside : ∀ item ∈ items, Fits kind depth item) :
      Fits kind (depth + 1) (.array items)
  | object (depth : Nat) (members : List (String × Json)) (ordered : Table.IsOrdered members)
      (inside : ∀ member ∈ members, Fits kind depth member.2) :
      Fits kind (depth + 1) (.object members)

/-- A value of this kind and depth whose names may come in any order. -/
inductive Nests (kind : JsonNumber → Prop) : Nat → Json → Prop
  | null (depth : Nat) : Nests kind depth .null
  | bool (depth : Nat) (b : Bool) : Nests kind depth (.bool b)
  | number (depth : Nat) (n : JsonNumber) (known : kind n) : Nests kind depth (.number n)
  | string (depth : Nat) (s : String) : Nests kind depth (.string s)
  | array (depth : Nat) (items : List Json) (inside : ∀ item ∈ items, Nests kind depth item) :
      Nests kind (depth + 1) (.array items)
  | object (depth : Nat) (members : List (String × Json))
      (inside : ∀ member ∈ members, Nests kind depth member.2) :
      Nests kind (depth + 1) (.object members)

variable {kind : JsonNumber → Prop} {depth : Nat}

theorem Fits.nests {j : Json} (fits : Fits kind depth j) : Nests kind depth j := by
  induction fits with
  | null depth => exact .null depth
  | bool depth b => exact .bool depth b
  | number depth n known => exact .number depth n known
  | string depth s => exact .string depth s
  | array depth items inside ih => exact .array depth items ih
  | object depth members ordered inside ih => exact .object depth members ih

theorem normalizeAll_eq (items : List Json) : normalizeAll items = items.map normalize := by
  induction items with
  | nil => rw [normalizeAll, List.map_nil]
  | cons item rest ih => rw [normalizeAll, ih, List.map_cons]

theorem normalizeMembers_eq (members : List (String × Json)) :
    normalizeMembers members = members.map fun member => (member.1, normalize member.2) := by
  induction members with
  | nil => rw [normalizeMembers, List.map_nil]
  | cons member rest ih => rw [normalizeMembers, ih, List.map_cons]

/-- An object of members that fit, in whatever order they come. -/
theorem Fits.ofMembers (members : List (String × Json))
    (inside : ∀ member ∈ members, Fits kind depth member.2) :
    Fits kind (depth + 1) (.ofMembers members) :=
  .object depth _ (Table.isOrdered_ofList members) fun member known =>
    inside member (Table.mem_of_mem_ofList known)

/-- A value fits once its names are put in order. -/
theorem Nests.fits_normalize {j : Json} (nests : Nests kind depth j) :
    Fits kind depth (normalize j) := by
  induction nests with
  | null depth => exact .null depth
  | bool depth b => exact .bool depth b
  | number depth n known => exact .number depth n known
  | string depth s => exact .string depth s
  | array depth items inside ih =>
    rw [normalize, normalizeAll_eq]
    exact .array depth _ (List.forall_mem_map.mpr ih)
  | object depth members inside ih =>
    rw [normalize, normalizeMembers_eq]
    exact .ofMembers _ (List.forall_mem_map.mpr ih)

theorem Fits.normalize_eq {j : Json} (fits : Fits kind depth j) : normalize j = j := by
  induction fits with
  | null | bool | number | string => rfl
  | array depth items inside ih =>
    rw [normalize, normalizeAll_eq, List.map_congr_left ih, List.map_id']
  | object depth members ordered inside ih =>
    have same : members.map (fun member => (member.1, normalize member.2)) = members := by
      rw [List.map_congr_left fun member known => by rw [ih member known], List.map_id']
    rw [normalize, normalizeMembers_eq, same, Json.ofMembers, Table.ofList_of_isOrdered ordered]

theorem Fits.imp {other : JsonNumber → Prop} {j : Json} (fits : Fits kind depth j)
    (weaker : ∀ n, kind n → other n) : Fits other depth j := by
  induction fits with
  | null depth => exact .null depth
  | bool depth b => exact .bool depth b
  | number depth n known => exact .number depth n (weaker n known)
  | string depth s => exact .string depth s
  | array depth items inside ih => exact .array depth items ih
  | object depth members ordered inside ih => exact .object depth members ordered ih

/-- A value that fits also fits where it may nest deeper. -/
theorem Fits.mono {more : Nat} {j : Json}
    (fits : Fits kind depth j) (le : depth ≤ more) : Fits kind more j := by
  induction fits generalizing more with
  | null => exact .null more
  | bool _ b => exact .bool more b
  | number _ n known => exact .number more n known
  | string _ s => exact .string more s
  | array depth items inside ih =>
    obtain ⟨more, rfl⟩ : ∃ less, more = less + 1 := ⟨more - 1, by omega⟩
    exact .array more items fun item known => ih item known (Nat.le_of_succ_le_succ le)
  | object depth members ordered inside ih =>
    obtain ⟨more, rfl⟩ : ∃ less, more = less + 1 := ⟨more - 1, by omega⟩
    exact .object more members ordered fun member known =>
      ih member known (Nat.le_of_succ_le_succ le)

/-- A value that nests only so deep also may nest deeper. -/
theorem Nests.mono {more : Nat} {j : Json}
    (nests : Nests kind depth j) (le : depth ≤ more) : Nests kind more j := by
  induction nests generalizing more with
  | null => exact .null more
  | bool _ b => exact .bool more b
  | number _ n known => exact .number more n known
  | string _ s => exact .string more s
  | array depth items inside ih =>
    obtain ⟨more, rfl⟩ : ∃ less, more = less + 1 := ⟨more - 1, by omega⟩
    exact .array more items fun item known => ih item known (Nat.le_of_succ_le_succ le)
  | object depth members inside ih =>
    obtain ⟨more, rfl⟩ : ∃ less, more = less + 1 := ⟨more - 1, by omega⟩
    exact .object more members fun member known => ih member known (Nat.le_of_succ_le_succ le)

/-! ## Other numbers in the place of numbers -/

mutual

/-- A value with its numbers replaced. -/
def mapNumbers (f : JsonNumber → JsonNumber) : Json → Json
  | .null => .null
  | .bool b => .bool b
  | .number n => .number (f n)
  | .string s => .string s
  | .array items => .array (mapNumbersAll f items)
  | .object members => .object (mapNumbersMembers f members)

def mapNumbersAll (f : JsonNumber → JsonNumber) : List Json → List Json
  | [] => []
  | item :: rest => mapNumbers f item :: mapNumbersAll f rest

def mapNumbersMembers (f : JsonNumber → JsonNumber) : List (String × Json) → List (String × Json)
  | [] => []
  | (name, item) :: rest => (name, mapNumbers f item) :: mapNumbersMembers f rest

end

variable {f : JsonNumber → JsonNumber}

theorem mapNumbersAll_eq (items : List Json) :
    mapNumbersAll f items = items.map (mapNumbers f) := by
  induction items with
  | nil => rw [mapNumbersAll, List.map_nil]
  | cons item rest ih => rw [mapNumbersAll, ih, List.map_cons]

theorem mapNumbersMembers_eq (members : List (String × Json)) :
    mapNumbersMembers f members = members.map fun member => (member.1, mapNumbers f member.2) := by
  induction members with
  | nil => rw [mapNumbersMembers, List.map_nil]
  | cons member rest ih => rw [mapNumbersMembers, ih, List.map_cons]

/-- A value keeps its form when its numbers are replaced. -/
theorem Fits.mapNumbers {other : JsonNumber → Prop} {j : Json} (fits : Fits kind depth j)
    (mapped : ∀ n, kind n → other (f n)) : Fits other depth (mapNumbers f j) := by
  induction fits with
  | null depth => exact .null depth
  | bool depth b => exact .bool depth b
  | number depth n known => exact .number depth (f n) (mapped n known)
  | string depth s => exact .string depth s
  | array depth items inside ih =>
    rw [Json.mapNumbers, mapNumbersAll_eq]
    exact .array depth _ (List.forall_mem_map.mpr ih)
  | object depth members ordered inside ih =>
    rw [Json.mapNumbers, mapNumbersMembers_eq]
    exact .object depth _ (List.pairwise_map.mpr ordered) (List.forall_mem_map.mpr ih)

/-- Numbers that stand for themselves change nothing. -/
theorem Nests.mapNumbers_eq {j : Json} (nests : Nests kind depth j)
    (same : ∀ n, kind n → f n = n) : Json.mapNumbers f j = j := by
  induction nests with
  | null | bool | string => rfl
  | number depth n known => rw [Json.mapNumbers, same n known]
  | array depth items inside ih =>
    rw [Json.mapNumbers, mapNumbersAll_eq, List.map_congr_left ih, List.map_id']
  | object depth members inside ih =>
    have same : members.map (fun member => (member.1, Json.mapNumbers f member.2)) = members := by
      rw [List.map_congr_left fun member known => by rw [ih member known], List.map_id']
    rw [Json.mapNumbers, mapNumbersMembers_eq, same]

theorem Fits.mapNumbers_eq {j : Json} (fits : Fits kind depth j) (same : ∀ n, kind n → f n = n) :
    Json.mapNumbers f j = j :=
  fits.nests.mapNumbers_eq same

end Phrasebook.Json
