import Phrasebook.Proofs.Run.Accounting
import Phrasebook.Proofs.Storage.Steady

/-!
# Sources are selected once

The sources of a project are told apart by their paths as they are seen from the project. What is
seen there gives the components of a path back, so of the sources below several roots each is
selected once, and the order of the roots does not matter. Of the ways to spell a root only two
points are not seen through: a path that leads back from a directory is another path to the same
place.
-/

namespace Phrasebook

/-! ## Paths seen from a directory -/

namespace Path

/-- A path starts at the top. -/
def IsAbsolute (path : String) : Prop := path.startsWith "/" = true

instance (path : String) : Decidable (IsAbsolute path) :=
  inferInstanceAs (Decidable (path.startsWith "/" = true))

/-- A path that can be seen from a directory: it goes on after the directory, or it starts at the
top. -/
def IsSeen (directory path : String) : Prop :=
  (∃ rest, components path.toList = components directory.toList ++ rest) ∨ IsAbsolute path

theorem isAbsolute_iff (path : String) : IsAbsolute path ↔ ∃ rest, path.toList = '/' :: rest := by
  rw [IsAbsolute, String.startsWith_string_iff]
  exact ⟨fun ⟨rest, same⟩ => ⟨rest, same.symm⟩, fun ⟨rest, same⟩ => ⟨rest, same.symm⟩⟩

theorem isAbsolute_append {path : String} (absolute : IsAbsolute path) (more : String) :
    IsAbsolute (path ++ more) := by
  obtain ⟨rest, same⟩ := (isAbsolute_iff path).mp absolute
  exact (isAbsolute_iff _).mpr ⟨rest ++ more.toList, by rw [String.toList_append, same]; rfl⟩

theorem isAbsolute_join {directory : String} (absolute : IsAbsolute directory) (path : String) :
    IsAbsolute (join directory path) := by
  unfold join
  split
  next slash => exact slash
  next =>
    split
    · exact isAbsolute_append absolute path
    · rw [String.append_assoc]
      exact isAbsolute_append absolute _

/-- A path that starts at the top has a slash in front of its names. -/
theorem components_of_isAbsolute {path : String} (absolute : IsAbsolute path) :
    ∃ names, (∀ name ∈ names, IsName name) ∧ components path.toList = ['/'] :: names := by
  obtain ⟨rest, same⟩ := (isAbsolute_iff path).mp absolute
  obtain ⟨first, more, split⟩ := List.exists_cons_of_ne_nil (Text.splitBy_ne_nil (· == '/') rest)
  refine ⟨kept (Text.splitBy (· == '/') path.toList), fun _ => isName_of_mem_kept, ?_⟩
  rw [components_eq, same, Text.splitBy, if_pos (by rfl), split]
  rfl

/-- What is joined to a directory and to what lies below it can be seen from the directory. -/
theorem isSeen_join (directory root path : String) :
    IsSeen directory (join (join directory root) path) := by
  by_cases slash : path.startsWith "/" = true
  · exact Or.inr (by rw [IsAbsolute, join, if_pos slash]; exact slash)
  by_cases top : root.startsWith "/" = true
  · have absolute : IsAbsolute (join directory root) := by
      rw [IsAbsolute, join, if_pos top]
      exact top
    exact Or.inr (isAbsolute_join absolute path)
  refine Or.inl ?_
  by_cases empty : directory = ""
  · subst empty
    exact ⟨_, rfl⟩
  · have proper : join directory root ≠ "" := by
      intro none
      have some := components_join_of_relative empty (Bool.eq_false_iff.mpr top)
      rw [none] at some
      exact components_ne_nil (fun same => empty (String.toList_inj.mp same))
        (List.append_eq_nil_iff.mp some.symm).1
    rw [components_join_of_relative proper (Bool.eq_false_iff.mpr slash),
      components_join_of_relative empty (Bool.eq_false_iff.mpr top), List.append_assoc]
    exact ⟨_, rfl⟩

theorem components_ofComponents_of_names {names : List (List Char)}
    (proper : ∀ name ∈ names, IsName name) : components (ofComponents names).toList = names := by
  cases names with
  | nil => rfl
  | cons name names => exact components_of_names (List.cons_ne_nil _ _) proper

end Path

open Phrasebook.Path (IsSeen IsAbsolute IsDirect)

/-- How a path is seen from a directory: by the names behind the directory, which do not start at
the top, or by all its components. -/
theorem seenFrom_cases {directory path : String} (some : Path.components directory.toList ≠ [])
    (seen : IsSeen directory path) :
    (∃ names, Path.components path.toList = Path.components directory.toList ++ names ∧
      seenFrom directory path = Path.ofComponents names ∧ (∀ name ∈ names, Path.IsName name) ∧
      ¬ IsAbsolute (seenFrom directory path)) ∨
    seenFrom directory path = Path.toSlash path ∧ IsAbsolute (seenFrom directory path) := by
  unfold seenFrom
  split
  next names below =>
    have split := (Path.after?_eq_some_iff _ _ _).mp below
    have proper := Path.isName_of_append rfl split some
    refine Or.inl ⟨names, split, rfl, proper, ?_⟩
    cases names with
    | nil => decide
    | cons name names =>
      rw [IsAbsolute, Path.startsWith_ofComponents (List.cons_ne_nil _ _) proper]
      exact Bool.false_ne_true
  next apart =>
    refine Or.inr ⟨rfl, ?_⟩
    rcases seen with ⟨rest, split⟩ | absolute
    · rw [Path.below?, (Path.after?_eq_some_iff _ _ _).mpr split] at apart
      cases apart
    · obtain ⟨names, -, same⟩ := Path.components_of_isAbsolute absolute
      rw [Path.isAbsolute_iff, Path.toSlash, same, Path.ofComponents, String.toList_ofList]
      cases names with
      | nil => exact ⟨[], rfl⟩
      | cons name names => exact ⟨_, rfl⟩

/-- Paths that look the same from a directory have the same components. -/
theorem components_of_seenFrom {directory a b : String} (seen : IsSeen directory a)
    (seen' : IsSeen directory b) (same : seenFrom directory a = seenFrom directory b) :
    Path.components a.toList = Path.components b.toList := by
  by_cases empty : Path.components directory.toList = []
  · have whole (path : String) :
        seenFrom directory path = Path.ofComponents (Path.components path.toList) := by
      rw [seenFrom, Path.below?, empty]
      rfl
    rw [whole, whole] at same
    rw [← Path.components_ofComponents, same, Path.components_ofComponents]
  · rcases seenFrom_cases empty seen with ⟨names, split, here, proper, below⟩ | ⟨here, top⟩ <;>
      rcases seenFrom_cases empty seen' with ⟨others, split', there, proper', below'⟩ | ⟨there, top'⟩
    · rw [split, split', ← Path.components_ofComponents_of_names proper,
        ← Path.components_ofComponents_of_names proper', ← here, ← there, same]
    · exact absurd (same ▸ top') below
    · exact absurd (same ▸ top) below'
    · rw [← Path.components_ofComponents, ← Path.components_ofComponents b.toList,
        ← Path.toSlash, ← Path.toSlash, ← here, ← there, same]

/-! ## Files of one path -/

namespace SourceFile

/-- A file as it is seen: where it lies below the project and below its root, and the components of
its path, however that is spelled. -/
def seen (f : SourceFile) : String × String × List (List Char) :=
  (f.relative, f.withinRoot, Path.components f.path.toList)

/-- Of the files of one path the one that lies first below its root is kept. -/
theorem withinRoot_le_of_mem_dropRepeated {files : List SourceFile}
    (ordered : files.Pairwise fun f g => le f g = true) {f g : SourceFile}
    (kept : f ∈ dropRepeated files) (member : g ∈ files) (same : g.relative = f.relative) :
    f.withinRoot ≤ g.withinRoot := by
  have first {f g : SourceFile} (order : le f g = true) (same : g.relative = f.relative) :
      f.withinRoot ≤ g.withinRoot := by
    rcases Prod.lex_iff.mp ((le_iff f g).mp order) with earlier | ⟨-, within⟩
    · exact absurd earlier (same ▸ String.lt_irrefl _)
    · exact within
  fun_induction dropRepeated files generalizing g with
  | case1 => cases kept
  | case2 h =>
    rw [List.mem_singleton.mp kept, List.mem_singleton.mp member]
  | case3 h i rest repeated ih =>
    -- The second file makes way for the first one, which lies no later.
    have ordered' := ordered.sublist ((List.sublist_cons_self i rest).cons_cons h)
    obtain ⟨before, -⟩ := List.pairwise_cons.mp ordered
    rcases List.mem_cons.mp member with rfl | later
    · exact ih ordered' kept List.mem_cons_self same
    · rcases List.mem_cons.mp later with rfl | last
      · exact String.le_trans (ih ordered' kept List.mem_cons_self (repeated.trans same))
          (first (before g List.mem_cons_self) repeated.symm)
      · exact ih ordered' kept (List.mem_cons_of_mem _ last) same
  | case4 h i rest differs ih =>
    obtain ⟨before, others⟩ := List.pairwise_cons.mp ordered
    rcases List.mem_cons.mp kept with rfl | behind
    · rcases List.mem_cons.mp member with rfl | later
      · exact String.le_refl _
      · exact first (before g later) same
    · rcases List.mem_cons.mp member with rfl | later
      · -- What is kept behind the first file has a later path.
        have rising := List.Pairwise.imp relative_le others
        have second := relative_le (before i List.mem_cons_self)
        have third : i.relative ≤ f.relative := by
          rcases List.mem_cons.mp (mem_of_mem_dropRepeated behind) with rfl | last
          · exact String.le_refl _
          · exact (List.pairwise_cons.mp rising).1 f last
        exact absurd (String.le_antisymm second (same ▸ third)) differs
      · exact ih others behind later same

/-- Every path is kept. -/
theorem exists_mem_dropRepeated {files : List SourceFile} {g : SourceFile} (member : g ∈ files) :
    ∃ f ∈ dropRepeated files, f.relative = g.relative := by
  fun_induction dropRepeated files generalizing g with
  | case1 => cases member
  | case2 f => exact ⟨g, member, rfl⟩
  | case3 f h rest same ih =>
    rcases List.mem_cons.mp member with rfl | later
    · exact ih List.mem_cons_self
    · rcases List.mem_cons.mp later with rfl | last
      · obtain ⟨k, kept, found⟩ := ih List.mem_cons_self
        exact ⟨k, kept, found.trans same⟩
      · exact ih (List.mem_cons_of_mem _ last)
  | case4 f h rest differs ih =>
    rcases List.mem_cons.mp member with rfl | later
    · exact ⟨g, List.mem_cons_self, rfl⟩
    · obtain ⟨k, kept, found⟩ := ih later
      exact ⟨k, List.mem_cons_of_mem _ kept, found⟩

end SourceFile

/-! ## Selecting -/

namespace Selection

/-- Files are selected from sources: each path once and in order, with the source that lies first
below its root. -/
structure Selects (sources files : List SourceFile) : Prop where
  rising : files.Pairwise fun f g => f.relative < g.relative
  found : files ⊆ sources
  least : ∀ f ∈ files, ∀ g ∈ sources, g.relative = f.relative → f.withinRoot ≤ g.withinRoot
  covers : ∀ g ∈ sources, ∃ f ∈ files, f.relative = g.relative

theorem selects_dropRepeated (sources : List SourceFile) :
    Selects sources (SourceFile.dropRepeated (sources.mergeSort SourceFile.le)) := by
  have ordered := List.pairwise_mergeSort SourceFile.le_trans SourceFile.le_total sources
  exact {
    rising := SourceFile.rising_dropRepeated (ordered.imp SourceFile.relative_le)
    found := fun f member => List.mem_mergeSort.mp (SourceFile.mem_of_mem_dropRepeated member)
    least := fun f kept g member same =>
      SourceFile.withinRoot_le_of_mem_dropRepeated ordered kept (List.mem_mergeSort.mpr member) same
    covers := fun g member => SourceFile.exists_mem_dropRepeated (List.mem_mergeSort.mpr member) }

namespace Selects

variable {sources others files files' : List SourceFile}

theorem nodup_seen (selects : Selects sources files) : (files.map SourceFile.seen).Nodup := by
  refine List.pairwise_map.mpr (selects.rising.imp fun {f g} before same => ?_)
  exact String.ne_of_lt before (congrArg Prod.fst same)

variable (told : ∀ f ∈ sources, ∀ g ∈ sources, f.relative = g.relative →
  Path.components f.path.toList = Path.components g.path.toList)

include told

/-- What is selected from some sources is selected from the same sources in another order. -/
theorem seen_subset (first : Selects sources files) (second : Selects others files')
    (same : ∀ f, f ∈ sources ↔ f ∈ others) :
    files.map SourceFile.seen ⊆ files'.map SourceFile.seen := by
  intro x member
  obtain ⟨f, kept, rfl⟩ := List.mem_map.mp member
  obtain ⟨g, kept', path⟩ := second.covers f ((same f).mp (first.found kept))
  have listed := (same g).mpr (second.found kept')
  have within : g.withinRoot = f.withinRoot := String.le_antisymm
    (second.least g kept' f ((same f).mp (first.found kept)) path.symm)
    (first.least f kept g listed path)
  refine List.mem_map.mpr ⟨g, kept', ?_⟩
  rw [SourceFile.seen, SourceFile.seen, path, within, told g listed f (first.found kept) path]

/-- The order of the sources does not matter. -/
theorem seen_eq (first : Selects sources files) (second : Selects others files')
    (same : ∀ f, f ∈ sources ↔ f ∈ others) :
    files'.map SourceFile.seen = files.map SourceFile.seen := by
  have told' : ∀ f ∈ others, ∀ g ∈ others, f.relative = g.relative →
      Path.components f.path.toList = Path.components g.path.toList :=
    fun f member g member' => told f ((same f).mpr member) g ((same g).mpr member')
  have perm : (files'.map SourceFile.seen).Perm (files.map SourceFile.seen) :=
    (List.perm_ext_iff_of_nodup second.nodup_seen first.nodup_seen).mpr fun x =>
      ⟨fun member => seen_subset told' second first (fun f => (same f).symm) member,
        fun member => seen_subset told first second same member⟩
  have rising {sources files : List SourceFile} (selects : Selects sources files) :
      (files.map SourceFile.seen).Pairwise fun a b => a.1 < b.1 :=
    List.pairwise_map.mpr selects.rising
  exact perm.eq_of_pairwise (fun a b _ _ before after => absurd after (String.lt_asymm before))
    (rising second) (rising first)

end Selects

section

variable {σ : Type} [Storage σ]

/-- The sources below all roots, as they are found. -/
def sources (storage : σ) (projectRoot : String) (s : Settings) (globs : List (List Glob.Part)) :
    List SourceFile :=
  s.roots.flatMap fun root => (ofRoot storage projectRoot s globs root).1

variable {storage : σ} {projectRoot : String} {s : Settings} {globs : List (List Glob.Part)}

theorem mem_sources_iff {f : SourceFile} : f ∈ sources storage projectRoot s globs ↔
    ∃ root ∈ s.roots, f ∈ (ofRoot storage projectRoot s globs root).1 := List.mem_flatMap

theorem seenFrom_of_mem_ofRoot {root : String} {f : SourceFile}
    (member : f ∈ (ofRoot storage projectRoot s globs root).1) :
    f.relative = seenFrom projectRoot f.path ∧
      ∃ path, f.path = Path.join (Path.join projectRoot root) path := by
  unfold ofRoot at member
  dsimp only at member
  split at member
  next =>
    obtain ⟨_, ending, rfl⟩ := List.mem_map.mp (List.mem_filter.mp member).1
    obtain ⟨path, -, rfl⟩ := List.mem_map.mp (List.mem_filter.mp ending).1
    exact ⟨rfl, path, rfl⟩
  next => cases member

/-- The path of a source is told by what is seen of it from the project. -/
theorem components_of_relative {f g : SourceFile} (member : f ∈ sources storage projectRoot s globs)
    (member' : g ∈ sources storage projectRoot s globs) (same : f.relative = g.relative) :
    Path.components f.path.toList = Path.components g.path.toList := by
  obtain ⟨root, -, here⟩ := mem_sources_iff.mp member
  obtain ⟨root', -, there⟩ := mem_sources_iff.mp member'
  obtain ⟨seen, path, joined⟩ := seenFrom_of_mem_ofRoot here
  obtain ⟨seen', path', joined'⟩ := seenFrom_of_mem_ofRoot there
  refine components_of_seenFrom (joined ▸ Path.isSeen_join ..) (joined' ▸ Path.isSeen_join ..) ?_
  rw [← seen, ← seen', same]

variable (storage projectRoot s) in
/-- With globs that can be read the sources of a project are selected. -/
theorem select_eq (valid : s.excludeGlobs = .ok globs) : ∃ notices,
    select storage projectRoot s = .ok (SourceFile.dropRepeated
      ((sources storage projectRoot s globs).mergeSort SourceFile.le), notices) := by
  refine ⟨(s.roots.map (ofRoot storage projectRoot s globs)).flatMap (·.2), ?_⟩
  rw [select, valid, sources, ← List.flatMap_map]
  rfl

variable (storage projectRoot s) in
/-- Nothing is sorted if the sources are found in order. -/
theorem select_of_ordered (valid : s.excludeGlobs = .ok globs)
    (ordered : (sources storage projectRoot s globs).Pairwise fun f g => SourceFile.le f g = true) :
    ∃ notices, select storage projectRoot s =
      .ok (SourceFile.dropRepeated (sources storage projectRoot s globs), notices) := by
  have selected := select_eq storage projectRoot s valid
  rwa [List.mergeSort_of_pairwise ordered] at selected

end

end Selection

/-- On a disk a direct path from the top names its place. -/
theorem Disk.components_of_isAbsolute (disk : Disk) {path : String} (absolute : IsAbsolute path)
    (direct : IsDirect path) : Path.components path.toList = ['/'] :: disk.place path := by
  obtain ⟨names, proper, same⟩ := Path.components_of_isAbsolute absolute
  rw [IsDirect, same] at direct
  rw [place, departure, same]
  refine congrArg (['/'] :: ·) (lead_names [] fun name member => ⟨proper name member, ?_⟩).symm
  rintro rfl
  exact direct (List.mem_cons_of_mem _ member)

namespace Selection

/-- The sources below the roots are selected once: the files come in the order of their paths, every
source has the path of one of them, and those with direct paths are different files. -/
structure IsOnce (disk : Disk) (projectRoot : String) (sources files : List SourceFile) : Prop where
  rising : files.Pairwise fun f g => f.relative < g.relative
  found : files ⊆ sources
  covers : ∀ g ∈ sources, ∃ f ∈ files, f.relative = g.relative ∧ Path.same f.path g.path = true
  apart : IsAbsolute projectRoot → ∀ f ∈ files, ∀ g ∈ files, IsDirect f.path → IsDirect g.path →
    disk.place f.path = disk.place g.path → f = g

theorem isOnce_of_selects {disk : Disk} {projectRoot : String} {s : Settings}
    {globs : List (List Glob.Part)} {files : List SourceFile}
    (selects : Selects (sources disk projectRoot s globs) files) :
    IsOnce disk projectRoot (sources disk projectRoot s globs) files where
  rising := selects.rising
  found := selects.found
  covers := fun g member => by
    obtain ⟨f, kept, same⟩ := selects.covers g member
    refine ⟨f, kept, same, ?_⟩
    rw [Path.same, components_of_relative (selects.found kept) member same, beq_self_eq_true]
  apart := fun absolute f kept g kept' direct direct' place => by
    have top {f : SourceFile} (kept : f ∈ files) : IsAbsolute f.path ∧
        f.relative = seenFrom projectRoot f.path := by
      obtain ⟨root, -, here⟩ := mem_sources_iff.mp (selects.found kept)
      obtain ⟨seen, path, joined⟩ := seenFrom_of_mem_ofRoot here
      exact ⟨joined ▸ Path.isAbsolute_join (Path.isAbsolute_join absolute root) path, seen⟩
    have same : Path.components f.path.toList = Path.components g.path.toList := by
      rw [disk.components_of_isAbsolute (top kept).1 direct, place,
        disk.components_of_isAbsolute (top kept').1 direct']
    have relative : f.relative = g.relative := by
      rw [(top kept).2, (top kept').2]
      simp only [seenFrom, Path.below?, Path.toSlash, same]
    have once : (files.map SourceFile.relative).Nodup :=
      List.pairwise_map.mpr (selects.rising.imp fun before => String.ne_of_lt before)
    exact List.inj_on_of_nodup_map once kept kept' relative

/-- Whatever the roots are and however they are spelled, the sources below them are selected once.
Other roots that are the same in another order, repeated or not, lead to the same files. -/
theorem select_once (disk : Disk) (projectRoot : String) (s : Settings)
    (globs : List (List Glob.Part)) (valid : s.excludeGlobs = .ok globs) :
    ∃ files notices, select disk projectRoot s = .ok (files, notices) ∧
      IsOnce disk projectRoot (sources disk projectRoot s globs) files ∧
      ∀ roots, (∀ root, root ∈ roots ↔ root ∈ s.roots) → ∃ files' notices',
        select disk projectRoot { s with roots := roots } = .ok (files', notices') ∧
        files'.map SourceFile.seen = files.map SourceFile.seen := by
  obtain ⟨notices, selected⟩ := select_eq disk projectRoot s valid
  have selects := selects_dropRepeated (sources disk projectRoot s globs)
  refine ⟨_, notices, selected, isOnce_of_selects selects, fun roots same => ?_⟩
  obtain ⟨notices', selected'⟩ := select_eq disk projectRoot { s with roots } valid
  refine ⟨_, notices', selected', selects.seen_eq (fun f member g member' =>
    components_of_relative member member') (selects_dropRepeated _) fun f => ?_⟩
  rw [mem_sources_iff, mem_sources_iff]
  exact exists_congr fun root => and_congr_left fun _ => (same root).symm

/-! A file below a root that is spelled in two ways. -/

namespace Twofold

def disk : Disk where
  entries := [(["p".toList, "src".toList, "a.tsx".toList], .file (.text ""))]
  workingDirectory := ["p".toList]
  locked := []

def settings (roots : List String) : Settings := { Settings.standard with roots := roots, exclude := [] }

end Twofold

theorem select_once_twofold :
    (Twofold.settings ["src", "./src/"]).excludeGlobs = .ok [] ∧
    ∃ files notices, select Twofold.disk "/p" (Twofold.settings ["src", "./src/"]) =
        .ok (files, notices) ∧
      IsOnce Twofold.disk "/p"
        (sources Twofold.disk "/p" (Twofold.settings ["src", "./src/"]) []) files ∧
      files.length = 1 ∧
      ∃ files' notices',
        select Twofold.disk "/p" (Twofold.settings ["./src/", "src", "src"]) =
          .ok (files', notices') ∧
        files'.map SourceFile.seen = files.map SourceFile.seen := by
  have valid : (Twofold.settings ["src", "./src/"]).excludeGlobs = .ok [] := rfl
  obtain ⟨files, notices, selected, once, others⟩ := select_once Twofold.disk "/p"
    (Twofold.settings ["src", "./src/"]) [] valid
  have found : sources Twofold.disk "/p" (Twofold.settings ["src", "./src/"]) [] =
      [⟨"src/a.tsx", "a.tsx", "/p/src/a.tsx"⟩, ⟨"src/a.tsx", "a.tsx", "/p/./src/a.tsx"⟩] := by
    decide +kernel
  obtain ⟨_, ordered⟩ := select_of_ordered Twofold.disk "/p" _ valid (by rw [found]; decide)
  rw [found] at ordered
  obtain ⟨rfl, -⟩ := Prod.mk.inj (Except.ok.inj (ordered.symm.trans selected))
  have same (root : String) :
      root ∈ ["./src/", "src", "src"] ↔ root ∈ ["src", "./src/"] := by
    simp only [List.mem_cons, List.not_mem_nil, or_false, or_self]
    exact Or.comm
  exact ⟨valid, _, notices, selected, once, by simp [SourceFile.dropRepeated],
    others _ same⟩

/-- A root that leads back from a directory brings its sources once more, under other paths that lead
to the same places. -/
theorem select_twice : ∃ f g notices,
    select Twofold.disk "/p" (Twofold.settings ["src/../src", "src"]) = .ok ([f, g], notices) ∧
      f ≠ g ∧ Twofold.disk.place f.path = Twofold.disk.place g.path := by
  have found : sources Twofold.disk "/p" (Twofold.settings ["src/../src", "src"]) [] =
      [⟨"src/../src/a.tsx", "a.tsx", "/p/src/../src/a.tsx"⟩,
        ⟨"src/a.tsx", "a.tsx", "/p/src/a.tsx"⟩] := by
    decide +kernel
  have valid : (Twofold.settings ["src/../src", "src"]).excludeGlobs = .ok [] := rfl
  obtain ⟨notices, selected⟩ := select_of_ordered Twofold.disk "/p" _ valid (by rw [found]; decide)
  have apart : SourceFile.dropRepeated [⟨"src/../src/a.tsx", "a.tsx", "/p/src/../src/a.tsx"⟩,
      ⟨"src/a.tsx", "a.tsx", "/p/src/a.tsx"⟩] = [⟨"src/../src/a.tsx", "a.tsx",
        "/p/src/../src/a.tsx"⟩, ⟨"src/a.tsx", "a.tsx", "/p/src/a.tsx"⟩] := by
    simp [SourceFile.dropRepeated]
  rw [found, apart] at selected
  exact ⟨_, _, notices, selected, by decide, by decide⟩

end Selection

end Phrasebook
