import Mathlib
import Phrasebook.Proofs.Run.Tasks
import Phrasebook.Proofs.Storage.Independent

/-!
# Crews

A crew has tasks that take turns on one storage, in any order. A task that keeps to paths of its own
comes to what it comes to alone, however the turns go, and leaves there what it leaves alone.
-/

namespace Phrasebook

open IndependentStorage (cell)

variable {σ α ι : Type} [Storage σ] [IndependentStorage σ]

/-- Storages that have the same under some paths. -/
def Agree (own : Place → Prop) (a b : σ) : Prop := ∀ place, own place → cell a place = cell b place

namespace Agree

variable {own : Place → Prop} {a b : σ}

theorem refl (own : Place → Prop) (a : σ) : Agree own a a := fun _ _ => rfl

/-- What is written under one of the paths is written alike, and nothing else is. -/
theorem write (agree : Agree own a b) (path text : String)
    (mine : own (Path.components path.toList)) :
    (Storage.write b path text).1 = (Storage.write a path text).1 ∧
      Agree own (Storage.write a path text).2 (Storage.write b path text).2 ∧
      ∀ place, ¬ own place → cell (Storage.write b path text).2 place = cell b place := by
  obtain ⟨result, alike⟩ := IndependentStorage.write_congr a b path text (agree _ mine)
  refine ⟨result.symm, fun place member => ?_, fun place free => ?_⟩
  · by_cases here : place = Path.components path.toList
    · rw [here, alike]
    · rw [IndependentStorage.cell_write _ _ _ _ here, IndependentStorage.cell_write _ _ _ _ here,
        agree place member]
  · exact IndependentStorage.cell_write _ _ _ _ fun here => free (here ▸ mine)

/-- So is what is copied from one of the paths to another one. -/
theorem copy (agree : Agree own a b) (source target : String)
    (origin : own (Path.components source.toList)) (mine : own (Path.components target.toList)) :
    (Storage.copy b source target).1 = (Storage.copy a source target).1 ∧
      Agree own (Storage.copy a source target).2 (Storage.copy b source target).2 ∧
      ∀ place, ¬ own place → cell (Storage.copy b source target).2 place = cell b place := by
  obtain ⟨result, alike⟩ :=
    IndependentStorage.copy_congr a b source target (agree _ origin) (agree _ mine)
  refine ⟨result.symm, fun place member => ?_, fun place free => ?_⟩
  · by_cases here : place = Path.components target.toList
    · rw [here, alike]
    · rw [IndependentStorage.cell_copy _ _ _ _ here, IndependentStorage.cell_copy _ _ _ _ here,
        agree place member]
  · exact IndependentStorage.cell_copy _ _ _ _ fun here => free (here ▸ mine)

end Agree

namespace Task

/-- A task keeps to its own paths, as it goes on from a storage: what it does there is the same with
any storage that agrees with this one, and nothing else changes. -/
def KeepsTo (own : Place → Prop) : Task σ α → σ → Prop
  | done _, _ => True
  | step act next, s => ∀ other, Agree own s other →
    Agree own (act s) (act other) ∧ (∀ place, ¬ own place → cell (act other) place = cell other place) ∧
      next other = next s ∧ (next s).KeepsTo own (act s)

variable {β : Type} {own : Place → Prop} {s : σ}

theorem keepsTo_look {f : σ → β} {next : β → Task σ α}
    (same : ∀ other, Agree own s other → f other = f s) (rest : (next (f s)).KeepsTo own s) :
    (look f next).KeepsTo own s :=
  fun other agree => ⟨agree, fun _ _ => rfl, congrArg next (same other agree), rest⟩

theorem keepsTo_change {operation : σ → β × σ} {next : β → Task σ α}
    (same : ∀ other, Agree own s other → (operation other).1 = (operation s).1 ∧
      Agree own (operation s).2 (operation other).2 ∧
      ∀ place, ¬ own place → cell (operation other).2 place = cell other place)
    (rest : (next (operation s).1).KeepsTo own (operation s).2) :
    (change operation next).KeepsTo own s := fun other agree =>
  have ⟨result, alike, elsewhere⟩ := same other agree
  ⟨alike, elsewhere, congrArg next result, rest⟩

omit [Storage σ] [IndependentStorage σ] in
/-- A task is done after some turns, whatever it finds. -/
def EndsWithin : Task σ α → Nat → Prop
  | done _, _ => True
  | step _ _, 0 => False
  | step _ next, n + 1 => ∀ s, (next s).EndsWithin n

omit [Storage σ] [IndependentStorage σ] in
theorem EndsWithin.move {t : Task σ α} {n : Nat} (ends : t.EndsWithin n) (s : σ) :
    (t.move s).1.EndsWithin (n - 1) := by
  cases t with
  | done a => exact trivial
  | step act next =>
    cases n with
    | zero => exact ends.elim
    | succ n => exact ends s

end Task

/-- Tasks on one storage, each as far as it has come. -/
structure Crew (σ ι α : Type) where
  storage : σ
  tasks : ι → Task σ α

namespace Crew

variable [DecidableEq ι]

/-- A turn of one of the tasks. -/
def move (c : Crew σ ι α) (i : ι) : Crew σ ι α where
  storage := ((c.tasks i).move c.storage).2
  tasks := Function.update c.tasks i ((c.tasks i).move c.storage).1

def run (c : Crew σ ι α) (turns : List ι) : Crew σ ι α := turns.foldl move c

/-- A crew that has come from another one by turns of tasks that keep to their own paths. Each task
could have come as far alone, with a storage that agrees with the common one. -/
structure ComesFrom (own : ι → Place → Prop) (start now : Crew σ ι α) : Prop where
  each : ∀ i, ∃ alone, (now.tasks i).KeepsTo (own i) alone ∧ Agree (own i) alone now.storage ∧
    (now.tasks i).run alone = (start.tasks i).run start.storage
  others : ∀ place, (∀ i, ¬ own i place) → cell now.storage place = cell start.storage place

variable {own : ι → Place → Prop} {start now : Crew σ ι α}

theorem ComesFrom.move (apart : ∀ i j place, own i place → own j place → i = j)
    (comes : ComesFrom own start now) (i : ι) : ComesFrom own start (now.move i) := by
  obtain ⟨alone, keeps, agree, same⟩ := comes.each i
  cases task : now.tasks i with
  | done a =>
    have idle : now.move i = now := by
      simp only [Crew.move, task, Task.move]
      rw [← task, Function.update_eq_self]
    rwa [idle]
  | step act next =>
    rw [task] at keeps same
    obtain ⟨alike, elsewhere, next_eq, rest⟩ := keeps now.storage agree
    have moved : now.move i =
        ⟨act now.storage, Function.update now.tasks i (next now.storage)⟩ := by
      rw [Crew.move, task, Task.move]
    rw [moved]
    refine ⟨fun j => ?_, fun place free => (elsewhere place (free i)).trans (comes.others place free)⟩
    by_cases here : j = i
    · subst here
      have came : (next alone).run (act alone) = (start.tasks j).run start.storage := same
      refine ⟨act alone, ?_, alike, ?_⟩ <;> simpa [next_eq]
    · -- The turn changes nothing under the paths of another task.
      obtain ⟨alone, keeps, agree, same⟩ := comes.each j
      refine ⟨alone, by simpa [here] using keeps, fun place mine => ?_, by simpa [here] using same⟩
      exact (agree place mine).trans
        (elsewhere place fun other => here (apart j i place mine other)).symm

theorem comesFrom_run (apart : ∀ i j place, own i place → own j place → i = j)
    (keeps : ∀ i, (start.tasks i).KeepsTo (own i) start.storage) (turns : List ι) :
    ComesFrom own start (start.run turns) := by
  refine List.foldlRecOn (motive := ComesFrom own start) turns _ ?_
    fun now comes i _ => comes.move apart i
  exact ⟨fun i => ⟨start.storage, keeps i, .refl _ _, rfl⟩, fun _ _ => rfl⟩

omit [Storage σ] [IndependentStorage σ] in
/-- Each turn brings a task closer to its end. -/
theorem endsWithin_run {i : ι} (turns : List ι) {n : Nat} (ends : (start.tasks i).EndsWithin n) :
    ((start.run turns).tasks i).EndsWithin (n - turns.count i) := by
  induction turns generalizing start n with
  | nil => exact ends
  | cons j turns ih =>
    by_cases here : j = i
    · subst here
      have moved : ((start.move j).tasks j).EndsWithin (n - 1) := by
        simpa [Crew.move] using ends.move start.storage
      rw [List.count_cons_self, Nat.add_comm, ← Nat.sub_sub]
      exact ih moved
    · have kept : (start.move j).tasks i = start.tasks i := Function.update_of_ne (Ne.symm here) ..
      rw [List.count_cons_of_ne here]
      exact ih (kept ▸ ends)

omit [Storage σ] [IndependentStorage σ] in
theorem run_append (c : Crew σ ι α) (turns later : List ι) :
    c.run (turns ++ later) = (c.run turns).run later := List.foldl_append

omit [Storage σ] [IndependentStorage σ] in
/-- The turns of others leave a task where it is. -/
theorem tasks_run_of_not_mem {i : ι} {turns : List ι} (idle : i ∉ turns) :
    (start.run turns).tasks i = start.tasks i := by
  induction turns generalizing start with
  | nil => rfl
  | cons j turns ih =>
    rw [List.mem_cons, not_or] at idle
    exact (ih idle.2).trans (Function.update_of_ne idle.1 ..)

omit [Storage σ] [IndependentStorage σ] in
/-- With all of its turns at once, a task comes to what it comes to alone with the storage as it
is. -/
theorem run_replicate {i : ι} {n : Nat} (ends : (start.tasks i).EndsWithin n) :
    start.run (List.replicate n i) = ⟨((start.tasks i).run start.storage).2,
      Function.update start.tasks i (.done ((start.tasks i).run start.storage).1)⟩ := by
  induction n generalizing start with
  | zero =>
    cases task : start.tasks i with
    | done a =>
      show start = _
      rw [Task.run_done, ← task, Function.update_eq_self]
    | step act next =>
      rw [task] at ends
      exact ends.elim
  | succ n ih =>
    have moved : (start.move i).tasks i = ((start.tasks i).move start.storage).1 :=
      Function.update_self ..
    have kept : (start.move i).storage = ((start.tasks i).move start.storage).2 := rfl
    have rest : ((start.move i).tasks i).EndsWithin n := moved ▸ ends.move start.storage
    show (start.move i).run (List.replicate n i) = _
    rw [ih rest, moved, kept, Task.run_move, Crew.move, Function.update_idem]

/-- After enough turns, each task has come to what it comes to alone. -/
theorem run_eq (apart : ∀ i j place, own i place → own j place → i = j)
    (keeps : ∀ i, (start.tasks i).KeepsTo (own i) start.storage) {n : Nat}
    (ends : ∀ i, (start.tasks i).EndsWithin n) {turns : List ι} (fair : ∀ i, n ≤ turns.count i) :
    ∃ after, start.run turns =
        ⟨after, fun i => .done ((start.tasks i).run start.storage).1⟩ ∧
      (∀ i, Agree (own i) ((start.tasks i).run start.storage).2 after) ∧
      ∀ place, (∀ i, ¬ own i place) → cell after place = cell start.storage place := by
  have comes := comesFrom_run apart keeps turns
  have each (i : ι) : (start.run turns).tasks i =
      .done ((start.tasks i).run start.storage).1 ∧
      Agree (own i) ((start.tasks i).run start.storage).2 (start.run turns).storage := by
    obtain ⟨alone, -, agree, same⟩ := comes.each i
    have ended := endsWithin_run turns (ends i)
    rw [Nat.sub_eq_zero_of_le (fair i)] at ended
    cases task : (start.run turns).tasks i with
    | done a =>
      rw [task] at same
      rw [← same]
      exact ⟨rfl, agree⟩
    | step act next =>
      rw [task] at ended
      exact ended.elim
  refine ⟨(start.run turns).storage, ?_, fun i => (each i).2, comes.others⟩
  exact congrArg (Crew.mk _) (funext fun i => (each i).1)

end Crew

end Phrasebook
