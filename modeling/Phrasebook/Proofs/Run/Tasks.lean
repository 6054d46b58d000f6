import Phrasebook.Proofs.Storage.Locking
import Phrasebook.Run.Session

/-!
# Tasks that take turns

A task is done to a storage operation by operation, so that others can have their turns in between.
An errand looks at the storage, then works on it under a lock: whichever of two gets the lock first
has the storage to itself until it is done, and only what the other one has looked at before can be
out of date.
-/

namespace Phrasebook

inductive Task (σ α : Type) where
  | done (result : α)
  /-- An operation on the storage; how it goes on depends on the storage before it. -/
  | step (act : σ → σ) (next : σ → Task σ α)

namespace Task

variable {σ α β : Type}

/-- What a task comes to alone. -/
def run : Task σ α → σ → α × σ
  | done a, s => (a, s)
  | step act next, s => (next s).run (act s)

/-- The storages that a task alone passes through. -/
def trail : Task σ α → σ → List σ
  | done _, s => [s]
  | step act next, s => s :: (next s).trail (act s)

/-- One turn. -/
def move : Task σ α → σ → Task σ α × σ
  | done a, s => (done a, s)
  | step act next, s => (next s, act s)

/-- Looks at the storage. -/
def look (f : σ → β) (next : β → Task σ α) : Task σ α := step id fun s => next (f s)

/-- Changes the storage; how it went decides how it goes on. -/
def change (operation : σ → β × σ) (next : β → Task σ α) : Task σ α :=
  step (fun s => (operation s).2) fun s => next (operation s).1

/-- One task after another. -/
def andThen : Task σ α → (α → Task σ β) → Task σ β
  | done a, next => next a
  | step act rest, next => step act fun s => (rest s).andThen next

/-- A task with a last operation. -/
def closing (last : σ → σ) (t : Task σ α) : Task σ α := t.andThen fun a => step last fun _ => done a

/-- All operations keep what holds of the storage. -/
def Keeps (P : σ → Prop) : Task σ α → Prop
  | done _ => True
  | step act next => ∀ s, P s → P (act s) ∧ (next s).Keeps P

@[simp] theorem run_done (a : α) (s : σ) : (done a : Task σ α).run s = (a, s) := rfl

@[simp] theorem run_look (f : σ → β) (next : β → Task σ α) (s : σ) :
    (look f next).run s = (next (f s)).run s := rfl

@[simp] theorem run_change (operation : σ → β × σ) (next : β → Task σ α) (s : σ) :
    (change operation next).run s = (next (operation s).1).run (operation s).2 := rfl

@[simp] theorem run_andThen (t : Task σ α) (next : α → Task σ β) (s : σ) :
    (t.andThen next).run s = (next (t.run s).1).run (t.run s).2 := by
  induction t generalizing s with
  | done a => rfl
  | step act rest ih => exact ih s (act s)

@[simp] theorem run_closing (last : σ → σ) (t : Task σ α) (s : σ) :
    (t.closing last).run s = ((t.run s).1, last (t.run s).2) := by
  rw [closing, run_andThen]
  rfl

theorem mem_trail (t : Task σ α) (s : σ) : s ∈ t.trail s := by
  cases t with
  | done a => exact List.mem_singleton_self s
  | step act next => exact List.mem_cons_self

theorem run_mem_trail (t : Task σ α) (s : σ) : (t.run s).2 ∈ t.trail s := by
  induction t generalizing s with
  | done a => exact List.mem_singleton_self s
  | step act next ih => exact List.mem_cons_of_mem _ (ih s (act s))

/-- A turn leaves what the task comes to. -/
theorem run_move (t : Task σ α) (s : σ) : (t.move s).1.run (t.move s).2 = t.run s := by
  cases t <;> rfl

theorem trail_move_subset (t : Task σ α) (s : σ) : (t.move s).1.trail (t.move s).2 ⊆ t.trail s := by
  cases t with
  | done a => exact List.Subset.refl _
  | step act next => exact List.subset_cons_self _ _

variable {P : σ → Prop}

theorem keeps_look {f : σ → β} {next : β → Task σ α} (rest : ∀ b, (next b).Keeps P) :
    (look f next).Keeps P :=
  fun s held => ⟨held, rest (f s)⟩

theorem keeps_change {operation : σ → β × σ} {next : β → Task σ α}
    (kept : ∀ s, P s → P (operation s).2) (rest : ∀ b, (next b).Keeps P) :
    (change operation next).Keeps P :=
  fun s held => ⟨kept s held, rest (operation s).1⟩

theorem Keeps.andThen {t : Task σ α} {next : α → Task σ β} (first : t.Keeps P)
    (rest : ∀ a, (next a).Keeps P) : (t.andThen next).Keeps P := by
  induction t with
  | done a => exact rest a
  | step act later ih =>
    intro s held
    obtain ⟨kept, first⟩ := first s held
    exact ⟨kept, ih s first⟩

end Task

/-! ## Two tasks -/

/-- Two tasks on one storage, each as far as it has come. -/
structure Duo (σ α β : Type) where
  storage : σ
  one : Task σ α
  other : Task σ β

namespace Duo

variable {σ α β : Type}

/-- A turn of the one task or of the other. -/
def move (d : Duo σ α β) : Bool → Duo σ α β
  | true => { d with one := (d.one.move d.storage).1, storage := (d.one.move d.storage).2 }
  | false => { d with other := (d.other.move d.storage).1, storage := (d.other.move d.storage).2 }

def run (d : Duo σ α β) (turns : List Bool) : Duo σ α β := turns.foldl move d

def swap (d : Duo σ α β) : Duo σ β α := ⟨d.storage, d.other, d.one⟩

theorem run_append (d : Duo σ α β) (turns more : List Bool) :
    d.run (turns ++ more) = (d.run turns).run more :=
  List.foldl_append

theorem swap_move (d : Duo σ α β) (turn : Bool) : (d.move turn).swap = d.swap.move (!turn) := by
  cases turn <;> rfl

theorem swap_run (d : Duo σ α β) (turns : List Bool) :
    (d.run turns).swap = d.swap.run (turns.map (!·)) := by
  induction turns generalizing d with
  | nil => rfl
  | cons turn turns ih => exact (ih _).trans (by rw [swap_move]; rfl)

/-- With enough turns the one task gets done as if it were alone. -/
theorem exists_turns (s : σ) (t : Task σ α) (other : Task σ β) :
    ∃ turns, run ⟨s, t, other⟩ turns = ⟨(t.run s).2, .done (t.run s).1, other⟩ := by
  induction t generalizing s with
  | done a => exact ⟨[], rfl⟩
  | step act next ih =>
    obtain ⟨turns, reached⟩ := ih s (act s)
    exact ⟨true :: turns, reached⟩

/-- So does the other one. -/
theorem exists_other_turns (s : σ) (one : Task σ α) (t : Task σ β) :
    ∃ turns, run ⟨s, one, t⟩ turns = ⟨(t.run s).2, one, .done (t.run s).1⟩ := by
  obtain ⟨turns, reached⟩ := exists_turns s t one
  refine ⟨turns.map (!·), ?_⟩
  rw [show (⟨s, one, t⟩ : Duo σ α β) = swap ⟨s, t, one⟩ from rfl, ← swap_run, reached]
  rfl

end Duo

/-! ## Errands with a lock -/

/-- What looks at the storage before it asks for the lock, and works with the lock. -/
structure Errand (σ ι α : Type) where
  look : σ → Except RunError ι
  work : ι → Task σ (Except RunError α)

namespace Errand

variable {σ : Type} [Storage σ] {ι κ α β : Type} (directory : String)

/-- What an errand does when it has looked. -/
def locked (c : Errand σ ι α) (found : ι) : Task σ (Except RunError α) :=
  .change (Storage.lock · directory) fun
    | .error e => .done (.error (.storage e))
    | .ok () => (c.work found).closing (Storage.unlock · directory)

def task (c : Errand σ ι α) : Task σ (Except RunError α) :=
  .look c.look fun
    | .error e => .done (.error e)
    | .ok found => c.locked directory found

variable {directory} {c : Errand σ ι α} {s : σ}

theorem run_task {found : ι} (looked : c.look s = .ok found) :
    (c.task directory).run s = (c.locked directory found).run s := by
  rw [task, Task.run_look, looked]

theorem move_task {found : ι} (looked : c.look s = .ok found) :
    (c.task directory).move s = (c.locked directory found, s) := by
  rw [task, Task.look, Task.move, looked]
  rfl

/-- An errand has not asked for the lock. It may have looked at one of some storages. -/
inductive Awaits (directory : String) (c : Errand σ ι α) (seen : List σ) :
    Task σ (Except RunError α) → Prop where
  | start : Awaits directory c seen (c.task directory)
  | looked (s : σ) (listed : s ∈ seen) (found : ι) (here : c.look s = .ok found) :
    Awaits directory c seen (c.locked directory found)

theorem Awaits.mono {seen more : List σ} (part : seen ⊆ more) {t : Task σ (Except RunError α)}
    (awaits : Awaits directory c seen t) : Awaits directory c more t := by
  cases awaits with
  | start => exact .start
  | looked s listed found here => exact .looked s (part listed) found here

/-- What a turn of an errand that waits can bring. -/
inductive Turn (directory : String) (c : Errand σ ι α) (seen : List σ) (s : σ) :
    Task σ (Except RunError α) × σ → Prop where
  | failed (e : RunError) (after : σ) : Turn directory c seen s (.done (.error e), after)
  | waits (t : Task σ (Except RunError α)) (awaits : Awaits directory c seen t) :
    Turn directory c seen s (t, s)
  | locks (old : σ) (listed : old ∈ seen) (found : ι) (here : c.look old = .ok found)
      (taken : (Storage.lock s directory).1 = .ok ()) :
    Turn directory c seen s
      ((c.work found).closing (Storage.unlock · directory), (Storage.lock s directory).2)

theorem Awaits.move {seen : List σ} {t : Task σ (Except RunError α)}
    (awaits : Awaits directory c seen t) (listed : s ∈ seen) :
    Turn directory c seen s (t.move s) := by
  cases awaits with
  | start =>
    cases here : c.look s with
    | error e =>
      rw [task, Task.look, Task.move, here]
      exact .failed e s
    | ok found =>
      rw [move_task here]
      exact .waits _ (.looked s listed found here)
  | looked old listed found here =>
    rw [locked, Task.change, Task.move]
    cases taken : (Storage.lock s directory).1 with
    | error e => exact .failed (.storage e) _
    | ok _ => exact .locks old listed found here taken

variable [ExclusiveStorage σ]

/-- The work goes on under the lock. -/
def KeepsLock (directory : String) (c : Errand σ ι α) : Prop :=
  ∀ found, (c.work found).Keeps (ExclusiveStorage.IsLocked · directory)

/-- How far two errands are of which the one gets the lock before the other. -/
inductive Ordered (directory : String) (a : Errand σ ι α) (b : Errand σ κ β) (start : σ) :
    Duo σ (Except RunError α) (Except RunError β) → Prop where
  | waiting (one : Task σ (Except RunError α)) (awaits : Awaits directory a [start] one)
      (other : Task σ (Except RunError β)) (awaits' : Awaits directory b [start] other) :
    Ordered directory a b start ⟨start, one, other⟩
  | holding (now : σ) (held : ExclusiveStorage.IsLocked now directory)
      (rest : Task σ (Except RunError α))
      (kept : rest.Keeps (ExclusiveStorage.IsLocked · directory))
      (same : (rest.closing (Storage.unlock · directory)).run now = (a.task directory).run start)
      (trail : (rest.closing (Storage.unlock · directory)).trail now ⊆
        (a.task directory).trail start)
      (other : Task σ (Except RunError β))
      (awaits : Awaits directory b ((a.task directory).trail start) other) :
    Ordered directory a b start ⟨now, rest.closing (Storage.unlock · directory), other⟩
  | left (other : Task σ (Except RunError β))
      (awaits : Awaits directory b ((a.task directory).trail start) other) :
    Ordered directory a b start
      ⟨((a.task directory).run start).2, .done ((a.task directory).run start).1, other⟩
  | following (now old : σ) (listed : old ∈ (a.task directory).trail start) (found : κ)
      (here : b.look old = .ok found) (other : Task σ (Except RunError β))
      (same : other.run now = (b.locked directory found).run ((a.task directory).run start).2) :
    Ordered directory a b start ⟨now, .done ((a.task directory).run start).1, other⟩

/-- One of two errands has failed. -/
def Failed (d : Duo σ (Except RunError α) (Except RunError β)) : Prop :=
  (∃ e, d.one = .done (.error e)) ∨ ∃ e, d.other = .done (.error e)

omit [Storage σ] [ExclusiveStorage σ] in
theorem Failed.move {d : Duo σ (Except RunError α) (Except RunError β)} (failed : Failed d)
    (turn : Bool) : Failed (d.move turn) := by
  obtain ⟨now, one, other⟩ := d
  rcases failed with ⟨e, rfl⟩ | ⟨e, rfl⟩
  · refine Or.inl ⟨e, ?_⟩
    cases turn <;> rfl
  · refine Or.inr ⟨e, ?_⟩
    cases turn <;> rfl

omit [ExclusiveStorage σ] in
/-- An errand that has looked at most at its start would come to the same. -/
theorem Awaits.run_eq {t : Task σ (Except RunError α)} (awaits : Awaits directory c [s] t) :
    t.run s = (c.task directory).run s ∧ t.trail s ⊆ (c.task directory).trail s := by
  cases awaits with
  | start => exact ⟨rfl, List.Subset.refl _⟩
  | looked old listed found here =>
    rw [List.mem_singleton.mp listed] at here
    have next : (c.task directory).trail s = s :: (c.locked directory found).trail s := by
      rw [task, Task.look, Task.trail, here]
      rfl
    exact ⟨(run_task here).symm, next ▸ List.subset_cons_self _ _⟩

omit [ExclusiveStorage σ] in
theorem Awaits.ne_done {seen : List σ} {t : Task σ (Except RunError α)}
    (awaits : Awaits directory c seen t) (result : Except RunError α) : .done result ≠ t := by
  cases awaits <;> (rintro ⟨⟩)

variable {a : Errand σ ι α} {b : Errand σ κ β} {start : σ}

/-- A turn of the errand that gets the lock first. -/
theorem Ordered.move_one {d : Duo σ (Except RunError α) (Except RunError β)}
    (keeps : a.KeepsLock directory) (ordered : Ordered directory a b start d) :
    Failed (d.move true) ∨ Ordered directory a b start (d.move true) := by
  cases ordered with
  | waiting one awaits other awaits' =>
    obtain ⟨same, trail⟩ := awaits.run_eq
    have turn := awaits.move (List.mem_singleton_self start)
    have runs := one.run_move start
    have trails := one.trail_move_subset start
    rw [Duo.move]
    generalize one.move start = moved at turn runs trails
    cases turn with
    | failed e after => exact Or.inl (Or.inl ⟨e, rfl⟩)
    | waits t awaits => exact Or.inr (.waiting t awaits other awaits')
    | locks old listed found here taken =>
      refine Or.inr (.holding _ (ExclusiveStorage.isLocked_lock start directory taken) _
        (keeps found) (runs.trans same) (List.Subset.trans trails trail) other (awaits'.mono ?_))
      exact List.cons_subset.mpr ⟨Task.mem_trail _ start, List.nil_subset _⟩
  | holding now held rest kept same trail other awaits =>
    cases rest with
    | done result =>
      obtain ⟨result_eq, storage_eq⟩ := Prod.mk.inj same
      refine Or.inr ?_
      show Ordered directory a b start ⟨Storage.unlock now directory, .done result, other⟩
      rw [result_eq, show Storage.unlock now directory = _ from storage_eq]
      exact .left other awaits
    | step act next =>
      obtain ⟨still, kept⟩ := kept now held
      have trail := List.Subset.trans (Task.trail_move_subset _ now) trail
      exact Or.inr (.holding _ still _ kept same trail other awaits)
  | left other awaits => exact Or.inr (.left other awaits)
  | following now old listed found here other same =>
    exact Or.inr (.following now old listed found here other same)

/-- A turn of the other errand. It can be the first one after all, as long as nobody has the lock. -/
theorem Ordered.move_other {d : Duo σ (Except RunError α) (Except RunError β)}
    (keeps : b.KeepsLock directory) (ordered : Ordered directory a b start d) :
    Failed (d.move false) ∨ Ordered directory a b start (d.move false) ∨
      Ordered directory b a start (d.move false).swap := by
  cases ordered with
  | waiting one awaits other awaits' =>
    have swapped : Ordered directory b a start ⟨start, other, one⟩ :=
      .waiting other awaits' one awaits
    rcases swapped.move_one keeps with failed | swapped
    · exact Or.inl failed.symm
    · exact Or.inr (Or.inr swapped)
  | holding now held rest kept same trail other awaits =>
    have turn := awaits.move (trail (Task.mem_trail _ now))
    rw [Duo.move]
    generalize other.move now = moved at turn
    cases turn with
    | failed e after => exact Or.inl (Or.inr ⟨e, rfl⟩)
    | waits t awaits => exact Or.inr (Or.inl (.holding now held rest kept same trail t awaits))
    | locks old listed found here taken =>
      exact absurd taken (ExclusiveStorage.lock_ne_ok now directory held)
  | left other awaits =>
    have last := Task.run_mem_trail (a.task directory) start
    have turn := awaits.move last
    rw [Duo.move]
    generalize other.move ((a.task directory).run start).2 = moved at turn
    cases turn with
    | failed e after => exact Or.inl (Or.inr ⟨e, rfl⟩)
    | waits t awaits => exact Or.inr (Or.inl (.left t awaits))
    | locks old listed found here taken =>
      refine Or.inr (Or.inl (.following _ old listed found here _ ?_))
      rw [locked, Task.run_change, taken]
  | following now old listed found here other same =>
    exact Or.inr (Or.inl (.following _ old listed found here _
      ((Task.run_move other now).trans same)))

/-- An errand comes after another one: it works on what that one has left, with what it has found in
a storage that the other one has passed through. -/
def Follows (directory : String) (a : Errand σ ι α) (b : Errand σ κ β) (start : σ) (x : α) (y : β)
    (after : σ) : Prop :=
  ∃ between, (a.task directory).run start = (.ok x, between) ∧
    ∃ old ∈ (a.task directory).trail start, ∃ found, b.look old = .ok found ∧
      (b.locked directory found).run between = (.ok y, after)

omit [ExclusiveStorage σ] in
/-- If nothing has changed for it in the meantime, it could have been started behind the other one. -/
theorem Follows.serial {x : α} {y : β} {after : σ}
    (follows : Follows directory a b start x y after) : ∃ between,
      (a.task directory).run start = (.ok x, between) ∧
        ∃ old ∈ (a.task directory).trail start, b.look between = b.look old →
          (b.task directory).run between = (.ok y, after) := by
  obtain ⟨between, first, old, listed, found, here, second⟩ := follows
  refine ⟨between, first, old, listed, fun same => ?_⟩
  rw [run_task (same.trans here), second]

theorem Ordered.follows {x : α} {y : β} {after : σ}
    (ordered : Ordered directory a b start ⟨after, .done (.ok x), .done (.ok y)⟩) :
    Follows directory a b start x y after := by
  generalize ended : (⟨after, .done (.ok x), .done (.ok y)⟩ :
    Duo σ (Except RunError α) (Except RunError β)) = d at ordered
  obtain ⟨storage, one, other⟩ := d
  obtain ⟨rfl, first, second⟩ := Duo.mk.inj ended
  cases ordered with
  | waiting _ awaits => exact absurd first (awaits.ne_done _)
  | holding _ held rest => cases rest <;> cases first
  | left _ awaits => exact absurd second (awaits.ne_done _)
  | following _ old listed found here _ same =>
    subst second
    refine ⟨((a.task directory).run start).2, Prod.ext (Task.done.inj first).symm rfl, old, listed,
      found, here, same.symm⟩

/-- Two errands that both succeed have worked one after the other. -/
theorem follows_of_ok (keeps : a.KeepsLock directory) (keeps' : b.KeepsLock directory)
    {turns : List Bool} {x : α} {y : β} {after : σ}
    (ended : Duo.run ⟨start, a.task directory, b.task directory⟩ turns =
      ⟨after, .done (.ok x), .done (.ok y)⟩) :
    Follows directory a b start x y after ∨ Follows directory b a start y x after := by
  let Reached (d : Duo σ (Except RunError α) (Except RunError β)) : Prop :=
    Failed d ∨ Ordered directory a b start d ∨ Ordered directory b a start d.swap
  have reached : Reached (Duo.run ⟨start, a.task directory, b.task directory⟩ turns) := by
    refine List.foldlRecOn (motive := Reached) turns _ (Or.inr (Or.inl (.waiting _ .start _ .start)))
      fun d reached turn _ => ?_
    rcases reached with failed | ordered | ordered
    · exact Or.inl (failed.move turn)
    · cases turn with
      | true => exact (ordered.move_one keeps).imp_right Or.inl
      | false => exact ordered.move_other keeps'
    · cases turn with
      | true => exact (ordered.move_other keeps).imp Or.symm Or.symm
      | false => exact (ordered.move_one keeps').imp Or.symm Or.inr
  rw [ended] at reached
  rcases reached with (⟨e, failed⟩ | ⟨e, failed⟩) | ordered | ordered
  · cases failed
  · cases failed
  · exact Or.inl ordered.follows
  · exact Or.inr ordered.follows

end Errand

end Phrasebook
