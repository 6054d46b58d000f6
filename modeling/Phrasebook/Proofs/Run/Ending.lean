import Mathlib
import Phrasebook.Run.Session

/-!
# How runs end

A part of a run ends with a result or with an error, and either way with a session. What is known of
a part follows from what is known of the parts that it is made of.
-/

namespace Phrasebook.Run

variable {σ α β ε : Type}

/-- A part ends with a result and a session that are good, or with an error and a session that are
bad. -/
structure Ends (part : Run σ α) (s : Session σ) (good : α → Session σ → Prop)
    (bad : RunError → Session σ → Prop) : Prop where
  of_ok : ∀ a after, part.run s = (.ok a, after) → good a after
  of_error : ∀ e after, part.run s = (.error e, after) → bad e after

variable {s : Session σ} {good : α → Session σ → Prop} {bad : RunError → Session σ → Prop}

theorem Ends.mono {part : Run σ α} (ends : Ends part s good bad)
    {good' : α → Session σ → Prop} {bad' : RunError → Session σ → Prop}
    (goods : ∀ a after, good a after → good' a after)
    (bads : ∀ e after, bad e after → bad' e after) : Ends part s good' bad' :=
  ⟨fun a after returned => goods a after (ends.of_ok a after returned),
    fun e after stopped => bads e after (ends.of_error e after stopped)⟩

theorem ends_trivial (part : Run σ α) (s : Session σ) :
    Ends part s (fun _ _ => True) fun _ _ => True :=
  ⟨fun _ _ _ => trivial, fun _ _ _ => trivial⟩

theorem ends_iff_of_ok {part : Run σ α} {a : α} {after : Session σ}
    (returned : part.run s = (.ok a, after)) : Ends part s good bad ↔ good a after := by
  refine ⟨fun ends => ends.of_ok a after returned, fun fine => ⟨fun b other again => ?_,
    fun e other stopped => ?_⟩⟩
  · rw [returned] at again
    cases again
    exact fine
  · rw [returned] at stopped
    cases stopped

theorem ends_iff_of_error {part : Run σ α} {e : RunError} {after : Session σ}
    (stopped : part.run s = (.error e, after)) : Ends part s good bad ↔ bad e after := by
  refine ⟨fun ends => ends.of_error e after stopped, fun known => ⟨fun b other returned => ?_,
    fun e' other again => ?_⟩⟩
  · rw [stopped] at returned
    cases returned
  · rw [stopped] at again
    cases again
    exact known

/-! ## What runs are made of -/

/-- A run goes on where its first part ends. -/
theorem run_bind {part : Run σ β} {b : β} {between : Session σ}
    (returned : part.run s = (.ok b, between)) (next : β → Run σ α) :
    (part >>= next).run s = (next b).run between := by
  have whole : (part >>= next).run s =
      (ExceptT.bindCont next (part.run s).1).run (part.run s).2 := rfl
  rw [whole, returned]
  rfl

@[simp] theorem ends_pure (a : α) : Ends (pure a) s good bad ↔ good a s := ends_iff_of_ok rfl

@[simp] theorem ends_throw (e : RunError) : Ends (throw e) s good bad ↔ bad e s :=
  ends_iff_of_error rfl

@[simp] theorem ends_bind (part : Run σ β) (next : β → Run σ α) :
    Ends (part >>= next) s good bad ↔
      Ends part s (fun b after => Ends (next b) after good bad) bad := by
  have whole : (part >>= next).run s =
      (ExceptT.bindCont next (part.run s).1).run (part.run s).2 := rfl
  cases first : part.run s with
  | mk result between =>
    rw [first] at whole
    cases result with
    | ok b =>
      rw [ends_iff_of_ok first]
      cases last : (next b).run between with
      | mk result after =>
        have whole : (part >>= next).run s = (result, after) := whole.trans last
        cases result with
        | ok a => rw [ends_iff_of_ok whole, ends_iff_of_ok last]
        | error e => rw [ends_iff_of_error whole, ends_iff_of_error last]
    | error e => rw [ends_iff_of_error first, ends_iff_of_error whole]

@[simp] theorem ends_storage {good : σ → Session σ → Prop} :
    Ends storage s good bad ↔ good s.storage s := ends_iff_of_ok rfl

@[simp] theorem ends_notify {good : Unit → Session σ → Prop} (notices : List Notice) :
    Ends (notify notices) s good bad ↔ good () { s with notices := s.notices ++ notices } :=
  ends_iff_of_ok rfl

@[simp] theorem ends_print {good : Unit → Session σ → Prop} (lines : List String) :
    Ends (print lines) s good bad ↔ good () { s with printed := s.printed ++ lines } :=
  ends_iff_of_ok rfl

@[simp] theorem ends_change (operation : σ → α × σ) : Ends (change operation) s good bad ↔
    good (operation s.storage).1 { s with storage := (operation s.storage).2 } :=
  ends_iff_of_ok rfl

@[simp] theorem ends_ofExcept (toError : ε → RunError) (result : Except ε α) :
    Ends (ofExcept toError result) s good bad ↔
      (∀ a, result = .ok a → good a s) ∧ ∀ e, result = .error e → bad (toError e) s := by
  cases result with
  | ok a => simp [ofExcept]
  | error e => simp [ofExcept]

@[simp] theorem ends_tryCatch (part : Run σ α) (handler : RunError → Run σ α) :
    Ends (tryCatchThe RunError part handler) s good bad ↔
      Ends part s good fun e after => Ends (handler e) after good bad := by
  have whole : (tryCatchThe RunError part handler).run s = match part.run s with
      | (.ok a, after) => (.ok a, after)
      | (.error e, after) => (handler e).run after := by
    show (ExceptT.tryCatch part handler).run s = _
    simp only [ExceptT.tryCatch, ExceptT.run, ExceptT.mk, bind, StateT.bind]
    cases part s with
    | mk result after => cases result <;> rfl
  cases first : part.run s with
  | mk result between =>
    rw [first] at whole
    cases result with
    | ok a => rw [ends_iff_of_ok first, ends_iff_of_ok whole]
    | error e =>
      rw [ends_iff_of_error first]
      cases last : (handler e).run between with
      | mk result after =>
        have whole : (tryCatchThe RunError part handler).run s = (result, after) := whole.trans last
        cases result with
        | ok a => rw [ends_iff_of_ok whole, ends_iff_of_ok last]
        | error e => rw [ends_iff_of_error whole, ends_iff_of_error last]

/-- A part is repeated for all items; what each one keeps, all keep. -/
theorem ends_mapM {invariant : Session σ → Prop} (items : List β) (part : β → Run σ α)
    (step : ∀ item ∈ items, ∀ now, invariant now →
      Ends (part item) now (fun _ after => invariant after) bad)
    (start : invariant s) : Ends (items.mapM part) s (fun _ after => invariant after) bad := by
  induction items generalizing s with
  | nil => exact (ends_pure []).mpr start
  | cons item items ih =>
    obtain ⟨first, rest⟩ := List.forall_mem_cons.mp step
    rw [List.mapM_cons, ends_bind]
    refine (first s start).mono (fun a after kept => ?_) fun _ _ failed => failed
    rw [ends_bind]
    exact (ih rest kept).mono (fun _ _ kept => (ends_pure _).mpr kept) fun _ _ failed => failed

/-- A part that is repeated has a result for every item. -/
theorem ends_mapM_length (items : List β) (part : β → Run σ α) (s : Session σ) :
    Ends (items.mapM part) s (fun results _ => results.length = items.length)
      fun _ _ => True := by
  induction items generalizing s with
  | nil => exact (ends_pure []).mpr rfl
  | cons item items ih =>
    rw [List.mapM_cons, ends_bind]
    refine (ends_trivial _ _).mono (fun a after _ => ?_) fun _ _ failed => failed
    rw [ends_bind]
    refine (ih after).mono (fun results _ same => ?_) fun _ _ failed => failed
    exact (ends_pure _).mpr (congrArg (· + 1) same)

variable [Storage σ]

@[simp] theorem ends_locked (directory : String) (part : Run σ α) :
    Ends (locked directory part) s good bad ↔
      (∀ e storage, Storage.lock s.storage directory = (.error e, storage) →
        bad (.storage e) { s with storage }) ∧
      ∀ storage, Storage.lock s.storage directory = (.ok (), storage) →
        Ends part { s with storage }
          (fun a after => good a { after with storage := Storage.unlock after.storage directory })
          fun e after => bad e { after with storage := Storage.unlock after.storage directory } := by
  cases taken : Storage.lock s.storage directory with
  | mk result storage =>
    cases result with
    | error e =>
      have whole : (locked directory part).run s = (.error (.storage e), { s with storage }) := by
        show (locked directory part) s = _
        rw [locked, ExceptT.mk, taken]
      rw [ends_iff_of_error whole]
      simp
    | ok _ =>
      simp only [Prod.mk.injEq, reduceCtorEq, false_and, IsEmpty.forall_iff, implies_true, true_and,
        forall_eq']
      have whole : (locked directory part).run s = ((part.run { s with storage }).1,
          { (part.run { s with storage }).2 with
            storage := Storage.unlock (part.run { s with storage }).2.storage directory }) := by
        show (locked directory part) s = _
        rw [locked, ExceptT.mk, taken]
        rfl
      cases last : part.run { s with storage } with
      | mk result after =>
        rw [last] at whole
        cases result with
        | ok a => rw [ends_iff_of_ok whole, ends_iff_of_ok last]
        | error e => rw [ends_iff_of_error whole, ends_iff_of_error last]

end Phrasebook.Run
