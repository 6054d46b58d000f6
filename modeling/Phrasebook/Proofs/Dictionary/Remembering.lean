import Phrasebook.Dictionary.Documents
import Phrasebook.Proofs.Dictionary.Filling
import Phrasebook.Proofs.Key.Derivation

/-!
# Changes are remembered

A locale that is not dirty has not changed since its document was read, and what the source locale
has gained are texts of keys that wait for propagation. A flush without failures writes the document
of every dirty locale.
-/

namespace Phrasebook

open Json (valueAt? IsLeaf)

namespace Dictionary

/-- In between, locales that have changed are marked as dirty. -/
structure Remembers (before after : Dictionary) : Prop where
  dirty : ∀ locale, before.isDirty locale = true → after.isDirty locale = true
  clean : ∀ locale, after.isDirty locale = false → after.root locale = before.root locale

namespace Remembers

theorem refl (d : Dictionary) : Remembers d d := ⟨fun _ => id, fun _ _ => rfl⟩

theorem trans {a b c : Dictionary} (first : Remembers a b) (second : Remembers b c) :
    Remembers a c where
  dirty := fun locale marked => second.dirty locale (first.dirty locale marked)
  clean := fun locale clean => by
    have between : b.isDirty locale = false :=
      Bool.eq_false_iff.mpr fun marked => by simp [second.dirty locale marked] at clean
    exact (second.clean locale clean).trans (first.clean locale between)

end Remembers

theorem isDirty_touch (d : Dictionary) (locale other : String) :
    (d.touch locale).isDirty other = (d.isDirty other || other == locale) := by
  unfold touch
  split
  next marked =>
    by_cases same : other = locale
    · subst same
      simp [marked]
    · simp [same]
  next =>
    show (locale :: d.dirty).contains other = _
    rw [List.contains_cons, Bool.or_comm]
    rfl

theorem remembers_write (d : Dictionary) (locale key text : String) :
    Remembers d (d.write locale key text) where
  dirty := fun other marked => by
    have kept : (d.withMessages locale ((d.messagesOf locale).put key text)).isDirty other = true :=
      marked
    rw [write, isDirty_touch, kept, Bool.true_or]
  clean := fun other clean => by
    rw [write, isDirty_touch, Bool.or_eq_false_iff] at clean
    exact d.root_write_of_ne locale key text (Ne.symm (beq_eq_false_iff_ne.mp clean.2))

theorem remembers_await (d : Dictionary) (locale key : String) :
    Remembers d (d.await locale key) := by
  unfold await
  split <;> exact ⟨fun _ => id, fun _ _ => rfl⟩

theorem remembers_withNew (d : Dictionary) (key text : String) :
    Remembers d (d.withNew key text) :=
  (d.remembers_write ..).trans (remembers_await ..)

theorem remembers_propagate (d : Dictionary) (source : String) (targets : List String) :
    Remembers d (d.propagate source targets).dictionary := by
  rw [dictionary_propagate]
  refine List.foldlRecOn (motive := Remembers d) _ _ (.refl d) fun now remembers request _ =>
    remembers.trans ?_
  unfold fill
  split
  next => exact .refl now
  next =>
    split
    next => exact now.remembers_write ..
    next => exact .refl now

end Dictionary

/-! ## Calls for keys -/

namespace KeyCall

theorem remembers_run (calls : List KeyCall) (d : Dictionary) : d.Remembers (run calls d) := by
  refine List.foldlRecOn (motive := d.Remembers) calls after (.refl d) fun now remembers call _ =>
    remembers.trans ?_
  rcases call.after_cases now with same | ⟨n, -, same⟩
  · rw [same]
    exact .refl now
  · rw [same]
    exact now.remembers_withNew _ _

/-- What is gained by calls is a text of the source locale under a key that waits. -/
theorem gains_run (calls : List KeyCall) (d : Dictionary) (locale : String) (path : List String)
    (value : Json) (leaf : value.IsLeaf)
    (found : valueAt? path ((run calls d).root locale) = some value) :
    valueAt? path (d.root locale) = some value ∨
      locale = d.sourceLocale ∧ ∃ key ∈ (run calls d).pending, keySegments key = path := by
  revert found
  refine (List.foldlRecOn (motive := fun now => now.sourceLocale = d.sourceLocale ∧
    (valueAt? path (now.root locale) = some value → valueAt? path (d.root locale) = some value ∨
      locale = d.sourceLocale ∧ ∃ key ∈ now.pending, keySegments key = path)) calls after
    ⟨rfl, Or.inl⟩ fun now ⟨source, gains⟩ call _ => ?_).2
  refine ⟨(call.grows_after now).sourceLocale_eq.trans source, fun found => ?_⟩
  rcases call.after_cases now with same | ⟨n, free, same⟩
  · rw [same] at found ⊢
    exact gains found
  · rw [same] at found ⊢
    rw [now.pending_withNew]
    rcases ((now.gainsLeaf_withNew _ _ free).values locale path value leaf).mp found with
      old | ⟨here, rfl, -⟩
    · refine (gains old).imp_right fun ⟨here, key, waiting, same⟩ => ?_
      exact ⟨here, key, List.mem_append_left _ waiting, same⟩
    · exact Or.inr ⟨here.trans source, _, List.mem_append_right _ (List.mem_singleton.mpr rfl), rfl⟩

end KeyCall

/-! ## Flushing -/

/-- A dictionary of which some documents are written: their locales become clean, and new keys of the
source locale are new no more. -/
def Dictionary.settled (d : Dictionary) (written : List String) : Dictionary :=
  { d with
    dirty := d.dirty.filter (!written.contains ·)
    pending := if d.sourceLocale ∈ written then [] else d.pending }

namespace Dictionary.Flush

variable {σ : Type}

/-- A flush goes on: it forgets no failure, and a locale is dirty until its document is written. -/
structure Proceeds (before after : Flush σ) : Prop where
  written : before.written ⊆ after.written
  failures : before.failures ⊆ after.failures
  dirty : ∀ locale, before.dictionary.isDirty locale = true →
    after.dictionary.isDirty locale = true ∨ locale ∈ after.written

theorem Proceeds.refl (f : Flush σ) : Proceeds f f := ⟨fun _ => id, fun _ => id, fun _ => Or.inl⟩

theorem Proceeds.trans {f g h : Flush σ} (first : Proceeds f g) (second : Proceeds g h) :
    Proceeds f h where
  written := fun _ listed => second.written (first.written listed)
  failures := fun _ listed => second.failures (first.failures listed)
  dirty := fun locale marked =>
    (first.dirty locale marked).elim (second.dirty locale) fun done => Or.inr (second.written done)

/-- The document of one more locale is written. -/
theorem dictionary_settle {d : Dictionary} {f : Flush σ}
    (before : f.dictionary = d.settled f.written) (changed : σ) (locale : String) :
    ({ f with storage := changed }.settle locale).dictionary =
      d.settled ({ f with storage := changed }.settle locale).written := by
  simp only [settle, before, settled, List.filter_filter, List.mem_append, List.mem_singleton,
    Dictionary.mk.injEq, true_and]
  refine ⟨?_, ?_⟩
  · by_cases source : d.sourceLocale ∈ f.written
    · simp [source]
    · simp [source, eq_comm]
  · refine List.filter_congr fun other _ => ?_
    rw [Bool.eq_iff_iff]
    simp [and_comm]

variable [Storage σ]

/-- A step settles a locale, or it leaves the dictionary alone. -/
theorem step_settles (backups : Backups) (locale : String) (f : Flush σ) :
    (∃ changed, f.step backups locale = { f with storage := changed }.settle locale) ∨
      (f.step backups locale).dictionary = f.dictionary ∧
        (f.step backups locale).written = f.written := by
  unfold step
  split
  next =>
    dsimp only
    split
    next => exact .inr ⟨rfl, rfl⟩
    next =>
      split
      next storage _ => exact .inl ⟨storage, rfl⟩
      next => exact .inr ⟨rfl, rfl⟩
  next => exact .inr ⟨rfl, rfl⟩

/-- A dirty document is written, or that fails. -/
theorem step_cases (backups : Backups) (locale : String) (f : Flush σ) :
    Proceeds f (f.step backups locale) ∧ (f.dictionary.isDirty locale = true →
      locale ∈ (f.step backups locale).written ∨ (f.step backups locale).failures ≠ []) := by
  have failed (storage : σ) (path reason : String) :
      Proceeds f ({ f with storage }.fail path reason) ∧ (f.dictionary.isDirty locale = true →
        locale ∈ ({ f with storage }.fail path reason).written ∨
          ({ f with storage }.fail path reason).failures ≠ []) :=
    ⟨⟨fun _ => id, fun _ => List.mem_append_left _, fun _ => Or.inl⟩, fun _ =>
      Or.inr (by simp [fail])⟩
  unfold step
  split
  next =>
    dsimp only
    split
    next => exact failed ..
    next =>
      split
      next storage _ =>
        have here : locale ∈ ({ f with storage }.settle locale).written :=
          List.mem_append_right _ (List.mem_singleton.mpr rfl)
        refine ⟨⟨fun _ => List.mem_append_left _, fun _ => id, fun other marked => ?_⟩,
          fun _ => Or.inl here⟩
        by_cases same : other = locale
        · exact Or.inr (same ▸ here)
        · exact Or.inl (by simpa [isDirty, settle, same] using marked)
      next => exact failed ..
  next clean => exact ⟨.refl f, fun marked => absurd marked clean⟩

theorem proceeds_foldl (backups : Backups) (locales : List String) (f : Flush σ) :
    Proceeds f (locales.foldl (fun f locale => f.step backups locale) f) :=
  List.foldlRecOn (motive := Proceeds f) locales _ (.refl f)
    fun now proceeds locale _ => proceeds.trans (now.step_cases backups locale).1

end Dictionary.Flush

/-- A flush without failures has written the documents of all dirty locales. -/
theorem Dictionary.written_flush {σ : Type} [Storage σ] (d : Dictionary) (storage : σ)
    (locales : List String) (backups : Backups)
    (whole : (d.flush storage locales backups).failures = []) {locale : String}
    (listed : locale ∈ locales) (marked : d.isDirty locale = true) :
    locale ∈ (d.flush storage locales backups).written := by
  obtain ⟨first, rest, rfl⟩ := List.append_of_mem listed
  rw [flush, List.foldl_append, List.foldl_cons] at whole ⊢
  have before := Flush.proceeds_foldl backups first (⟨d, storage, [], []⟩ : Flush σ)
  generalize first.foldl _ _ = f at before whole ⊢
  have after := Flush.proceeds_foldl backups rest (f.step backups locale)
  obtain ⟨here, tried⟩ := f.step_cases backups locale
  rcases before.dirty locale marked with still | done
  · rcases tried still with done | failed
    · exact after.written done
    · exact absurd (List.subset_nil.mp (whole ▸ after.failures)) failed
  · exact after.written (here.written done)

/-- A flush changes nothing of a dictionary but what is dirty and what is new. -/
theorem Dictionary.dictionary_flush {σ : Type} [Storage σ] (d : Dictionary) (storage : σ)
    (locales : List String) (backups : Backups) :
    (d.flush storage locales backups).dictionary =
      d.settled (d.flush storage locales backups).written := by
  refine List.foldlRecOn (motive := fun (f : Flush σ) => f.dictionary = d.settled f.written)
    locales _ ?_
    fun f before locale _ => ?_
  · have all : d.dirty.filter (fun locale => !([] : List String).contains locale) = d.dirty :=
      List.filter_eq_self.mpr fun _ _ => rfl
    rw [settled, all, if_neg List.not_mem_nil]
  · rcases f.step_settles backups locale with ⟨changed, same⟩ | ⟨dictionary, written⟩
    · rw [same]
      exact Flush.dictionary_settle before changed locale
    · rw [dictionary, written]
      exact before

/-- A dictionary without changes is not written. -/
theorem Dictionary.flush_of_clean {σ : Type} [Storage σ] {d : Dictionary} (clean : d.dirty = [])
    (storage : σ) (locales : List String) (backups : Backups) :
    d.flush storage locales backups = ⟨d, storage, [], []⟩ := by
  refine List.foldlRecOn (motive := (· = (⟨d, storage, [], []⟩ : Flush σ))) locales _ rfl
    fun f same locale _ => ?_
  rw [same]
  exact if_neg (by simp [isDirty, clean])

end Phrasebook
