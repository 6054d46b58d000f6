import Phrasebook.Candidate.Acceptance
import Phrasebook.Proofs.Key.Naming
import Phrasebook.Proofs.Outcome
import Phrasebook.Proofs.Storage.Lawful
import Phrasebook.Proofs.Storage.Paths

/-!
# The form of keys

A text is accepted only if its slug is not empty, and the key of a text is made with the same slug.
So a key that an accepted text gets has three segments and none of them is empty: a namespace, the
component that the file is, and a slug, perhaps with a number behind it.
-/

namespace Phrasebook

open Text (IsSlug isSlugPart slug)

/-! ## Segments -/

theorem keySegments_join (front back : String) :
    keySegments (front ++ "." ++ back) = keySegments front ++ keySegments back := by
  have split : (front ++ "." ++ back).toList = front.toList ++ '.' :: back.toList := by
    simp [String.toList_append]
  rw [keySegments, split, Text.splitBy_append_cons (by decide), List.map_append, keySegments,
    keySegments]

theorem keySegments_of_plain {part : String} (plain : '.' ∉ part.toList) :
    keySegments part = [part] := by
  rw [keySegments, Text.splitBy_of_forall, List.map_singleton, String.ofList_toList]
  intro c member
  exact beq_eq_false_iff_ne.mpr fun same => plain (same ▸ member)

theorem Path.ne_nil_of_mem_components {path name : List Char} (member : name ∈ components path) :
    name ≠ [] := by
  obtain ⟨names, proper, same | same | same⟩ := components_cases path <;> rw [same] at member
  · exact (proper name member).1
  · rcases List.mem_cons.mp member with rfl | inside
    · exact List.cons_ne_nil _ _
    · exact (proper name inside).1
  · rcases List.mem_cons.mp member with rfl | inside
    · exact List.cons_ne_nil _ _
    · exact (proper name inside).1

namespace Key

/-- A number goes behind the last part of a key. -/
theorem suffixed_append (front base : String) (n : Nat) :
    suffixed (front ++ base) n = front ++ suffixed base n := by
  unfold suffixed
  split
  next => rfl
  next => simp only [String.append_assoc]

/-- A slug with a number behind it is a slug. -/
theorem isSlug_suffixed {base : String} (formed : IsSlug base.toList) (n : Nat) :
    IsSlug (suffixed base n).toList := by
  unfold suffixed
  split
  next => exact formed
  next =>
    obtain ⟨⟨c, first, start⟩, parts⟩ := formed
    have digits : ∀ d ∈ (toString n).toList, isSlugPart d = true := by
      intro d member
      rw [Nat.toString_eq_ofList_toDigits, String.toList_ofList] at member
      have digit := Nat.isDigit_of_mem_toDigits (by decide) (by decide) member
      simp [isSlugPart, Text.isSlugStart, digit]
    have under : ∀ d ∈ "_".toList, isSlugPart d = true := List.forall_mem_singleton.mpr rfl
    simp only [String.toList_append]
    refine ⟨⟨c, ?_, start⟩, ?_⟩
    · simp [List.head?_append, Option.mem_def.mp first]
    · exact List.forall_mem_append.mpr ⟨List.forall_mem_append.mpr ⟨parts, under⟩, digits⟩

theorem underscored_ne_nil {text : List Char} (nonempty : text ≠ []) : underscored text ≠ [] := by
  simpa [underscored] using nonempty

/-- The name of a file gives its component a name. -/
theorem component_ne_empty {path : String} (named : (Path.fileName? path).isSome = true) :
    component path ≠ "" := by
  obtain ⟨name, found⟩ := Option.isSome_iff_exists.mp named
  have nonempty : name ≠ [] := by
    obtain ⟨last, -, -, -⟩ := (Path.fileName?_eq_some_iff path name).mp found
    exact Path.ne_nil_of_mem_components (List.mem_of_getLast? last)
  have parts : component path = String.ofList (underscored name) ∨ ∃ stem, stem ≠ [] ∧
      component path = String.ofList (underscored stem) := by
    rw [component, found, Option.getD_some]
    split
    next stem ending split =>
      by_cases empty : stem.isEmpty = true
      · exact Or.inl (by rw [if_pos empty])
      · exact Or.inr ⟨stem, mt List.isEmpty_iff.mpr empty, by rw [if_neg empty]⟩
    next => exact Or.inl rfl
  have written {text : List Char} (some : text ≠ []) : String.ofList (underscored text) ≠ "" :=
    fun same => underscored_ne_nil some (by simpa using congrArg String.toList same)
  rcases parts with same | ⟨stem, some, same⟩
  · exact same ▸ written nonempty
  · exact same ▸ written some

end Key

/-- A directory that gives the namespace its name has one itself. -/
theorem KeyRules.spaceName_ne_empty {rules : KeyRules} (named : rules.defaultNamespace ≠ "")
    (withinRoot : String) : rules.spaceName withinRoot ≠ "" := by
  unfold spaceName
  dsimp only
  split
  next segment found =>
    have listed := List.mem_of_mem_dropLast (List.mem_of_find?_eq_some found)
    have nonempty : segment ≠ [] := by simpa using (List.mem_filter.mp listed).2
    exact fun same => Key.underscored_ne_nil nonempty (by simpa using congrArg String.toList same)
  next => exact named

/-! ## Accepted texts -/

/-- Settings that fit together have rules for candidates. -/
theorem Settings.exists_acceptance {s : Settings} (valid : s.check = .ok ()) :
    ∃ acceptance, AcceptanceRules.ofSettings s = .ok acceptance := by
  cases read : s.ignoreRegexes with
  | ok ignored => exact ⟨_, by rw [AcceptanceRules.ofSettings, read]; rfl⟩
  | error e =>
    simp only [check, bind_eq_ok_iff, read] at valid
    obtain ⟨_, -, _, -, _, -, _, -, _, -, _, -, _, -, _, -, _, stopped, -⟩ := valid
    cases stopped

/-- An accepted text has a slug by the rules for keys. -/
theorem AcceptanceRules.slug_ne_nil {s : Settings} {acceptance : AcceptanceRules}
    (made : ofSettings s = .ok acceptance) {c : Candidate}
    (accepted : acceptance.candidateRejection? c = none) :
    slug s.slugMaxWords s.slugMaxChars c.text.toList ≠ [] := by
  obtain ⟨ignored, -, rfl⟩ := map_eq_ok_iff.mp made
  intro empty
  simp only [candidateRejection?, rejection?, empty, List.isEmpty_nil, if_true] at accepted
  split_ifs at accepted
  split at accepted <;> cases accepted

/-! ## Keys -/

/-- An entry of a file whose key has the form that the rules give it. -/
structure KeyRules.Forms (rules : KeyRules) (withinRoot : String) (e : Entry) : Prop where
  spaceName_eq : e.spaceName = rules.spaceName withinRoot
  /-- A namespace, the component that the file is, and the slug of the text. -/
  segments : ∃ n ≤ Key.maxSuffix, ∃ last, keySegments e.key =
      [e.spaceName, Key.component withinRoot, last] ∧ IsSlug last.toList ∧ last = Key.suffixed
        (String.ofList (slug rules.slugMaxWords rules.slugMaxChars e.candidate.text.toList)) n
  nonempty : ∀ segment ∈ keySegments e.key, segment ≠ ""
  relative : e.spaceName ++ "." ++ e.relativeKey = e.key

/-- The key of a text that has a slug is formed by the rules. -/
theorem KeyRules.forms_of_slug {rules : KeyRules} (named : rules.defaultNamespace ≠ "")
    (plain : '.' ∉ rules.defaultNamespace.toList) {withinRoot : String} {e : Entry}
    (file : (Path.fileName? withinRoot).isSome = true)
    (nonempty : slug rules.slugMaxWords rules.slugMaxChars e.candidate.text.toList ≠ [])
    (space : e.spaceName = rules.spaceName withinRoot) {n : Nat} (low : n ≤ Key.maxSuffix)
    (key : e.key = Key.suffixed (rules.key withinRoot e.candidate.text) n) :
    rules.Forms withinRoot e := by
  let last := Key.suffixed
    (String.ofList (slug rules.slugMaxWords rules.slugMaxChars e.candidate.text.toList)) n
  have formed : IsSlug last.toList :=
    Key.isSlug_suffixed (by rw [String.toList_ofList]; exact Text.isSlug_slug nonempty) n
  have joined : e.key = e.spaceName ++ "." ++ (Key.component withinRoot ++ "." ++ last) := by
    rw [key, KeyRules.key, Key.suffixed_append, space]
    simp only [String.append_assoc, last]
  have pointless : '.' ∉ last.toList := fun member => absurd (formed.2 _ member) (by decide)
  have segments : keySegments e.key = [e.spaceName, Key.component withinRoot, last] := by
    rw [joined, keySegments_join, keySegments_join, keySegments_of_plain pointless,
      keySegments_of_plain (Key.point_notMem_component withinRoot), space,
      keySegments_of_plain (rules.point_notMem_spaceName plain withinRoot)]
    rfl
  refine {
    spaceName_eq := space
    segments := ⟨n, low, last, segments, formed, rfl⟩
    nonempty := ?_
    relative := ?_ }
  · rw [segments]
    simp only [List.forall_mem_cons, List.not_mem_nil, false_implies, implies_true, and_true]
    refine ⟨space ▸ spaceName_ne_empty named withinRoot, Key.component_ne_empty file, ?_⟩
    rintro empty
    obtain ⟨c, first, -⟩ := formed.1
    rw [empty] at first
    cases first
  · rcases Key.relative_spec e.spaceName e.key with within | ⟨-, apart⟩
    · exact within
    · refine absurd ?_ apart
      rw [joined]
      simp only [String.toList_append, List.append_assoc, List.prefix_append_right_inj,
        List.prefix_append]

/-- With settings that fit together and a default namespace that is one segment, every key that an
accepted text gets has three segments, none of them empty: the namespace, the component, and a slug
that starts with a letter or a digit. The namespace and the relative key make up the key. -/
theorem KeyRules.derive_forms (s : Settings) (valid : s.check = .ok ())
    (named : s.defaultNamespace ≠ "") (plain : '.' ∉ s.defaultNamespace.toList) :
    ∃ acceptance, AcceptanceRules.ofSettings s = .ok acceptance ∧
      ∀ (withinRoot : String) (c : Candidate) (d : Dictionary) (found : Derived),
        (Path.fileName? withinRoot).isSome = true → acceptance.candidateRejection? c = none →
        (ofSettings s).derive withinRoot c d = .ok found →
        (ofSettings s).Forms withinRoot found.entry := by
  obtain ⟨acceptance, made⟩ := Settings.exists_acceptance valid
  refine ⟨acceptance, made, fun withinRoot c d found file accepted returned => ?_⟩
  let call : KeyCall := ⟨ofSettings s, withinRoot, c⟩
  obtain ⟨n, place⟩ := call.derive_found d found returned
  obtain ⟨derivation, -, rfl⟩ := call.exists_derivation d found returned
  exact forms_of_slug named plain file (AcceptanceRules.slug_ne_nil made accepted) rfl
    (Nat.le_of_lt_succ place.high) place.key_eq

/-! A text with accents whose key another text holds. -/

namespace Seen

def candidate : Candidate :=
  ⟨"Déjà vu!", "Déjà vu!", "src/app/wallet/Card.client.tsx", ⟨1, 1⟩, .markupText, none, ""⟩

def dictionary : Dictionary where
  directory := ""
  sourceLocale := "en"
  placeholderPrefix := "?"
  messages := [("en", [("wallet", .object [("Card_client", .object [("deja_vu", .string "Deja vu")])])])]
  styles := []
  pending := []
  dirty := []

end Seen

theorem KeyRules.derive_forms_seen : ∃ found,
    (ofSettings .standard).derive "app/wallet/Card.client.tsx" Seen.candidate Seen.dictionary =
      .ok found ∧
    found.entry.key = "wallet.Card_client.deja_vu_1" ∧
    (ofSettings .standard).Forms "app/wallet/Card.client.tsx" found.entry := by
  obtain ⟨acceptance, made, forms⟩ :=
    derive_forms .standard (by decide) (by decide) (by decide)
  have rules : AcceptanceRules.ofSettings .standard = .ok ⟨2, 120, [], 4, 20⟩ := rfl
  cases made.symm.trans rules
  have key : ((ofSettings .standard).derive "app/wallet/Card.client.tsx" Seen.candidate
      Seen.dictionary).toOption.map (fun found => found.entry.key) =
        some "wallet.Card_client.deja_vu_1" := by
    decide +kernel
  obtain ⟨found, returned, same⟩ := exists_of_map_toOption key
  exact ⟨found, returned, same,
    forms _ _ _ found (by decide +kernel) (by decide +kernel) returned⟩

end Phrasebook
