import Phrasebook.Proofs.Manifest.Reloading
import Phrasebook.Report.Record

/-!
# Reports that are read back

A report is written as a record of counts, texts, lists, tables and further records. Each of these
is read back from what is written for it, if its counts fit 64 bits and its tables are in order, and
whatever is read has such counts and tables. So the text of a report is read as the report.
-/

namespace Phrasebook

namespace Json

/-! ## What is written and read alike -/

/-- A number that fits 64 bits. -/
def IsCount (n : Nat) : Prop := n ≤ maxWord

instance : DecidablePred IsCount := fun n => inferInstanceAs (Decidable (n ≤ maxWord))

/-- A value with no other numbers than a text can denote. -/
def WasRead (j : Json) : Prop := ∃ depth, Nests IsRegular depth j

theorem wasRead_of_readWritten {text : List Char} {j : Json} (whole : readWritten text = .ok j) :
    WasRead j := by
  obtain ⟨⟨value, rest⟩, front, same⟩ := bind_eq_ok_iff.mp whole
  dsimp only at same
  split at same
  next =>
    cases same
    exact ⟨_, (writtenValue_nests unsigned_yields deepest _ _ _ front).2⟩
  next => cases same

/-- Every value of a kind is read back from what is written for it, which nests only so deep, and
what is read is of the kind. -/
structure Codec (kind : α → Prop) (decode : Decoder α) (encode : α → Json) (depth : Nat) :
    Prop where
  decode_encode : ∀ a, kind a → decode (encode a) = some a
  nests : ∀ a, kind a → Nests IsWord depth (encode a)
  sound : ∀ j a, WasRead j → decode j = some a → kind a

/-- The values of a table in order are of a kind. -/
structure TableHolds (kind : α → Prop) (table : Table α) : Prop where
  ordered : Table.IsOrdered table
  inside : ∀ binding ∈ table, kind binding.2

namespace Codec

variable {kind : α → Prop} {decode : Decoder α} {encode : α → Json} {depth : Nat}

theorem natural : Codec IsCount natural? ofNat 0 where
  decode_encode _ _ := rfl
  nests n count := .number 0 _ ⟨n, count, rfl⟩
  sound j n read found := by
    obtain ⟨depth, nests⟩ := read
    cases nests with
    | number _ number regular =>
      cases number with
      | natural m =>
        cases found
        exact regular
      | _ => cases found
    | _ => cases found

theorem string : Codec (fun _ => True) string? Json.string 0 where
  decode_encode _ _ := rfl
  nests s _ := .string 0 s
  sound _ _ _ _ := trivial

theorem list (codec : Codec kind decode encode depth) :
    Codec (fun items => ∀ a ∈ items, kind a) (listOf? decode)
      (fun items => .array (items.map encode)) (depth + 1) where
  decode_encode items inside := by
    refine mapM_eq_some_iff.mpr (List.forall₂_map_left_iff.mpr (List.forall₂_same.mpr ?_))
    exact fun a member => codec.decode_encode a (inside a member)
  nests items inside := .array depth _ (List.forall_mem_map.mpr fun a member =>
    codec.nests a (inside a member))
  sound j items read found := by
    obtain ⟨depth, nests⟩ := read
    cases nests with
    | array _ values inside =>
      intro a member
      obtain ⟨value, listed, here⟩ := exists_of_mem_mapM found member
      exact codec.sound value a ⟨_, inside value listed⟩ here
    | _ => cases found

theorem strings : Codec (fun items => ∀ s ∈ items, True) strings? ofStrings 1 := string.list

theorem table (codec : Codec kind decode encode depth) :
    Codec (TableHolds kind) (tableOf? decode) (tableJson encode) (depth + 1) where
  decode_encode table holds := by
    have members : (table.map fun entry => (entry.1, encode entry.2)).mapM (fun member =>
        (decode member.2).map fun a => (member.1, a)) = some table := by
      refine mapM_eq_some_iff.mpr (List.forall₂_map_left_iff.mpr (List.forall₂_same.mpr ?_))
      intro entry member
      rw [codec.decode_encode entry.2 (holds.inside entry member), Option.map_some]
    rw [tableJson, tableOf?, members, Option.map_some, Table.ofList_of_isOrdered holds.ordered]
  nests table holds := .object depth _ (List.forall_mem_map.mpr fun entry member =>
    codec.nests entry.2 (holds.inside entry member))
  sound j table read found := by
    obtain ⟨depth, nests⟩ := read
    cases nests with
    | object _ members inside =>
      obtain ⟨bindings, listed, rfl⟩ := Option.map_eq_some_iff.mp found
      refine ⟨Table.isOrdered_ofList bindings, fun binding bound => ?_⟩
      obtain ⟨member, known, here⟩ := exists_of_mem_mapM listed (Table.mem_of_mem_ofList bound)
      obtain ⟨a, decoded, rfl⟩ := Option.map_eq_some_iff.mp here
      exact codec.sound member.2 a ⟨_, inside member known⟩ decoded
    | _ => cases found

/-! A record is read field by field. -/

/-- The fields of an object that was read were read with it. -/
theorem wasRead_objectField {names : List String} {j : Json} {field : String → Option Json}
    (read : WasRead j) (found : objectFields? names j = some field) (name : String) :
    ∀ item, field name = some item → WasRead item := by
  intro item here
  obtain ⟨depth, nests⟩ := read
  cases nests with
  | object _ members inside =>
    simp only [objectFields?] at found
    split at found
    next =>
      cases found
      exact ⟨_, inside _ (Table.mem_of_get? here)⟩
    next => cases found
  | _ => cases found

/-- The fields of a record that was read were read with it. -/
theorem wasRead_field {names : List String} {j : Json} {field : String → Option Json}
    (read : WasRead j) (found : recordFields? names j = some field) (name : String) :
    ∀ item, field name = some item → WasRead item := by
  unfold recordFields? at found
  split at found
  next items =>
    intro item here
    obtain ⟨depth, nests⟩ := read
    split at found
    next => cases found
    next =>
      cases found
      cases nests with
      | array _ _ inside => exact ⟨_, inside item (List.of_mem_zip (Table.mem_of_get? here)).2⟩
  next => exact wasRead_objectField read found name

theorem sound_field (codec : Codec kind decode encode depth) {field : Option Json} {a : α}
    (read : ∀ item, field = some item → WasRead item) (found : field? decode field = some a) :
    kind a := by
  obtain ⟨item, here, decoded⟩ := Option.bind_eq_some_iff.mp found
  exact codec.sound item a (read item here) decoded

/-! A part that may be missing is left out of a record. -/

theorem decode_part (codec : Codec kind decode encode depth) {part : Option α}
    (proper : ∀ a ∈ part, kind a) (some : ∀ a, encode a ≠ .null) :
    fieldOr none (orNull? decode) (part.map encode) = .some part := by
  cases part with
  | none => rfl
  | some a =>
    rw [Option.map_some, fieldOr, orNull?, codec.decode_encode a (proper a rfl), Option.map_some]
    exact some a

theorem sound_part (codec : Codec kind decode encode depth) {field : Option Json} {part : Option α}
    (read : ∀ item, field = some item → WasRead item)
    (found : fieldOr none (orNull? decode) field = some part) : ∀ a ∈ part, kind a := by
  cases field with
  | none =>
    cases found
    nofun
  | some item =>
    rw [fieldOr] at found
    unfold orNull? at found
    split at found
    next =>
      cases found
      nofun
    next =>
      obtain ⟨a, decoded, rfl⟩ := Option.map_eq_some_iff.mp found
      rintro _ ⟨⟩
      exact codec.sound item a (read item rfl) decoded

end Codec

end Json

open Json

/-! ## The parts of a report -/

theorem FailureRecord.codec : Codec (fun _ => True) ofJson? toJson 1 where
  decode_encode _ _ := rfl
  nests f _ := by
    refine .object 0 _ ?_
    simp only [List.forall_mem_cons]
    exact ⟨.string .., .string .., .string .., nofun⟩
  sound _ _ _ _ := trivial

/-- Counts that fit 64 bits. -/
structure FileCounts.IsProper (c : FileCounts) : Prop where
  candidates : IsCount c.candidates
  alreadyTranslated : IsCount c.alreadyTranslated
  newlyExtracted : IsCount c.newlyExtracted

theorem FileCounts.codec : Codec IsProper ofJson? toJson 1 where
  decode_encode _ _ := rfl
  nests c proper := by
    have count := Codec.natural.nests
    refine .object 0 _ ?_
    simp only [List.forall_mem_cons]
    exact ⟨count _ proper.candidates, count _ proper.alreadyTranslated,
      count _ proper.newlyExtracted, nofun⟩
  sound j c read found := by
    obtain ⟨field, fields, found⟩ := Option.bind_eq_some_iff.mp found
    have inside := Codec.wasRead_field read fields
    simp only [Option.bind_eq_bind, Option.bind_eq_some_iff, Option.pure_def,
      Option.some.injEq] at found
    obtain ⟨_, candidates, _, alreadyTranslated, _, newlyExtracted, rfl⟩ := found
    exact ⟨Codec.natural.sound_field (inside _) candidates,
      Codec.natural.sound_field (inside _) alreadyTranslated,
      Codec.natural.sound_field (inside _) newlyExtracted⟩

/-- Counts that fit 64 bits. -/
structure PropagationCounts.IsProper (c : PropagationCounts) : Prop where
  inserted : IsCount c.inserted
  refreshed : IsCount c.refreshed
  preserved : IsCount c.preserved
  conflicts : IsCount c.conflicts

theorem PropagationCounts.codec : Codec IsProper ofJson? toJson 1 where
  decode_encode _ _ := rfl
  nests c proper := by
    have count := Codec.natural.nests
    refine .object 0 _ ?_
    simp only [List.forall_mem_cons]
    exact ⟨count _ proper.inserted, count _ proper.refreshed, count _ proper.preserved,
      count _ proper.conflicts, nofun⟩
  sound j c read found := by
    obtain ⟨field, fields, found⟩ := Option.bind_eq_some_iff.mp found
    have inside := Codec.wasRead_field read fields
    simp only [Option.bind_eq_bind, Option.bind_eq_some_iff, Option.pure_def,
      Option.some.injEq] at found
    obtain ⟨_, inserted, _, refreshed, _, preserved, _, conflicts, rfl⟩ := found
    exact ⟨Codec.natural.sound_field (inside _) inserted,
      Codec.natural.sound_field (inside _) refreshed,
      Codec.natural.sound_field (inside _) preserved,
      Codec.natural.sound_field (inside _) conflicts⟩

theorem SkipReason.ofTag?_tag (reason : SkipReason) : ofTag? reason.tag = some reason := by
  cases reason <;> rfl

/-- A place whose line and column fit 64 bits. -/
structure Skip.IsProper (s : Skip) : Prop where
  line : IsCount s.position.line
  column : IsCount s.position.column

theorem Skip.codec : Codec IsProper ofJson? toJson 1 where
  decode_encode s _ := by
    have fields : ofJson? s.toJson = (SkipReason.ofTag? s.reason.tag).bind fun reason =>
        some { s with reason } := rfl
    rw [fields, SkipReason.ofTag?_tag, Option.bind_some]
  nests s proper := by
    have count := Codec.natural.nests
    refine .object 0 _ ?_
    simp only [List.forall_mem_cons]
    exact ⟨.string .., count _ proper.line, count _ proper.column, .string .., .string ..,
      .string .., nofun⟩
  sound j s read found := by
    obtain ⟨field, fields, found⟩ := Option.bind_eq_some_iff.mp found
    have inside := Codec.wasRead_field read fields
    simp only [Option.bind_eq_bind, Option.bind_eq_some_iff, Option.pure_def,
      Option.some.injEq] at found
    obtain ⟨_, -, _, line, _, column, _, -, _, -, _, -, rfl⟩ := found
    exact ⟨Codec.natural.sound_field (inside _) line, Codec.natural.sound_field (inside _) column⟩

/-! ## What runs report -/

/-- Counts that fit 64 bits, and tables in order. -/
structure ExtractionReport.IsProper (r : ExtractionReport) : Prop where
  filesScanned : IsCount r.filesScanned
  candidatesFound : IsCount r.candidatesFound
  rejected : TableHolds IsCount r.rejected
  alreadyTranslated : IsCount r.alreadyTranslated
  reused : IsCount r.reused
  newlyExtracted : IsCount r.newlyExtracted
  collisionsResolved : IsCount r.collisionsResolved
  propagation : r.propagation.IsProper
  byNamespace : TableHolds IsCount r.byNamespace
  byFile : TableHolds FileCounts.IsProper r.byFile

theorem ExtractionReport.codec : Codec IsProper ofJson? toJson 3 where
  decode_encode r proper := by
    have failures (failed : List FailureRecord) :=
      FailureRecord.codec.list.decode_encode failed fun _ _ => trivial
    have names (listed : List String) := Codec.strings.decode_encode listed fun _ _ => trivial
    -- The counts are found as they stand; lists, tables and records are read.
    have fields : ofJson? r.toJson =
      (listOf? FailureRecord.ofJson? (.array (r.parseFailures.map FailureRecord.toJson))).bind
        fun parseFailures => (tableOf? natural? (tableJson .ofNat r.rejected)).bind
        fun rejected => (listOf? FailureRecord.ofJson?
          (.array (r.keyFailures.map FailureRecord.toJson))).bind
        fun keyFailures => (PropagationCounts.ofJson? r.propagation.toJson).bind
        fun propagation => (strings? (.ofStrings r.localesWritten)).bind
        fun localesWritten => (listOf? FailureRecord.ofJson?
          (.array (r.localeFailures.map FailureRecord.toJson))).bind
        fun localeFailures => (tableOf? natural? (tableJson .ofNat r.byNamespace)).bind
        fun byNamespace => (tableOf? FileCounts.ofJson? (tableJson FileCounts.toJson r.byFile)).bind
        fun byFile => (strings? (.ofStrings r.notProcessed)).bind
        fun notProcessed => some { r with
          parseFailures, rejected, keyFailures, propagation, localesWritten, localeFailures,
          byNamespace, byFile, notProcessed } := rfl
    rw [fields]
    simp only [failures, names, Option.bind_some,
      Codec.natural.table.decode_encode _ proper.rejected,
      Codec.natural.table.decode_encode _ proper.byNamespace,
      FileCounts.codec.table.decode_encode _ proper.byFile,
      PropagationCounts.codec.decode_encode _ proper.propagation]
  nests r proper := by
    have count (n : Nat) (count : IsCount n) : Nests IsWord 2 (.ofNat n) :=
      (Codec.natural.nests n count).mono (by decide)
    have failures (failed : List FailureRecord) :=
      FailureRecord.codec.list.nests failed fun _ _ => trivial
    have names (listed : List String) : Nests IsWord 2 (.ofStrings listed) :=
      (Codec.strings.nests listed fun _ _ => trivial).mono (by decide)
    have table (counts : Table Nat) (holds : TableHolds IsCount counts) :
        Nests IsWord 2 (tableJson .ofNat counts) :=
      (Codec.natural.table.nests counts holds).mono (by decide)
    refine .object 2 _ ?_
    simp only [List.forall_mem_cons]
    exact ⟨count _ proper.filesScanned, failures _, count _ proper.candidatesFound,
      table _ proper.rejected, count _ proper.alreadyTranslated, count _ proper.reused,
      count _ proper.newlyExtracted, count _ proper.collisionsResolved, failures _,
      (PropagationCounts.codec.nests _ proper.propagation).mono (by decide), names _, failures _,
      table _ proper.byNamespace, FileCounts.codec.table.nests _ proper.byFile, names _, nofun⟩
  sound j r read found := by
    obtain ⟨field, fields, found⟩ := Option.bind_eq_some_iff.mp found
    have inside := Codec.wasRead_field read fields
    have count {name n} := @Codec.sound_field _ _ _ _ _ Codec.natural (field name) n (inside name)
    obtain ⟨_, filesScanned, found⟩ := Option.bind_eq_some_iff.mp found
    obtain ⟨_, -, found⟩ := Option.bind_eq_some_iff.mp found
    obtain ⟨_, candidatesFound, found⟩ := Option.bind_eq_some_iff.mp found
    obtain ⟨_, rejected, found⟩ := Option.bind_eq_some_iff.mp found
    obtain ⟨_, alreadyTranslated, found⟩ := Option.bind_eq_some_iff.mp found
    obtain ⟨_, reused, found⟩ := Option.bind_eq_some_iff.mp found
    obtain ⟨_, newlyExtracted, found⟩ := Option.bind_eq_some_iff.mp found
    obtain ⟨_, collisionsResolved, found⟩ := Option.bind_eq_some_iff.mp found
    obtain ⟨_, -, found⟩ := Option.bind_eq_some_iff.mp found
    obtain ⟨_, propagation, found⟩ := Option.bind_eq_some_iff.mp found
    obtain ⟨_, -, found⟩ := Option.bind_eq_some_iff.mp found
    obtain ⟨_, -, found⟩ := Option.bind_eq_some_iff.mp found
    obtain ⟨_, byNamespace, found⟩ := Option.bind_eq_some_iff.mp found
    obtain ⟨_, byFile, found⟩ := Option.bind_eq_some_iff.mp found
    obtain ⟨_, -, found⟩ := Option.bind_eq_some_iff.mp found
    cases found
    exact ⟨count filesScanned, count candidatesFound,
      Codec.natural.table.sound_field (inside _) rejected, count alreadyTranslated, count reused,
      count newlyExtracted, count collisionsResolved,
      PropagationCounts.codec.sound_field (inside _) propagation,
      Codec.natural.table.sound_field (inside _) byNamespace,
      FileCounts.codec.table.sound_field (inside _) byFile⟩

/-- Counts and places that fit 64 bits. -/
structure ReplacementReport.IsProper (r : ReplacementReport) : Prop where
  filesUnchanged : IsCount r.filesUnchanged
  replacementsApplied : IsCount r.replacementsApplied
  skipped : ∀ s ∈ r.skipped, s.IsProper
  importsAdded : IsCount r.importsAdded
  accessorsAdded : IsCount r.accessorsAdded

theorem ReplacementReport.codec : Codec IsProper ofJson? toJson 3 where
  decode_encode r proper := by
    have names (listed : List String) := Codec.strings.decode_encode listed fun _ _ => trivial
    have failures := FailureRecord.codec.list.decode_encode r.filesFailed fun _ _ => trivial
    have fields : ofJson? r.toJson =
      (strings? (.ofStrings r.filesRewritten)).bind
        fun filesRewritten => (listOf? FailureRecord.ofJson?
          (.array (r.filesFailed.map FailureRecord.toJson))).bind
        fun filesFailed => (listOf? Skip.ofJson? (.array (r.skipped.map Skip.toJson))).bind
        fun skipped => (strings? (.ofStrings r.notProcessed)).bind
        fun notProcessed => some { r with
          filesRewritten, filesFailed, skipped, notProcessed } := rfl
    rw [fields]
    simp only [names, failures, Skip.codec.list.decode_encode _ proper.skipped, Option.bind_some]
  nests r proper := by
    have count (n : Nat) (count : IsCount n) : Nests IsWord 2 (.ofNat n) :=
      (Codec.natural.nests n count).mono (by decide)
    have names (listed : List String) : Nests IsWord 2 (.ofStrings listed) :=
      (Codec.strings.nests listed fun _ _ => trivial).mono (by decide)
    refine .object 2 _ ?_
    simp only [List.forall_mem_cons]
    exact ⟨names _, count _ proper.filesUnchanged,
      FailureRecord.codec.list.nests r.filesFailed fun _ _ => trivial,
      count _ proper.replacementsApplied, Skip.codec.list.nests _ proper.skipped,
      count _ proper.importsAdded, count _ proper.accessorsAdded, names _, nofun⟩
  sound j r read found := by
    obtain ⟨field, fields, found⟩ := Option.bind_eq_some_iff.mp found
    have inside := Codec.wasRead_field read fields
    have count {name n} := @Codec.sound_field _ _ _ _ _ Codec.natural (field name) n (inside name)
    obtain ⟨_, -, found⟩ := Option.bind_eq_some_iff.mp found
    obtain ⟨_, filesUnchanged, found⟩ := Option.bind_eq_some_iff.mp found
    obtain ⟨_, -, found⟩ := Option.bind_eq_some_iff.mp found
    obtain ⟨_, replacementsApplied, found⟩ := Option.bind_eq_some_iff.mp found
    obtain ⟨_, skipped, found⟩ := Option.bind_eq_some_iff.mp found
    obtain ⟨_, importsAdded, found⟩ := Option.bind_eq_some_iff.mp found
    obtain ⟨_, accessorsAdded, found⟩ := Option.bind_eq_some_iff.mp found
    obtain ⟨_, -, found⟩ := Option.bind_eq_some_iff.mp found
    cases found
    exact ⟨count filesUnchanged, count replacementsApplied,
      Skip.codec.list.sound_field (inside _) skipped, count importsAdded, count accessorsAdded⟩

/-- Reports of runs that are proper. -/
structure RunReport.IsProper (r : RunReport) : Prop where
  extraction : ∀ e ∈ r.extraction, e.IsProper
  replacement : ∀ e ∈ r.replacement, e.IsProper

namespace RunReport

theorem codec : Codec IsProper ofJson? toJson 4 where
  decode_encode r proper := by
    have fields : ofJson? r.toJson =
        (fieldOr none (orNull? ExtractionReport.ofJson?)
          (r.extraction.map ExtractionReport.toJson)).bind fun extraction =>
        (fieldOr none (orNull? ReplacementReport.ofJson?)
          (r.replacement.map ReplacementReport.toJson)).bind fun replacement =>
        some { r with extraction, replacement } := by
      obtain ⟨generatedAt, dryRun, extraction, replacement⟩ := r
      cases extraction <;> cases replacement <;> rfl
    rw [fields, ExtractionReport.codec.decode_part proper.extraction nofun, Option.bind_some,
      ReplacementReport.codec.decode_part proper.replacement nofun, Option.bind_some]
  nests r proper := by
    refine .object 3 _ fun member listed => ?_
    simp only [List.mem_append, List.mem_cons, List.not_mem_nil, or_false, Option.mem_toList,
      Option.map_eq_some_iff] at listed
    rcases listed with ((rfl | rfl) | ⟨e, here, rfl⟩) | ⟨e, here, rfl⟩
    · exact .string 3 _
    · exact .bool 3 _
    · exact ExtractionReport.codec.nests e (proper.extraction e here)
    · exact ReplacementReport.codec.nests e (proper.replacement e here)
  sound j r read found := by
    obtain ⟨field, fields, found⟩ := Option.bind_eq_some_iff.mp found
    have inside := Codec.wasRead_field read fields
    obtain ⟨_, -, found⟩ := Option.bind_eq_some_iff.mp found
    obtain ⟨_, -, found⟩ := Option.bind_eq_some_iff.mp found
    obtain ⟨_, extraction, found⟩ := Option.bind_eq_some_iff.mp found
    obtain ⟨_, replacement, found⟩ := Option.bind_eq_some_iff.mp found
    cases found
    exact ⟨ExtractionReport.codec.sound_part (inside _) extraction,
      ReplacementReport.codec.sound_part (inside _) replacement⟩

/-! ## Texts -/

/-- The text of a report is read as the report. -/
theorem IsProper.ofText?_text {r : RunReport} (proper : r.IsProper) : ofText? r.text = some r := by
  have nests : Nests IsWord deepest r.toJson := (codec.nests r proper).mono (by decide)
  have blank : Layout.standard.IsBlank := by
    simp [Layout.IsBlank, Layout.standard, isBlank]
  have line : ∀ c ∈ ['\n'], isBlank c = true := List.forall_mem_singleton.mpr rfl
  have whole : readWritten r.text.toList = .ok r.toJson := by
    rw [text, String.toList_append, pretty, String.toList_ofList]
    exact (readWritten_pretty blank read_of_isWord nests ['\n'] line).trans
      (congrArg Except.ok (nests.mapNumbers_eq fun _ _ => rfl))
  rw [ofText?, whole]
  exact codec.decode_encode r proper

/-- What is read from a text is a proper report. -/
theorem isProper_of_ofText? {text : String} {r : RunReport} (found : ofText? text = some r) :
    r.IsProper := by
  rw [ofText?] at found
  split at found
  next j whole => exact codec.sound j r (wasRead_of_readWritten whole) found
  next => cases found

end RunReport

/-! ## Manifests -/

theorem Entry.codec : Codec HasWords ofJson? (fun e => .object e.members) 1 where
  decode_encode e _ := e.ofJson?_members
  nests e words := words.nests 0
  sound j e read found := by
    obtain ⟨field, fields, found⟩ := Option.bind_eq_some_iff.mp found
    have inside := Codec.wasRead_objectField read fields
    simp only [Option.bind_eq_bind, Option.bind_eq_some_iff, Option.pure_def,
      Option.some.injEq] at found
    obtain ⟨_, -, _, -, _, -, _, line, _, column, _, -, _, -, _, -, _, -, _, -, _, -, rfl⟩ := found
    exact ⟨Nat.lt_succ_of_le (Codec.natural.sound_field (inside _) line),
      Nat.lt_succ_of_le (Codec.natural.sound_field (inside _) column)⟩

/-- The lines and columns of a manifest that was read fit 64 bits. -/
theorem Manifest.hasWords_of_ofText? {text : String} {m : Manifest} (found : ofText? text = some m) :
    ∀ e ∈ m.entries, e.HasWords := by
  rw [ofText?] at found
  split at found
  next j whole =>
    obtain ⟨entries, listed, rfl⟩ := Option.map_eq_some_iff.mp found
    have sound := Entry.codec.list.sound j entries (wasRead_of_readWritten whole) listed
    exact fun e member => sound e ((perm_ofEntries entries).mem_iff.mp member)
  next => cases found

end Phrasebook
