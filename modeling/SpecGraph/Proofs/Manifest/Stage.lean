import SpecGraph.Proofs.Manifest.Accept

/-!
# What a stage does to the manifests

A stage that does not fail leaves a manifest with the records of what was declared, with their texts joined,
which extends the earlier manifest. A stage that fails leaves its manifest as it was. This holds as long as
the numbers of the manifest can be shown.
-/

namespace SpecGraph

namespace Manifest

variable {bound : Nat} {files later : Files} {outcome : Except Error Unit}

/-- The schema stage accepts schemas whose types are resolved and which extend the earlier ones, and no
others. -/
theorem outcome_schema {root : Path} {groups : Grouped SchemaSpec} {sources : List SchemaSource}
    {olds : List SchemaForm} (isPlain : groups.entries = sources.map SchemaSource.entry)
    (onDisk : OnDisk SchemaRecord "schema" bound files (root.child schemaFile) olds)
    (oldDistinct : (olds.map SchemaForm.address).Nodup)
    (newDistinct : ((sources.map SchemaSource.form).map SchemaForm.address).Nodup)
    (fieldsDistinct : ∀ source ∈ sources, (source.fields.map FieldForm.name).Nodup)
    (shown : bound + 1 < Text.leastUnshown)
    (acted : ((StageRequest.schema groups root).writeManifest false).action files = (outcome, later)) :
    Outcome SchemaRecord "schema" (bound + 1) (root.child schemaFile) files later olds
      (¬(AreResolved (sources.map SchemaSource.form) ∧ AreExtended olds (sources.map SchemaSource.form)) ∨
        (∃ error, loaded files (root.child schemaFile) = .error error) ∨
        opened? files (root.child schemaFile) = none)
      (fun news => news = (sources.map SchemaSource.form).map SchemaForm.joined ∧
        AreResolved (sources.map SchemaSource.form) ∧ AreExtended olds (sources.map SchemaSource.form))
      outcome := by
  have onDiskMore := onDisk.mono (Nat.le_succ bound) fun record => record.mono (Nat.le_succ bound)
  rw [StageRequest.action_writeManifest, StageRequest.plan, isPlain] at acted
  cases isLoaded : loaded files (root.child schemaFile) with
  | error error =>
      rw [isLoaded] at acted
      cases acted
      exact .kept (Or.inr (Or.inl ⟨_, rfl⟩)) onDiskMore rfl
  | ok previous =>
      rw [isLoaded] at acted
      change Job.carryOut (planSchemas false _ _) _ _ = _ at acted
      rcases planSchemas_of_sources (onDisk.earlier isLoaded) oldDistinct newDistinct fieldsDistinct with
        ⟨resolved, extended, version, items, planned, small, records⟩ | ⟨refused, error, planned⟩
      · rw [planned] at acted
        change (store (root.child schemaFile) (compose "schema" version items)).action files = _ at acted
        have stored := stored_action (root.child schemaFile) (compose "schema" version items) files
        rw [acted] at stored
        have ended := onDiskMore.stored ((sources.map SchemaSource.form).map SchemaForm.joined)
          (Json.areKeys_of_subset (by decide) (by decide)) small shown ?_ ?_ stored
        · refine ended.imp (fun isClosed => Or.inr (Or.inr isClosed)) ?_
          rintro news rfl
          exact ⟨rfl, resolved, extended⟩
        · intro item itemMem
          obtain ⟨source, _, fields, own, rfl, ownSmall, versions⟩ :=
            Json.forall₂_exists_of_mem records itemMem
          exact source.isTree_record shown versions ownSmall
        · rw [List.map_map, List.forall₂_map_right_iff]
          refine records.imp ?_
          rintro item source ⟨fields, own, rfl, ownSmall, versions⟩
          exact source.reread_record layout versions ownSmall
      · rw [planned] at acted
        cases acted
        exact .kept (Or.inl refused) onDiskMore rfl

/-- The schemas that a stage finds are those of the manifest of schemas. -/
theorem schemasIn_of_recorded {path : Path} {schemas : List SchemaForm} {manifest : Data}
    (recorded : Recorded SchemaRecord "schema" bound manifest schemas)
    (distinct : (schemas.map SchemaForm.address).Nodup) :
    ∃ entries : List (Data × SchemaForm), entries.map Prod.snd = schemas ∧
      (∀ entry ∈ entries, SchemaForm.of? entry.1 = some entry.2) ∧
      schemasIn path (some manifest) = .ok (Table.textual (byAddress SchemaForm.address entries)) := by
  obtain ⟨items, there, _⟩ := recorded.records
  obtain ⟨entries, areSchemas, records, indexed⟩ := index_of_entries SchemaForm.address
    SchemaRecord.address (show EntriesIn (SchemaRecord bound) "schema" (some manifest) schemas from
      recorded.records) distinct
  rw [orEmpty, if_pos (isTruthy_of_get? there)] at indexed
  refine ⟨entries, areSchemas, fun entry entryMem => (records entry entryMem).shows, ?_⟩
  rw [schemasIn, indexed]
  rfl

namespace Numbered.Reading

variable {α σ Form : Type} {kind : Numbered α} (reading : kind.Reading σ Form)

/-- Declarations refer to schemas as they have to, and keep the earlier ones. -/
def Accepts (schemas : List SchemaForm) (olds : List (Form × Int)) (sources : List σ) : Prop :=
  (∀ source ∈ sources, reading.ResolvedIn schemas (reading.form source)) ∧
    ∀ old ∈ olds, old.1 ∈ sources.map reading.form

/-- A stage accepts declarations that refer to the schemas on disk as they have to and keep the earlier
ones, and no others. -/
theorem outcome_numbered {request : StageRequest} {schemaPath : Path} {entries : List (Entry α)}
    {sources : List σ} {schemas : List SchemaForm} {olds : List (Form × Int)}
    (isPlain : entries = sources.map reading.entry) (isMember : request.member = kind.section_)
    (isPlan : request.plan false files = do
      let schemas ← loaded files schemaPath >>= schemasIn schemaPath
      let previous ← loaded files request.file
      kind.plan false schemas entries previous)
    (schemasOnDisk : OnDisk SchemaRecord "schema" bound files schemaPath schemas)
    (schemasDistinct : (schemas.map SchemaForm.address).Nodup)
    (onDisk : OnDisk (NumberedRecord reading.of?) kind.section_ bound files request.file olds)
    (oldDistinct : (olds.map fun old => reading.address old.1).Nodup)
    (newDistinct : (sources.map fun source => reading.address (reading.form source)).Nodup)
    (shown : bound + (1 + sources.length) < Text.leastUnshown)
    (acted : (request.writeManifest false).action files = (outcome, later)) :
    Outcome (NumberedRecord reading.of?) kind.section_ (bound + (1 + sources.length)) request.file files
      later olds
      (¬reading.Accepts schemas olds sources ∨ (∃ error, loaded files schemaPath = .error error) ∨
        loaded files schemaPath = .ok none ∨ (∃ error, loaded files request.file = .error error) ∨
        opened? files request.file = none)
      (fun news => reading.Accepts schemas olds sources ∧ files.textAt? schemaPath.place ≠ none ∧
        ∃ numbered : List (σ × Int), numbered.map Prod.fst = sources ∧
          news = numbered.map (fun pair => (reading.joined (reading.form pair.1), pair.2)) ∧
          ∀ pair ∈ numbered, ∀ old ∈ olds,
            reading.address old.1 = reading.address (reading.form pair.1) → old.2 = pair.2)
      outcome := by
  have more : bound ≤ bound + (1 + sources.length) := Nat.le_add_right _ _
  have onDiskMore := onDisk.mono more fun record => record.mono more
  rw [StageRequest.action_writeManifest, isPlan, isPlain] at acted
  cases schemasLoaded : loaded files schemaPath with
  | error error =>
      rw [schemasLoaded] at acted
      cases acted
      exact .kept (Or.inr (Or.inl ⟨_, rfl⟩)) onDiskMore rfl
  | ok found =>
      cases found with
      | none =>
          rw [schemasLoaded] at acted
          cases acted
          exact .kept (Or.inr (Or.inr (Or.inl rfl))) onDiskMore rfl
      | some manifest =>
          obtain ⟨table, rfl, shows, isTable⟩ :=
            schemasIn_of_recorded (schemasOnDisk.earlier schemasLoaded) schemasDistinct
          have isThere : files.textAt? schemaPath.place ≠ none := fun noText => by
            cases loaded_of_absent noText schemasLoaded
          rw [schemasLoaded, ok_bind, isTable, ok_bind] at acted
          cases isLoaded : loaded files request.file with
          | error error =>
              rw [isLoaded] at acted
              cases acted
              exact .kept (Or.inr (Or.inr (Or.inr (Or.inl ⟨_, rfl⟩)))) onDiskMore rfl
          | ok previous =>
              rw [isLoaded, ok_bind] at acted
              rcases reading.plan_of_sources shows (by rwa [List.map_map] at schemasDistinct)
                (onDisk.earlier isLoaded) oldDistinct newDistinct with
                ⟨resolved, kept, version, numbered, planned, small, rfl, numbers⟩ | ⟨refused, error, planned⟩
              · rw [planned] at acted
                have inBound (pair : σ × Int) (pairMem : pair ∈ numbered) : 0 ≤ pair.2 ∧
                    pair.2 ≤ (bound + (1 + (numbered.map Prod.fst).length) : Nat) := by
                  have number := (numbers pair pairMem).1
                  omega
                have stored := stored_action request.file (compose request.member version
                  (numbered.map fun pair => reading.record pair.1 pair.2)) files
                change (store request.file (compose request.member version _)).action files = _ at acted
                rw [acted, isMember] at stored
                have ended := onDiskMore.stored
                  (numbered.map fun pair => (reading.joined (reading.form pair.1), pair.2))
                  reading.keys (by omega) shown ?_ ?_ stored
                · refine ended.imp (fun isClosed => Or.inr (Or.inr (Or.inr (Or.inr isClosed)))) ?_
                  rintro news rfl
                  exact ⟨⟨resolved, kept⟩, isThere, numbered, rfl, rfl,
                    fun pair pairMem => (numbers pair pairMem).2⟩
                · rw [List.forall_mem_map]
                  exact fun pair pairMem => reading.isTree shown pair.1 (inBound pair pairMem)
                · rw [List.forall₂_map_left_iff, List.forall₂_map_right_iff]
                  exact List.forall₂_same.mpr fun pair pairMem =>
                    reading.reread pair.1 (inBound pair pairMem)
              · rw [planned] at acted
                cases acted
                exact .kept (Or.inl refused) onDiskMore rfl

end Numbered.Reading

end Manifest

end SpecGraph
