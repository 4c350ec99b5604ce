import SpecGraph.Proofs.Manifest.Again
import SpecGraph.Proofs.Manifest.Series

/-!
# How versions count

The first manifest has the version one. The next one has the version of the manifest before it if the same is declared
up to the order, and one more otherwise, whether or not breaking changes are allowed.
-/

namespace SpecGraph

namespace Manifest

open Json (AreKeys)

/-- A version follows another one: it is the same where nothing is different, and one more otherwise. -/
structure Follows (same : Prop) (version next : Int) : Prop where
  /-- The version stays. -/
  stays : same → next = version
  /-- The version grows. -/
  grows : ¬same → next = version + 1

theorem Follows.congr {same other : Prop} {version next : Int} (follows : Follows same version next)
    (iff : same ↔ other) : Follows other version next :=
  ⟨fun holds => follows.stays (iff.mpr holds), fun fails => follows.grows fun holds => fails (iff.mp holds)⟩

theorem Follows.le {same : Prop} {version next : Int} (follows : Follows same version next) : version ≤ next := by
  by_cases holds : same
  · exact (follows.stays holds).ge
  · have := follows.grows holds
    omega

/-- The next version follows the one that is found. -/
theorem follows_of_nextVersion {section_ : String} (keys : AreKeys ["version", section_]) {version next : Int}
    {items : List Data} {changes : List Change}
    (isNext : nextVersion (some (Json.reread layout (compose section_ version items))) changes = .ok next) :
    Follows (changes = []) version next := by
  rw [nextVersion_reread keys] at isNext
  cases isNext
  refine ⟨fun none => ?_, fun some_ => ?_⟩
  · rw [none]
    rfl
  · rw [List.isEmpty_eq_false_iff.mpr some_]
    rfl

section Schemas

variable {levels : Nat} {pairs : List (Data × SchemaSource)} {news : List SchemaSource} {allowBreaking : Bool}
  {version next : Int} {items : List Data}

theorem version_of_first_planSchemas {entries : List (Entry SchemaSpec)}
    (planned : planSchemas allowBreaking entries none = .ok (version, items)) : version = 1 := by
  rcases exists_versions planned with ⟨_, _, _, isVersion, _⟩
  cases isVersion
  rfl

/-- The version of a plan for schemas follows the one of the manifest that is found. -/
theorem follows_of_planSchemas (settled : ∀ pair ∈ pairs, pair.2.form.joined = pair.2.form)
    (distinct : (pairs.map fun pair => pair.2.form.address).Nodup)
    (fieldsDistinct : ∀ pair ∈ pairs, (pair.2.fields.map FieldForm.name).Nodup)
    (versioned : ∀ pair ∈ pairs, IsVersionedSchema levels pair.1 pair.2.entry)
    (newDistinct : (news.map fun source => source.form.address).Nodup)
    (newFields : ∀ source ∈ news, (source.fields.map FieldForm.name).Nodup)
    (planned : planSchemas allowBreaking (news.map SchemaSource.entry)
      (some (Json.reread layout (compose "schema" version (pairs.map Prod.fst)))) = .ok (next, items)) :
    Follows ((pairs.map fun pair => pair.2.form).Perm (news.map SchemaSource.form)) version next := by
  have keys : AreKeys ["version", "schema"] := Json.areKeys_of_subset (by decide) (by decide)
  rcases exists_versions planned with ⟨changes, _, compared, isNext, _⟩
  rcases exists_diffSchemas_after settled distinct fieldsDistinct versioned version newDistinct newFields with
    ⟨others, comparedAgain, unchanged⟩
  rw [orEmpty_reread keys, List.map_map] at compared
  cases compared.symm.trans comparedAgain
  exact (follows_of_nextVersion keys isNext).congr unchanged

end Schemas

namespace Numbered

variable {α σ Form : Type} {kind : Numbered α} {reading : kind.Reading σ Form} {allowBreaking : Bool}
  {schemas : Table Data} {version next : Int} {items : List Data}

/-- A plan for declarations with ids has the version that the changes tell. -/
theorem exists_changes {entries : List (Entry α)} {previous : Option Data}
    (planned : kind.plan allowBreaking schemas entries previous = .ok (version, items)) :
    ∃ changes, kind.diff (orEmpty previous)
        (.object [(kind.section_, .list (entries.map fun entry => .object (kind.members entry)))]) = .ok changes ∧
      nextVersion previous changes = .ok version := by
  unfold plan at planned
  rcases bind_eq_ok.mp planned with ⟨_, _, planned⟩
  rcases bind_eq_ok.mp planned with ⟨changes, compared, planned⟩
  rcases bind_eq_ok.mp planned with ⟨_, _, planned⟩
  rcases bind_eq_ok.mp planned with ⟨found, isVersion, planned⟩
  rcases bind_eq_ok.mp planned with ⟨ids, _, planned⟩
  cases planned
  exact ⟨changes, faulty_eq_ok.mp compared, faulty_eq_ok.mp isVersion⟩

theorem version_of_first_plan {entries : List (Entry α)}
    (planned : kind.plan allowBreaking schemas entries none = .ok (version, items)) : version = 1 := by
  rcases exists_changes planned with ⟨_, _, isVersion⟩
  cases isVersion
  rfl

/-- The version of a plan for declarations with ids follows the one of the manifest that is found. -/
theorem follows_of_plan (repeated : reading.IsRepeated) {olds news : List σ} {ids : Table Data}
    (settled : ∀ source ∈ olds, reading.joined (reading.form source) = reading.form source)
    (distinct : ((olds.map reading.form).map reading.address).Nodup)
    (newDistinct : ((news.map reading.form).map reading.address).Nodup)
    (planned : kind.plan allowBreaking schemas (news.map reading.entry)
      (some (Json.reread layout (compose kind.section_ version (kind.withIds ids (olds.map reading.entry))))) =
        .ok (next, items)) :
    Follows ((olds.map reading.form).Perm (news.map reading.form)) version next := by
  rcases exists_changes planned with ⟨changes, compared, isNext⟩
  rcases exists_diff_after repeated settled distinct version ids newDistinct with
    ⟨others, comparedAgain, unchanged⟩
  rw [orEmpty_reread reading.keys] at compared
  cases compared.symm.trans comparedAgain
  exact (follows_of_nextVersion reading.keys isNext).congr unchanged

end Numbered

end Manifest

end SpecGraph
