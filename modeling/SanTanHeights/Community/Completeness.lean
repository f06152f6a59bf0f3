import SanTanHeights.Community.Acceptance
import SanTanHeights.Community.Locations
import SanTanHeights.Community.Replay

/-!
# What a delta covers

A delta of two certified snapshots is complete and exact just when no property
of both changes its projection fingerprint, which is not among the compared
fields, and no two manifest entries of a kind share the text that stands for
their type and identifier.
-/

namespace SanTanHeights.Community

open Foundation Foundation.Sorting

/-! ## Certified snapshots -/

/-- The rows and codes of a snapshot are sorted, and its rows have distinct
keys. -/
structure WellFormed (snapshot : CommunityStateSnapshot) : Prop where
  sortedProperties :
    sortedBy PropertyStateProjection.propertyId snapshot.propertyStates = snapshot.propertyStates
  distinctProperties : (snapshot.propertyStates.map PropertyStateProjection.propertyId).Nodup
  sortedEntries : ∀ kind,
    sortedBy TemporalManifestEntry.sortKey (snapshot.manifest kind) = snapshot.manifest kind
  distinctEntries : ∀ kind, ((snapshot.manifest kind).map TemporalManifestEntry.identity).Nodup
  sortedExclusions : sortedBy id snapshot.exclusions = snapshot.exclusions
  sortedConflicts : sortedBy id snapshot.conflicts = snapshot.conflicts

theorem sortedBy_sortedBy {α κ : Type*} [LinearOrder κ] (key : α → κ) (items : List α) :
    sortedBy key (sortedBy key items) = sortedBy key items :=
  sortedBy_eq_self (pairwise_sortedBy key items)

theorem wellFormed_draftSnapshot {arguments : SnapshotArguments}
    (entries : (arguments.allManifest.map TemporalManifestEntry.identity).Nodup)
    (properties : (arguments.propertyStates.map PropertyStateProjection.propertyId).Nodup) :
    WellFormed (draftSnapshot arguments) where
  sortedProperties := sortedBy_sortedBy _ _
  distinctProperties :=
    ((sortedBy_perm _ _).map PropertyStateProjection.propertyId).nodup_iff.mpr properties
  sortedEntries := by
    intro kind
    cases kind <;> exact sortedBy_sortedBy _ _
  sortedExclusions := sortedBy_sortedBy _ _
  sortedConflicts := sortedBy_sortedBy _ _
  distinctEntries := by
    rw [SnapshotArguments.allManifest, List.map_append, List.map_append]
      at entries
    have both := entries.of_append_left
    have sorted : ∀ {given : List TemporalManifestEntry},
        (given.map TemporalManifestEntry.identity).Nodup →
          ((sortedBy TemporalManifestEntry.sortKey given).map
            TemporalManifestEntry.identity).Nodup := fun distinct =>
      ((sortedBy_perm _ _).map TemporalManifestEntry.identity).nodup_iff.mpr distinct
    intro kind
    cases kind with
    | source => exact sorted both.of_append_left
    | policy => exact sorted both.of_append_right
    | runtime => exact sorted entries.of_append_right

theorem Certified.wellFormed {fromisoformat : FromIsoformat} {registry : SnapshotRegistry}
    {snapshot : CommunityStateSnapshot}
    (certified : Certified fromisoformat registry snapshot) :
    WellFormed snapshot := by
  obtain ⟨arguments, draft, built, certifies⟩ := certified
  obtain ⟨⟨_, _, _, accepted⟩, _, _, _, _, rfl⟩ := build_eq_ok_iff.mp built
  obtain ⟨_, _, _, _, rfl⟩ := certify_eq_ok_iff.mp certifies
  have wellFormed := wellFormed_draftSnapshot accepted.distinctEntries accepted.distinctProperties
  exact ⟨wellFormed.1, wellFormed.2, wellFormed.3, wellFormed.4, wellFormed.5, wellFormed.6⟩

/-! ## Equal parts -/

/-- The parts of two snapshots that a delta compares are equal. -/
structure SameParts (before after : CommunityStateSnapshot) : Prop where
  freshnessState : before.freshnessState = after.freshnessState
  exclusions : before.exclusions = after.exclusions
  conflicts : before.conflicts = after.conflicts
  propertyStates : before.propertyStates = after.propertyStates
  manifest : ∀ kind, before.manifest kind = after.manifest kind

/-- Rows with distinct keys are permutations when they read back the same. -/
theorem perm_of_same_get {α κ : Type*} [LinearOrder κ] {key : α → κ} {old new : List α}
    (oldDistinct : (old.map key).Nodup) (newDistinct : (new.map key).Nodup)
    (same : ∀ sought, Merging.get key old.reverse sought = Merging.get key new.reverse sought) :
    old.Perm new := by
  have reversed : ∀ {rows : List α}, (rows.map key).Nodup →
      (rows.reverse.map key).Nodup := fun distinct => by
    rw [List.map_reverse]
    exact List.nodup_reverse.mpr distinct
  have permuted := (@Merging.same_get_iff_perm α α κ α _ key old.reverse
    new.reverse id id (reversed oldDistinct) (reversed newDistinct)
    (fun left right => ⟨fun equal => ⟨congrArg key equal, equal⟩,
      And.right⟩)).mp (by simpa using same)
  rw [List.map_id, List.map_id] at permuted
  exact (List.reverse_perm old).symm.trans (permuted.trans (List.reverse_perm new))

theorem TemporalManifestEntry.sortKey_injective :
    Function.Injective TemporalManifestEntry.sortKey := by
  intro left right equal
  cases left
  cases right
  simpa [TemporalManifestEntry.sortKey] using equal

theorem PropertyStateProjection.eq_of_aspects {old new : PropertyStateProjection}
    (propertyId : old.propertyId = new.propertyId)
    (same : ∀ aspect : Aspect, aspect.value old = aspect.value new) :
    old = new := by
  have identity := same (.field .identityFingerprint)
  have phase := same (.field .phaseFingerprint)
  have spatial := same (.field .spatialFingerprint)
  have intelligence := same (.field .intelligenceFingerprint)
  have freshness := same (.field .freshnessState)
  have exclusions := same (.field .exclusionCodes)
  have conflicts := same (.field .conflictCodes)
  have fingerprint := same .projectionFingerprint
  cases old
  cases new
  simp_all [Aspect.value, PropertyField.value]

theorem property?_eq_of_contents {before after : CommunityStateSnapshot}
    (same : contents before = contents after) (propertyId : String) :
    before.property? propertyId = after.property? propertyId := by
  have aspects := fun aspect : Aspect =>
    congrFun same (.property propertyId aspect)
  simp only [contents] at aspects
  cases old : before.property? propertyId with
  | none =>
      cases new : after.property? propertyId with
      | none => rfl
      | some added =>
          simp only [old, new, Option.map_none, Option.map_some, reduceCtorEq] at aspects
          exact (aspects .projectionFingerprint).elim
  | some removed =>
      cases new : after.property? propertyId with
      | none =>
          simp only [old, new, Option.map_none, Option.map_some, reduceCtorEq] at aspects
          exact (aspects .projectionFingerprint).elim
      | some kept =>
          simp only [old, new, Option.map_some, Option.some.injEq] at aspects
          rw [PropertyStateProjection.eq_of_aspects
            ((Merging.key_of_get old).trans (Merging.key_of_get new).symm) aspects]

theorem entry?_eq_of_contents {before after : CommunityStateSnapshot}
    (same : contents before = contents after) (kind : Kind) (identity : String ×ₗ String) :
    before.entry? kind identity = after.entry? kind identity := by
  have injective : Function.Injective Value.entry := fun _ _ => Value.entry.inj
  exact Option.map_injective injective (congrFun same (.entry kind identity))

/-- Snapshots with the same registers have the same parts. -/
theorem contents_eq_iff {before after : CommunityStateSnapshot}
    (beforeFormed : WellFormed before) (afterFormed : WellFormed after) :
    contents before = contents after ↔ SameParts before after := by
  constructor
  · intro same
    refine
      { freshnessState := ?_
        exclusions := ?_
        conflicts := ?_
        propertyStates := ?_
        manifest := ?_ }
    · simpa [contents, CommunityField.value] using congrFun same (.community .freshnessState)
    · simpa [contents, CommunityField.value] using congrFun same (.community .exclusions)
    · simpa [contents, CommunityField.value] using congrFun same (.community .conflicts)
    · rw [← beforeFormed.sortedProperties, ← afterFormed.sortedProperties]
      apply sortedBy_eq_of_perm
      · exact perm_of_same_get beforeFormed.distinctProperties
          afterFormed.distinctProperties (property?_eq_of_contents same)
      · exact fun left leftMember right rightMember =>
          List.inj_on_of_nodup_map beforeFormed.distinctProperties leftMember rightMember
    · intro kind
      rw [← beforeFormed.sortedEntries, ← afterFormed.sortedEntries]
      apply sortedBy_eq_of_perm
      · exact perm_of_same_get (beforeFormed.distinctEntries kind)
          (afterFormed.distinctEntries kind) (entry?_eq_of_contents same kind)
      · exact fun left _ right _ equal =>
          TemporalManifestEntry.sortKey_injective equal
  · intro same
    funext cell
    cases cell with
    | community field =>
        cases field <;>
          simp [contents, CommunityField.value, same.freshnessState,
            same.exclusions, same.conflicts]
    | property propertyId aspect =>
        simp [contents, CommunityStateSnapshot.property?, same.propertyStates]
    | entry kind identity =>
        simp [contents, CommunityStateSnapshot.entry?, same.manifest kind]

/-! ## Unchanged deltas -/

@[simp] theorem classifyValue_eq_unchanged_iff {path : String} {old new : Value} :
    classifyValue path old new = .unchanged ↔ old = new := by
  unfold classifyValue
  split_ifs <;> simp_all

section Unchanged

variable {fromisoformat : FromIsoformat}
  {before after : CommunityStateSnapshot}

theorem contents_eq_of_unchanged (fingerprints : SameFingerprints before after)
    (unchanged : ∀ subject, Listed fromisoformat before after subject →
      subject.classification = .unchanged) :
    contents before = contents after := by
  funext cell
  cases cell with
  | community field =>
      exact congrArg some (classifyValue_eq_unchanged_iff.mp (unchanged _ (.community field)))
  | property propertyId aspect =>
      cases old : before.property? propertyId with
      | none =>
          cases new : after.property? propertyId with
          | none => rw [contents, contents, old, new]
          | some added => cases unchanged _ (.added old new)
      | some removed =>
          cases new : after.property? propertyId with
          | none => cases unchanged _ (.removed old new)
          | some kept =>
              rw [contents, contents, old, new]
              apply congrArg some
              cases aspect with
              | field field =>
                  exact classifyValue_eq_unchanged_iff.mp (unchanged _ (.compared field old new))
              | projectionFingerprint =>
                  exact congrArg Value.text (fingerprints _ _ _ old new)
  | entry kind identity =>
      cases old : before.entry? kind identity with
      | none =>
          cases new : after.entry? kind identity with
          | none => rw [contents, contents, old, new]
          | some added =>
              have same := unchanged _ (.entryAdded old new)
              rw [entrySubject] at same
              dsimp only at same
              split_ifs at same
      | some removed =>
          cases new : after.entry? kind identity with
          | none => cases unchanged _ (.entryRemoved old new)
          | some kept =>
              have same := unchanged _ (.entryCompared old new)
              rw [entrySubject] at same
              dsimp only at same
              split_ifs at same with equal
              rw [contents, contents, old, new, equal]

theorem unchanged_of_contents_eq (same : contents before = contents after) {subject : Subject}
    (listed : Listed fromisoformat before after subject) :
    subject.classification = .unchanged := by
  cases listed with
  | community field =>
      exact classifyValue_eq_unchanged_iff.mpr (Option.some.inj (congrFun same (.community field)))
  | added absent found =>
      rw [property?_eq_of_contents same, found] at absent
      cases absent
  | removed found absent =>
      rw [property?_eq_of_contents same, absent] at found
      cases found
  | compared field oldFound newFound =>
      rw [property?_eq_of_contents same, newFound] at oldFound
      cases oldFound
      exact classifyValue_eq_unchanged_iff.mpr rfl
  | entryAdded absent found =>
      rw [entry?_eq_of_contents same, found] at absent
      cases absent
  | entryRemoved found absent =>
      rw [entry?_eq_of_contents same, absent] at found
      cases found
  | entryCompared oldFound newFound =>
      rw [entry?_eq_of_contents same, newFound] at oldFound
      cases oldFound
      exact if_pos rfl

theorem all_unchanged_iff {delta : CommunityDelta}
    (compared : Compared fromisoformat before after delta)
    (fingerprints : SameFingerprints before after) :
    (∀ change ∈ delta.changes, change.classification = .unchanged) ↔
      contents before = contents after := by
  constructor
  · intro unchanged
    apply @contents_eq_of_unchanged fromisoformat _ _ fingerprints
    intro subject listed
    obtain ⟨change, member, rfl⟩ := List.mem_map.mp
      (compared.subjects.symm.subset (mem_subjects.mpr listed))
    exact unchanged change member
  · intro same change member
    exact unchanged_of_contents_eq same (mem_subjects.mp
      (compared.subjects.subset (List.mem_map_of_mem member)))

/-! ## Exact deltas -/

/-- A delta lists what changed from one snapshot to another, once and
completely. -/
structure Exact (before after : CommunityStateSnapshot) (delta : CommunityDelta) : Prop where
  replays : replay delta.changes before = contents after
  unchanged :
    (∀ change ∈ delta.changes, change.classification = .unchanged) ↔ SameParts before after
  locations : (delta.changes.map fun change => change.toSubject.location).Nodup

theorem nodup_changeLocations_iff {delta : CommunityDelta}
    (compared : Compared fromisoformat before after delta) :
    (delta.changes.map fun change => change.toSubject.location).Nodup ↔
      DistinctTexts before after := by
  have permuted := compared.subjects.map Subject.location
  rw [List.map_map] at permuted
  exact permuted.nodup_iff.trans nodup_locations_iff

end Unchanged

theorem exact_iff_of_compared {fromisoformat : FromIsoformat}
    {before after : CommunityStateSnapshot} {delta : CommunityDelta}
    (beforeFormed : WellFormed before) (afterFormed : WellFormed after)
    (compared : Compared fromisoformat before after delta) :
    Exact before after delta ↔ SameFingerprints before after ∧ DistinctTexts before after := by
  rw [← replay_eq_iff compared, ← nodup_changeLocations_iff compared]
  constructor
  · exact fun exact => ⟨exact.replays, exact.locations⟩
  · rintro ⟨replays, locations⟩
    have fingerprints := (replay_eq_iff compared).mp replays
    exact ⟨replays, (all_unchanged_iff compared fingerprints).trans
      (contents_eq_iff beforeFormed afterFormed), locations⟩

/-- The delta of two certified snapshots is exact just when no property of
both changes its projection fingerprint, which is not among the compared
fields, and no two manifest entries share a text. -/
theorem delta_exact_iff {fromisoformat : FromIsoformat}
    {snapshotRegistry : SnapshotRegistry} {deltaRegistry : DeltaRegistry}
    {arguments : DeltaArguments} {delta : CommunityDelta}
    (beforeCertified :
      Certified fromisoformat snapshotRegistry arguments.before)
    (afterCertified :
      Certified fromisoformat snapshotRegistry arguments.after)
    (built : buildCommunityDelta fromisoformat snapshotRegistry deltaRegistry
      arguments = .ok delta) :
    Exact arguments.before arguments.after delta ↔
      SameFingerprints arguments.before arguments.after ∧
        DistinctTexts arguments.before arguments.after :=
  exact_iff_of_compared beforeCertified.wellFormed afterCertified.wellFormed
    (compared_of_build built)

theorem delta_exact_iff_sample :
    ∃ (arguments : DeltaArguments) (delta : CommunityDelta),
      arguments.before.sourceManifest = [] ∧
        arguments.after.sourceManifest = [sampleSource "feed" "plat"] ∧
          (Exact arguments.before arguments.after delta ↔
            SameFingerprints arguments.before arguments.after ∧
              DistinctTexts arguments.before arguments.after) := by
  have known : (sampleSource "feed" "plat").KnownAt sampleFromisoformat
      1769904000 1769904000 :=
    ⟨_, _, first_instant, first_instant, by decide, by decide⟩
  obtain ⟨_, _, before⟩ := @exists_bareSnapshot _ _ _ [] first_instant
    (by simp) List.nodup_nil
  obtain ⟨_, _, after⟩ := @exists_bareSnapshot _ _ _
    [sampleSource "feed" "plat"] second_instant (by simpa using known)
    (List.nodup_singleton _)
  obtain ⟨delta, built⟩ := exists_bareDelta first_instant second_instant
    (by decide) before after
  exact ⟨_, delta, rfl, rfl, delta_exact_iff before after built⟩

/-- The entries `("a:b", "c")` and `("a", "b:c")` appear under one text. -/
theorem delta_not_exact :
    ∃ (arguments : DeltaArguments) (delta : CommunityDelta),
      arguments.before.sourceManifest = [] ∧ arguments.after.sourceManifest =
            [sampleSource "a" "b:c", sampleSource "a:b" "c"] ∧
          Certified sampleFromisoformat snapshotRegistry arguments.before ∧
            Certified sampleFromisoformat snapshotRegistry arguments.after ∧
              buildCommunityDelta sampleFromisoformat snapshotRegistry
                  deltaRegistry arguments = .ok delta ∧
                ¬Exact arguments.before arguments.after delta := by
  have known : ∀ entryType entryId, (sampleSource entryType entryId).KnownAt
      sampleFromisoformat 1769904000 1769904000 := fun _ _ =>
    ⟨_, _, first_instant, first_instant, by decide, by decide⟩
  obtain ⟨_, _, before⟩ := @exists_bareSnapshot _ _ _ [] first_instant
    (by simp) List.nodup_nil
  obtain ⟨_, _, after⟩ := @exists_bareSnapshot _ _ _
    [sampleSource "a" "b:c", sampleSource "a:b" "c"] second_instant
    (by simp [known]) (by decide)
  obtain ⟨delta, built⟩ := exists_bareDelta first_instant second_instant
    (by decide) before after
  have sorted : sortedBy TemporalManifestEntry.sortKey
      [sampleSource "a" "b:c", sampleSource "a:b" "c"] =
        [sampleSource "a" "b:c", sampleSource "a:b" "c"] := by decide
  refine ⟨_, delta, rfl, sorted, before, after, built, ?_⟩
  intro exact
  have distinct := ((exact_iff_of_compared before.wellFormed
    after.wellFormed (compared_of_build built)).mp exact).2
  have same := distinct .source (sampleSource "a" "b:c")
    (List.mem_append_right _ (mem_sources_bareSnapshot.mpr (by simp)))
    (sampleSource "a:b" "c")
    (List.mem_append_right _ (mem_sources_bareSnapshot.mpr (by simp)))
    (by decide)
  exact absurd same (by decide)

end SanTanHeights.Community
