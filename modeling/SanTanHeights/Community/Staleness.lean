import SanTanHeights.Community.Preservation

/-!
# Stale records

A record is derived from the snapshot whose semantic hash it names.  Without
collisions that hash determines everything that a record can depend on, so a
preserved record that names the snapshot before a delta is as good after it.
-/

namespace SanTanHeights.Community

open Foundation Foundation.Json Foundation.Sorting Foundation.Outcome Shared

/-! ## Semantic hashes -/

theorem TemporalManifestEntry.eq_of_same (left right : TemporalManifestEntry)
    (same : Same left.asdict right.asdict) :
    left = right := by
  have members := forall₂_of_same_obj same rfl (by simp)
  simp only [List.forall₂_cons, same_str, List.forall₂_nil_left_iff, and_true] at members
  cases left
  cases right
  simpa using members

theorem texts_eq_of_same {left right : List String} (same : Same (texts left) (texts right)) :
    left = right :=
  eq_of_same_arr (fun _ _ => same_str.mp) same

theorem PropertyStateProjection.eq_of_same (left right : PropertyStateProjection)
    (same : Same left.asdict right.asdict) :
    left = right := by
  have members := forall₂_of_same_obj same rfl (by simp [payload])
  simp only [payload, List.cons_append, List.nil_append, List.forall₂_cons,
    same_str, List.forall₂_nil_left_iff, and_true] at members
  obtain ⟨propertyId, identity, phase, spatial, intelligence, freshness,
    exclusions, conflicts, fingerprint⟩ := members
  have sameExclusions := texts_eq_of_same exclusions
  have sameConflicts := texts_eq_of_same conflicts
  cases left
  cases right
  simp_all

/-- What the semantic hash covers determines the parts of a snapshot. -/
theorem sameParts_of_same {left right : CommunityStateSnapshot}
    (leftFormed : WellFormed left) (rightFormed : WellFormed right)
    (same : Same (.obj (semanticPayload left)) (.obj (semanticPayload right))) :
    SameParts left right := by
  have members := forall₂_of_same_obj same rfl (by simp [semanticPayload])
  simp only [semanticPayload, List.forall₂_cons, same_str,
    List.forall₂_nil_left_iff, and_true] at members
  obtain ⟨_, _, _, _, _, sources, policies, runtimes, _, properties,
    exclusions, conflicts, freshness⟩ := members
  exact
    { freshnessState := freshness
      exclusions := by
        rw [← leftFormed.sortedExclusions, ← rightFormed.sortedExclusions]
        exact texts_eq_of_same exclusions
      conflicts := by
        rw [← leftFormed.sortedConflicts, ← rightFormed.sortedConflicts]
        exact texts_eq_of_same conflicts
      propertyStates := by
        rw [← leftFormed.sortedProperties, ← rightFormed.sortedProperties]
        exact eq_of_same_arr PropertyStateProjection.eq_of_same properties
      manifest := by
        intro kind
        rw [← leftFormed.sortedEntries, ← rightFormed.sortedEntries]
        cases kind with
        | source =>
            exact eq_of_same_arr TemporalManifestEntry.eq_of_same sources
        | policy =>
            exact eq_of_same_arr TemporalManifestEntry.eq_of_same policies
        | runtime =>
            exact eq_of_same_arr TemporalManifestEntry.eq_of_same runtimes }

theorem hash_of_replays {snapshot : CommunityStateSnapshot}
    (replays : validateSnapshotReplay snapshot = .ok true) :
    hash (.obj (semanticPayload snapshot)) = .ok snapshot.semanticHash := by
  obtain ⟨semanticHash, hashed, same⟩ := bind_eq_ok.mp replays
  rw [hashed, of_decide_eq_true (Except.ok.inj same)]

/-- The texts that are hashed for some snapshots. -/
def semanticTexts (existing : Set CommunityStateSnapshot) : Set String :=
  {text | ∃ snapshot ∈ existing,
    canonicalJson (.obj (semanticPayload snapshot)) = some text}

section Bound

variable {fromisoformat : FromIsoformat}
  {snapshotRegistry : SnapshotRegistry}
  {existing : Set CommunityStateSnapshot}
  {left right : CommunityStateSnapshot}

theorem sameParts_of_semanticHash
    (collisionFree : Sha256.CollisionFree (semanticTexts existing))
    (certified : ∀ snapshot ∈ existing, Certified fromisoformat snapshotRegistry snapshot)
    (leftExists : left ∈ existing) (rightExists : right ∈ existing)
    (same : left.semanticHash = right.semanticHash) :
    SameParts left right := by
  have leftCertified := certified left leftExists
  have rightCertified := certified right rightExists
  apply sameParts_of_same leftCertified.wellFormed rightCertified.wellFormed
  exact (textual_semanticPayload left).same_of_sha256Canonical_eq
    (textual_semanticPayload right) (hash_of_replays leftCertified.replays)
    (same ▸ hash_of_replays rightCertified.replays) collisionFree
    (fun _ written => ⟨left, leftExists, written⟩)
    (fun _ written => ⟨right, rightExists, written⟩)

/-- Snapshots with the same parts agree on every record. -/
theorem SameParts.agreesOn (same : SameParts left right) (registry : RefreshRegistry)
    (record : DerivedIntelligenceRecord) :
    AgreesOn registry record left right := by
  intro dependency _
  cases dependency with
  | community field =>
      cases field <;>
        simp [Dependency.read, CommunityField.value, same.freshnessState,
          same.exclusions, same.conflicts]
  | presence propertyId =>
      rw [Dependency.read, Dependency.read,
        CommunityStateSnapshot.property?, CommunityStateSnapshot.property?, same.propertyStates]
  | fieldOf propertyId field =>
      rw [Dependency.read, Dependency.read,
        CommunityStateSnapshot.property?, CommunityStateSnapshot.property?, same.propertyStates]
  | entry kind identity =>
      rw [Dependency.read, Dependency.read, CommunityStateSnapshot.entry?,
        CommunityStateSnapshot.entry?, same.manifest]

end Bound

/-! ## Preserved records are as good as before -/

/-- A plan preserves a record just when the snapshots of its delta agree on
what the record depends on.  If the record was derived from the snapshot
before the delta, or from one that agrees with it, it was then derived from
one that agrees with the snapshot after it. -/
theorem preserved_record_agrees
    {fromisoformat : FromIsoformat} {snapshotRegistry : SnapshotRegistry}
    {deltaRegistry : DeltaRegistry} {existing : Set CommunityStateSnapshot}
    {before after : CommunityStateSnapshot} {delta : CommunityDelta}
    {planId : String} {records : List DerivedIntelligenceRecord}
    {plan : SelectiveRefreshPlan} {record : DerivedIntelligenceRecord}
    (collisionFree : Sha256.CollisionFree (semanticTexts existing))
    (snapshots : ∀ snapshot ∈ existing,
      Certified fromisoformat snapshotRegistry snapshot)
    (beforeExists : before ∈ existing)
    (certified : CertifiedDelta fromisoformat snapshotRegistry deltaRegistry
      before after delta)
    (planned : buildSelectiveRefreshPlan refreshRegistry planId delta
      records = .ok plan)
    (member : record ∈ records) :
    (record.artifactId ∈ plan.preservedArtifactIds ↔
        AgreesOn refreshRegistry record before after) ∧
      (record.artifactId ∈ plan.preservedArtifactIds →
        ∀ origin ∈ existing,
          origin.semanticHash = record.sourceSnapshotSemanticHash →
            (record.sourceSnapshotSemanticHash =
                delta.beforeSnapshotSemanticHash ∨
              AgreesOn refreshRegistry record origin before) →
              AgreesOn refreshRegistry record origin after) := by
  have preserved := mem_preserved_iff_agreesOn certified planned member
  refine ⟨preserved, ?_⟩
  intro kept origin originExists source bound
  have agrees : AgreesOn refreshRegistry record origin before := by
    rcases bound with named | agrees
    · have sameHash : origin.semanticHash = before.semanticHash :=
        source.trans (named.trans certified.compared.beforeHash)
      exact (sameParts_of_semanticHash collisionFree snapshots originExists
        beforeExists sameHash).agreesOn _ _
    · exact agrees
  exact agrees.trans (preserved.mp kept)

theorem Certified.isHex64 {fromisoformat : FromIsoformat} {registry : SnapshotRegistry}
    {snapshot : CommunityStateSnapshot}
    (certified : Certified fromisoformat registry snapshot) :
    Sha256.isHex64 snapshot.semanticHash = true :=
  isHex64_of_hash (hash_of_replays certified.replays)

theorem preserved_record_agrees_sample :
    ∃ (before after : CommunityStateSnapshot) (delta : CommunityDelta)
      (record : DerivedIntelligenceRecord) (plan : SelectiveRefreshPlan),
      CertifiedDelta sampleFromisoformat snapshotRegistry deltaRegistry
          before after delta ∧
        buildSelectiveRefreshPlan refreshRegistry "PLAN" delta [record] =
            .ok plan ∧
          record.sourceSnapshotSemanticHash =
              delta.beforeSnapshotSemanticHash ∧
            AgreesOn refreshRegistry record before after := by
  obtain ⟨semanticHash, recordHash, before⟩ :=
    @exists_bareSnapshot _ _ _ [] first_instant (by simp) List.nodup_nil
  obtain ⟨_, _, after⟩ := @exists_bareSnapshot _ _ _ [] second_instant
    (by simp) List.nodup_nil
  obtain ⟨delta, certified⟩ := exists_bareCertifiedDelta first_instant
    second_instant (by decide) before after
  obtain ⟨fingerprint, _, shape⟩ := @exists_communityRecord "A"
    semanticHash (by decide) before.isHex64
  let record := { communityRecord "A" semanticHash with
    recordFingerprint := fingerprint }
  have current : ∀ other ∈ [record], other.Current := by
    rw [List.forall_mem_singleton]
    exact ⟨rfl, shape⟩
  obtain ⟨plan, planned⟩ := @exists_plan _ _ _ _ _ _ "PLAN" [record]
    (by decide) certified (List.nodup_singleton _) current
  have member : record ∈ [record] := List.mem_singleton_self record
  have bound : semanticHash = delta.beforeSnapshotSemanticHash :=
    certified.compared.beforeHash.symm
  have kept := (mem_preserved_iff_agreesOn certified planned member).mpr
    (agreesOn_bareSnapshot _ _ _ _ _ _ _ _ _)
  have collisionFree : Sha256.CollisionFree (semanticTexts
      {bareSnapshot "2026-01-01T00:00:00+00:00" [] semanticHash
        recordHash}) := by
    rintro text ⟨_, rfl, written⟩ other ⟨_, rfl, otherWritten⟩ _
    exact Option.some.inj (written.symm.trans otherWritten)
  refine ⟨_, _, delta, record, plan, certified, planned, bound, ?_⟩
  refine (preserved_record_agrees collisionFree ?_ rfl certified planned
    member).2 kept _ rfl rfl (.inl bound)
  rintro _ rfl
  exact before

/-- Neither a record that missed a delta nor one that names no snapshot of
the community is refreshed by a delta in which nothing changes. -/
theorem stale_record_preserved :
    ∃ (origin before after : CommunityStateSnapshot)
      (delta : CommunityDelta) (missed foreign : DerivedIntelligenceRecord)
      (plan : SelectiveRefreshPlan),
      Certified sampleFromisoformat snapshotRegistry origin ∧
        CertifiedDelta sampleFromisoformat snapshotRegistry deltaRegistry
            before after delta ∧
          buildSelectiveRefreshPlan refreshRegistry "PLAN" delta
              [missed, foreign] = .ok plan ∧
            (missed.sourceSnapshotSemanticHash = origin.semanticHash ∧
              ¬AgreesOn refreshRegistry missed origin after ∧
                missed.artifactId ∈ plan.preservedArtifactIds) ∧
              foreign.sourceSnapshotSemanticHash ≠
                  delta.beforeSnapshotSemanticHash ∧
                foreign.artifactId ∈ plan.preservedArtifactIds := by
  have known : ∀ entry ∈ [sampleSource "feed" "plat"],
      ∀ instant : Int, 1767225600 ≤ instant →
        entry.KnownAt sampleFromisoformat instant instant := by
    rw [List.forall_mem_singleton]
    exact fun _ later => ⟨_, _, first_instant, first_instant, later, later⟩
  obtain ⟨originHash, _, origin⟩ := @exists_bareSnapshot _ _ _ [] first_instant
    (by simp) List.nodup_nil
  obtain ⟨beforeHash, _, before⟩ := @exists_bareSnapshot _ _ _
    [sampleSource "feed" "plat"] second_instant
    (fun entry listed => known entry listed _ (by decide))
    (List.nodup_singleton _)
  obtain ⟨_, _, after⟩ := @exists_bareSnapshot _ _ _
    [sampleSource "feed" "plat"] third_instant
    (fun entry listed => known entry listed _ (by decide))
    (List.nodup_singleton _)
  obtain ⟨delta, certified⟩ := exists_bareCertifiedDelta second_instant
    third_instant (by decide) before after
  -- A fingerprint that is not that of the snapshot before the delta.
  have unnamed : ∃ source, Sha256.isHex64 source = true ∧
      source ≠ beforeHash := by
    by_cases zeros : beforeHash = String.ofList (List.replicate 64 '0')
    · refine ⟨String.ofList (List.replicate 64 '1'),
        Sha256.isHex64_ofList rfl rfl, fun same => ?_⟩
      have listed := String.ofList_inj.mp (same.trans zeros)
      exact absurd listed (by decide)
    · exact ⟨String.ofList (List.replicate 64 '0'),
        Sha256.isHex64_ofList rfl rfl, fun same => zeros same.symm⟩
  obtain ⟨source, sourceShape, different⟩ := unnamed
  obtain ⟨fingerprint, _, shape⟩ := @exists_communityRecord "A" originHash
    (by decide) origin.isHex64
  obtain ⟨otherFingerprint, _, otherShape⟩ := @exists_communityRecord "B"
    source (by decide) sourceShape
  let missed := { communityRecord "A" originHash with
    recordFingerprint := fingerprint }
  let foreign := { communityRecord "B" source with
    recordFingerprint := otherFingerprint }
  have distinct : ([missed, foreign].map
      DerivedIntelligenceRecord.artifactId).Nodup := by
    have names : ["A", "B"].Nodup := by decide
    exact names
  have current : ∀ record ∈ [missed, foreign], record.Current := by
    rw [List.forall_mem_cons, List.forall_mem_singleton]
    exact ⟨⟨rfl, shape⟩, rfl, otherShape⟩
  obtain ⟨plan, planned⟩ := @exists_plan _ _ _ _ _ _ "PLAN"
    [missed, foreign] (by decide) certified distinct current
  have kept : ∀ record ∈ [missed, foreign],
      record.artifactId ∈ plan.preservedArtifactIds := fun record member =>
    (mem_preserved_iff_agreesOn certified planned member).mpr
      (agreesOn_bareSnapshot _ _ _ _ _ _ _ _ _)
  have found : Merging.get TemporalManifestEntry.identity
      (sortedBy TemporalManifestEntry.sortKey
        [sampleSource "feed" "plat"]).reverse
      (sampleSource "feed" "plat").identity =
        some (sampleSource "feed" "plat") := by decide
  refine ⟨_, _, _, delta, missed, foreign, plan, origin, certified, planned,
    ⟨rfl, ?_, kept _ (by simp)⟩, ?_, kept _ (by simp)⟩
  · intro agrees
    have depends : "SELLER_INTELLIGENCE" ∈ frozenDependencyRules .source := by
      decide
    have same : (none : Option Value) =
        some (.entry (sampleSource "feed" "plat")) :=
      (agrees (.entry .source (sampleSource "feed" "plat").identity)
        ⟨depends, trivial⟩).trans (congrArg (Option.map Value.entry) found)
    cases same
  · rw [certified.compared.beforeHash]
    exact different

end SanTanHeights.Community
