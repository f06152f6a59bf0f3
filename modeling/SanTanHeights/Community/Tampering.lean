import SanTanHeights.Community.Staleness

/-!
# What the hashes of snapshots and deltas seal

The semantic hash of a snapshot seals what it says, and the fingerprint of a
delta seals the delta as a draft.  The state of certification, the eligibility
and the blocking conditions are read as they are given.
-/

namespace SanTanHeights.Community

open Foundation Foundation.Json Foundation.Sorting Foundation.Outcome Shared

/-! ## Snapshots -/

/-- Snapshots that say the same, in whatever order. -/
structure SameContent (given built : CommunityStateSnapshot) : Prop where
  communityId : given.communityId = built.communityId
  observationTime : given.observationTime = built.observationTime
  knowledgeCutoff : given.knowledgeCutoff = built.knowledgeCutoff
  baselineSnapshotId : given.baselineSnapshotId = built.baselineSnapshotId
  root : given.m12ReleaseCertificationRoot = built.m12ReleaseCertificationRoot
  manifest : ∀ kind, (given.manifest kind).Perm (built.manifest kind)
  corpusPropertyIds : given.corpusPropertyIds.Perm built.corpusPropertyIds
  propertyStates : given.propertyStates.Perm built.propertyStates
  exclusions : given.exclusions.Perm built.exclusions
  conflicts : given.conflicts.Perm built.conflicts
  freshnessState : given.freshnessState = built.freshnessState

theorem sortedBy_eq_iff_perm {α κ : Type*} [LinearOrder κ] {key : α → κ} {items others : List α}
    (distinct : ∀ left ∈ others, ∀ right ∈ others, key left = key right → left = right) :
    sortedBy key items = sortedBy key others ↔ items.Perm others := by
  constructor
  · exact perm_of_sortedBy_eq
  · intro permuted
    exact (sortedBy_eq_of_perm permuted.symm distinct).symm

section Content

variable {given built : CommunityStateSnapshot}

theorem sortedTexts_eq_iff {items others : List String} :
    sortedBy id items = sortedBy id others ↔ items.Perm others :=
  sortedBy_eq_iff_perm fun _ _ _ _ same => same

theorem sortedEntries_eq_iff {items others : List TemporalManifestEntry} :
    sortedBy TemporalManifestEntry.sortKey items =
        sortedBy TemporalManifestEntry.sortKey others ↔
      items.Perm others :=
  sortedBy_eq_iff_perm fun _ _ _ _ same =>
    TemporalManifestEntry.sortKey_injective same

/-- The semantic payload determines the content, up to order. -/
theorem sameContent_of_same
    (same : Same (.obj (semanticPayload given)) (.obj (semanticPayload built))) :
    SameContent given built := by
  have members := forall₂_of_same_obj same rfl (by simp [semanticPayload])
  simp only [semanticPayload, List.forall₂_cons, same_str, same_ofOptional,
    List.forall₂_nil_left_iff, and_true] at members
  obtain ⟨communityId, observationTime, knowledgeCutoff, baselineSnapshotId,
    root, sources, policies, runtimes, corpus, properties, exclusions,
    conflicts, freshness⟩ := members
  exact
    { communityId := communityId
      observationTime := observationTime
      knowledgeCutoff := knowledgeCutoff
      baselineSnapshotId := baselineSnapshotId
      root := root
      manifest := by
        intro kind
        apply sortedEntries_eq_iff.mp
        cases kind with
        | source =>
            exact eq_of_same_arr TemporalManifestEntry.eq_of_same sources
        | policy =>
            exact eq_of_same_arr TemporalManifestEntry.eq_of_same policies
        | runtime =>
            exact eq_of_same_arr TemporalManifestEntry.eq_of_same runtimes
      corpusPropertyIds := sortedTexts_eq_iff.mp (texts_eq_of_same corpus)
      propertyStates := perm_of_sortedBy_eq
        (eq_of_same_arr PropertyStateProjection.eq_of_same properties)
      exclusions := sortedTexts_eq_iff.mp (texts_eq_of_same exclusions)
      conflicts := sortedTexts_eq_iff.mp (texts_eq_of_same conflicts)
      freshnessState := freshness }

/-- The content determines the semantic payload where the properties of one
side are told apart by their ids. -/
theorem SameContent.semanticPayload_eq (same : SameContent given built)
    (distinct : (built.propertyStates.map PropertyStateProjection.propertyId).Nodup) :
    semanticPayload given = semanticPayload built := by
  have sources := sortedEntries_eq_iff.mpr (same.manifest .source)
  have policies := sortedEntries_eq_iff.mpr (same.manifest .policy)
  have runtimes := sortedEntries_eq_iff.mpr (same.manifest .runtime)
  have properties : sortedBy PropertyStateProjection.propertyId
      given.propertyStates = sortedBy PropertyStateProjection.propertyId built.propertyStates :=
    (sortedBy_eq_iff_perm fun _ leftListed _ rightListed =>
      List.inj_on_of_nodup_map distinct leftListed rightListed).mpr same.propertyStates
  simp only [CommunityStateSnapshot.manifest] at sources policies runtimes
  simp only [semanticPayload, manifestPayload, propertyPayload, sources,
    policies, runtimes, properties, sortedTexts_eq_iff.mpr same.corpusPropertyIds,
    sortedTexts_eq_iff.mpr same.exclusions,
    sortedTexts_eq_iff.mpr same.conflicts, same.communityId,
    same.observationTime, same.knowledgeCutoff, same.baselineSnapshotId,
    same.root, same.freshnessState]

end Content

theorem validateSnapshotReplay_eq_ok {snapshot : CommunityStateSnapshot} :
    validateSnapshotReplay snapshot = .ok true ↔
      hash (.obj (semanticPayload snapshot)) = .ok snapshot.semanticHash := by
  simp only [validateSnapshotReplay, bind_eq_ok, pure_eq_ok, decide_eq_true_eq, exists_eq_right]

theorem validateComparisonEligibility_eq_ok
    {registry : SnapshotRegistry} {snapshot : CommunityStateSnapshot} :
    validateComparisonEligibility registry snapshot = .ok () ↔
      snapshot.certificationState =
          registry.comparisonEligibleCertificationState ∧
        snapshot.comparisonEligible = true ∧ snapshot.blockingConditions = [] ∧
            validateSnapshotReplay snapshot = .ok true := by
  simp only [validateComparisonEligibility, bind_eq_ok, require_eq_ok,
    exists_const, exists_eq_right]

/-! ## Deltas -/

theorem Domain.code_injective : Function.Injective Domain.code := by
  intro left right equal
  cases left <;> cases right <;> simp_all [Domain.code]

theorem Classification.code_injective : Function.Injective Classification.code := by
  intro left right equal
  cases left <;> cases right <;> simp_all [Classification.code]

/-- Dictionaries of one meaning have as many members. -/
theorem length_eq_of_same_obj {members others : List (String × Json)}
    (same : Same (.obj members) (.obj others)) :
    members.length = others.length := by
  simpa using (members_perm_of_same same).length_eq

theorem Value.eq_of_same {left right : Value} (same : Same left.json right.json) :
    left = right := by
  cases left <;> cases right
  case none.none => rfl
  case text.text => rw [same_str.mp same]
  case codes.codes => rw [texts_eq_of_same same]
  case property.property =>
    rw [PropertyStateProjection.eq_of_same _ _ same]
  case entry.entry => rw [TemporalManifestEntry.eq_of_same _ _ same]
  case property.entry => cases length_eq_of_same_obj same
  case entry.property => cases length_eq_of_same_obj same
  all_goals
    simp [json, Same, meaning, texts, PropertyStateProjection.asdict,
      TemporalManifestEntry.asdict] at same

theorem FieldChange.eq_of_same
    (left right : FieldChange) (same : Same left.asdict right.asdict) :
    left = right := by
  have members := forall₂_of_same_obj same rfl (by simp [payload])
  simp only [payload, List.cons_append, List.nil_append, List.forall₂_cons,
    same_str, List.forall₂_nil_left_iff, and_true] at members
  obtain ⟨changeId, scope, objectType, objectId, domain, fieldPath, before,
    after, classification, cause, basis, observed, effective, recorded,
    detected, materiality, snapshots, hashes, evidence, stale, explanation,
    fingerprint⟩ := members
  have beforeValue := Value.eq_of_same before
  have afterValue := Value.eq_of_same after
  have scopes := Scope.code_injective scope
  have domains := Domain.code_injective domain
  have classes := Classification.code_injective classification
  have snapshotIds := texts_eq_of_same snapshots
  have semanticHashes := texts_eq_of_same hashes
  have evidences := texts_eq_of_same evidence
  have potentiallyStale : left.potentiallyStale = right.potentiallyStale := by
    simpa [Same, meaning] using stale
  simp only [List.cons.injEq, and_true] at snapshotIds semanticHashes
  have snapshotPair := Prod.ext snapshotIds.1 snapshotIds.2
  have hashPair := Prod.ext semanticHashes.1 semanticHashes.2
  rcases left with ⟨⟨⟩⟩
  rcases right with ⟨⟨⟩⟩
  dsimp only at *
  subst changeId scopes objectType objectId domains fieldPath beforeValue
    afterValue classes cause basis observed effective recorded detected
    materiality snapshotPair hashPair evidences potentiallyStale explanation
    fingerprint
  rfl

theorem ImpactEdge.eq_of_same (left right : ImpactEdge) (same : Same left.asdict right.asdict) :
    left = right := by
  have members := forall₂_of_same_obj same rfl (by simp [payload])
  simp only [payload, List.cons_append, List.nil_append, List.forall₂_cons,
    same_str, List.forall₂_nil_left_iff, and_true] at members
  obtain ⟨source, objectType, objectId, reason, stale, fingerprint⟩ := members
  have potentiallyStale : left.potentiallyStale = right.potentiallyStale := by
    simpa [Same, meaning] using stale
  cases left
  cases right
  simp_all

/-- A delta as a certified one. -/
def CommunityDelta.asCertified (delta : CommunityDelta) : CommunityDelta :=
  { delta with certificationState := .certified, reproducible := true }

/-- The payload of a delta and its fingerprint determine it as a certified
one. -/
theorem asCertified_eq_of_same {given built : CommunityDelta}
    (same : Same given.payload built.payload)
    (fingerprint : given.deltaFingerprint = built.deltaFingerprint) :
    given.asCertified = built.asCertified := by
  have members := forall₂_of_same_obj same rfl (by simp)
  simp only [List.forall₂_cons, same_str, List.forall₂_nil_left_iff, and_true] at members
  obtain ⟨deltaId, communityId, beforeId, afterId, beforeHash, afterHash,
    beforeTime, afterTime, detected, version, changes, edges, highest,
    lineage, _⟩ := members
  have sameChanges := eq_of_same_arr FieldChange.eq_of_same changes
  have sameEdges := eq_of_same_arr ImpactEdge.eq_of_same edges
  have sameLineage := texts_eq_of_same lineage
  cases given
  cases built
  dsimp only at *
  subst deltaId communityId beforeId afterId beforeHash afterHash beforeTime
    afterTime detected version sameChanges sameEdges highest sameLineage
    fingerprint
  rfl

theorem validateDeltaReplay_eq_ok {delta : CommunityDelta} :
    validateDeltaReplay delta = .ok true ↔ hash delta.payload = .ok delta.deltaFingerprint := by
  simp only [validateDeltaReplay, bind_eq_ok, pure_eq_ok, decide_eq_true_eq, exists_eq_right]

/-! ## What the validators accept -/

/-- The texts that are hashed for some deltas. -/
def deltaTexts (existing : Set CommunityDelta) : Set String :=
  {text | ∃ delta ∈ existing, canonicalJson delta.payload = some text}

section Sealed

variable {fromisoformat : FromIsoformat}
  {snapshotRegistry : SnapshotRegistry} {deltaRegistry : DeltaRegistry}

theorem accepted_iff_sameContent
    {arguments : SnapshotArguments} {built given : CommunityStateSnapshot}
    (builds : buildCommunityStateSnapshot fromisoformat snapshotRegistry arguments = .ok built)
    (sealed : given.semanticHash = built.semanticHash)
    (collisionFree : Sha256.CollisionFree (semanticTexts {given, built})) :
    (validateSnapshotReplay given = .ok true ∧
        validateComparisonEligibility snapshotRegistry given = .ok ()) ↔
      SameContent given built ∧ given.certificationState =
            snapshotRegistry.comparisonEligibleCertificationState ∧
          given.comparisonEligible = true ∧ given.blockingConditions = [] := by
  obtain ⟨⟨_, _, _, accepted⟩, semanticHash, recordHash, hashed, _, rfl⟩ :=
    build_eq_ok_iff.mp builds
  have distinct : ((draftSnapshot arguments).propertyStates.map
      PropertyStateProjection.propertyId).Nodup :=
    ((sortedBy_perm _ arguments.propertyStates).map
      PropertyStateProjection.propertyId).nodup_iff.mpr accepted.distinctProperties
  rw [validateComparisonEligibility_eq_ok, validateSnapshotReplay_eq_ok, sealed]
  constructor
  · rintro ⟨replays, state, eligible, unblocked, _⟩
    have same := (textual_semanticPayload given).same_of_sha256Canonical_eq
      (textual_semanticPayload (draftSnapshot arguments)) replays hashed
      collisionFree (fun text written => ⟨given, .inl rfl, written⟩)
      (fun text written => ⟨_, .inr rfl, written⟩)
    exact ⟨sameContent_of_same same, state, eligible, unblocked⟩
  · rintro ⟨same, state, eligible, unblocked⟩
    have replays :
        hash (.obj (semanticPayload given)) = .ok semanticHash := by
      rw [same.semanticPayload_eq distinct]
      exact hashed
    exact ⟨replays, state, eligible, unblocked, replays⟩

theorem accepted_iff_certified {arguments : DeltaArguments} {built given : CommunityDelta}
    (builds : buildCommunityDelta fromisoformat snapshotRegistry
      deltaRegistry arguments = .ok built)
    (state : given.certificationState = .certified)
    (sealed : given.deltaFingerprint = built.deltaFingerprint)
    (collisionFree : Sha256.CollisionFree (deltaTexts {given, built})) :
    validateDeltaReplay given = .ok true ↔
      certifyDelta built = .ok { given with reproducible := true } := by
  have certifies := exists_certified builds
  have built_eq : built.asCertified =
      { built with certificationState := .certified } := by
    obtain ⟨_, _, _, _, _, _, _, _, _, rfl⟩ := buildCommunityDelta_eq_ok_iff.mp builds
    rfl
  have given_eq : given.asCertified = { given with reproducible := true } := by
    rw [CommunityDelta.asCertified, ← state]
  have hashed : hash built.payload = .ok built.deltaFingerprint := by
    obtain ⟨_, _, _, _, _, _, _, _, hashed, rfl⟩ := buildCommunityDelta_eq_ok_iff.mp builds
    exact hashed
  rw [certifies, ← given_eq, ← built_eq, Except.ok.injEq, validateDeltaReplay_eq_ok, sealed]
  constructor
  · intro replays
    have same := given.textual_payload.same_of_sha256Canonical_eq
      built.textual_payload replays hashed collisionFree
      (fun text written => ⟨given, .inl rfl, written⟩)
      (fun text written => ⟨built, .inr rfl, written⟩)
    exact (asCertified_eq_of_same same sealed).symm
  · intro same
    have payload : given.payload = built.payload := by
      change given.asCertified.payload = built.asCertified.payload
      rw [same]
    rw [payload, hashed]

end Sealed

/-- Under the hash of a built snapshot the validators accept just the
snapshots that say the same, are marked as certified and as eligible, and name
no blocking condition; under the fingerprint of a built delta they accept just
what certification makes of it, up to its `reproducible` flag. -/
theorem accepted_content_sealed
    {fromisoformat : FromIsoformat} {snapshotRegistry : SnapshotRegistry}
    {deltaRegistry : DeltaRegistry} :
    (∀ arguments built given,
      buildCommunityStateSnapshot fromisoformat snapshotRegistry arguments =
        .ok built →
      given.semanticHash = built.semanticHash →
      Sha256.CollisionFree (semanticTexts {given, built}) →
      ((validateSnapshotReplay given = .ok true ∧
          validateComparisonEligibility snapshotRegistry given = .ok ()) ↔
        SameContent given built ∧ given.certificationState =
              snapshotRegistry.comparisonEligibleCertificationState ∧
            given.comparisonEligible = true ∧ given.blockingConditions = [])) ∧
    (∀ arguments built given,
      buildCommunityDelta fromisoformat snapshotRegistry deltaRegistry
        arguments = .ok built →
      given.certificationState = .certified →
      given.deltaFingerprint = built.deltaFingerprint →
      Sha256.CollisionFree (deltaTexts {given, built}) →
      (validateDeltaReplay given = .ok true ↔
        certifyDelta built = .ok { given with reproducible := true })) :=
  ⟨fun _ _ _ builds sealed collisionFree =>
      accepted_iff_sameContent builds sealed collisionFree,
    fun _ _ _ builds state sealed collisionFree =>
      accepted_iff_certified builds state sealed collisionFree⟩

/-! ## Samples -/

theorem collisionFree_semanticTexts {given built : CommunityStateSnapshot}
    (same : semanticPayload given = semanticPayload built) :
    Sha256.CollisionFree (semanticTexts {given, built}) := by
  have text : ∀ snapshot ∈ ({given, built} : Set CommunityStateSnapshot),
      semanticPayload snapshot = semanticPayload built := by
    rintro _ (rfl | rfl)
    · exact same
    · rfl
  rintro left ⟨_, leftListed, leftWritten⟩ right ⟨_, rightListed, rightWritten⟩ _
  rw [text _ leftListed] at leftWritten
  rw [text _ rightListed, leftWritten] at rightWritten
  exact Option.some.inj rightWritten

theorem collisionFree_deltaTexts
    {given built : CommunityDelta} (same : given.payload = built.payload) :
    Sha256.CollisionFree (deltaTexts {given, built}) := by
  have text : ∀ delta ∈ ({given, built} : Set CommunityDelta),
      delta.payload = built.payload := by
    rintro _ (rfl | rfl)
    · exact same
    · rfl
  rintro left ⟨_, leftListed, leftWritten⟩ right ⟨_, rightListed, rightWritten⟩ _
  rw [text _ leftListed] at leftWritten
  rw [text _ rightListed, leftWritten] at rightWritten
  exact Option.some.inj rightWritten

theorem accepted_content_sealed_sample :
    ∃ (arguments : SnapshotArguments) (draft given : CommunityStateSnapshot)
      (deltaArguments : DeltaArguments) (delta : CommunityDelta),
      buildCommunityStateSnapshot sampleFromisoformat snapshotRegistry
          arguments = .ok draft ∧
        SameContent given draft ∧ given.certificationState = .certified ∧
            buildCommunityDelta sampleFromisoformat snapshotRegistry
                deltaRegistry deltaArguments = .ok delta ∧
              validateDeltaReplay
                { delta with certificationState := .certified } =
                  .ok true := by
  obtain ⟨semanticHash, recordHash, before⟩ :=
    @exists_bareSnapshot _ _ _ [] first_instant (by simp) List.nodup_nil
  obtain ⟨_, _, after⟩ := @exists_bareSnapshot _ _ _ [] second_instant (by simp)
    List.nodup_nil
  obtain ⟨delta, built⟩ := exists_bareDelta first_instant second_instant
    (by decide) before after
  have eligible := before.eligible rfl rfl
  have replays := before.replays
  obtain ⟨arguments, draft, builds, certifies⟩ := before
  obtain ⟨_, _, _, _, given⟩ := certify_eq_ok_iff.mp certifies
  obtain ⟨snapshots, deltas⟩ := @accepted_content_sealed sampleFromisoformat
    snapshotRegistry deltaRegistry
  have payload : semanticPayload (bareSnapshot "2026-01-01T00:00:00+00:00" []
      semanticHash recordHash) = semanticPayload draft := by
    rw [given]
    rfl
  have sealed : (bareSnapshot "2026-01-01T00:00:00+00:00" [] semanticHash
      recordHash).semanticHash = draft.semanticHash := by
    rw [given]
    rfl
  have same := (snapshots arguments draft _ builds sealed
    (collisionFree_semanticTexts payload)).mp ⟨replays, eligible⟩
  have accepted := (deltas _ delta
    { delta with certificationState := .certified } built rfl rfl
    (collisionFree_deltaTexts rfl)).mpr (by
      rw [exists_certified built]
      obtain ⟨_, _, _, _, _, _, _, _, _, rfl⟩ :=
        buildCommunityDelta_eq_ok_iff.mp built
      rfl)
  exact ⟨arguments, draft, _, _, delta, builds, same.1, same.2.1, built,
    accepted⟩

/-- What certification makes of a built snapshot is reproducible. -/
theorem Certified.reproducible {fromisoformat : FromIsoformat} {registry : SnapshotRegistry}
    {snapshot : CommunityStateSnapshot}
    (certified : Certified fromisoformat registry snapshot) :
    snapshot.reproducible = true := by
  obtain ⟨arguments, draft, built, certifies⟩ := certified
  obtain ⟨_, _, _, _, rfl⟩ := build_eq_ok_iff.mp built |>.2
  obtain ⟨_, ⟨_, unblocked⟩, _, _, rfl⟩ := certify_eq_ok_iff.mp certifies
  by_contra drifted
  rw [Bool.not_eq_true] at drifted
  change (draftSnapshot arguments).blockingConditions = [] at unblocked
  have blocked : "NONREPRODUCIBLE" ∈
      (draftSnapshot arguments).blockingConditions := by
    change "NONREPRODUCIBLE" ∈ computeBlockingConditions _ _ _ _
      (draftSnapshot arguments).reproducible
    rw [show (draftSnapshot arguments).reproducible = false from drifted,
      computeBlockingConditions, mem_sortedBy, List.mem_map]
    exact ⟨(true, "NONREPRODUCIBLE"), List.mem_filter.mpr ⟨by simp, rfl⟩, rfl⟩
  rw [unblocked] at blocked
  exact List.not_mem_nil blocked

/-- The arguments of a bare snapshot whose source drifted. -/
def driftedArguments : SnapshotArguments :=
  { bareArguments "2026-01-01T00:00:00+00:00" [] with sourceDrift := true }

/-- The checks of the arguments do not read the drift. -/
theorem SnapshotArguments.Accepted.drifted
    {fromisoformat : FromIsoformat} {registry : SnapshotRegistry}
    {arguments : SnapshotArguments} {observation cutoff materialized : Int}
    (accepted : arguments.Accepted fromisoformat registry observation cutoff materialized) :
    ({ arguments with sourceDrift := true } : SnapshotArguments).Accepted
      fromisoformat registry observation cutoff materialized :=
  ⟨accepted.identified, accepted.released, accepted.root, accepted.rootShape,
    accepted.observed, accepted.cutOff, accepted.materializes,
    accepted.cutoffObserved, accepted.cutoffMaterialized,
    accepted.freshness, accepted.entries, accepted.distinctEntries, accepted.distinctProperties⟩

/-- A draft that drifted is accepted once its state, its eligibility and its
blocking conditions are replaced; a delta is accepted whatever its
`reproducible` flag. -/
theorem replaced_drafts_accepted :
    ∃ (arguments : SnapshotArguments) (draft given : CommunityStateSnapshot)
      (deltaArguments : DeltaArguments) (delta replaced : CommunityDelta),
      buildCommunityStateSnapshot sampleFromisoformat snapshotRegistry
          arguments = .ok draft ∧
        draft.blockingConditions = ["NONREPRODUCIBLE", "SOURCE_DRIFT"] ∧
          given = { draft with
            certificationState := .certified
            comparisonEligible := true
            blockingConditions := [] } ∧
        validateSnapshotReplay given = .ok true ∧
          validateComparisonEligibility snapshotRegistry given = .ok () ∧
        (∀ fromisoformat registry, ¬ Certified fromisoformat registry given) ∧
      buildCommunityDelta sampleFromisoformat snapshotRegistry deltaRegistry
          deltaArguments = .ok delta ∧
        replaced = { delta with
          certificationState := .certified
          reproducible := false } ∧
        validateDeltaReplay replaced = .ok true ∧
          ∀ fromisoformat registry deltaRegistry others other,
            buildCommunityDelta fromisoformat registry deltaRegistry
              others = .ok other → certifyDelta other ≠ .ok replaced := by
  obtain ⟨semanticHash, recordHash, before⟩ :=
    @exists_bareSnapshot _ _ _ [] first_instant (by simp) List.nodup_nil
  obtain ⟨_, _, after⟩ := @exists_bareSnapshot _ _ _ [] second_instant (by simp)
    List.nodup_nil
  obtain ⟨delta, deltaBuilt⟩ := exists_bareDelta first_instant second_instant
    (by decide) before after
  have accepted := (@accepted_bareArguments sampleFromisoformat
    "2026-01-01T00:00:00+00:00" _ [] first_instant (by simp)
      List.nodup_nil).drifted
  obtain ⟨semanticHash, semanticHashed⟩ := exists_hash
    (textual_semanticPayload (draftSnapshot driftedArguments))
  obtain ⟨recordHash, recordHashed⟩ := exists_hash (textual_recordPayload
    { draftSnapshot driftedArguments with semanticHash })
  have builds := build_eq_ok_iff.mpr ⟨⟨_, _, _, accepted⟩, semanticHash,
    recordHash, semanticHashed, recordHashed, rfl⟩
  have replays := (@validateSnapshotReplay_eq_ok
    { draftSnapshot driftedArguments with
      certificationState := .certified
      comparisonEligible := true
      blockingConditions := []
      semanticHash, recordHash }).mpr semanticHashed
  have blocked : computeBlockingConditions true false false (codeSet [])
      false = ["NONREPRODUCIBLE", "SOURCE_DRIFT"] := by decide
  have hashed : hash delta.payload = .ok delta.deltaFingerprint := by
    obtain ⟨_, _, _, _, _, _, _, _, hashed, rfl⟩ :=
      buildCommunityDelta_eq_ok_iff.mp deltaBuilt
    exact hashed
  refine ⟨driftedArguments, _, _, _, delta, _, builds, blocked, rfl,
    replays, validateComparisonEligibility_eq_ok.mpr
      ⟨rfl, rfl, rfl, replays⟩, ?_, deltaBuilt, rfl,
    validateDeltaReplay_eq_ok.mpr hashed, ?_⟩
  · intro fromisoformat registry certified
    exact Bool.noConfusion certified.reproducible
  · intro fromisoformat registry deltaRegistry others other otherBuilt
      certifies
    rw [exists_certified otherBuilt] at certifies
    obtain ⟨_, _, _, _, _, _, _, _, _, rfl⟩ :=
      buildCommunityDelta_eq_ok_iff.mp otherBuilt
    exact Bool.noConfusion
      (congrArg CommunityDelta.reproducible (Except.ok.inj certifies))

end SanTanHeights.Community
