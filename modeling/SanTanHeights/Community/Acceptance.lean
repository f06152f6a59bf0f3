import SanTanHeights.Community.Subjects

/-!
# What is accepted

The payloads of snapshots and of deltas hold texts and flags only, so they can
always be hashed, and a snapshot or a delta is built whenever the checks of its
arguments pass.
-/

namespace SanTanHeights.Community

open Foundation Foundation.Sorting Foundation.Outcome Shared

/-! ## Payloads -/

@[simp] theorem textual_texts (values : List String) : Textual (texts values) := by
  simp [texts]

@[simp] theorem TemporalManifestEntry.textual_asdict (entry : TemporalManifestEntry) :
    Textual entry.asdict := by
  simp [asdict, textual_obj, IsTagged]

@[simp] theorem PropertyStateProjection.textual_asdict (projection : PropertyStateProjection) :
    Textual projection.asdict := by
  simp [asdict, payload, textual_obj, IsTagged]

@[simp] theorem textual_manifestPayload (entries : List TemporalManifestEntry) :
    Textual (manifestPayload entries) := by
  simp [manifestPayload]

@[simp] theorem textual_propertyPayload (entries : List PropertyStateProjection) :
    Textual (propertyPayload entries) := by
  simp [propertyPayload]

theorem textual_semanticPayload (snapshot : CommunityStateSnapshot) :
    Textual (.obj (semanticPayload snapshot)) := by
  simp [semanticPayload, textual_obj, IsTagged]

theorem textual_recordPayload (snapshot : CommunityStateSnapshot) :
    Textual (recordPayload snapshot) := by
  simp [recordPayload, semanticPayload, textual_obj, IsTagged]

@[simp] theorem Value.textual_json (value : Value) : Textual value.json := by
  cases value <;> simp [json]

theorem FieldChange.textual_payload (change : FieldChange) : Textual (.obj change.payload) := by
  simp [payload, textual_obj, IsTagged]

@[simp] theorem FieldChange.textual_asdict (change : FieldChange) : Textual change.asdict := by
  simp [asdict, payload, textual_obj, IsTagged]

theorem ImpactEdge.textual_payload (edge : ImpactEdge) : Textual (.obj edge.payload) := by
  simp [payload, textual_obj, IsTagged]

@[simp] theorem ImpactEdge.textual_asdict (edge : ImpactEdge) : Textual edge.asdict := by
  simp [asdict, payload, textual_obj, IsTagged]

theorem CommunityDelta.textual_payload (delta : CommunityDelta) : Textual delta.payload := by
  simp [payload, textual_obj, IsTagged]

theorem exists_hash {value : Json} (textual : Textual value) :
    ∃ fingerprint, hash value = .ok fingerprint := by
  obtain ⟨fingerprint, hashed, _⟩ := textual.exists_sha256Canonical
  exact ⟨fingerprint, hashed⟩

/-! ## Snapshots -/

/-- An entry whose times are known at the observation. -/
def TemporalManifestEntry.KnownAt (fromisoformat : FromIsoformat) (observation cutoff : Int)
    (entry : TemporalManifestEntry) : Prop :=
  ∃ effective known, fromisoformat entry.effectiveAt = some (some effective) ∧
      fromisoformat entry.knownAt = some (some known) ∧ effective ≤ observation ∧ known ≤ cutoff

theorem validateEntryTemporality_eq_ok
    {fromisoformat : FromIsoformat} {observation cutoff : Int}
    {entry : TemporalManifestEntry} {result : Unit} :
    validateEntryTemporality fromisoformat observation cutoff entry =
        .ok result ↔
      entry.KnownAt fromisoformat observation cutoff := by
  rw [validateEntryTemporality, bind_eq_ok]
  constructor
  · rintro ⟨effective, effectiveParsed, checked⟩
    obtain ⟨known, knownParsed, checked⟩ := bind_eq_ok.mp checked
    rw [require_bind_eq_ok, require_eq_ok] at checked
    exact ⟨effective, known, parseTs_eq_ok.mp effectiveParsed,
      parseTs_eq_ok.mp knownParsed, checked⟩
  · rintro ⟨effective, known, effectiveParsed, knownParsed, checked⟩
    refine ⟨effective, parseTs_eq_ok.mpr effectiveParsed,
      bind_eq_ok.mpr ⟨known, parseTs_eq_ok.mpr knownParsed, ?_⟩⟩
    rwa [require_bind_eq_ok, require_eq_ok]

/-- The checks of the arguments of a snapshot, with the instants of its
times. -/
structure SnapshotArguments.Accepted
    (fromisoformat : FromIsoformat) (registry : SnapshotRegistry)
    (arguments : SnapshotArguments) (observation cutoff materialized : Int) : Prop where
  identified : Text.isBlank arguments.snapshotId = false ∧
    Text.isBlank arguments.communityId = false
  released : arguments.m12ReleaseCertified = true
  root : arguments.m12ReleaseCertificationRoot = registry.certificationRoot
  rootShape : Sha256.isHex64 arguments.m12ReleaseCertificationRoot = true
  observed : fromisoformat arguments.observationTime = some (some observation)
  cutOff : fromisoformat arguments.knowledgeCutoff = some (some cutoff)
  materializes : fromisoformat arguments.materializedAt = some (some materialized)
  cutoffObserved : cutoff ≤ observation
  cutoffMaterialized : cutoff ≤ materialized
  freshness : arguments.freshnessState ∈ registry.allowedFreshnessStates
  entries : ∀ entry ∈ arguments.allManifest, entry.KnownAt fromisoformat observation cutoff
  distinctEntries : (arguments.allManifest.map TemporalManifestEntry.identity).Nodup
  distinctProperties : (arguments.propertyStates.map PropertyStateProjection.propertyId).Nodup

/-- A snapshot is built just when its arguments pass the checks, and it is the
draft with its hashes. -/
theorem build_eq_ok_iff {fromisoformat : FromIsoformat} {registry : SnapshotRegistry}
    {arguments : SnapshotArguments} {draft : CommunityStateSnapshot} :
    buildCommunityStateSnapshot fromisoformat registry arguments = .ok draft ↔
      (∃ observation cutoff materialized, arguments.Accepted fromisoformat
        registry observation cutoff materialized) ∧
      ∃ semanticHash recordHash,
        hash (.obj (semanticPayload (draftSnapshot arguments))) =
            .ok semanticHash ∧
          hash (recordPayload { draftSnapshot arguments with semanticHash }) = .ok recordHash ∧
            draft = { draftSnapshot arguments with semanticHash, recordHash } := by
  constructor
  · intro built
    simp only [buildCommunityStateSnapshot, require_bind_eq_ok] at built
    obtain ⟨identified, released, root, built⟩ := built
    obtain ⟨_, rootShape, built⟩ := bind_eq_ok.mp built
    obtain ⟨observation, observed, built⟩ := bind_eq_ok.mp built
    obtain ⟨cutoff, cutOff, built⟩ := bind_eq_ok.mp built
    obtain ⟨materialized, materializes, built⟩ := bind_eq_ok.mp built
    simp only [require_bind_eq_ok] at built
    obtain ⟨cutoffObserved, cutoffMaterialized, freshness, built⟩ := built
    obtain ⟨_, checked, built⟩ := bind_eq_ok.mp built
    simp only [require_bind_eq_ok] at built
    obtain ⟨distinctEntries, distinctProperties, built⟩ := built
    obtain ⟨semanticHash, semanticHashed, built⟩ := bind_eq_ok.mp built
    obtain ⟨recordHash, recordHashed, built⟩ := bind_eq_ok.mp built
    refine ⟨⟨observation, cutoff, materialized, ?_⟩, semanticHash,
      recordHash, semanticHashed, recordHashed, (pure_eq_ok.mp built).symm⟩
    exact
      { identified := identified
        released := released
        root := root
        rootShape := require_eq_ok.mp rootShape
        observed := parseTs_eq_ok.mp observed
        cutOff := parseTs_eq_ok.mp cutOff
        materializes := parseTs_eq_ok.mp materializes
        cutoffObserved := cutoffObserved
        cutoffMaterialized := cutoffMaterialized
        freshness := freshness
        entries := by
          intro entry listed
          obtain ⟨_, _, valid⟩ := exists_ok_of_mapM checked listed
          exact validateEntryTemporality_eq_ok.mp valid
        distinctEntries := distinctEntries
        distinctProperties := distinctProperties }
  · rintro ⟨⟨observation, cutoff, materialized, accepted⟩, semanticHash,
      recordHash, semanticHashed, recordHashed, rfl⟩
    obtain ⟨checks, checked⟩ := exists_mapM_ok fun entry listed =>
      ⟨(), validateEntryTemporality_eq_ok.mpr (accepted.entries entry listed)⟩
    simp only [buildCommunityStateSnapshot, require_bind_eq_ok]
    refine ⟨accepted.identified, accepted.released, accepted.root, ?_⟩
    refine bind_eq_ok.mpr ⟨(), require_eq_ok.mpr accepted.rootShape, ?_⟩
    refine bind_eq_ok.mpr ⟨_, parseTs_eq_ok.mpr accepted.observed, ?_⟩
    refine bind_eq_ok.mpr ⟨_, parseTs_eq_ok.mpr accepted.cutOff, ?_⟩
    refine bind_eq_ok.mpr ⟨_, parseTs_eq_ok.mpr accepted.materializes, ?_⟩
    simp only [require_bind_eq_ok]
    refine ⟨accepted.cutoffObserved, accepted.cutoffMaterialized,
      accepted.freshness, bind_eq_ok.mpr ⟨checks, checked, ?_⟩⟩
    simp only [require_bind_eq_ok]
    refine ⟨accepted.distinctEntries, accepted.distinctProperties, ?_⟩
    exact bind_eq_ok.mpr ⟨_, semanticHashed, bind_eq_ok.mpr ⟨_, recordHashed, rfl⟩⟩

/-! ## Certification -/

/-- The snapshot that certification makes, its record hash apart. -/
def certifiedSnapshot (registry : SnapshotRegistry) (snapshot : CommunityStateSnapshot) :
    CommunityStateSnapshot :=
  { snapshot with
    certificationState := .certified
    comparisonEligible := decide (snapshot.freshnessState ∈ registry.comparisonEligibleFreshness) }

theorem certify_eq_ok_iff {registry : SnapshotRegistry}
    {snapshot certified : CommunityStateSnapshot} :
    certifySnapshot registry snapshot = .ok certified ↔
      snapshot.certificationState ∈ [CertificationState.draft, .validated] ∧
        (validateSnapshotReplay snapshot = .ok true ∧ snapshot.blockingConditions = []) ∧
          ∃ recordHash,
            hash (recordPayload (certifiedSnapshot registry snapshot)) =
                .ok recordHash ∧
              certified = { certifiedSnapshot registry snapshot with recordHash } := by
  simp only [certifySnapshot, require_bind_eq_ok, and_congr_right_iff]
  intro _
  constructor
  · intro certifies
    obtain ⟨replays, replayed, certifies⟩ := bind_eq_ok.mp certifies
    simp only [require_bind_eq_ok] at certifies
    obtain ⟨rfl, unblocked, certifies⟩ := certifies
    obtain ⟨recordHash, hashed, certifies⟩ := bind_eq_ok.mp certifies
    exact ⟨⟨replayed, unblocked⟩, recordHash, hashed, (pure_eq_ok.mp certifies).symm⟩
  · rintro ⟨⟨replayed, unblocked⟩, recordHash, hashed, rfl⟩
    refine bind_eq_ok.mpr ⟨true, replayed, ?_⟩
    simp only [require_bind_eq_ok]
    exact ⟨trivial, unblocked, bind_eq_ok.mpr ⟨recordHash, hashed, rfl⟩⟩

/-- A snapshot that was built and then certified. -/
def Certified (fromisoformat : FromIsoformat) (registry : SnapshotRegistry)
    (snapshot : CommunityStateSnapshot) : Prop :=
  ∃ arguments draft,
    buildCommunityStateSnapshot fromisoformat registry arguments = .ok draft ∧
      certifySnapshot registry draft = .ok snapshot

section Certified

variable {fromisoformat : FromIsoformat} {registry : SnapshotRegistry}
  {snapshot : CommunityStateSnapshot}

theorem Certified.replays (certified : Certified fromisoformat registry snapshot) :
    validateSnapshotReplay snapshot = .ok true := by
  obtain ⟨arguments, draft, _, certifies⟩ := certified
  obtain ⟨_, ⟨replayed, _⟩, _, _, rfl⟩ := certify_eq_ok_iff.mp certifies
  exact replayed

theorem Certified.eligible (certified : Certified fromisoformat registry snapshot)
    (state : registry.comparisonEligibleCertificationState = .certified)
    (eligible : snapshot.comparisonEligible = true) :
    validateComparisonEligibility registry snapshot = .ok () := by
  have replayed := certified.replays
  obtain ⟨arguments, draft, _, certifies⟩ := certified
  obtain ⟨_, ⟨_, unblocked⟩, _, _, rfl⟩ := certify_eq_ok_iff.mp certifies
  simp only [validateComparisonEligibility, require_bind_eq_ok]
  exact ⟨state.symm, eligible, unblocked, bind_eq_ok.mpr ⟨true, replayed, require_eq_ok.mpr rfl⟩⟩

/-- The times of a certified snapshot and of its entries can be read. -/
theorem Certified.times (certified : Certified fromisoformat registry snapshot) :
    ∃ observation cutoff,
      fromisoformat snapshot.observationTime = some (some observation) ∧
        fromisoformat snapshot.knowledgeCutoff = some (some cutoff) ∧
          ∀ kind, ∀ entry ∈ snapshot.manifest kind,
            entry.KnownAt fromisoformat observation cutoff := by
  obtain ⟨arguments, draft, built, certifies⟩ := certified
  obtain ⟨⟨observation, cutoff, _, accepted⟩, _, _, _, _, rfl⟩ := build_eq_ok_iff.mp built
  obtain ⟨_, _, _, _, rfl⟩ := certify_eq_ok_iff.mp certifies
  refine ⟨observation, cutoff, accepted.observed, accepted.cutOff, ?_⟩
  intro kind entry listed
  apply accepted.entries
  cases kind <;> simp_all [SnapshotArguments.allManifest, certifiedSnapshot,
      draftSnapshot, CommunityStateSnapshot.manifest]

end Certified

/-- Accepted arguments without blocking conditions make a certified
snapshot. -/
theorem SnapshotArguments.Accepted.certified
    {fromisoformat : FromIsoformat} {registry : SnapshotRegistry}
    {arguments : SnapshotArguments} {observation cutoff materialized : Int}
    (accepted : arguments.Accepted fromisoformat registry observation cutoff materialized)
    (unblocked : (draftSnapshot arguments).blockingConditions = []) :
    ∃ semanticHash recordHash, Certified fromisoformat registry
        { certifiedSnapshot registry (draftSnapshot arguments) with
          semanticHash, recordHash } := by
  obtain ⟨semanticHash, semanticHashed⟩ :=
    exists_hash (textual_semanticPayload (draftSnapshot arguments))
  obtain ⟨recordHash, recordHashed⟩ := exists_hash (textual_recordPayload
    { draftSnapshot arguments with semanticHash })
  have built := build_eq_ok_iff.mpr ⟨⟨_, _, _, accepted⟩, semanticHash,
    recordHash, semanticHashed, recordHashed, rfl⟩
  obtain ⟨certifiedHash, certifiedHashed⟩ := exists_hash
    (textual_recordPayload (certifiedSnapshot registry
      { draftSnapshot arguments with semanticHash, recordHash }))
  refine ⟨semanticHash, certifiedHash, arguments, _, built,
    certify_eq_ok_iff.mpr ⟨List.mem_cons_self, ⟨?_, unblocked⟩,
      certifiedHash, certifiedHashed, rfl⟩⟩
  exact bind_eq_ok.mpr ⟨semanticHash, semanticHashed, congrArg Except.ok (decide_eq_true rfl)⟩

/-! ## Changes -/

theorem mem_changeClassifications (classification : Classification) :
    classification ∈ deltaRegistry.changeClassifications := by
  cases classification <;> decide

/-- The frozen rules assign a materiality to every change. -/
theorem exists_materiality (domain : Domain) (classification : Classification) :
    ∃ level, materiality deltaRegistry domain classification = .ok level := by
  cases domain <;> cases classification <;> exact ⟨_, rfl⟩

theorem exists_materialityOrder
    {level : String} (listed : level ∈ deltaRegistry.materialityLevels) :
    ∃ rank, materialityOrder level = some rank := by
  simp only [deltaRegistry, List.mem_cons, List.not_mem_nil, or_false] at listed
  rcases listed with rfl | rfl | rfl | rfl | rfl <;> exact ⟨_, rfl⟩

theorem mem_levels_of_materiality {registry : DeltaRegistry} {domain : Domain}
    {classification : Classification} {level : String}
    (assigned : materiality registry domain classification = .ok level) :
    level ∈ registry.materialityLevels := by
  rw [materiality] at assigned
  obtain ⟨result, _, assigned⟩ := bind_eq_ok.mp assigned
  rw [require_bind_eq_ok] at assigned
  rw [← pure_eq_ok.mp assigned.2]
  exact assigned.1

variable {draft : Draft}

theorem materiality_of_makeChange {fromisoformat : FromIsoformat} {registry : DeltaRegistry}
    {arguments : DeltaArguments} {ordinal : Nat} {change : FieldChange}
    (made : makeChange fromisoformat registry arguments ordinal draft = .ok change) :
    change.materiality ∈ registry.materialityLevels := by
  obtain ⟨_, _, _, _, assigned, _, _, _, _, rfl⟩ := makeChange_eq_ok_iff.mp made
  exact mem_levels_of_materiality assigned

/-- The cause of a draft is known and its time can be read. -/
structure Draft.Ready (fromisoformat : FromIsoformat) (draft : Draft) : Prop where
  cause : ∃ cause, draft.cause = .ok cause
  effectiveAt : ∀ value, draft.exactEffectiveAt = some value →
    ∃ instant, fromisoformat value = some (some instant)

/-- Nothing is overridden. -/
structure DeltaArguments.Plain (arguments : DeltaArguments) : Prop where
  causes : ∀ key, arguments.causeOverrides key = none
  times : ∀ key, arguments.effectiveAtOverrides key = none

section Making

variable {fromisoformat : FromIsoformat} {arguments : DeltaArguments}

theorem exists_causeFor (plain : arguments.Plain) (registry : DeltaRegistry) (key : String)
    (inferred : Option ChangeCause) :
    ∃ cause, causeFor registry arguments.causeOverrides key inferred = .ok cause := by
  rw [causeFor, plain.causes]
  exact ⟨_, rfl⟩

theorem exists_makeChange (plain : arguments.Plain) (ordinal : Nat)
    (ready : draft.Ready fromisoformat) :
    ∃ change, makeChange fromisoformat deltaRegistry arguments ordinal draft = .ok change := by
  obtain ⟨cause, known⟩ := ready.cause
  obtain ⟨level, assigned⟩ := exists_materiality draft.subject.domain draft.subject.classification
  have effective : ∃ time, effectiveAt fromisoformat
      arguments.effectiveAtOverrides draft.causeKey draft.exactEffectiveAt = .ok time := by
    cases exact : draft.exactEffectiveAt with
    | none =>
        refine ⟨"UNKNOWN", ?_⟩
        rw [effectiveAt, plain.times]
        rfl
    | some value =>
        obtain ⟨instant, parsed⟩ := ready.effectiveAt value exact
        exact ⟨value, bind_eq_ok.mpr ⟨instant, parseTs_eq_ok.mpr parsed, rfl⟩⟩
  obtain ⟨time, timed⟩ := effective
  obtain ⟨fingerprint, hashed⟩ := exists_hash
    (changeRecord deltaRegistry arguments ordinal draft cause level time).textual_payload
  exact ⟨_, makeChange_eq_ok_iff.mpr ⟨cause, known,
    mem_changeClassifications _, level, assigned, time, timed, fingerprint, hashed, rfl⟩⟩

/-- The times that a delta reads of its snapshots can be read. -/
structure DeltaArguments.Readable (fromisoformat : FromIsoformat) (arguments : DeltaArguments) :
    Prop where
  observed : ∃ instant, fromisoformat arguments.before.observationTime = some (some instant)
  cutOff : ∃ instant, fromisoformat arguments.before.knowledgeCutoff = some (some instant)
  beforeEntries : ∀ kind, ∀ entry ∈ arguments.before.manifest kind,
    ∃ observation cutoff, entry.KnownAt fromisoformat observation cutoff
  afterEntries : ∀ kind, ∀ entry ∈ arguments.after.manifest kind,
    ∃ observation cutoff, entry.KnownAt fromisoformat observation cutoff

theorem ready_of_propertyDrafts
    (plain : arguments.Plain) {registry : DeltaRegistry} {propertyId : String}
    {old new : Option PropertyStateProjection}
    (member : draft ∈ propertyDrafts registry arguments propertyId old new) :
    draft.Ready fromisoformat := by
  have ready : ∀ subject evidence, (draftOfProperty registry arguments
      propertyId subject evidence).Ready fromisoformat := fun _ _ =>
    ⟨exists_causeFor plain _ _ _, nofun⟩
  rcases old with _ | old <;> rcases new with _ | new
  · cases member
  · rw [List.mem_singleton.mp member]
    exact ready _ _
  · rw [List.mem_singleton.mp member]
    exact ready _ _
  · obtain ⟨field, _, rfl⟩ := List.mem_map.mp member
    exact ready _ _

theorem exists_manifestInferredCause (readable : arguments.Readable fromisoformat) {kind : Kind}
    {old new : Option TemporalManifestEntry}
    (newKnown : ∀ entry, new = some entry → ∃ observation cutoff,
      entry.KnownAt fromisoformat observation cutoff) :
    ∃ inferred, manifestInferredCause fromisoformat arguments.before kind
      old new = .ok inferred := by
  cases kind with
  | policy => exact ⟨_, rfl⟩
  | runtime => exact ⟨_, rfl⟩
  | source =>
      cases old with
      | some removed => exact ⟨none, by cases new <;> rfl⟩
      | none =>
          cases new with
          | none => exact ⟨none, rfl⟩
          | some added =>
              obtain ⟨_, _, effective, known, effectiveParsed, knownParsed, _⟩ := newKnown added rfl
              obtain ⟨observation, observed⟩ := readable.observed
              obtain ⟨cutoff, cutOff⟩ := readable.cutOff
              refine ⟨if cutoff < known ∧ effective ≤ observation then
                some newlyObservedFact else none, ?_⟩
              refine bind_eq_ok.mpr ⟨known, parseTs_eq_ok.mpr knownParsed, ?_⟩
              refine bind_eq_ok.mpr ⟨effective, parseTs_eq_ok.mpr effectiveParsed, ?_⟩
              refine bind_eq_ok.mpr ⟨cutoff, parseTs_eq_ok.mpr cutOff, ?_⟩
              refine bind_eq_ok.mpr ⟨observation, parseTs_eq_ok.mpr observed, ?_⟩
              split_ifs <;> rfl

theorem ready_of_manifestDrafts
    (plain : arguments.Plain) (readable : arguments.Readable fromisoformat)
    {registry : DeltaRegistry} {kind : Kind} {identity : String ×ₗ String}
    (member : draft ∈ manifestDrafts fromisoformat registry arguments kind
      identity (arguments.before.entry? kind identity) (arguments.after.entry? kind identity)) :
    draft.Ready fromisoformat := by
  have oldKnown : ∀ entry, arguments.before.entry? kind identity =
      some entry → ∃ observation cutoff,
        entry.KnownAt fromisoformat observation cutoff := fun entry found =>
    readable.beforeEntries kind entry (List.mem_reverse.mp (Merging.mem_of_get found))
  have newKnown : ∀ entry, arguments.after.entry? kind identity =
      some entry → ∃ observation cutoff,
        entry.KnownAt fromisoformat observation cutoff := fun entry found =>
    readable.afterEntries kind entry (List.mem_reverse.mp (Merging.mem_of_get found))
  generalize arguments.before.entry? kind identity = old at *
  generalize arguments.after.entry? kind identity = new at *
  have cause : ∀ subject evidence exact, ∃ cause,
      (draftOfEntry fromisoformat registry arguments kind identity old new
        subject evidence exact).cause = .ok cause := by
    intro subject evidence exact
    obtain ⟨inferred, infers⟩ :=
      @exists_manifestInferredCause _ _ readable kind old new newKnown
    obtain ⟨cause, known⟩ := exists_causeFor plain registry
      (kind.domain.code ++ ":" ++ identityText identity ++ ":fingerprint")
      inferred
    exact ⟨cause, bind_eq_ok.mpr ⟨inferred, infers, known⟩⟩
  rcases old with _ | old <;> rcases new with _ | new
  · cases member
  · rw [List.mem_singleton.mp member]
    refine ⟨cause _ _ _, ?_⟩
    rintro _ ⟨⟩
    obtain ⟨_, _, effective, _, parsed, _⟩ := newKnown new rfl
    exact ⟨effective, parsed⟩
  · rw [List.mem_singleton.mp member]
    exact ⟨cause _ _ _, nofun⟩
  · rw [List.mem_singleton.mp member]
    refine ⟨cause _ _ _, ?_⟩
    rintro _ ⟨⟩
    obtain ⟨_, _, oldEffective, _, oldParsed, _⟩ := oldKnown old rfl
    obtain ⟨_, _, newEffective, _, newParsed, _⟩ := newKnown new rfl
    split_ifs
    · exact ⟨oldEffective, oldParsed⟩
    · exact ⟨newEffective, newParsed⟩

theorem ready_of_mem_drafts
    (plain : arguments.Plain) (readable : arguments.Readable fromisoformat)
    {registry : DeltaRegistry} (member : draft ∈ drafts fromisoformat registry arguments) :
    draft.Ready fromisoformat := by
  rw [drafts, List.mem_append, List.mem_append] at member
  rcases member with community | property | manifest
  · obtain ⟨field, _, rfl⟩ := List.mem_map.mp community
    exact ⟨exists_causeFor plain _ _ _, nofun⟩
  · obtain ⟨propertyId, _, listed⟩ := Merging.mem_merge.mp property
    exact ready_of_propertyDrafts plain listed
  · obtain ⟨kind, _, listed⟩ := List.mem_flatMap.mp manifest
    obtain ⟨identity, _, listed⟩ := Merging.mem_merge.mp listed
    exact ready_of_manifestDrafts plain readable listed

theorem exists_madeChanges
    (plain : arguments.Plain) (readable : arguments.Readable fromisoformat) :
    ∃ made, madeChanges fromisoformat deltaRegistry arguments = .ok made := by
  apply exists_mapM_ok
  rintro ⟨draft, ordinal⟩ member
  exact exists_makeChange plain (ordinal + 1)
    (ready_of_mem_drafts plain readable (List.fst_mem_of_mem_zipIdx member))

end Making

/-! ## Deltas -/

theorem exists_impactEdge (registry : DeltaRegistry) (change : FieldChange) :
    ∃ edge, impactEdge registry change = .ok edge := by
  rw [impactEdge]
  split_ifs
  · obtain ⟨fingerprint, hashed⟩ := exists_hash (edgeRecord registry change).textual_payload
    exact ⟨_, bind_eq_ok.mpr ⟨fingerprint, hashed, rfl⟩⟩
  · exact ⟨none, rfl⟩

theorem exists_highestMateriality {levels : List String}
    (known : ∀ level ∈ levels, level ∈ deltaRegistry.materialityLevels) :
    ∃ highest, highestMateriality levels = .ok highest := by
  have ranks : ∃ ranked, (levels.mapM fun level =>
      (orRaise (materialityOrder level) level).map fun rank =>
        (level, rank)) = .ok ranked := by
    apply exists_mapM_ok
    intro level listed
    obtain ⟨rank, ordered⟩ := exists_materialityOrder (known level listed)
    exact ⟨(level, rank), map_eq_ok.mpr ⟨rank, orRaise_eq_ok.mpr ordered, rfl⟩⟩
  obtain ⟨ranked, ranks⟩ := ranks
  exact ⟨_, bind_eq_ok.mpr ⟨ranked, ranks, rfl⟩⟩

/-- A delta is built of any snapshots that can be compared. -/
theorem exists_delta {fromisoformat : FromIsoformat} {registry : SnapshotRegistry}
    {arguments : DeltaArguments} (comparable : arguments.Comparable fromisoformat registry)
    (plain : arguments.Plain) (readable : arguments.Readable fromisoformat) :
    ∃ delta, buildCommunityDelta fromisoformat registry deltaRegistry arguments = .ok delta := by
  obtain ⟨made, makes⟩ := exists_madeChanges plain readable
  have levels : ∀ change ∈ made,
      change.materiality ∈ deltaRegistry.materialityLevels :=
    forall_mem_of_mapM makes fun _ _ _ made => materiality_of_makeChange made
  obtain ⟨edges, edged⟩ := exists_mapM_ok fun (change : FieldChange)
      (_ : change ∈ sortedBy (fun change : FieldChange => change.location) made) =>
    exists_impactEdge deltaRegistry change
  have known : ∀ level ∈ ((sortedBy (fun change : FieldChange =>
      change.location) made).filter fun change =>
        change.classification ≠ .unchanged).map FieldChange.materiality,
      level ∈ deltaRegistry.materialityLevels := by
    intro level listed
    obtain ⟨change, member, rfl⟩ := List.mem_map.mp listed
    exact levels change ((sortedBy_perm _ _).subset (List.mem_of_mem_filter member))
  obtain ⟨highest, ranked⟩ := exists_highestMateriality known
  obtain ⟨fingerprint, hashed⟩ := exists_hash (deltaRecord deltaRegistry
    arguments (sortedBy (fun change : FieldChange => change.location) made)
      edges highest).textual_payload
  exact ⟨_, buildCommunityDelta_eq_ok_iff.mpr ⟨comparable, made, makes,
    edges, edged, highest, ranked, fingerprint, hashed, rfl⟩⟩

/-- No two values are classified as not comparable. -/
theorem classification_ne_notComparable
    {fromisoformat : FromIsoformat} {before after : CommunityStateSnapshot}
    {subject : Subject} (listed : Listed fromisoformat before after subject) :
    subject.classification ≠ .notComparable := by
  have classified : ∀ path old new,
      classifyValue path old new ≠ .notComparable := by
    intro path old new
    unfold classifyValue
    split_ifs <;> simp
  cases listed with
  | community field => exact classified _ _ _
  | added => simp [wholePropertySubject]
  | removed => simp [wholePropertySubject]
  | compared field => exact classified _ _ _
  | entryAdded =>
      rw [entrySubject]
      dsimp only
      split_ifs <;> simp
  | entryRemoved => simp [entrySubject]
  | entryCompared =>
      rw [entrySubject]
      dsimp only
      split_ifs <;> simp

/-- Every delta that is built can be certified. -/
theorem exists_certified {fromisoformat : FromIsoformat} {snapshotRegistry : SnapshotRegistry}
    {registry : DeltaRegistry} {arguments : DeltaArguments} {delta : CommunityDelta}
    (built : buildCommunityDelta fromisoformat snapshotRegistry registry arguments = .ok delta) :
    certifyDelta delta = .ok { delta with certificationState := .certified } := by
  have compared := compared_of_build built
  obtain ⟨_, _, _, _, _, _, _, fingerprint, hashed, rfl⟩ :=
    buildCommunityDelta_eq_ok_iff.mp built
  simp only [certifyDelta, require_bind_eq_ok]
  refine ⟨rfl, bind_eq_ok.mpr ⟨true, bind_eq_ok.mpr ⟨fingerprint, hashed,
    congrArg Except.ok (decide_eq_true rfl)⟩, ?_⟩⟩
  simp only [require_bind_eq_ok]
  refine ⟨trivial, ?_, rfl⟩
  intro change member
  exact classification_ne_notComparable (mem_subjects.mp
    (compared.subjects.subset (List.mem_map_of_mem member)))

/-! ## Communities without properties -/

/-- A snapshot at one time of a community that has sources only. -/
def bareArguments (time : String) (sources : List TemporalManifestEntry) :
    SnapshotArguments where
  snapshotId := "SNAPSHOT"
  communityId := "STH"
  observationTime := time
  knowledgeCutoff := time
  materializedAt := time
  baselineSnapshotId := none
  m12ReleaseCertified := true
  m12ReleaseCertificationRoot := snapshotRegistry.certificationRoot
  sourceManifest := sources
  policyManifest := []
  runtimeManifest := []
  propertyStates := []
  exclusions := []
  conflicts := []
  freshnessState := "CURRENT"
  sourceDrift := false
  policyDrift := false
  runtimeDrift := false

/-- What certification makes of it, up to its hashes. -/
def bareSnapshot (time : String) (sources : List TemporalManifestEntry)
    (semanticHash recordHash : String) : CommunityStateSnapshot :=
  { certifiedSnapshot snapshotRegistry
      (draftSnapshot (bareArguments time sources)) with
    semanticHash, recordHash }

/-- The delta of two of them that is detected at once. -/
def bareDelta (before after : CommunityStateSnapshot) : DeltaArguments where
  deltaId := "DELTA"
  before := before
  after := after
  detectedAt := after.observationTime
  causeOverrides := fun _ => none
  effectiveAtOverrides := fun _ => none

section Bare

variable {fromisoformat : FromIsoformat} {time : String} {instant : Int}
  {sources : List TemporalManifestEntry}

theorem accepted_bareArguments (parsed : fromisoformat time = some (some instant))
    (known : ∀ entry ∈ sources, entry.KnownAt fromisoformat instant instant)
    (distinct : (sources.map TemporalManifestEntry.identity).Nodup) :
    (bareArguments time sources).Accepted fromisoformat snapshotRegistry
      instant instant instant := by
  have identified : Text.isBlank "SNAPSHOT" = false ∧ Text.isBlank "STH" = false := by decide
  have rootShape :
      Sha256.isHex64 snapshotRegistry.certificationRoot = true :=
    Sha256.isHex64_ofList rfl rfl
  have all : (bareArguments time sources).allManifest = sources := by
    simp [SnapshotArguments.allManifest, bareArguments]
  exact
    { identified := identified
      released := rfl
      root := rfl
      rootShape := rootShape
      observed := parsed
      cutOff := parsed
      materializes := parsed
      cutoffObserved := le_rfl
      cutoffMaterialized := le_rfl
      freshness := List.mem_cons_self
      entries := by rwa [all]
      distinctEntries := by rwa [all]
      distinctProperties := List.nodup_nil }

theorem exists_bareSnapshot (parsed : fromisoformat time = some (some instant))
    (known : ∀ entry ∈ sources, entry.KnownAt fromisoformat instant instant)
    (distinct : (sources.map TemporalManifestEntry.identity).Nodup) :
    ∃ semanticHash recordHash, Certified fromisoformat snapshotRegistry
      (bareSnapshot time sources semanticHash recordHash) := by
  apply (accepted_bareArguments parsed known distinct).certified
  have unblocked : computeBlockingConditions false false false (codeSet []) true = [] := by decide
  exact unblocked

@[simp] theorem mem_sources_bareSnapshot
    {semanticHash recordHash : String} {entry : TemporalManifestEntry} :
    entry ∈ (bareSnapshot time sources semanticHash recordHash).manifest
        .source ↔
      entry ∈ sources :=
  (sortedBy_perm TemporalManifestEntry.sortKey sources).mem_iff

theorem Certified.readable {registry : SnapshotRegistry} {arguments : DeltaArguments}
    (before : Certified fromisoformat registry arguments.before)
    (after : Certified fromisoformat registry arguments.after) :
    arguments.Readable fromisoformat := by
  obtain ⟨observation, cutoff, observed, cutOff, beforeKnown⟩ := before.times
  obtain ⟨_, _, _, _, afterKnown⟩ := after.times
  exact
    { observed := ⟨observation, observed⟩
      cutOff := ⟨cutoff, cutOff⟩
      beforeEntries := fun kind entry listed =>
        ⟨_, _, beforeKnown kind entry listed⟩
      afterEntries := fun kind entry listed =>
        ⟨_, _, afterKnown kind entry listed⟩ }

theorem exists_bareDelta {later : String} {laterInstant : Int}
    {laterSources : List TemporalManifestEntry}
    {semanticHash recordHash laterSemanticHash laterRecordHash : String}
    (parsed : fromisoformat time = some (some instant))
    (laterParsed : fromisoformat later = some (some laterInstant))
    (inOrder : instant < laterInstant)
    (before : Certified fromisoformat snapshotRegistry
      (bareSnapshot time sources semanticHash recordHash))
    (after : Certified fromisoformat snapshotRegistry
      (bareSnapshot later laterSources laterSemanticHash laterRecordHash)) :
    ∃ delta, buildCommunityDelta fromisoformat snapshotRegistry
      deltaRegistry (bareDelta (bareSnapshot time sources semanticHash recordHash)
        (bareSnapshot later laterSources laterSemanticHash laterRecordHash)) = .ok delta := by
  apply exists_delta
  · have identified : Text.isBlank "DELTA" = false := by decide
    exact
      { identified := identified
        beforeEligible := before.eligible rfl rfl
        afterEligible := after.eligible rfl rfl
        community := rfl
        root := rfl
        times := ⟨instant, laterInstant, laterInstant, parsed, laterParsed,
          laterParsed, inOrder, le_rfl⟩ }
  · exact ⟨fun _ => rfl, fun _ => rfl⟩
  · exact @Certified.readable _ _ (bareDelta _ _) before after

end Bare

/-- The instants of three texts, in seconds. -/
def sampleFromisoformat : FromIsoformat := fun text =>
  if text = "2026-01-01T00:00:00+00:00" then some (some 1767225600)
  else if text = "2026-02-01T00:00:00+00:00" then some (some 1769904000)
  else if text = "2026-03-01T00:00:00+00:00" then some (some 1772323200)
  else none

theorem first_instant : sampleFromisoformat "2026-01-01T00:00:00+00:00" =
    some (some 1767225600) := by decide

theorem second_instant : sampleFromisoformat "2026-02-01T00:00:00+00:00" =
    some (some 1769904000) := by decide

theorem third_instant : sampleFromisoformat "2026-03-01T00:00:00+00:00" =
    some (some 1772323200) := by decide

/-- A source that is known from the first of them. -/
def sampleSource (entryType entryId : String) : TemporalManifestEntry where
  entryType := entryType
  entryId := entryId
  effectiveAt := "2026-01-01T00:00:00+00:00"
  knownAt := "2026-01-01T00:00:00+00:00"
  fingerprint := snapshotRegistry.certificationRoot

end SanTanHeights.Community
