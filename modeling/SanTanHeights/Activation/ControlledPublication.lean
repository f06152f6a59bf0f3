import SanTanHeights.Foundation.Keyed
import SanTanHeights.Foundation.Registers
import SanTanHeights.Foundation.Tables
import SanTanHeights.Shared.Dumps

/-!
# Controlled publication

A batch moves the publication pointers of a frozen cohort, one for each
property and tier.  It records the state that a pointer had, is applied where
the states are still those, and is rolled back to pointers that are given.
-/

namespace SanTanHeights.Activation

open Foundation Foundation.Json Foundation.Sorting Foundation.Outcome
  Foundation.Keyed Foundation.Registers Shared

/-! ## Variants and pointers -/

def allowedTiers : List String := ["AGENT", "SELLER", "PUBLIC"]

def stageOrder : List String :=
  ["COHORT_25", "COHORT_100", "COHORT_500", "REMAINING_FLEET"]

/-- A property and a tier. -/
abbrev PointerKey := String ×ₗ String

structure PublicationVariant where
  canonicalPropertyId : String
  outputTier : String
  reportStateKey : String
  passportFingerprint : String
  reportFingerprint : String
  publicationState : String
  tierEligible : Bool
  quarantined : Bool
  staleCurrentDisplayed : Bool
  deriving DecidableEq, Repr

def PublicationVariant.key (variant : PublicationVariant) : PointerKey :=
  toLex (variant.canonicalPropertyId, variant.outputTier)

structure PublicationPointer where
  canonicalPropertyId : String
  outputTier : String
  reportStateKey : Option String
  reportFingerprint : Option String
  deriving DecidableEq, Repr

def PublicationPointer.key (pointer : PublicationPointer) : PointerKey :=
  toLex (pointer.canonicalPropertyId, pointer.outputTier)

/-- Pointers, one for each property and tier. -/
abbrev PointerMap := Table PublicationPointer.key

/-- `pointer.report_state_key if pointer else None`. -/
def stateKey (pointer : Option PublicationPointer) : Option String :=
  pointer.bind PublicationPointer.reportStateKey

/-- `startswith("STH-")`. -/
def isCanonical (propertyId : String) : Bool :=
  "STH-".toList.isPrefixOf propertyId.toList

/-- What is raised. -/
inductive PublicationError where
  | message (text : String)
  /-- The first three of the keys whose variants are missing. -/
  | variantsMissing (keys : List PointerKey)
  deriving DecidableEq

/-- `raise ValueError` unless a condition holds. -/
def check (condition : Prop) [Decidable condition] (text : String) :
    Except PublicationError Unit :=
  require condition (.message text)

/-- `validate_variant_for_publication`. -/
def validateVariantForPublication (variant : PublicationVariant) :
    Except PublicationError Unit := do
  check (variant.outputTier ∈ allowedTiers) "unsupported publication tier"
  check (isCanonical variant.canonicalPropertyId = true) "unexpected canonical property id"
  check (variant.tierEligible = true) "variant is not tier eligible"
  check (variant.quarantined = false) "quarantined content cannot publish"
  check (variant.staleCurrentDisplayed = false) "stale current content cannot publish"
  check (variant.publicationState ∈ ["MATERIALIZED_NOT_PUBLISHED", "PUBLISHED"])
    "unsupported publication state"
  check (variant.reportStateKey.length = 64 ∧ variant.passportFingerprint.length = 64 ∧
    variant.reportFingerprint.length = 64)
    "publication fingerprints must be sha256"

/-! ## Cohorts -/

/-- `property_count`. -/
inductive PropertyCount where
  | allRemaining
  | exactly (count : Nat)
  deriving DecidableEq, Repr

structure PublicationStage where
  propertyCount : PropertyCount
  priorStage : Option String
  deriving DecidableEq, Repr

/-- The stages of a publication policy. -/
structure PublicationPolicy where
  stages : List (String × PublicationStage)
  deriving DecidableEq, Repr

/-- `m9-010-controlled-publication-v1.0.yaml`. -/
def publicationPolicy : PublicationPolicy where
  stages :=
    [("COHORT_25", ⟨.exactly 25, none⟩), ("COHORT_100", ⟨.exactly 100, some "COHORT_25"⟩),
      ("COHORT_500", ⟨.exactly 500, some "COHORT_100"⟩),
      ("REMAINING_FLEET", ⟨.allRemaining, some "COHORT_500"⟩)]

/-- A frozen cohort lists no property and no tier twice. -/
structure FrozenPublicationCohort where
  cohortCode : String
  candidateFingerprint : String
  propertyIds : List String
  allowedTiers : List String
  membershipFingerprint : String
  distinctIds : propertyIds.Nodup
  distinctTiers : allowedTiers.Nodup

/-- The properties that a stage takes of those that remain. -/
def PropertyCount.select (remaining : List String) :
    PropertyCount → List String
  | allRemaining => remaining
  | exactly count => remaining.take count

/-- Whether as many properties were taken as a stage asks for. -/
def PropertyCount.Met (selected : List String) : PropertyCount → Prop
  | allRemaining => True
  | exactly count => selected.length = count

instance (selected : List String) (count : PropertyCount) : Decidable (count.Met selected) := by
  cases count <;> unfold PropertyCount.Met <;> infer_instance

/-- The eligible properties of no prior cohort, in order. -/
def remainingIds (eligible prior : List String) : List String :=
  (sortedBy id eligible).filter fun propertyId => propertyId ∉ prior

theorem nodup_select {eligible prior : List String} (distinct : eligible.Nodup)
    (count : PropertyCount) : (count.select (remainingIds eligible prior)).Nodup := by
  have remaining : (remainingIds eligible prior).Nodup :=
    ((sortedBy_perm id eligible).nodup_iff.mpr distinct).filter _
  cases count with
  | allRemaining => exact remaining
  | exactly count => exact remaining.sublist (List.take_sublist _ _)

/-- What the fingerprint of a cohort covers. -/
def membershipPayload (cohortCode candidateFingerprint : String) (propertyIds : List String) :
    Json :=
  .obj [("cohort_code", .str cohortCode),
      ("candidate_fingerprint", .str candidateFingerprint),
      ("property_ids", .arr (propertyIds.map .str)),
      ("allowed_tiers", .arr (allowedTiers.map .str))]

/-- `freeze_publication_cohort`. -/
def freezePublicationCohort
    (policy : PublicationPolicy) (cohortCode candidateFingerprint : String)
    (eligible prior : List String) :
    Except String FrozenPublicationCohort := do
  require (cohortCode ∈ stageOrder) "unknown publication cohort"
  require (candidateFingerprint.length = 64)
    "candidate fingerprint must be sha256"
  let stage ← orRaise (policy.stages.lookup cohortCode) "KeyError"
  if distinct : eligible.Nodup then
    require (∀ propertyId ∈ eligible, isCanonical propertyId = true)
      "invalid canonical property id in eligibility set"
    require (¬ (stage.priorStage.getD "" ≠ "" ∧ prior = []))
      "prior cohort evidence is required"
    let selected := stage.propertyCount.select (remainingIds eligible prior)
    require (stage.propertyCount.Met selected)
      "insufficient eligible properties for exact cohort"
    require (selected ≠ []) "publication cohort cannot be empty"
    let fingerprint ← sha256Dumps
      (membershipPayload cohortCode candidateFingerprint selected)
    return {
      cohortCode := cohortCode
      candidateFingerprint := candidateFingerprint
      propertyIds := selected
      allowedTiers := allowedTiers
      membershipFingerprint := fingerprint
      distinctIds := nodup_select distinct _
      distinctTiers := by decide }
  else throw "duplicate eligible property ids"

/-! ## Batches -/

structure PublicationMutation where
  canonicalPropertyId : String
  outputTier : String
  previousReportStateKey : Option String
  nextReportStateKey : String
  nextReportFingerprint : String
  mutationFingerprint : String
  deriving DecidableEq, Repr

namespace PublicationMutation

def key (mutation : PublicationMutation) : PointerKey :=
  toLex (mutation.canonicalPropertyId, mutation.outputTier)

/-- The pointer that a mutation installs. -/
def pointer (mutation : PublicationMutation) : PublicationPointer where
  canonicalPropertyId := mutation.canonicalPropertyId
  outputTier := mutation.outputTier
  reportStateKey := some mutation.nextReportStateKey
  reportFingerprint := some mutation.nextReportFingerprint

/-- What the fingerprint of a mutation covers. -/
def payload (mutation : PublicationMutation) : Json :=
  .obj [("canonical_property_id", .str mutation.canonicalPropertyId),
      ("output_tier", .str mutation.outputTier),
      ("previous_report_state_key", .ofOptional mutation.previousReportStateKey),
      ("next_report_state_key", .str mutation.nextReportStateKey),
      ("next_report_fingerprint", .str mutation.nextReportFingerprint)]

end PublicationMutation

structure PublicationBatchResult where
  cohortCode : String
  mutations : List PublicationMutation
  publicationFingerprint : String
  deriving DecidableEq, Repr

/-- The keys that a batch moves. -/
def PublicationBatchResult.keys (batch : PublicationBatchResult) : List PointerKey :=
  batch.mutations.map PublicationMutation.key

/-- The tiers of the properties of a cohort. -/
def FrozenPublicationCohort.keys (cohort : FrozenPublicationCohort) : List PointerKey :=
  cohort.propertyIds.flatMap fun propertyId =>
    cohort.allowedTiers.map fun tier => toLex (propertyId, tier)

/-- The mutation of a key to a variant, up to its fingerprint. -/
def draftMutation (pointer : Option PublicationPointer) (key : PointerKey)
    (variant : PublicationVariant) : PublicationMutation where
  canonicalPropertyId := (ofLex key).1
  outputTier := (ofLex key).2
  previousReportStateKey := stateKey pointer
  nextReportStateKey := variant.reportStateKey
  nextReportFingerprint := variant.reportFingerprint
  mutationFingerprint := ""

/-- The mutation of one key. -/
def mutate (variants : List PublicationVariant) (current : List PublicationPointer)
    (key : PointerKey) : Except PublicationError PublicationMutation := do
  let variant ← orRaise (latest PublicationVariant.key variants key)
    (.message "KeyError")
  validateVariantForPublication variant
  let mutation := draftMutation
    ((Table.ofRows PublicationPointer.key current).find key) key variant
  let fingerprint ← (sha256Dumps mutation.payload).mapError .message
  return { mutation with mutationFingerprint := fingerprint }

/-- What the fingerprint of a batch covers. -/
def batchPayload (cohort : FrozenPublicationCohort)
    (mutations : List PublicationMutation) : Json :=
  .obj [("cohort_code", .str cohort.cohortCode),
      ("candidate_fingerprint", .str cohort.candidateFingerprint),
      ("membership_fingerprint", .str cohort.membershipFingerprint),
      ("mutation_fingerprints", .arr (mutations.map fun mutation =>
        .str mutation.mutationFingerprint))]

/-- `build_publication_batch`. -/
def buildPublicationBatch
    (cohort : FrozenPublicationCohort) (variants : List PublicationVariant)
    (current : List PublicationPointer) :
    Except PublicationError PublicationBatchResult := do
  let missing := sortedBy id (cohort.keys.filter fun key =>
    key ∉ variants.map PublicationVariant.key)
  require (missing = []) (.variantsMissing (missing.take 3))
  check (∀ variant ∈ variants, variant.canonicalPropertyId ∈ cohort.propertyIds)
    "publication batch contains property outside frozen cohort"
  let mutations ← cohort.keys.mapM (mutate variants current)
  let fingerprint ← (sha256Dumps (batchPayload cohort mutations)).mapError .message
  return {
    cohortCode := cohort.cohortCode
    mutations := mutations
    publicationFingerprint := fingerprint }

/-! ## Application and rollback -/

/-- Pointers by property and tier. -/
def listed (pointers : PointerMap) : List PublicationPointer :=
  sortedBy PublicationPointer.key pointers.rows

/-- Apply one mutation. -/
def applyMutation (pointers : PointerMap) (mutation : PublicationMutation) :
    Except String PointerMap := do
  require (stateKey (pointers.find mutation.key) = mutation.previousReportStateKey)
    "publication pointer changed since batch was built"
  return pointers.put mutation.pointer

/-- `apply_pointer_batch`. -/
def applyPointerBatch (batch : PublicationBatchResult) (current : List PublicationPointer) :
    Except String (List PublicationPointer) := do
  let pointers ← batch.mutations.foldlM applyMutation (Table.ofRows _ current)
  return listed pointers

/-- Roll one mutation back. -/
def rollbackMutation (before pointers : PointerMap) (mutation : PublicationMutation) :
    Except String PointerMap := do
  require (∃ current, pointers.find mutation.key = some current ∧
    current.reportStateKey = some mutation.nextReportStateKey)
    "rollback target no longer matches publication batch"
  return match before.find mutation.key with
    | some pointer => pointers.put pointer
    | none => pointers.remove mutation.key

/-- `rollback_pointer_batch`. -/
def rollbackPointerBatch (before after : List PublicationPointer)
    (batch : PublicationBatchResult) :
    Except String (List PublicationPointer) := do
  let pointers ← batch.mutations.foldlM
    (rollbackMutation (Table.ofRows _ before)) (Table.ofRows _ after)
  return listed pointers

/-- `verify_publication_rollback`. -/
def verifyPublicationRollback
    (before : List PublicationPointer) (batch : PublicationBatchResult) :
    Except String Bool := do
  let after ← applyPointerBatch batch before
  let restored ← rollbackPointerBatch before after batch
  return decide (restored = sortedBy PublicationPointer.key before)

end SanTanHeights.Activation

/-!
## Batches of publication pointers

A batch that was built of some pointers applies to them, moves what its cohort
asks for, and is undone by a rollback to them.  Only the states of pointers
are compared, so that a batch which leaves a state does not keep another out,
and a rollback installs whatever pointers it is given.
-/

namespace SanTanHeights.Activation

open Foundation Foundation.Json Foundation.Sorting Foundation.Outcome
  Foundation.Keyed Foundation.Registers Shared

/-- The pointer of a key, where later pointers replace earlier ones. -/
def pointerAt (pointers : List PublicationPointer) : PointerKey → Option PublicationPointer :=
  (Table.ofRows PublicationPointer.key pointers).find

/-! ## Listed pointers -/

theorem nodup_listed (pointers : PointerMap) :
    ((listed pointers).map PublicationPointer.key).Nodup :=
  ((sortedBy_perm _ _).map _).nodup_iff.mpr pointers.distinct

@[simp] theorem pointerAt_listed (pointers : PointerMap) :
    pointerAt (listed pointers) = pointers.find := by
  funext key
  ext pointer
  rw [pointerAt, Table.ofRows_eq (nodup_listed pointers),
    Table.find_eq_some_iff, Table.find_eq_some_iff]
  simp only [listed, mem_sortedBy]

variable {pointers : PointerMap} {mutation : PublicationMutation}
  {key : PointerKey}

/-- Pointers that agree on every key are listed alike. -/
theorem listed_eq_of_find {others : List PublicationPointer}
    (distinct : (others.map PublicationPointer.key).Nodup)
    (same : pointers.find = pointerAt others) :
    listed pointers = sortedBy PublicationPointer.key others := by
  rw [pointerAt, Table.ofRows_eq distinct] at same
  exact sortedBy_eq_of_perm (Table.perm_of_find_eq same)
    fun _ present _ otherPresent =>
      List.inj_on_of_nodup_map pointers.distinct present otherPresent

/-! ## Steps -/

theorem find_applyMutation {next : PointerMap}
    (applied : applyMutation pointers mutation = .ok next) :
    next.find = Function.update pointers.find mutation.key
      (some mutation.pointer) := by
  obtain ⟨-, made⟩ := require_bind_eq_ok.mp applied
  cases made
  exact Table.find_put

theorem exists_applyMutation_iff : (∃ next, applyMutation pointers mutation = .ok next) ↔
      stateKey (pointers.find mutation.key) = mutation.previousReportStateKey := by
  simp only [applyMutation, require_bind_eq_ok, pure_eq_ok, exists_and_left, exists_eq', and_true]

theorem find_rollbackMutation {before next : PointerMap}
    (rolledBack : rollbackMutation before pointers mutation = .ok next) :
    next.find = Function.update pointers.find mutation.key
      (before.find mutation.key) := by
  obtain ⟨-, made⟩ := require_bind_eq_ok.mp rolledBack
  cases found : before.find mutation.key with
  | none =>
      rw [found] at made
      cases made
      exact Table.find_remove
  | some pointer =>
      rw [found] at made
      cases made
      rw [Table.find_put, Table.key_of_find found]

theorem exists_rollbackMutation_iff {before : PointerMap} :
    (∃ next, rollbackMutation before pointers mutation = .ok next) ↔
      ∃ current, pointers.find mutation.key = some current ∧
        current.reportStateKey = some mutation.nextReportStateKey := by
  simp only [rollbackMutation, require_bind_eq_ok, pure_eq_ok,
    exists_and_left, exists_eq', and_true]

/-! ## Batches -/

/-- What an application leaves under each key. -/
theorem pointerAt_apply
    {batch : PublicationBatchResult} {current after : List PublicationPointer}
    (applied : applyPointerBatch batch current = .ok after) :
    pointerAt after = overwrite (pointerAt current)
      (batch.mutations.map fun mutation =>
        (mutation.key, some mutation.pointer)) := by
  obtain ⟨pointers, ran, made⟩ := bind_eq_ok.mp applied
  cases made
  rw [pointerAt_listed]
  exact look_foldlM Table.find PublicationMutation.key
    (fun mutation => some mutation.pointer)
    (fun _ _ _ => find_applyMutation) ran

theorem exists_apply_iff {batch : PublicationBatchResult} {current : List PublicationPointer}
    (distinct : batch.keys.Nodup) : (∃ after, applyPointerBatch batch current = .ok after) ↔
      ∀ mutation ∈ batch.mutations, stateKey (pointerAt current mutation.key) =
          mutation.previousReportStateKey := by
  refine Iff.trans ?_ (exists_foldlM_iff Table.find PublicationMutation.key
    (fun mutation => some mutation.pointer)
    (fun pointer mutation =>
      stateKey pointer = mutation.previousReportStateKey)
    (fun _ _ _ => find_applyMutation)
    (fun _ _ => exists_applyMutation_iff) distinct)
  simp only [applyPointerBatch, bind_eq_ok, pure_eq_ok]
  constructor
  · rintro ⟨_, pointers, applied, -⟩
    exact ⟨pointers, applied⟩
  · rintro ⟨pointers, applied⟩
    exact ⟨_, pointers, applied, rfl⟩

/-- A batch leaves the keys that it does not move. -/
theorem pointerAt_apply_of_notMem
    {batch : PublicationBatchResult} {current after : List PublicationPointer}
    (applied : applyPointerBatch batch current = .ok after) (elsewhere : key ∉ batch.keys) :
    pointerAt after key = pointerAt current key := by
  rw [pointerAt_apply applied]
  apply overwrite_of_notMem
  rw [List.map_map]
  exact elsewhere

/-- A batch with distinct keys installs its pointers. -/
theorem pointerAt_apply_of_mem
    {batch : PublicationBatchResult} {current after : List PublicationPointer}
    (distinct : batch.keys.Nodup) (applied : applyPointerBatch batch current = .ok after)
    (moved : mutation ∈ batch.mutations) :
    pointerAt after mutation.key = some mutation.pointer := by
  rw [pointerAt_apply applied]
  apply overwrite_of_mem
  · rw [List.map_map]
    exact distinct
  · exact List.mem_map.mpr ⟨mutation, moved, rfl⟩

/-- A rollback restores the keys of its batch and leaves all others. -/
theorem pointerAt_rollback {batch : PublicationBatchResult}
    {before after restored : List PublicationPointer}
    (rolledBack : rollbackPointerBatch before after batch = .ok restored) (key : PointerKey) :
    pointerAt restored key =
      if key ∈ batch.keys then pointerAt before key
      else pointerAt after key := by
  obtain ⟨pointers, ran, made⟩ := bind_eq_ok.mp rolledBack
  cases made
  have writes := look_foldlM Table.find PublicationMutation.key
    (fun mutation => pointerAt before mutation.key)
    (fun _ _ _ => find_rollbackMutation) ran
  have agree : ∀ write ∈ batch.mutations.map (fun mutation =>
      (mutation.key, pointerAt before mutation.key)),
      write.2 = pointerAt before write.1 := by
    intro write listed
    obtain ⟨mutation, -, rfl⟩ := List.mem_map.mp listed
    rfl
  rw [pointerAt_listed, writes, overwrite_apply agree, List.map_map]
  by_cases moved : key ∈ batch.keys
  · rw [if_pos moved]
    exact if_pos moved
  · rw [if_neg moved]
    exact if_neg moved

theorem exists_rollback_iff
    {batch : PublicationBatchResult} {before after : List PublicationPointer}
    (distinct : batch.keys.Nodup) :
    (∃ restored, rollbackPointerBatch before after batch = .ok restored) ↔
      ∀ mutation ∈ batch.mutations, ∃ current,
        pointerAt after mutation.key = some current ∧
          current.reportStateKey = some mutation.nextReportStateKey := by
  refine Iff.trans ?_ (exists_foldlM_iff Table.find PublicationMutation.key
    (fun mutation => pointerAt before mutation.key)
    (fun pointer mutation => ∃ current, pointer = some current ∧
      current.reportStateKey = some mutation.nextReportStateKey)
    (fun _ _ _ => find_rollbackMutation)
    (fun _ _ => exists_rollbackMutation_iff) distinct)
  simp only [rollbackPointerBatch, bind_eq_ok, pure_eq_ok]
  constructor
  · rintro ⟨_, pointers, rolledBack, -⟩
    exact ⟨pointers, rolledBack⟩
  · rintro ⟨pointers, rolledBack⟩
    exact ⟨_, pointers, rolledBack, rfl⟩

/-! ## Built batches -/

theorem nodup_keys (cohort : FrozenPublicationCohort) : cohort.keys.Nodup := by
  rw [FrozenPublicationCohort.keys, List.nodup_flatMap]
  constructor
  · intro propertyId _
    refine cohort.distinctTiers.map fun left right same => ?_
    exact congrArg (fun key => (ofLex key).2) same
  · refine cohort.distinctIds.imp fun differ => ?_
    intro key left right
    obtain ⟨_, _, rfl⟩ := List.mem_map.mp left
    obtain ⟨_, _, same⟩ := List.mem_map.mp right
    exact differ (congrArg (fun key => (ofLex key).1) same).symm

/-- What a batch that was built asks for: for every tier of every property of
the cohort, its variant in the place of what is there. -/
structure PublicationBatchResult.Built
    (cohort : FrozenPublicationCohort) (variants : List PublicationVariant)
    (current : List PublicationPointer) (batch : PublicationBatchResult) :
    Prop where
  keys : batch.keys = cohort.keys
  previous : ∀ mutation ∈ batch.mutations, mutation.previousReportStateKey =
      stateKey (pointerAt current mutation.key)
  next : ∀ mutation ∈ batch.mutations, ∃ variant,
    latest PublicationVariant.key variants mutation.key = some variant ∧
      mutation.nextReportStateKey = variant.reportStateKey ∧
        mutation.nextReportFingerprint = variant.reportFingerprint

/-- The variant that a mutation is to. -/
theorem mutate_eq_ok {variants : List PublicationVariant} {current : List PublicationPointer}
    (mutated : mutate variants current key = .ok mutation) :
    mutation.key = key ∧
      mutation.previousReportStateKey = stateKey (pointerAt current key) ∧
        ∃ variant, latest PublicationVariant.key variants key = some variant ∧
            mutation.nextReportStateKey = variant.reportStateKey ∧
              mutation.nextReportFingerprint = variant.reportFingerprint := by
  obtain ⟨variant, found, mutated⟩ := bind_eq_ok.mp mutated
  obtain ⟨-, -, mutated⟩ := bind_eq_ok.mp mutated
  obtain ⟨fingerprint, -, made⟩ := bind_eq_ok.mp mutated
  cases made
  exact ⟨rfl, rfl, variant, orRaise_eq_ok.mp found, rfl, rfl⟩

theorem built_of_build {cohort : FrozenPublicationCohort} {variants : List PublicationVariant}
    {current : List PublicationPointer} {batch : PublicationBatchResult}
    (built : buildPublicationBatch cohort variants current = .ok batch) :
    batch.Built cohort variants current := by
  obtain ⟨-, built⟩ := require_bind_eq_ok.mp built
  obtain ⟨-, built⟩ := require_bind_eq_ok.mp built
  obtain ⟨mutations, each, built⟩ := bind_eq_ok.mp built
  obtain ⟨fingerprint, -, made⟩ := bind_eq_ok.mp built
  cases made
  have origin : ∀ mutation ∈ mutations, ∃ key ∈ cohort.keys,
      mutate variants current key = .ok mutation := fun mutation present =>
    (mem_mapM_iff each).mp present
  constructor
  · have keys : cohort.keys.map id =
        mutations.map PublicationMutation.key :=
      map_eq_of_mapM each fun _ _ mutated => (mutate_eq_ok mutated).1.symm
    rw [List.map_id] at keys
    exact keys.symm
  · intro mutation present
    obtain ⟨key, -, mutated⟩ := origin mutation present
    obtain ⟨rfl, previous, -⟩ := mutate_eq_ok mutated
    exact previous
  · intro mutation present
    obtain ⟨key, -, mutated⟩ := origin mutation present
    obtain ⟨rfl, -, next⟩ := mutate_eq_ok mutated
    exact next

namespace PublicationBatchResult.Built

variable {cohort : FrozenPublicationCohort}
  {variants : List PublicationVariant} {batch : PublicationBatchResult}
  {current before after later restored : List PublicationPointer}

theorem distinct (built : batch.Built cohort variants current) : batch.keys.Nodup := by
  rw [built.keys]
  exact nodup_keys cohort

theorem exists_mutation (built : batch.Built cohort variants current)
    (listed : key ∈ cohort.keys) :
    ∃ mutation ∈ batch.mutations, mutation.key = key := by
  rw [← built.keys] at listed
  exact List.mem_map.mp listed

theorem key_mem (built : batch.Built cohort variants current)
    (present : mutation ∈ batch.mutations) :
    mutation.key ∈ cohort.keys := by
  rw [← built.keys]
  exact List.mem_map_of_mem present

/-- A batch applies to the pointers that it was built of. -/
theorem exists_apply (built : batch.Built cohort variants current) :
    ∃ after, applyPointerBatch batch current = .ok after :=
  (exists_apply_iff built.distinct).mpr fun mutation present =>
    (built.previous mutation present).symm

/-- Rolling back is possible as long as the keys of the batch are as it left
them. -/
theorem exists_rollback (built : batch.Built cohort variants current)
    (applied : applyPointerBatch batch current = .ok after)
    (kept : ∀ key ∈ batch.keys, pointerAt later key = pointerAt after key) :
    ∃ restored, rollbackPointerBatch before later batch = .ok restored := by
  refine (exists_rollback_iff built.distinct).mpr fun mutation present => ?_
  refine ⟨mutation.pointer, ?_, rfl⟩
  rw [kept _ (List.mem_map_of_mem present)]
  exact pointerAt_apply_of_mem built.distinct applied present

/-- A rollback right after an application undoes it. -/
theorem rollback_apply (built : batch.Built cohort variants current)
    (distinct : (current.map PublicationPointer.key).Nodup)
    (applied : applyPointerBatch batch current = .ok after) :
    rollbackPointerBatch current after batch = .ok (sortedBy PublicationPointer.key current) := by
  obtain ⟨restored, rolledBack⟩ : ∃ restored,
      rollbackPointerBatch current after batch = .ok restored :=
    built.exists_rollback applied fun _ _ => rfl
  have same : pointerAt restored = pointerAt current := by
    funext key
    rw [pointerAt_rollback rolledBack]
    split_ifs with moved
    · rfl
    · exact pointerAt_apply_of_notMem applied moved
  rw [rolledBack]
  obtain ⟨pointers, -, made⟩ := bind_eq_ok.mp rolledBack
  cases made
  rw [pointerAt_listed] at same
  rw [listed_eq_of_find distinct same]

/-- After its batch another batch applies unless the first moved the state of
a pointer that both are about. -/
theorem exists_apply_both_iff {otherCohort : FrozenPublicationCohort}
    {otherVariants : List PublicationVariant} {other : PublicationBatchResult}
    (built : batch.Built cohort variants current)
    (otherBuilt : other.Built otherCohort otherVariants current) :
    (∃ after last, applyPointerBatch batch current = .ok after ∧
        applyPointerBatch other after = .ok last) ↔
      ∀ key ∈ cohort.keys, key ∈ otherCohort.keys →
        ∀ variant, latest PublicationVariant.key variants key = some variant →
          some variant.reportStateKey = stateKey (pointerAt current key) := by
  obtain ⟨after, applied⟩ := built.exists_apply
  have only : (∃ after last, applyPointerBatch batch current = .ok after ∧
      applyPointerBatch other after = .ok last) ↔
      ∃ last, applyPointerBatch other after = .ok last := by
    constructor
    · rintro ⟨again, last, reapplied, second⟩
      cases applied.symm.trans reapplied
      exact ⟨last, second⟩
    · rintro ⟨last, second⟩
      exact ⟨after, last, applied, second⟩
  rw [only, exists_apply_iff otherBuilt.distinct]
  constructor
  · intro unchanged key listed otherListed variant found
    obtain ⟨mutation, present, rfl⟩ := built.exists_mutation listed
    obtain ⟨second, secondPresent, same⟩ := otherBuilt.exists_mutation otherListed
    have left := unchanged second secondPresent
    rw [otherBuilt.previous second secondPresent, same,
      pointerAt_apply_of_mem built.distinct applied present] at left
    obtain ⟨next, nextFound, state, -⟩ := built.next mutation present
    cases found.symm.trans nextFound
    rw [← left, ← state]
    rfl
  · intro unchanged second secondPresent
    rw [otherBuilt.previous second secondPresent]
    by_cases moved : second.key ∈ cohort.keys
    · obtain ⟨mutation, present, same⟩ := built.exists_mutation moved
      obtain ⟨variant, found, state, -⟩ := built.next mutation present
      have left := unchanged second.key moved
        (otherBuilt.key_mem secondPresent) variant (same ▸ found)
      rw [← left, ← same, pointerAt_apply_of_mem built.distinct applied present, ← state]
      rfl
    · rw [pointerAt_apply_of_notMem applied]
      rw [built.keys]
      exact moved

/-- A rollback restores the states that the batch recorded just where the
pointers it is given have them. -/
theorem restores_iff (built : batch.Built cohort variants current)
    (rolledBack : rollbackPointerBatch before after batch = .ok restored) :
    (∀ mutation ∈ batch.mutations, stateKey (pointerAt restored mutation.key) =
          mutation.previousReportStateKey) ↔
      ∀ key ∈ cohort.keys, stateKey (pointerAt before key) = stateKey (pointerAt current key) := by
  have installed : ∀ mutation ∈ batch.mutations,
      pointerAt restored mutation.key = pointerAt before mutation.key := by
    intro mutation present
    rw [pointerAt_rollback rolledBack]
    exact if_pos (List.mem_map_of_mem present)
  constructor
  · intro recorded key listed
    obtain ⟨mutation, present, rfl⟩ := built.exists_mutation listed
    rw [← installed mutation present, recorded mutation present]
    exact built.previous mutation present
  · intro agree mutation present
    rw [installed mutation present, agree _ (built.key_mem present)]
    exact (built.previous mutation present).symm

end PublicationBatchResult.Built

/-! ## Runs of batches -/

/-- Batches applied in turn. -/
def applyAll (batches : List PublicationBatchResult) (current : List PublicationPointer) :
    Except String (List PublicationPointer) :=
  batches.foldlM (fun pointers batch => applyPointerBatch batch pointers) current

/-- Batches leave the keys that none of them moves. -/
theorem pointerAt_applyAll {batches : List PublicationBatchResult}
    {current later : List PublicationPointer} (ran : applyAll batches current = .ok later)
    (elsewhere : ∀ batch ∈ batches, key ∉ batch.keys) :
    pointerAt later key = pointerAt current key := by
  induction batches generalizing current with
  | nil =>
      cases ran
      rfl
  | cons batch batches ih =>
      rw [List.forall_mem_cons] at elsewhere
      rw [applyAll, List.foldlM_cons] at ran
      obtain ⟨next, applied, rest⟩ := bind_eq_ok.mp ran
      rw [ih rest elsewhere.2, pointerAt_apply_of_notMem applied elsewhere.1]

/-! ## The law -/

/-- The pointer that publishes a variant. -/
def PublicationVariant.pointer (variant : PublicationVariant) : PublicationPointer where
  canonicalPropertyId := variant.canonicalPropertyId
  outputTier := variant.outputTier
  reportStateKey := some variant.reportStateKey
  reportFingerprint := some variant.reportFingerprint

/-- A batch installs the pointers of its variants. -/
theorem PublicationBatchResult.Built.pointerAt_of_mem
    {cohort : FrozenPublicationCohort} {variants : List PublicationVariant}
    {batch : PublicationBatchResult} {current given after : List PublicationPointer}
    (built : batch.Built cohort variants current)
    (applied : applyPointerBatch batch given = .ok after) (moved : key ∈ cohort.keys) :
    pointerAt after key = (latest PublicationVariant.key variants key).map
      PublicationVariant.pointer := by
  obtain ⟨mutation, present, rfl⟩ := built.exists_mutation moved
  obtain ⟨variant, found, state, fingerprint⟩ := built.next mutation present
  have same := (mem_of_latest found).2
  have property : variant.canonicalPropertyId = mutation.canonicalPropertyId :=
    congrArg (fun key => (ofLex key).1) same
  have tier : variant.outputTier = mutation.outputTier :=
    congrArg (fun key => (ofLex key).2) same
  rw [pointerAt_apply_of_mem built.distinct applied present, found,
    Option.map_some, PublicationMutation.pointer, state, fingerprint,
    PublicationVariant.pointer, property, tier]

/-- A batch applies to the pointers it was built of, moves those of its cohort
to their variants, and is undone exactly, also after batches on other keys.
Two batches exclude each other just where the first moves a state that the
second is about too, and a rollback restores what was recorded just where the
pointers it is given agree with it. -/
theorem pointer_batches_iff
    {cohort : FrozenPublicationCohort} {variants : List PublicationVariant}
    {pointers : List PublicationPointer} {batch : PublicationBatchResult}
    (distinct : (pointers.map PublicationPointer.key).Nodup)
    (built : buildPublicationBatch cohort variants pointers = .ok batch) :
    (∃ after, applyPointerBatch batch pointers = .ok after ∧
      (∀ key, pointerAt after key =
        if key ∈ cohort.keys then
          (latest PublicationVariant.key variants key).map
            PublicationVariant.pointer
        else pointerAt pointers key) ∧
      rollbackPointerBatch pointers after batch =
        .ok (sortedBy PublicationPointer.key pointers) ∧
      verifyPublicationRollback pointers batch = .ok true ∧
      ∀ others later, (∀ other ∈ others, ∀ key ∈ cohort.keys,
          key ∉ PublicationBatchResult.keys other) →
        applyAll others after = .ok later →
          ∃ restored, rollbackPointerBatch pointers later batch = .ok restored ∧
            ∀ key, pointerAt restored key =
              if key ∈ cohort.keys then pointerAt pointers key
              else pointerAt later key) ∧
    (∀ otherCohort otherVariants other,
      buildPublicationBatch otherCohort otherVariants pointers = .ok other →
        ((¬ ∃ after last, applyPointerBatch batch pointers = .ok after ∧
            applyPointerBatch other after = .ok last) ↔
          ∃ key ∈ cohort.keys, key ∈ otherCohort.keys ∧ ∃ variant,
              latest PublicationVariant.key variants key = some variant ∧
                some variant.reportStateKey ≠
                  stateKey (pointerAt pointers key))) ∧
    ∀ before after restored,
      rollbackPointerBatch before after batch = .ok restored →
        ((∀ mutation ∈ batch.mutations,
            stateKey (pointerAt restored mutation.key) =
              mutation.previousReportStateKey) ↔
          ∀ key ∈ cohort.keys, stateKey (pointerAt before key) =
            stateKey (pointerAt pointers key)) := by
  have asked := built_of_build built
  obtain ⟨after, applied⟩ := asked.exists_apply
  have undone := asked.rollback_apply distinct applied
  refine ⟨⟨after, applied, ?_, undone, ?_, ?_⟩, ?_,
    fun before later restored => asked.restores_iff⟩
  · intro key
    split_ifs with moved
    · exact asked.pointerAt_of_mem applied moved
    · rw [← asked.keys] at moved
      exact pointerAt_apply_of_notMem applied moved
  · simp only [verifyPublicationRollback, applied, undone, bind_eq_ok,
      Except.ok.injEq, exists_eq_left', decide_true, pure_eq_ok]
  · intro others later elsewhere ran
    have kept : ∀ key ∈ batch.keys,
        pointerAt later key = pointerAt after key := by
      intro key moved
      rw [asked.keys] at moved
      exact pointerAt_applyAll ran fun other listed =>
        elsewhere other listed key moved
    obtain ⟨restored, rolledBack⟩ := asked.exists_rollback applied kept
    refine ⟨restored, rolledBack, fun key => ?_⟩
    rw [pointerAt_rollback rolledBack, asked.keys]
  · intro otherCohort otherVariants other otherBuilt
    rw [asked.exists_apply_both_iff (built_of_build otherBuilt)]
    push Not
    rfl

/-! ## Two batches of one state -/

theorem exists_mutate {variants : List PublicationVariant} {current : List PublicationPointer}
    {key : PointerKey} {variant : PublicationVariant}
    (found : latest PublicationVariant.key variants key = some variant)
    (valid : validateVariantForPublication variant = .ok ()) :
    ∃ mutation, mutate variants current key = .ok mutation := by
  let mutation := draftMutation (pointerAt current key) key variant
  obtain ⟨fingerprint, hashed, -⟩ := Textual.exists_sha256Dumps
    (show Textual mutation.payload by
      simp [PublicationMutation.payload, textual_obj, IsTagged])
  refine ⟨_, bind_eq_ok.mpr ⟨variant, orRaise_eq_ok.mpr found,
    bind_eq_ok.mpr ⟨(), valid, bind_eq_ok.mpr ⟨fingerprint, ?_, rfl⟩⟩⟩⟩
  exact congrArg (Except.mapError PublicationError.message) hashed

/-- Valid variants of just the properties of a cohort make a batch. -/
theorem exists_build {cohort : FrozenPublicationCohort} {variants : List PublicationVariant}
    {current : List PublicationPointer}
    (covered : ∀ key ∈ cohort.keys, key ∈ variants.map PublicationVariant.key)
    (valid : ∀ variant ∈ variants, validateVariantForPublication variant = .ok ())
    (inside : ∀ variant ∈ variants, variant.canonicalPropertyId ∈ cohort.propertyIds) :
    ∃ batch, buildPublicationBatch cohort variants current = .ok batch := by
  have none : sortedBy id (cohort.keys.filter fun key =>
      key ∉ variants.map PublicationVariant.key) = [] := by
    rw [List.filter_eq_nil_iff.mpr, sortedBy_nil]
    intro key listed
    rw [decide_eq_true_eq, not_not]
    exact covered key listed
  obtain ⟨mutations, each⟩ := exists_mapM_ok fun key listed => by
    obtain ⟨variant, found⟩ := exists_latest_iff.mpr (covered key listed)
    exact @exists_mutate variants current key variant found (valid variant (mem_of_latest found).1)
  obtain ⟨fingerprint, hashed, -⟩ := Textual.exists_sha256Dumps
    (show Textual (batchPayload cohort mutations) by
      simp [batchPayload, textual_obj, IsTagged])
  refine ⟨_, require_bind_eq_ok.mpr ⟨none, require_bind_eq_ok.mpr ⟨inside,
    bind_eq_ok.mpr ⟨mutations, each, bind_eq_ok.mpr ⟨fingerprint, ?_, rfl⟩⟩⟩⟩⟩
  exact congrArg (Except.mapError PublicationError.message) hashed

/-- A fingerprint of one digit. -/
def repeated (digit : Char) : String :=
  String.ofList (List.replicate 64 digit)

theorem length_repeated (digit : Char) : (repeated digit).length = 64 := by
  rw [repeated, String.length_ofList, List.length_replicate]

/-- The reports of one property in all tiers, all of one state. -/
def sampleVariants (fingerprint : Char) : List PublicationVariant :=
  allowedTiers.map fun tier =>
    { canonicalPropertyId := "STH-1"
      outputTier := tier
      reportStateKey := repeated 'a'
      passportFingerprint := repeated 'b'
      reportFingerprint := repeated fingerprint
      publicationState := "MATERIALIZED_NOT_PUBLISHED"
      tierEligible := true
      quarantined := false
      staleCurrentDisplayed := false }

/-- What is published of that state. -/
def samplePointers : List PublicationPointer :=
  (sampleVariants 'c').map PublicationVariant.pointer

def sampleKey : PointerKey := toLex ("STH-1", "AGENT")

theorem exists_sampleCohort :
    ∃ cohort, freezePublicationCohort publicationPolicy "REMAINING_FLEET"
        (repeated 'f') ["STH-1", "STH-2"] ["STH-2"] = .ok cohort ∧
      cohort.propertyIds = ["STH-1"] ∧ cohort.allowedTiers = allowedTiers := by
  have selected : PropertyCount.allRemaining.select
      (remainingIds ["STH-1", "STH-2"] ["STH-2"]) = ["STH-1"] := by
    decide +kernel
  obtain ⟨fingerprint, hashed, -⟩ := Textual.exists_sha256Dumps
    (show Textual (membershipPayload "REMAINING_FLEET" (repeated 'f')
        (PropertyCount.allRemaining.select (remainingIds ["STH-1", "STH-2"] ["STH-2"]))) by
      simp [membershipPayload, textual_obj, IsTagged])
  have distinct : ["STH-1", "STH-2"].Nodup := by decide
  have tiers : allowedTiers.Nodup := by decide
  refine ⟨⟨"REMAINING_FLEET", repeated 'f', _, allowedTiers, fingerprint,
    @nodup_select _ ["STH-2"] distinct .allRemaining, tiers⟩, ?_, selected, rfl⟩
  rw [freezePublicationCohort, require_bind_eq_ok, require_bind_eq_ok, bind_eq_ok]
  refine ⟨by decide, length_repeated _, ⟨.allRemaining, some "COHORT_500"⟩, rfl, ?_⟩
  rw [dif_pos distinct, require_bind_eq_ok, require_bind_eq_ok,
    require_bind_eq_ok, require_bind_eq_ok, bind_eq_ok]
  refine ⟨by decide, by decide, trivial, ?_, fingerprint, hashed, rfl⟩
  rw [selected]
  decide

theorem mem_keys_iff {cohort : FrozenPublicationCohort} :
    key ∈ cohort.keys ↔ (ofLex key).1 ∈ cohort.propertyIds ∧
        (ofLex key).2 ∈ cohort.allowedTiers := by
  simp only [FrozenPublicationCohort.keys, List.mem_flatMap, List.mem_map]
  constructor
  · rintro ⟨propertyId, listed, tier, allowed, rfl⟩
    exact ⟨listed, allowed⟩
  · rintro ⟨listed, allowed⟩
    exact ⟨_, listed, _, allowed, rfl⟩

/-- The reports of the sample make a batch of the sample cohort. -/
theorem exists_sampleBatch {cohort : FrozenPublicationCohort}
    (ids : cohort.propertyIds = ["STH-1"])
    (tiers : cohort.allowedTiers = allowedTiers) (fingerprint : Char) :
    ∃ batch, buildPublicationBatch cohort (sampleVariants fingerprint)
      samplePointers = .ok batch := by
  have own : ∀ variant ∈ sampleVariants fingerprint, ∃ tier ∈ allowedTiers,
      variant.canonicalPropertyId = "STH-1" ∧ variant.outputTier = tier ∧
        validateVariantForPublication variant = .ok () := by
    intro variant listed
    obtain ⟨tier, allowed, rfl⟩ := List.mem_map.mp listed
    refine ⟨tier, allowed, rfl, rfl, ?_⟩
    simp only [validateVariantForPublication, check, require_bind_eq_ok,
      require_eq_ok, length_repeated]
    exact ⟨allowed, by decide, by decide⟩
  refine exists_build ?_ ?_ ?_
  · intro key listed
    rw [mem_keys_iff, ids, tiers, List.mem_singleton] at listed
    refine List.mem_map.mpr ⟨_, List.mem_map_of_mem listed.2, ?_⟩
    exact Prod.ext listed.1.symm rfl
  · intro variant listed
    obtain ⟨_, _, _, _, valid⟩ := own variant listed
    exact valid
  · intro variant listed
    obtain ⟨_, _, property, _⟩ := own variant listed
    rw [ids, property]
    exact List.mem_singleton_self _

theorem distinct_samplePointers : (samplePointers.map PublicationPointer.key).Nodup := by
  decide

/-- A batch of the sample publishes its report in the first tier. -/
theorem pointerAt_sample {cohort : FrozenPublicationCohort} {fingerprint : Char}
    {batch : PublicationBatchResult} {given after : List PublicationPointer}
    (listed : sampleKey ∈ cohort.keys)
    (built : buildPublicationBatch cohort (sampleVariants fingerprint) samplePointers = .ok batch)
    (applied : applyPointerBatch batch given = .ok after) :
    pointerAt after sampleKey = some ⟨"STH-1", "AGENT", some (repeated 'a'),
        some (repeated fingerprint)⟩ := by
  rw [(built_of_build built).pointerAt_of_mem applied listed]
  rfl

/-- Two batches of the same pointers change one of them and are both applied,
so that the first change is lost; and a rollback to no pointers removes what
the batch recorded. -/
theorem update_lost :
    ∃ cohort batch other after alone last restored,
      freezePublicationCohort publicationPolicy "REMAINING_FLEET"
          (repeated 'f') ["STH-1", "STH-2"] ["STH-2"] = .ok cohort ∧
        buildPublicationBatch cohort (sampleVariants 'd') samplePointers =
            .ok batch ∧
          buildPublicationBatch cohort (sampleVariants 'e') samplePointers =
              .ok other ∧
            (applyPointerBatch batch samplePointers = .ok after ∧
              pointerAt after sampleKey ≠ pointerAt samplePointers sampleKey) ∧
            (applyPointerBatch other samplePointers = .ok alone ∧
              pointerAt alone sampleKey ≠ pointerAt samplePointers sampleKey) ∧
            (applyPointerBatch other after = .ok last ∧
              pointerAt last sampleKey ≠ pointerAt after sampleKey) ∧
            (rollbackPointerBatch [] after batch = .ok restored ∧
              pointerAt restored sampleKey = none ∧
                ∃ mutation ∈ batch.mutations, mutation.key = sampleKey ∧
                  mutation.previousReportStateKey = some (repeated 'a')) := by
  obtain ⟨cohort, frozen, ids, tiers⟩ := exists_sampleCohort
  obtain ⟨batch, built⟩ := exists_sampleBatch ids tiers 'd'
  obtain ⟨other, otherBuilt⟩ := exists_sampleBatch ids tiers 'e'
  have listed : sampleKey ∈ cohort.keys := by
    rw [mem_keys_iff, ids, tiers]
    decide
  have asked := built_of_build built
  have otherAsked := built_of_build otherBuilt
  obtain ⟨alone, appliedAlone⟩ := otherAsked.exists_apply
  have samePointer : pointerAt samplePointers sampleKey = some
      ⟨"STH-1", "AGENT", some (repeated 'a'), some (repeated 'c')⟩ := by
    rfl
  have unmoved : ∀ key ∈ cohort.keys, key ∈ cohort.keys → ∀ variant,
      latest PublicationVariant.key (sampleVariants 'd') key = some variant →
        some variant.reportStateKey =
          stateKey (pointerAt samplePointers key) := by
    intro key present _ variant found
    rw [mem_keys_iff, ids, tiers, List.mem_singleton] at present
    obtain ⟨tier, -, rfl⟩ := List.mem_map.mp (mem_of_latest found).1
    have states : ∀ tier ∈ allowedTiers, some (repeated 'a') =
        stateKey (pointerAt samplePointers (toLex ("STH-1", tier))) := by
      decide +kernel
    have own : key = toLex ("STH-1", (ofLex key).2) :=
      Prod.ext present.1 rfl
    rw [own]
    exact states _ present.2
  obtain ⟨after, last, applied, second⟩ :=
    (asked.exists_apply_both_iff otherAsked).mpr unmoved
  obtain ⟨restored, rolledBack⟩ : ∃ restored,
      rollbackPointerBatch [] after batch = .ok restored :=
    asked.exists_rollback applied fun _ _ => rfl
  obtain ⟨mutation, present, same⟩ := asked.exists_mutation listed
  have moved : sampleKey ∈ batch.keys := asked.keys ▸ listed
  have differ : repeated 'd' ≠ repeated 'c' ∧ repeated 'e' ≠ repeated 'c' ∧
      repeated 'e' ≠ repeated 'd' := by decide +kernel
  refine ⟨cohort, batch, other, after, alone, last, restored, frozen, built,
    otherBuilt, ⟨applied, ?_⟩, ⟨appliedAlone, ?_⟩, ⟨second, ?_⟩, rolledBack,
    ?_, mutation, present, same, ?_⟩
  · rw [pointerAt_sample listed built applied, samePointer]
    simpa using differ.1
  · rw [pointerAt_sample listed otherBuilt appliedAlone, samePointer]
    simpa using differ.2.1
  · rw [pointerAt_sample listed otherBuilt second,
      pointerAt_sample listed built applied]
    simpa using differ.2.2
  · rw [pointerAt_rollback rolledBack, if_pos moved]
    rfl
  · rw [asked.previous mutation present, same, samePointer]
    rfl

/-- The law at the sample. -/
theorem pointer_batches_iff_sample :
    ∃ cohort batch after,
      buildPublicationBatch cohort (sampleVariants 'd') samplePointers =
          .ok batch ∧
        applyPointerBatch batch samplePointers = .ok after ∧
          rollbackPointerBatch samplePointers after batch =
            .ok (sortedBy PublicationPointer.key samplePointers) := by
  obtain ⟨cohort, -, ids, tiers⟩ := exists_sampleCohort
  obtain ⟨batch, built⟩ := exists_sampleBatch ids tiers 'd'
  obtain ⟨⟨after, applied, -, undone, -⟩, -⟩ :=
    pointer_batches_iff distinct_samplePointers built
  exact ⟨cohort, batch, after, built, applied, undone⟩

end SanTanHeights.Activation
