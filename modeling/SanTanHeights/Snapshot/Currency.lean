import SanTanHeights.Shared.Spelling
import SanTanHeights.Snapshot.Creation
import SanTanHeights.Snapshot.Projections

/-!
# Which snapshot is current

A created snapshot is the current one afterwards.  An equivalent snapshot that
is found again need not be: deduplication looks through the whole history of
the property, while the current snapshot is the accepted one with the highest
sequence.
-/

namespace SanTanHeights.Snapshot

open Foundation Foundation.Outcome Foundation.Runs Shared

/-! ## The current snapshot -/

/-- The current snapshot of a property carries a fingerprint. -/
def CurrentCarries (database : Database) (propertyId : Uuid) (fingerprint : String) : Prop :=
  (database.currentAccepted propertyId).map SnapshotRecord.semanticFingerprint = some fingerprint

/-- No accepted snapshot of its property has a higher sequence. -/
def IsLast (database : Database) (record : SnapshotRecord) : Prop :=
  ∀ other ∈ database.snapshots, other.propertyId = record.propertyId →
    other.accepted → other.snapshotSequence ≤ record.snapshotSequence

variable {database : Database} {schemaVersion : String}
  {fingerprints : SnapshotFingerprints}

/-- The current snapshot carries the fingerprint of an accepted snapshot just
when that snapshot is the last. -/
theorem currentCarries_iff_isLast {record : SnapshotRecord} (sound : Sound database)
    (present : record ∈ database.snapshots) :
    CurrentCarries database record.propertyId record.semanticFingerprint ↔
      IsLast database record := by
  have accepted := sound.accepted record present
  constructor
  · intro carries other otherPresent sameProperty otherAccepted
    obtain ⟨current, found, equal⟩ := Option.map_eq_some_iff.mp carries
    obtain ⟨member, highest⟩ := latest_eq_some found
    obtain ⟨currentPresent, matching⟩ := List.mem_filter.mp member
    have same := sound.uniqueFingerprint current currentPresent record present
      (of_decide_eq_true matching).1 equal
    rw [← same]
    exact highest other (List.mem_filter.mpr ⟨otherPresent, by simp [sameProperty, otherAccepted]⟩)
  · intro last
    have eligible : record ∈ database.snapshots.filter fun other =>
        other.propertyId = record.propertyId ∧ other.accepted :=
      List.mem_filter.mpr ⟨present, by simp [accepted]⟩
    cases found : database.currentAccepted record.propertyId with
    | none =>
        rw [latest_eq_none.mp found] at eligible
        cases eligible
    | some current =>
        obtain ⟨member, highest⟩ := latest_eq_some found
        obtain ⟨currentPresent, matching⟩ := List.mem_filter.mp member
        obtain ⟨sameProperty, currentAccepted⟩ := of_decide_eq_true matching
        have sameSequence := le_antisymm
          (last current currentPresent sameProperty currentAccepted)
          (highest record eligible)
        have same := sound.uniqueSequence current currentPresent record present
          sameProperty sameSequence
        rw [CurrentCarries, found, Option.map_some, same]

/-- What holds of the database after a call that returns `result`. -/
structure Answered (event : CreateEvent) (result : CreateSnapshotResult)
    (captured : Capture) (row : SnapshotRecord) (before after : Database) :
    Prop where
  capturing : captureState event.service.resolver event.service.allowed
    event.call.state = .ok captured
  stored : row ∈ after.snapshots
  accepted : row.accepted
  snapshotId : result.snapshotId = some row.snapshotId
  propertyId : row.propertyId = event.call.propertyId
  semanticFingerprint : row.semanticFingerprint = captured.fingerprints.semanticFingerprint
  created : result.status = .created → after.currentAccepted event.call.propertyId = some row
  existing : result.status = .existingEquivalent → after = before

theorem answered_of_createStep {before after : Database} {event : CreateEvent}
    {result : CreateSnapshotResult} (sound : Sound before)
    (step : CreateStep before event after) (returned : event.outcome = .ok result)
    (captures : result.status ≠ .blocked) :
    ∃ captured row, Answered event result captured row before after := by
  rcases created_of_createStep step with
    ⟨other, outcome, created⟩ | ⟨message, outcome, _⟩
  · obtain rfl := Except.ok.inj (returned.symm.trans outcome)
    cases created with
    | blocked => exact absurd rfl captures
    | existing capturing found =>
        obtain ⟨member, _⟩ := latest_eq_some found
        obtain ⟨present, matching⟩ := List.mem_filter.mp member
        obtain ⟨sameProperty, equal, accepted⟩ := of_decide_eq_true matching
        exact ⟨_, _,
          { capturing := capturing
            stored := present
            accepted := accepted
            snapshotId := rfl
            propertyId := sameProperty
            semanticFingerprint := equal
            created := fun status => by cases status
            existing := fun _ => rfl }⟩
    | new capturing complete inserted =>
        exact ⟨_, _,
          { capturing := capturing
            stored := by simp [inserted.snapshots]
            accepted := ⟨inserted.qaStatus, inserted.completeness ▸ complete⟩
            snapshotId := rfl
            propertyId := inserted.propertyId
            semanticFingerprint := inserted.semanticFingerprint
            created := fun _ => inserted.currentAccepted complete sound
            existing := fun status => by cases status }⟩
  · rw [returned] at outcome
    cases outcome

/-! ## A property without findings -/

/-- `registries/snapshot-requirements/core.yaml`. -/
def coreRequirements : List SnapshotRequirement :=
  [{ requirementId := "REQ_CANONICAL_PROPERTY_IDENTITY"
     scope := "CORE"
     required := true
     satisfiedBy := .propertyField "property_identity_status" (.equals "RESOLVED")
     failureReasonCode := "PROPERTY_IDENTITY_UNRESOLVED" },
    { requirementId := "REQ_GOVERNANCE_SCHEMA"
      scope := "CORE"
      required := true
      satisfiedBy := .propertyField "governance_schema_version" .nonempty
      failureReasonCode := "GOVERNANCE_SCHEMA_MISSING" },
    { requirementId := "REQ_INTELLIGENCE_SCHEMA"
      scope := "CORE"
      required := true
      satisfiedBy := .propertyField "intelligence_schema_version" .nonempty
      failureReasonCode := "INTELLIGENCE_SCHEMA_MISSING" },
    { requirementId := "REQ_PROPERTY_QA_PASS"
      scope := "CORE"
      required := true
      satisfiedBy := .propertyField "qa_status" (.equals "PASS")
      failureReasonCode := "PROPERTY_QA_NOT_ACCEPTED" }]

def coreService : CreationService where
  requirements := coreRequirements
  resolver := fun _ _ => none
  allowed := dependencyTypes

/-- A property identifier. -/
def someProperty : Uuid := 1

/-- A resolved property about which nothing else is known. -/
def bareState (schemaVersion : String) : GovernedPropertyState where
  propertyId := someProperty
  governedStateVersion := "1"
  sourceReadToken := "1"
  intelligenceSchemaVersion := schemaVersion
  governanceSchemaVersion := "1"
  modelVersion := "1"
  propertyIdentityStatus := .resolved
  qaStatus := .pass
  findings := []
  dependencies := []

def bareCall (schemaVersion : String) (freshId : Uuid) : CreateCall where
  propertyId := someProperty
  snapshotReason := "MANUAL"
  createdBy := "operator"
  state := bareState schemaVersion
  latestState := bareState schemaVersion
  freshId := freshId

/-- The results of satisfied requirements can be inserted. -/
theorem insertRequirements_eq_ok (snapshotId : Uuid) (results : List RequirementResult)
    (database : Database) (noReason : ∀ result ∈ results, result.reasonCode = none)
    (distinct : (results.map RequirementResult.requirementId).Nodup)
    (fresh : ∀ other ∈ database.requirementResults,
      other.snapshotId = snapshotId → other.result.requirementId ∉
        results.map RequirementResult.requirementId) :
    results.foldlM (fun database result =>
        database.insertRequirement ⟨snapshotId, result⟩) database =
      (.ok { database with
        requirementResults := database.requirementResults ++
          results.map (SnapshotRequirementResultRecord.mk snapshotId) } :
        Except String Database) := by
  induction results generalizing database with
  | nil => simp [pure, Except.pure]
  | cons result results ih =>
      rw [List.map_cons, List.nodup_cons] at distinct
      have inserted : database.insertRequirement ⟨snapshotId, result⟩ =
          .ok { database with
            requirementResults :=
              database.requirementResults ++ [⟨snapshotId, result⟩] } := by
        simp only [Database.insertRequirement, require_bind_eq_ok, pure_eq_ok, and_true]
        constructor
        · rintro other present ⟨sameSnapshot, sameRequirement⟩
          apply fresh other present sameSnapshot
          rw [sameRequirement]
          exact List.mem_cons_self
        · simp [noReason result List.mem_cons_self]
      rw [List.foldlM_cons, inserted]
      change List.foldlM _ _ results = _
      rw [ih]
      · simp
      · exact fun other present =>
          noReason other (List.mem_cons_of_mem _ present)
      · exact distinct.2
      · intro other present sameSnapshot
        rcases List.mem_append.mp present with old | new
        · have := fresh other old sameSnapshot
          rw [List.map_cons, List.mem_cons, not_or] at this
          exact this.2
        · rw [List.mem_singleton.mp new]
          exact distinct.1

theorem captureState_bareState (schemaVersion : String) :
    ∃ fingerprints, captureState coreService.resolver coreService.allowed
        (bareState schemaVersion) = .ok ⟨[], [], [], fingerprints⟩ ∧
      calculate (fingerprintInput (bareState schemaVersion) [] []) = .ok fingerprints ∧
      Sha256.isHex64 fingerprints.semanticFingerprint = true ∧
      ∀ variant, Sha256.isHex64 (fingerprints.ofVariant variant) = true := by
  obtain ⟨fingerprints, calculated, isHex⟩ :=
    exists_calculate (fingerprintInput (bareState schemaVersion) [] [])
  refine ⟨fingerprints, ?_, calculated, isHex⟩
  change (calculate (fingerprintInput (bareState schemaVersion) [] []) >>=
    fun fingerprints => pure _) = _
  rw [calculated]
  rfl

/-- A property without findings meets the core requirements. -/
theorem evaluate_bareState (nonempty : schemaVersion ≠ "") :
    evaluate coreRequirements (bareState schemaVersion) =
      { results := coreRequirements.map fun requirement =>
          requirement.satisfied none none none
        completenessStatus := .complete } := by
  have holds : FieldTest.nonempty.holds
      (fieldValue (bareState schemaVersion) "intelligence_schema_version") = true := by
    simpa [FieldTest.holds, fieldValue, bareState] using nonempty
  have results : (coreRequirements.map fun requirement =>
      evaluateOne requirement (bareState schemaVersion)) =
        coreRequirements.map fun requirement =>
          requirement.satisfied none none none := by
    simp only [coreRequirements, List.map_cons, List.map_nil, evaluateOne, holds, if_true]
    rfl
  unfold evaluate
  rw [if_neg (by simp [bareState]), results]
  rfl

/-- The hash of a snapshot without findings exists. -/
theorem exists_snapshotHash
    (state : GovernedPropertyState) (fingerprints : SnapshotFingerprints)
    (requirements : List RequirementResult) :
    ∃ hash, snapshotHash state ⟨[], [], [], fingerprints⟩ requirements =
        .ok hash ∧
      Sha256.isHex64 hash = true := by
  refine Textual.exists_sha256Canonical ?_
  simp [textual_obj, IsTagged, RequirementResult.asdict]

/-- The evaluation of the core requirements on a property without findings. -/
def bareEvaluation : RequirementEvaluation where
  results := coreRequirements.map fun requirement =>
    requirement.satisfied none none none
  completenessStatus := .complete

/-- No row of a database refers to a snapshot. -/
def FreshFor (snapshotId : Uuid) (database : Database) : Prop :=
  (∀ other ∈ database.snapshots, other.snapshotId ≠ snapshotId) ∧
    ∀ other ∈ database.requirementResults, other.snapshotId ≠ snapshotId

/-- A capture without findings can be inserted when its fingerprint is new. -/
theorem insertCapture_bareCall (schemaVersion : String) {freshId : Uuid}
    (sound : Sound database) (known : someProperty ∈ database.properties)
    (fresh : FreshFor freshId database)
    (semanticHex : Sha256.isHex64 fingerprints.semanticFingerprint = true)
    (variantHex : ∀ variant, Sha256.isHex64 (fingerprints.ofVariant variant) = true)
    (newFingerprint : ∀ other ∈ database.snapshots,
      other.semanticFingerprint ≠ fingerprints.semanticFingerprint) :
    ∃ after, insertCapture (bareCall schemaVersion freshId)
        ⟨[], [], [], fingerprints⟩ bareEvaluation database = .ok after ∧
      after.properties = database.properties ∧
      ∀ row ∈ after.requirementResults,
        row ∈ database.requirementResults ∨ row.snapshotId = freshId := by
  obtain ⟨hash, hashed, hashHex⟩ := exists_snapshotHash
    (bareState schemaVersion) fingerprints bareEvaluation.results
  let sequence := (database.sequenceCounters someProperty).elim 1 id
  let allocated : Database :=
    { database with
      sequenceCounters := Function.update database.sequenceCounters
        someProperty (some (sequence + 1)) }
  let row := snapshotRecord (bareCall schemaVersion freshId) fingerprints
    .complete sequence ((allocated.currentAccepted someProperty).map SnapshotRecord.snapshotId) hash
  let withRow : Database := { allocated with snapshots := database.snapshots ++ [row] }
  have allocation : database.allocateSequence someProperty =
      .ok (sequence, allocated) := by
    simp only [Database.allocateSequence, require_bind_eq_ok, known, pure_eq_ok, true_and]
    cases counter : database.sequenceCounters someProperty <;>
      simp [sequence, allocated, counter]
  have insertion : allocated.insertSnapshot row = .ok withRow := by
    simp only [Database.insertSnapshot, require_bind_eq_ok, pure_eq_ok]
    refine ⟨fresh.1, known, sound.positive someProperty, ?_, ?_, ?_, ?_, rfl⟩
    · simp only [row, snapshotRecord, List.forall_mem_cons]
      exact ⟨semanticHex, variantHex .agent, variantHex .seller, variantHex .pub, hashHex, by simp⟩
    · intro superseded present
      obtain ⟨current, found, rfl⟩ := Option.map_eq_some_iff.mp present
      have member := (latest_eq_some found).1
      exact ⟨current, (List.mem_filter.mp member).1, rfl⟩
    · intro other present sameProperty
      have counted := sound.counted other present
      rw [sameProperty] at counted
      exact counted.ne
    · exact fun other present _ => newFingerprint other present
  have children := insertRequirements_eq_ok freshId bareEvaluation.results
    withRow (by decide) (by decide)
    (fun other present same => absurd same (fresh.2 other present))
  refine ⟨_, bind_eq_ok.mpr ⟨(sequence, allocated), allocation,
    bind_eq_ok.mpr ⟨hash, hashed, bind_eq_ok.mpr ⟨withRow, insertion, children⟩⟩⟩, rfl, ?_⟩
  intro other present
  rcases List.mem_append.mp present with old | new
  · exact .inl old
  · obtain ⟨result, _, rfl⟩ := List.mem_map.mp new
    exact .inr rfl

/-- A property without findings can be captured whenever its fingerprint is
new. -/
theorem create_bareCall (freshId : Uuid) (nonempty : schemaVersion ≠ "")
    (capturing : captureState coreService.resolver coreService.allowed
      (bareState schemaVersion) = .ok ⟨[], [], [], fingerprints⟩)
    (sound : Sound database) (known : someProperty ∈ database.properties)
    (fresh : FreshFor freshId database)
    (newFingerprint : ∀ other ∈ database.snapshots,
      other.semanticFingerprint ≠ fingerprints.semanticFingerprint) :
    ∃ after row, create coreService (bareCall schemaVersion freshId) database =
        .ok (⟨.created, some freshId, some fingerprints.semanticFingerprint, .complete⟩, after) ∧
      Inserted (bareCall schemaVersion freshId) ⟨[], [], [], fingerprints⟩
        bareEvaluation database after row ∧
      after.properties = database.properties ∧
      ∀ row ∈ after.requirementResults,
        row ∈ database.requirementResults ∨ row.snapshotId = freshId := by
  obtain ⟨found, again, _, semanticHex, variantHex⟩ := captureState_bareState schemaVersion
  obtain rfl : found = fingerprints :=
    congrArg Capture.fingerprints (Except.ok.inj (again.symm.trans capturing))
  obtain ⟨after, inserted, rest⟩ := insertCapture_bareCall
    schemaVersion sound known fresh semanticHex variantHex
    newFingerprint
  have notFound : checkDuplicate database
      (bareCall schemaVersion freshId).propertyId found.semanticFingerprint = none := by
    rw [checkDuplicate, Option.map_eq_none_iff, Database.findEquivalent,
      latest_eq_none, List.filter_eq_nil_iff]
    intro other present
    simp [newFingerprint other present]
  obtain ⟨row, spec⟩ := insertCapture_eq_ok inserted
  refine ⟨after, row, ?_, spec, rest⟩
  have evaluated : evaluate coreService.requirements
      (bareCall schemaVersion freshId).state = bareEvaluation :=
    evaluate_bareState nonempty
  unfold create
  simp only [require_bind_eq_ok]
  rw [evaluated]
  refine ⟨rfl, by decide, ?_⟩
  rw [if_neg (by decide)]
  refine bind_eq_ok.mpr ⟨_, capturing, ?_⟩
  simp only [require_bind_eq_ok]
  refine ⟨rfl, rfl, ?_⟩
  rw [notFound]
  exact bind_eq_ok.mpr ⟨after, inserted, rfl⟩

/-- A property without findings whose fingerprint is stored is reported as
equivalent. -/
theorem create_bareCall_existing (freshId : Uuid) {row : SnapshotRecord}
    (nonempty : schemaVersion ≠ "")
    (capturing : captureState coreService.resolver coreService.allowed
      (bareState schemaVersion) = .ok ⟨[], [], [], fingerprints⟩)
    (stored : database.findEquivalent someProperty fingerprints.semanticFingerprint = some row) :
    create coreService (bareCall schemaVersion freshId) database =
      .ok (⟨.existingEquivalent, some row.snapshotId,
        some fingerprints.semanticFingerprint, .complete⟩, database) := by
  have evaluated : evaluate coreService.requirements
      (bareCall schemaVersion freshId).state = bareEvaluation :=
    evaluate_bareState nonempty
  have found : checkDuplicate database
      (bareCall schemaVersion freshId).propertyId
        fingerprints.semanticFingerprint = some row.snapshotId := by
    rw [checkDuplicate]
    exact Option.map_eq_some_iff.mpr ⟨row, stored, rfl⟩
  unfold create
  simp only [require_bind_eq_ok]
  rw [evaluated]
  refine ⟨rfl, by decide, ?_⟩
  rw [if_neg (by decide)]
  refine bind_eq_ok.mpr ⟨_, capturing, ?_⟩
  simp only [require_bind_eq_ok]
  refine ⟨rfl, rfl, ?_⟩
  rw [found]
  rfl

theorem createStep_of_create {service : CreationService} {call : CreateCall}
    {before after : Database} {result : CreateSnapshotResult}
    (returned : create service call before = .ok (result, after)) :
    CreateStep before ⟨service, call, .ok result⟩ after := by
  rw [CreateStep, transact, returned]

/-! ## Currency over runs -/

/-- After a call that created a snapshot, this snapshot is the current one and
carries the fingerprint of the state that the call read.  After a call that
found an equivalent snapshot, the database is unchanged, and the current
snapshot carries that fingerprint just when no accepted snapshot was created
after the one found. -/
theorem create_currency {properties : List Uuid} {reasonCodes : List String}
    {history : List CreateEvent} {event : CreateEvent} {database : Database}
    (run : Exec CreateStep (Database.empty properties reasonCodes)
      (history ++ [event]) database)
    {result : CreateSnapshotResult} (returned : event.outcome = .ok result)
    (captures : result.status ≠ .blocked) :
    ∃ before captured row,
      Exec CreateStep (Database.empty properties reasonCodes) history before ∧
      Answered event result captured row before database ∧
      (result.status = .created →
        CurrentCarries database event.call.propertyId
          captured.fingerprints.semanticFingerprint) ∧
      (result.status = .existingEquivalent →
        (CurrentCarries database event.call.propertyId
          captured.fingerprints.semanticFingerprint ↔
            IsLast database row)) := by
  obtain ⟨before, earlier, step⟩ := run.split_concat
  obtain ⟨captured, row, answered⟩ :=
    answered_of_createStep (sound_of_run earlier) step returned captures
  refine ⟨before, captured, row, earlier, answered, ?_, ?_⟩
  · intro status
    rw [CurrentCarries, answered.created status, Option.map_some,
      answered.semanticFingerprint]
  · intro _
    rw [← answered.propertyId, ← answered.semanticFingerprint]
    exact currentCarries_iff_isLast (sound_of_run run) answered.stored

/-- One capture of a property without findings. -/
theorem create_currency_bareCall :
    ∃ result database captured,
      Exec CreateStep (Database.empty [someProperty] [])
        [⟨coreService, bareCall "1.0" ⟨1, by decide⟩, .ok result⟩] database ∧
      result.status = .created ∧
      captureState coreService.resolver coreService.allowed
        (bareState "1.0") = .ok captured ∧
      CurrentCarries database someProperty
        captured.fingerprints.semanticFingerprint := by
  obtain ⟨fingerprints, capturing, _⟩ := captureState_bareState "1.0"
  obtain ⟨after, row, created, _⟩ :=
    create_bareCall ⟨1, by decide⟩ (by decide) capturing
      (Sound.empty [someProperty] []) List.mem_cons_self
      ⟨by simp [Database.empty], by simp [Database.empty]⟩
      (by simp [Database.empty])
  have run : Exec CreateStep (Database.empty [someProperty] []) ([] ++ [_])
      after :=
    .single (createStep_of_create created)
  obtain ⟨_, captured, _, _, answered, current, _⟩ :=
    create_currency run rfl (by simp)
  exact ⟨_, after, captured, run, rfl, answered.capturing, current rfl⟩

/-- The schema version goes from `1.0` to `1.1` and back.  The third call finds
the first snapshot, while the second one stays current. -/
theorem create_not_current :
    ∃ first second database fingerprints,
      captureState coreService.resolver coreService.allowed
        (bareState "1.0") = .ok ⟨[], [], [], fingerprints⟩ ∧
      Exec CreateStep (Database.empty [someProperty] [])
        [⟨coreService, bareCall "1.0" ⟨1, by decide⟩, .ok first⟩,
          ⟨coreService, bareCall "1.1" ⟨2, by decide⟩, .ok second⟩,
          ⟨coreService, bareCall "1.0" ⟨3, by decide⟩,
            .ok ⟨.existingEquivalent, some ⟨1, by decide⟩,
              some fingerprints.semanticFingerprint, .complete⟩⟩]
        database ∧
      ¬ CurrentCarries database someProperty
        fingerprints.semanticFingerprint := by
  obtain ⟨old, capturingOld, calculatedOld, _⟩ := captureState_bareState "1.0"
  obtain ⟨new, capturingNew, calculatedNew, _⟩ := captureState_bareState "1.1"
  have differ : old.semanticFingerprint ≠ new.semanticFingerprint :=
    sha256Canonical_ne_of_spelled (calculate_eq_ok.mp calculatedOld).1
      (calculate_eq_ok.mp calculatedNew).1 (by repeat' constructor)
      (by repeat' constructor) (by decide +kernel)
  have start := Sound.empty [someProperty] []
  obtain ⟨afterOld, rowOld, createdOld, insertedOld, properties, results⟩ :=
    create_bareCall ⟨1, by decide⟩ (by decide) capturingOld start
      List.mem_cons_self ⟨by simp [Database.empty], by simp [Database.empty]⟩
      (by simp [Database.empty])
  have soundOld := insertedOld.sound (.inl rfl) start
  have snapshotsOld : afterOld.snapshots = [rowOld] := insertedOld.snapshots
  obtain ⟨afterNew, rowNew, createdNew, insertedNew, _, _⟩ :=
    create_bareCall ⟨2, by decide⟩ (by decide) capturingNew soundOld
      (properties ▸ List.mem_cons_self)
      ⟨by simp [snapshotsOld, insertedOld.snapshotId, bareCall], by
        intro other present
        rcases results other present with absurd | same
        · cases absurd
        · simp [same]⟩
      (by simp [snapshotsOld, insertedOld.semanticFingerprint, differ])
  have stored : afterNew.findEquivalent someProperty
      old.semanticFingerprint = some rowOld := by
    have accepted := soundOld.accepted rowOld (by simp [snapshotsOld])
    rw [Database.findEquivalent, insertedNew.snapshots, snapshotsOld]
    have first : rowOld.semanticFingerprint = old.semanticFingerprint :=
      insertedOld.semanticFingerprint
    have second : rowNew.semanticFingerprint = new.semanticFingerprint :=
      insertedNew.semanticFingerprint
    have property : rowOld.propertyId = someProperty := insertedOld.propertyId
    simp [first, second, property, accepted, differ.symm, latest]
  have existing := create_bareCall_existing ⟨3, by decide⟩ (by decide)
    capturingOld stored
  rw [insertedOld.snapshotId] at existing
  refine ⟨_, _, afterNew, old, capturingOld,
    .cons (createStep_of_create createdOld)
      (.cons (createStep_of_create createdNew)
        (.single (createStep_of_create existing))), ?_⟩
  intro carries
  rw [CurrentCarries, show afterNew.currentAccepted someProperty = some rowNew
    from insertedNew.currentAccepted (.inl rfl) soundOld, Option.map_some,
    insertedNew.semanticFingerprint, Option.some.injEq] at carries
  exact differ carries.symm

end SanTanHeights.Snapshot
