import SanTanHeights.Foundation.Runs
import SanTanHeights.Snapshot.Service

/-!
# Runs of snapshot creation

What the inserts of a capture and one `create` call do to the snapshot tables,
and what every run of calls keeps: accepted rows, numbered upwards, with one
row for each fingerprint of a property.
-/

namespace SanTanHeights.Snapshot

open Foundation Foundation.Outcome Foundation.Runs Shared

/-! ## Single inserts -/

namespace Database

def addFindings (database : Database) (records : List SnapshotFindingRecord) : Database :=
  { database with findings := database.findings ++ records }

def addDependencies (database : Database) (records : List SnapshotDependencyRecord) :
    Database :=
  { database with dependencies := database.dependencies ++ records }

def addRequirementResults
    (database : Database) (records : List SnapshotRequirementResultRecord) :
    Database :=
  { database with
    requirementResults := database.requirementResults ++ records }

variable {database next : Database}

theorem insertFinding_eq_ok {record : SnapshotFindingRecord}
    (inserted : database.insertFinding record = .ok next) :
    next = database.addFindings [record] := by
  simp only [insertFinding, require_bind_eq_ok, pure_eq_ok] at inserted
  exact inserted.2.2.2.symm

theorem insertDependency_eq_ok {record : SnapshotDependencyRecord}
    (inserted : database.insertDependency record = .ok next) :
    next = database.addDependencies [record] := by
  simp only [insertDependency, require_bind_eq_ok, pure_eq_ok] at inserted
  exact inserted.2.2.symm

theorem insertRequirement_eq_ok {record : SnapshotRequirementResultRecord}
    (inserted : database.insertRequirement record = .ok next) :
    next = database.addRequirementResults [record] := by
  simp only [insertRequirement, require_bind_eq_ok, pure_eq_ok] at inserted
  exact inserted.2.2.symm

end Database

/-! ## The rows of a capture -/

namespace Capture

/-- The row of a finding of a capture, with the passport that verified it. -/
def findingRecord (snapshotId : Uuid) (captured : Capture) (finding : FrozenFinding) :
    Option SnapshotFindingRecord :=
  (passportByFinding captured.passports finding.findingId).map fun passport =>
    { snapshotId := snapshotId
      finding := finding
      passportSemanticFingerprint := passport.passportSemanticFingerprint }

def findingRecords (snapshotId : Uuid) (captured : Capture) : List SnapshotFindingRecord :=
  captured.findings.filterMap (captured.findingRecord snapshotId)

def dependencyRecords (snapshotId : Uuid) (captured : Capture) :
    List SnapshotDependencyRecord :=
  captured.dependencies.map (Snapshot.dependencyRecord snapshotId)

end Capture

/-- The rows of a capture are added to the tables, and nothing else changes. -/
theorem insertChildren_eq_ok {database next : Database} {snapshotId : Uuid} {captured : Capture}
    {requirements : List RequirementResult}
    (inserted : insertChildren database snapshotId captured requirements = .ok next) :
    next = ((database.addFindings (captured.findingRecords snapshotId)
        ).addDependencies (captured.dependencyRecords snapshotId) ).addRequirementResults
          (requirements.map (SnapshotRequirementResultRecord.mk snapshotId)) := by
  obtain ⟨withFindings, findings, rest⟩ := bind_eq_ok.mp inserted
  obtain ⟨withDependencies, dependencies, results⟩ := bind_eq_ok.mp rest
  have first := foldlM_collect
    Database.addFindings (captured.findingRecord snapshotId)
    (by simp [Database.addFindings]) (by simp [Database.addFindings])
    (fun state finding after step => by
      obtain ⟨passport, found, insert⟩ := bind_eq_ok.mp step
      rw [Database.insertFinding_eq_ok insert, Capture.findingRecord, orRaise_eq_ok.mp found]
      rfl)
    findings
  have second := foldlM_collect
    Database.addDependencies (some ∘ dependencyRecord snapshotId)
    (by simp [Database.addDependencies]) (by simp [Database.addDependencies])
    (fun _ _ _ step => Database.insertDependency_eq_ok step) dependencies
  have third := foldlM_collect Database.addRequirementResults
    (some ∘ SnapshotRequirementResultRecord.mk snapshotId)
    (by simp [Database.addRequirementResults])
    (by simp [Database.addRequirementResults])
    (fun _ _ _ step => Database.insertRequirement_eq_ok step) results
  rw [List.filterMap_eq_map] at second third
  rw [third, second, first]
  rfl

/-! ## What one call does -/

/-- The fingerprint of a variant that a snapshot carries. -/
def SnapshotRecord.ofVariant (record : SnapshotRecord) : Variant → String
  | .agent => record.agentSemanticFingerprint
  | .seller => record.sellerSemanticFingerprint
  | .pub => record.publicSemanticFingerprint

/-- What inserting a capture does to the tables. -/
structure Inserted (call : CreateCall) (captured : Capture)
    (evaluation : RequirementEvaluation) (database next : Database)
    (record : SnapshotRecord) : Prop where
  snapshots : next.snapshots = database.snapshots ++ [record]
  counters : next.sequenceCounters =
    Function.update database.sequenceCounters call.propertyId (some (record.snapshotSequence + 1))
  sequence : record.snapshotSequence = (database.sequenceCounters call.propertyId).elim 1 id
  snapshotId : record.snapshotId = call.freshId
  propertyId : record.propertyId = call.propertyId
  semanticFingerprint : record.semanticFingerprint = captured.fingerprints.semanticFingerprint
  ofVariant : ∀ variant, record.ofVariant variant = captured.fingerprints.ofVariant variant
  intelligenceSchemaVersion : record.intelligenceSchemaVersion =
    call.state.intelligenceSchemaVersion
  governanceSchemaVersion : record.governanceSchemaVersion = call.state.governanceSchemaVersion
  qaStatus : record.qaStatus = .pass
  completeness : record.snapshotCompletenessStatus = evaluation.completenessStatus
  uniqueFingerprint : ∀ other ∈ database.snapshots,
    other.propertyId = record.propertyId → other.semanticFingerprint ≠ record.semanticFingerprint
  freshId : ∀ other ∈ database.snapshots, other.snapshotId ≠ record.snapshotId
  findings : next.findings = database.findings ++ captured.findingRecords call.freshId
  dependencies : next.dependencies =
    database.dependencies ++ captured.dependencyRecords call.freshId

theorem insertCapture_eq_ok {call : CreateCall} {captured : Capture}
    {evaluation : RequirementEvaluation} {database next : Database}
    (inserted : insertCapture call captured evaluation database = .ok next) :
    ∃ record, Inserted call captured evaluation database next record := by
  obtain ⟨⟨sequence, allocated⟩, allocation, rest⟩ := bind_eq_ok.mp inserted
  obtain ⟨hash, _, rest⟩ := bind_eq_ok.mp rest
  obtain ⟨withSnapshot, insertion, children⟩ := bind_eq_ok.mp rest
  simp only [Database.allocateSequence, require_bind_eq_ok, pure_eq_ok, Prod.mk.injEq] at allocation
  obtain ⟨_, rfl, rfl⟩ := allocation
  simp only [Database.insertSnapshot, require_bind_eq_ok, pure_eq_ok]
    at insertion
  obtain ⟨fresh, _, _, _, _, _, unique, rfl⟩ := insertion
  obtain rfl := insertChildren_eq_ok children
  have next_eq : (database.sequenceCounters call.propertyId).elim 2 (· + 1) =
        (database.sequenceCounters call.propertyId).elim 1 id + 1 := by
    cases database.sequenceCounters call.propertyId <;> rfl
  exact ⟨_,
    { snapshots := rfl
      counters := by
        simp only [snapshotRecord, next_eq, Nat.add_sub_cancel]
        rfl
      sequence := by
        simp only [snapshotRecord, next_eq, Nat.add_sub_cancel]
      snapshotId := rfl
      propertyId := rfl
      semanticFingerprint := rfl
      ofVariant := fun variant => by cases variant <;> rfl
      intelligenceSchemaVersion := rfl
      governanceSchemaVersion := rfl
      qaStatus := rfl
      completeness := rfl
      uniqueFingerprint := unique
      freshId := fresh
      findings := rfl
      dependencies := rfl }⟩

/-- The ways in which a call returns. -/
inductive Created (service : CreationService) (call : CreateCall) (before : Database) :
    CreateSnapshotResult → Database → Prop
  | blocked : Created service call before ⟨.blocked, none, none, .blocked⟩ before
  | existing {captured : Capture} {completeness : Completeness}
      {row : SnapshotRecord} :
      captureState service.resolver service.allowed call.state = .ok captured →
      before.findEquivalent call.propertyId captured.fingerprints.semanticFingerprint = some row →
      Created service call before ⟨.existingEquivalent, some row.snapshotId,
          some captured.fingerprints.semanticFingerprint, completeness⟩
        before
  | new {captured : Capture} {evaluation : RequirementEvaluation}
      {row : SnapshotRecord} {after : Database} :
      captureState service.resolver service.allowed call.state = .ok captured →
      (evaluation.completenessStatus = .complete ∨ evaluation.completenessStatus = .partialValid) →
      Inserted call captured evaluation before after row →
      Created service call before ⟨.created, some row.snapshotId,
          some captured.fingerprints.semanticFingerprint,
          evaluation.completenessStatus⟩ after

theorem create_eq_ok {service : CreationService} {call : CreateCall}
    {before after : Database} {result : CreateSnapshotResult}
    (returned : create service call before = .ok (result, after)) :
    Created service call before result after := by
  unfold create at returned
  simp only [require_bind_eq_ok] at returned
  obtain ⟨_, notInvalid, returned⟩ := returned
  split_ifs at returned with blocked
  · simp only [pure_eq_ok, Prod.mk.injEq] at returned
    obtain ⟨rfl, rfl⟩ := returned
    exact .blocked
  · obtain ⟨captured, capturing, returned⟩ := bind_eq_ok.mp returned
    simp only [require_bind_eq_ok] at returned
    obtain ⟨_, _, returned⟩ := returned
    split at returned
    · rename_i existing duplicate
      simp only [pure_eq_ok, Prod.mk.injEq] at returned
      obtain ⟨rfl, rfl⟩ := returned
      obtain ⟨row, found, rfl⟩ := Option.map_eq_some_iff.mp duplicate
      exact .existing capturing found
    · obtain ⟨inserted, insertion, returned⟩ := bind_eq_ok.mp returned
      simp only [pure_eq_ok, Prod.mk.injEq] at returned
      obtain ⟨rfl, rfl⟩ := returned
      obtain ⟨row, spec⟩ := insertCapture_eq_ok insertion
      have accepted : (evaluate service.requirements
          call.state).completenessStatus = .complete ∨
            (evaluate service.requirements call.state).completenessStatus = .partialValid := by
        revert notInvalid blocked
        cases (evaluate service.requirements call.state).completenessStatus <;>
          simp
      rw [← spec.snapshotId]
      exact .new capturing accepted spec

/-! ## Runs -/

/-- A call and what its caller sees. -/
structure CreateEvent where
  service : CreationService
  call : CreateCall
  outcome : Except String CreateSnapshotResult

/-- A call in a transaction of its own, which an exception rolls back. -/
def transact (service : CreationService) (call : CreateCall) (database : Database) :
    Except String CreateSnapshotResult × Database :=
  match create service call database with
  | .ok (result, after) => (.ok result, after)
  | .error message => (.error message, database)

def CreateStep (before : Database) (event : CreateEvent) (after : Database) : Prop :=
  transact event.service event.call before = (event.outcome, after)

/-- No snapshot was taken yet. -/
def Database.empty (properties : List Uuid) (reasonCodes : List String) : Database where
  properties := properties
  reasonCodes := reasonCodes
  sequenceCounters := fun _ => none
  snapshots := []
  findings := []
  dependencies := []
  requirementResults := []

/-- What the calls maintain about the snapshots of every property. -/
structure Sound (database : Database) : Prop where
  accepted : ∀ record ∈ database.snapshots, record.accepted
  positive : ∀ propertyId, 0 < (database.sequenceCounters propertyId).elim 1 id
  counted : ∀ record ∈ database.snapshots, record.snapshotSequence <
      (database.sequenceCounters record.propertyId).elim 1 id
  uniqueSequence : ∀ left ∈ database.snapshots,
    ∀ right ∈ database.snapshots, left.propertyId = right.propertyId →
      left.snapshotSequence = right.snapshotSequence → left = right
  uniqueFingerprint : ∀ left ∈ database.snapshots,
    ∀ right ∈ database.snapshots, left.propertyId = right.propertyId →
      left.semanticFingerprint = right.semanticFingerprint → left = right

theorem Sound.empty (properties : List Uuid) (reasonCodes : List String) :
    Sound (Database.empty properties reasonCodes) := by
  constructor <;> simp [Database.empty]

/-- A key that is new to a list with unique keys stays unique. -/
theorem unique_concat {α β : Type*} (key : α → β) {items : List α} {added : α}
    (unique : ∀ left ∈ items, ∀ right ∈ items, key left = key right → left = right)
    (fresh : ∀ item ∈ items, key item ≠ key added) :
    ∀ left ∈ items ++ [added], ∀ right ∈ items ++ [added], key left = key right → left = right := by
  intro left leftMember right rightMember equal
  rw [List.mem_append, List.mem_singleton] at leftMember rightMember
  rcases leftMember with leftOld | rfl
  · rcases rightMember with rightOld | rfl
    · exact unique left leftOld right rightOld equal
    · exact absurd equal (fresh left leftOld)
  · rcases rightMember with rightOld | rfl
    · exact absurd equal.symm (fresh right rightOld)
    · rfl

namespace Inserted

variable {call : CreateCall} {captured : Capture}
  {evaluation : RequirementEvaluation} {before after : Database}
  {record : SnapshotRecord}

/-- A new snapshot comes after the other snapshots of its property. -/
theorem later (inserted : Inserted call captured evaluation before after record)
    (sound : Sound before) :
    ∀ other ∈ before.snapshots, other.propertyId = record.propertyId →
      other.snapshotSequence < record.snapshotSequence := by
  intro other present sameProperty
  have counted := sound.counted other present
  rwa [sameProperty, inserted.propertyId, ← inserted.sequence] at counted

theorem sound (inserted : Inserted call captured evaluation before after record)
    (complete : evaluation.completenessStatus = .complete ∨
      evaluation.completenessStatus = .partialValid)
    (sound : Sound before) :
    Sound after := by
  have isLater := inserted.later sound
  constructor
  · rw [inserted.snapshots]
    intro other present
    rcases List.mem_append.mp present with old | new
    · exact sound.accepted other old
    · rw [List.mem_singleton.mp new]
      exact ⟨inserted.qaStatus, inserted.completeness ▸ complete⟩
  · rw [inserted.counters]
    intro propertyId
    by_cases same : propertyId = call.propertyId
    · rw [same, Function.update_self]
      exact Nat.succ_pos _
    · rw [Function.update_of_ne same]
      exact sound.positive propertyId
  · rw [inserted.snapshots, inserted.counters]
    intro other present
    by_cases sameProperty : other.propertyId = call.propertyId
    · rw [sameProperty, Function.update_self]
      refine Nat.lt_succ_of_le ?_
      rcases List.mem_append.mp present with old | new
      · exact (isLater other old (sameProperty.trans inserted.propertyId.symm)).le
      · rw [List.mem_singleton.mp new]
    · rw [Function.update_of_ne sameProperty]
      rcases List.mem_append.mp present with old | new
      · exact sound.counted other old
      · rw [List.mem_singleton.mp new] at sameProperty
        exact absurd inserted.propertyId sameProperty
  · intro left leftMember right rightMember sameProperty equal
    rw [inserted.snapshots] at leftMember rightMember
    refine unique_concat (fun record : SnapshotRecord =>
        (record.propertyId, record.snapshotSequence))
      ?_ ?_ left leftMember right rightMember (Prod.ext sameProperty equal)
    · intro left leftOld right rightOld keys
      obtain ⟨sameProperty, equal⟩ := Prod.mk.inj keys
      exact sound.uniqueSequence left leftOld right rightOld sameProperty equal
    · intro other old keys
      obtain ⟨sameProperty, equal⟩ := Prod.mk.inj keys
      exact (isLater other old sameProperty).ne equal
  · intro left leftMember right rightMember sameProperty equal
    rw [inserted.snapshots] at leftMember rightMember
    refine unique_concat (fun record : SnapshotRecord =>
        (record.propertyId, record.semanticFingerprint))
      ?_ ?_ left leftMember right rightMember (Prod.ext sameProperty equal)
    · intro left leftOld right rightOld keys
      obtain ⟨sameProperty, equal⟩ := Prod.mk.inj keys
      exact sound.uniqueFingerprint left leftOld right rightOld sameProperty equal
    · intro other old keys
      obtain ⟨sameProperty, equal⟩ := Prod.mk.inj keys
      exact inserted.uniqueFingerprint other old sameProperty equal

/-- A new snapshot is the current one. -/
theorem currentAccepted (inserted : Inserted call captured evaluation before after record)
    (complete : evaluation.completenessStatus = .complete ∨
      evaluation.completenessStatus = .partialValid)
    (sound : Sound before) :
    after.currentAccepted call.propertyId = some record := by
  have accepted : record.accepted := ⟨inserted.qaStatus, inserted.completeness ▸ complete⟩
  have selected : [record].filter (fun record =>
      record.propertyId = call.propertyId ∧ record.accepted) = [record] := by
    simp [inserted.propertyId, accepted]
  rw [Database.currentAccepted, inserted.snapshots, List.filter_append, selected]
  apply latest_concat
  intro other present
  obtain ⟨old, matching⟩ := List.mem_filter.mp present
  have sameProperty := (of_decide_eq_true matching).1
  exact inserted.later sound other old (sameProperty.trans inserted.propertyId.symm)

end Inserted

/-- What a call leaves behind, whether it returns or raises. -/
theorem created_of_createStep {before after : Database} {event : CreateEvent}
    (step : CreateStep before event after) :
    (∃ result, event.outcome = .ok result ∧ Created event.service event.call before result after) ∨
    (∃ message, event.outcome = .error message ∧ after = before) := by
  unfold CreateStep transact at step
  split at step
  · rename_i result database returned
    obtain ⟨outcome, rfl⟩ := Prod.mk.inj step
    exact .inl ⟨result, outcome.symm, create_eq_ok returned⟩
  · rename_i message raised
    obtain ⟨outcome, rfl⟩ := Prod.mk.inj step
    exact .inr ⟨message, outcome.symm, rfl⟩

theorem createStep_sound {before after : Database} {event : CreateEvent}
    (sound : Sound before) (step : CreateStep before event after) :
    Sound after := by
  rcases created_of_createStep step with ⟨result, _, created⟩ | ⟨_, _, rfl⟩
  · cases created with
    | blocked => exact sound
    | existing => exact sound
    | new _ complete inserted => exact inserted.sound complete sound
  · exact sound

/-- Every reachable database is sound. -/
theorem sound_of_run {properties : List Uuid} {reasonCodes : List String}
    {events : List CreateEvent} {database : Database}
    (run : Exec CreateStep (Database.empty properties reasonCodes) events database) :
    Sound database :=
  run.invariant (Sound.empty properties reasonCodes)
    fun _ _ _ sound step => createStep_sound sound step

end SanTanHeights.Snapshot
