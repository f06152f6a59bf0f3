import SanTanHeights.Foundation.JsonEquality
import SanTanHeights.Foundation.Merging
import SanTanHeights.Snapshot.Projections

/-!
# Comparing two snapshots

`SnapshotDiffEngine.compare` lists the findings and dependencies that differ
between two snapshots.  It lists none, versions of dependencies apart, just
when the overall fingerprints of the snapshots are equal.
-/

namespace SanTanHeights.Snapshot

open Foundation Foundation.Json Foundation.Outcome Shared

/-! ## Changes -/

/-- The change types of a finding. -/
inductive FindingChangeType where
  | added
  | removed
  | valueChanged
  | confidenceChanged
  | qaChanged
  | publicationScopeChanged
  | wordingChanged
  | semanticChanged
  deriving DecidableEq, Repr

namespace FindingChangeType

def code : FindingChangeType → String
  | added => "ADDED"
  | removed => "REMOVED"
  | valueChanged => "VALUE_CHANGED"
  | confidenceChanged => "CONFIDENCE_CHANGED"
  | qaChanged => "QA_CHANGED"
  | publicationScopeChanged => "PUBLICATION_SCOPE_CHANGED"
  | wordingChanged => "WORDING_CHANGED"
  | semanticChanged => "SEMANTIC_CHANGED"

/-- Seen from the other side, what was added is removed. -/
def swapped : FindingChangeType → FindingChangeType
  | added => removed
  | removed => added
  | other => other

end FindingChangeType

/-- The change types of a dependency. -/
inductive DependencyChangeType where
  | added
  | removed
  | semanticChanged
  | versionChangedNonSemantic
  deriving DecidableEq, Repr

namespace DependencyChangeType

def code : DependencyChangeType → String
  | added => "ADDED"
  | removed => "REMOVED"
  | semanticChanged => "SEMANTIC_CHANGED"
  | versionChangedNonSemantic => "VERSION_CHANGED_NON_SEMANTIC"

def swapped : DependencyChangeType → DependencyChangeType
  | added => removed
  | removed => added
  | other => other

end DependencyChangeType

/-- `old_fingerprint` and `new_fingerprint`, where a change has them. -/
def fingerprintMembers :
    Option (String × String) → List (String × Json)
  | none => []
  | some (old, new) =>
      [("old_fingerprint", .str old), ("new_fingerprint", .str new)]

/-- An item of `finding_changes`. -/
structure FindingChange where
  findingId : String
  changeType : FindingChangeType
  fingerprints : Option (String × String)
  deriving DecidableEq, Repr

def FindingChange.json (change : FindingChange) : Json :=
  .obj ([("finding_id", .str change.findingId),
    ("change_type", .str change.changeType.code)] ++ fingerprintMembers change.fingerprints)

/-- The same change, seen from the other side. -/
def FindingChange.swapped (change : FindingChange) : FindingChange where
  findingId := change.findingId
  changeType := change.changeType.swapped
  fingerprints := change.fingerprints.map Prod.swap

/-- An item of `dependency_changes`. -/
structure DependencyChange where
  dependencyType : String
  dependencyId : String
  changeType : DependencyChangeType
  fingerprints : Option (String × String)
  deriving DecidableEq, Repr

def DependencyChange.json (change : DependencyChange) : Json :=
  .obj ([("dependency_type", .str change.dependencyType),
    ("dependency_id", .str change.dependencyId),
    ("change_type", .str change.changeType.code)] ++ fingerprintMembers change.fingerprints)

def DependencyChange.swapped (change : DependencyChange) : DependencyChange where
  dependencyType := change.dependencyType
  dependencyId := change.dependencyId
  changeType := change.changeType.swapped
  fingerprints := change.fingerprints.map Prod.swap

/-! ## The engine -/

/-- The tuple of wordings and wording versions that `compare` looks at. -/
def wordingTuple (finding : FrozenFinding) : List (Option String) :=
  [finding.agentWording, finding.sellerWording, finding.publicWording,
    finding.agentWordingVersion, finding.sellerWordingVersion, finding.publicWordingVersion]

/-- The change type of two findings whose fingerprints differ. -/
def findingChangeType (old new : FrozenFinding) : FindingChangeType :=
  if pyEq old.canonicalValue new.canonicalValue = false then .valueChanged
  else if old.confidenceCode ≠ new.confidenceCode then .confidenceChanged
  else if old.qaStatus ≠ new.qaStatus then .qaChanged
  else if old.publicationScope ≠ new.publicationScope then
    .publicationScopeChanged
  else if wordingTuple old ≠ wordingTuple new then .wordingChanged
  else .semanticChanged

/-- The body of the loop over the findings. -/
def findingChanges (findingId : String) :
    Option FrozenFinding → Option FrozenFinding → List FindingChange
  | none, _ => [⟨findingId, .added, none⟩]
  | some _, none => [⟨findingId, .removed, none⟩]
  | some old, some new =>
      if old.semanticFingerprint = new.semanticFingerprint then []
      else [⟨findingId, findingChangeType old new,
        some (old.semanticFingerprint, new.semanticFingerprint)⟩]

/-- The body of the loop over the dependencies. -/
def dependencyChanges (key : String ×ₗ String) :
    Option GovernedDependency → Option GovernedDependency → List DependencyChange
  | none, _ => [⟨(ofLex key).1, (ofLex key).2, .added, none⟩]
  | some _, none => [⟨(ofLex key).1, (ofLex key).2, .removed, none⟩]
  | some old, some new =>
      if old.semanticFingerprint ≠ new.semanticFingerprint then
        [⟨(ofLex key).1, (ofLex key).2, .semanticChanged,
          some (old.semanticFingerprint, new.semanticFingerprint)⟩]
      else if old.dependencyVersion ≠ new.dependencyVersion ∨
          old.recordFingerprint ≠ new.recordFingerprint then
        [⟨(ofLex key).1, (ofLex key).2, .versionChangedNonSemantic, none⟩]
      else []

structure DiffPayload where
  oldSnapshotId : Uuid
  newSnapshotId : Uuid
  findingChanges : List FindingChange
  dependencyChanges : List DependencyChange

def DiffPayload.json (payload : DiffPayload) : Json :=
  .obj [("old_snapshot_id", .str payload.oldSnapshotId.str),
      ("new_snapshot_id", .str payload.newSnapshotId.str),
      ("finding_changes", .arr (payload.findingChanges.map FindingChange.json)),
      ("dependency_changes", .arr (payload.dependencyChanges.map DependencyChange.json))]

structure SnapshotDiffResult where
  oldSnapshotId : Uuid
  newSnapshotId : Uuid
  diffPayload : DiffPayload
  diffHash : String

/-- `_index_findings`. -/
def indexFindings (rows : List FrozenFinding) : Except String (List FrozenFinding) :=
  Merging.index FrozenFinding.findingId
    (fun findingId => "duplicate finding_id: " ++ findingId) [] rows

/-- `_index_dependencies`. -/
def indexDependencies (rows : List GovernedDependency) :
    Except String (List GovernedDependency) :=
  Merging.index GovernedDependency.key
    (fun key => "duplicate dependency: " ++ (ofLex key).1 ++ ":" ++ (ofLex key).2) [] rows

/-- The payload that `compare` builds from the indexed rows. -/
def diffPayload (oldSnapshotId newSnapshotId : Uuid)
    (oldFindings newFindings : List FrozenFinding)
    (oldDependencies newDependencies : List GovernedDependency) :
    DiffPayload where
  oldSnapshotId := oldSnapshotId
  newSnapshotId := newSnapshotId
  findingChanges := Merging.merge FrozenFinding.findingId findingChanges oldFindings newFindings
  dependencyChanges := Merging.merge GovernedDependency.key
    dependencyChanges oldDependencies newDependencies

/-- `SnapshotDiffEngine.compare`. -/
def compare (oldSnapshotId newSnapshotId : Uuid) (oldFindings newFindings : List FrozenFinding)
    (oldDependencies newDependencies : List GovernedDependency) :
    Except String SnapshotDiffResult := do
  require (oldSnapshotId ≠ newSnapshotId) "snapshots must differ"
  let oldFindings ← indexFindings oldFindings
  let newFindings ← indexFindings newFindings
  let oldDependencies ← indexDependencies oldDependencies
  let newDependencies ← indexDependencies newDependencies
  let payload := diffPayload oldSnapshotId newSnapshotId
    oldFindings newFindings oldDependencies newDependencies
  let diffHash ← sha256Canonical payload.json
  return {
    oldSnapshotId := oldSnapshotId
    newSnapshotId := newSnapshotId
    diffPayload := payload
    diffHash := diffHash }

/-! ## When snapshots can be compared -/

theorem FindingChange.textual_json (change : FindingChange) : Textual change.json := by
  rcases change with ⟨findingId, changeType, _ | ⟨old, new⟩⟩ <;>
    simp [FindingChange.json, fingerprintMembers, textual_obj, IsTagged]

theorem DependencyChange.textual_json (change : DependencyChange) : Textual change.json := by
  rcases change with ⟨dependencyType, dependencyId, changeType, _ | ⟨old, new⟩⟩ <;>
    simp [DependencyChange.json, fingerprintMembers, textual_obj, IsTagged]

theorem DiffPayload.textual_json (payload : DiffPayload) : Textual payload.json := by
  simp [DiffPayload.json, textual_obj, IsTagged, FindingChange.textual_json,
    DependencyChange.textual_json]

/-- No two findings and no two dependencies have the same key, and neither
have two members of a dictionary. -/
structure FingerprintInput.WellKeyed (input : FingerprintInput) : Prop where
  findings : (input.findings.map FrozenFinding.findingId).Nodup
  dependencies : (input.dependencies.map GovernedDependency.key).Nodup
  values : ∀ finding ∈ input.findings, finding.canonicalValue.DistinctKeys

section Compare

variable {old new : FingerprintInput}

/-- The payload that compares what two snapshots hold. -/
def inputPayload (oldSnapshotId newSnapshotId : Uuid) (old new : FingerprintInput) :
    DiffPayload :=
  diffPayload oldSnapshotId newSnapshotId old.findings new.findings
    old.dependencies new.dependencies

theorem exists_compare {oldSnapshotId newSnapshotId : Uuid}
    (different : oldSnapshotId ≠ newSnapshotId) (oldKeyed : old.WellKeyed)
    (newKeyed : new.WellKeyed) :
    ∃ result, compare oldSnapshotId newSnapshotId old.findings new.findings
        old.dependencies new.dependencies = .ok result ∧
      result.diffPayload = inputPayload oldSnapshotId newSnapshotId old new := by
  have payload := (inputPayload oldSnapshotId newSnapshotId old new).textual_json
  obtain ⟨diffHash, hashed, _⟩ := payload.exists_sha256Canonical
  have findings : ∀ {input : FingerprintInput}, input.WellKeyed →
      indexFindings input.findings = .ok input.findings := fun keyed =>
    Merging.index_eq_ok _ (by simpa using keyed.findings)
  have dependencies : ∀ {input : FingerprintInput}, input.WellKeyed →
      indexDependencies input.dependencies = .ok input.dependencies :=
    fun keyed => Merging.index_eq_ok _ (by simpa using keyed.dependencies)
  refine ⟨⟨oldSnapshotId, newSnapshotId, _, diffHash⟩, ?_, rfl⟩
  unfold compare
  rw [require_bind_eq_ok]
  refine ⟨different, ?_⟩
  rw [findings oldKeyed, findings newKeyed, dependencies oldKeyed, dependencies newKeyed]
  refine bind_eq_ok.mpr ⟨_, rfl, bind_eq_ok.mpr ⟨_, rfl,
    bind_eq_ok.mpr ⟨_, rfl, bind_eq_ok.mpr ⟨_, rfl, bind_eq_ok.mpr ⟨diffHash, hashed, rfl⟩⟩⟩⟩⟩

/-! ## Exchanging the snapshots -/

theorem findingChangeType_swap {old new : FrozenFinding}
    (oldValue : old.canonicalValue.DistinctKeys) (newValue : new.canonicalValue.DistinctKeys) :
    findingChangeType new old = (findingChangeType old new).swapped := by
  unfold findingChangeType
  rw [pyEq_comm newValue oldValue]
  simp only [apply_ite FindingChangeType.swapped]
  -- The tests ask the same of both sides, in the same order.
  apply if_congr Iff.rfl rfl
  apply if_congr ne_comm rfl
  apply if_congr ne_comm rfl
  apply if_congr ne_comm rfl
  exact if_congr ne_comm rfl rfl

theorem findingChanges_swap {findingId : String} {left right : Option FrozenFinding}
    (present : left.isSome ∨ right.isSome)
    (leftValue : ∀ finding ∈ left, finding.canonicalValue.DistinctKeys)
    (rightValue : ∀ finding ∈ right, finding.canonicalValue.DistinctKeys) :
    findingChanges findingId right left =
      (findingChanges findingId left right).map FindingChange.swapped := by
  cases left with
  | none =>
      cases right with
      | none => simp at present
      | some new => rfl
  | some old =>
      cases right with
      | none => rfl
      | some new =>
          rw [findingChanges, findingChanges, apply_ite (List.map FindingChange.swapped)]
          apply if_congr eq_comm rfl
          rw [findingChangeType_swap (leftValue old rfl) (rightValue new rfl)]
          rfl

theorem dependencyChanges_swap {key : String ×ₗ String} {left right : Option GovernedDependency}
    (present : left.isSome ∨ right.isSome) :
    dependencyChanges key right left =
      (dependencyChanges key left right).map DependencyChange.swapped := by
  cases left with
  | none =>
      cases right with
      | none => simp at present
      | some new => rfl
  | some old =>
      cases right with
      | none => rfl
      | some new =>
          simp only [dependencyChanges, apply_ite (List.map DependencyChange.swapped)]
          apply if_congr ne_comm rfl
          exact if_congr (or_congr ne_comm ne_comm) rfl rfl

theorem inputPayload_swap {oldSnapshotId newSnapshotId : Uuid}
    (oldKeyed : old.WellKeyed) (newKeyed : new.WellKeyed) :
    (inputPayload newSnapshotId oldSnapshotId new old).findingChanges =
        (inputPayload oldSnapshotId newSnapshotId old new).findingChanges.map
          FindingChange.swapped ∧
      (inputPayload newSnapshotId oldSnapshotId new old).dependencyChanges =
        (inputPayload oldSnapshotId newSnapshotId old
          new).dependencyChanges.map DependencyChange.swapped := by
  constructor
  · refine Merging.merge_swap fun findingId present =>
      findingChanges_swap present ?_ ?_
    · exact fun finding found => oldKeyed.values finding
        ((Merging.get_eq_some_iff oldKeyed.findings).mp found).1
    · exact fun finding found => newKeyed.values finding
        ((Merging.get_eq_some_iff newKeyed.findings).mp found).1
  · exact Merging.merge_swap fun key present => dependencyChanges_swap present

/-! ## What is not listed -/

theorem findingChanges_eq_nil_iff {findingId : String} {left right : Option FrozenFinding}
    (present : left.isSome ∨ right.isSome) :
    (∀ change ∈ findingChanges findingId left right, False) ↔
      left.map FrozenFinding.semanticFingerprint = right.map FrozenFinding.semanticFingerprint := by
  cases left with
  | none =>
      cases right with
      | none => simp at present
      | some new => simp [findingChanges]
  | some old =>
      cases right with
      | none => simp [findingChanges]
      | some new =>
          rw [findingChanges, Option.map_some, Option.map_some, Option.some.injEq]
          split_ifs with equal <;> simp [equal]

/-- The change types that a fingerprint is about. -/
def DependencyChange.IsSemantic (change : DependencyChange) : Prop :=
  change.changeType ∈ [DependencyChangeType.added, .removed, .semanticChanged]

theorem dependencyChanges_not_semantic_iff
    {key : String ×ₗ String} {left right : Option GovernedDependency}
    (present : left.isSome ∨ right.isSome) :
    (∀ change ∈ dependencyChanges key left right, ¬ change.IsSemantic) ↔
      left.map GovernedDependency.semanticFingerprint =
        right.map GovernedDependency.semanticFingerprint := by
  cases left with
  | none =>
      cases right with
      | none => simp at present
      | some new =>
          simp [dependencyChanges, DependencyChange.IsSemantic]
  | some old =>
      cases right with
      | none => simp [dependencyChanges, DependencyChange.IsSemantic]
      | some new =>
          rw [dependencyChanges, Option.map_some, Option.map_some, Option.some.injEq]
          split_ifs with differs <;> simp_all [DependencyChange.IsSemantic]

theorem findingEntry_eq_iff (left right : FrozenFinding) :
    findingEntry left = findingEntry right ↔
      left.findingId = right.findingId ∧ left.semanticFingerprint = right.semanticFingerprint := by
  simp [findingEntry]

theorem dependencyEntry_eq_iff (left right : GovernedDependency) :
    dependencyEntry left = dependencyEntry right ↔
      left.key = right.key ∧ left.semanticFingerprint = right.semanticFingerprint := by
  simp [dependencyEntry, GovernedDependency.key, and_assoc]

/-- The engine lists nothing that a fingerprint is about just when both
snapshots have the same entries. -/
theorem inputPayload_unchanged_iff (oldSnapshotId newSnapshotId : Uuid)
    (oldKeyed : old.WellKeyed) (newKeyed : new.WellKeyed) :
    ((inputPayload oldSnapshotId newSnapshotId old new).findingChanges = [] ∧ ∀ change ∈
          (inputPayload oldSnapshotId newSnapshotId old new).dependencyChanges,
        ¬ change.IsSemantic) ↔
      old.SameEntries new := by
  apply and_congr
  · rw [List.eq_nil_iff_forall_not_mem]
    refine (Merging.forall_merge_iff fun _ _ _ present =>
      findingChanges_eq_nil_iff present).trans ?_
    exact Merging.same_get_iff_perm oldKeyed.findings newKeyed.findings findingEntry_eq_iff
  · refine (Merging.forall_merge_iff fun _ _ _ present =>
      dependencyChanges_not_semantic_iff present).trans ?_
    exact Merging.same_get_iff_perm oldKeyed.dependencies
      newKeyed.dependencies dependencyEntry_eq_iff

end Compare

/-! ## Agreement with the fingerprint -/

/-- For two snapshots of a property under the same schema versions, the engine
lists no change that a fingerprint is about just when the overall fingerprints
are equal, and compared the other way round it lists the same keys, with
additions and removals exchanged. -/
theorem compare_agrees_with_fingerprint
    {oldSnapshotId newSnapshotId : Uuid} {old new : FingerprintInput}
    {texts : Set String} (different : oldSnapshotId ≠ newSnapshotId)
    (base : old.SameBase new) (oldKeyed : old.WellKeyed) (newKeyed : new.WellKeyed)
    (collisionFree : Sha256.CollisionFree texts)
    (oldHashed : ∀ text, canonicalJson old.overall = some text →
      text ∈ texts)
    (newHashed : ∀ text, canonicalJson new.overall = some text →
      text ∈ texts) :
    ∃ forward backward oldPrints newPrints,
      compare oldSnapshotId newSnapshotId old.findings new.findings
          old.dependencies new.dependencies = .ok forward ∧
        compare newSnapshotId oldSnapshotId new.findings old.findings
          new.dependencies old.dependencies = .ok backward ∧
        calculate old = .ok oldPrints ∧
        calculate new = .ok newPrints ∧
        ((forward.diffPayload.findingChanges = [] ∧
            ∀ change ∈ forward.diffPayload.dependencyChanges,
              ¬ change.IsSemantic) ↔
          oldPrints.semanticFingerprint = newPrints.semanticFingerprint) ∧
        backward.diffPayload.findingChanges =
          forward.diffPayload.findingChanges.map FindingChange.swapped ∧
        backward.diffPayload.dependencyChanges =
          forward.diffPayload.dependencyChanges.map
            DependencyChange.swapped := by
  obtain ⟨forward, forwardRan, forwardPayload⟩ :=
    exists_compare different oldKeyed newKeyed
  obtain ⟨backward, backwardRan, backwardPayload⟩ :=
    exists_compare different.symm newKeyed oldKeyed
  obtain ⟨oldPrints, oldCalculated, _⟩ := exists_calculate old
  obtain ⟨newPrints, newCalculated, _⟩ := exists_calculate new
  refine ⟨forward, backward, oldPrints, newPrints, forwardRan, backwardRan,
    oldCalculated, newCalculated, ?_, ?_⟩
  · rw [forwardPayload]
    exact (inputPayload_unchanged_iff _ _ oldKeyed newKeyed).trans
      (overallFingerprint_eq_iff base oldCalculated newCalculated
        collisionFree oldHashed newHashed).symm
  · rw [forwardPayload, backwardPayload]
    exact inputPayload_swap oldKeyed newKeyed

/-- A snapshot with one dependency, at a version. -/
def versionedInput (dependencyVersion : String) : FingerprintInput where
  propertyId := 1
  intelligenceSchemaVersion := "1"
  governanceSchemaVersion := "1"
  findings := []
  dependencies :=
    [{ dependencyType := "PROPERTY_IDENTITY"
       dependencyId := "1"
       semanticFingerprint := "0"
       recordFingerprint := "0"
       dependencyVersion := dependencyVersion
       required := true
       variantScope := [.agent] }]

theorem wellKeyed_versionedInput (dependencyVersion : String) :
    (versionedInput dependencyVersion).WellKeyed where
  findings := List.nodup_nil
  dependencies := List.nodup_singleton _
  values := by simp [versionedInput]

theorem compare_agrees_with_fingerprint_sample :
    ∃ forward backward oldPrints newPrints,
      compare ⟨1, by decide⟩ ⟨2, by decide⟩ [] []
          (versionedInput "1").dependencies
          (versionedInput "2").dependencies = .ok forward ∧
        compare ⟨2, by decide⟩ ⟨1, by decide⟩ [] []
          (versionedInput "2").dependencies
          (versionedInput "1").dependencies = .ok backward ∧
        calculate (versionedInput "1") = .ok oldPrints ∧
        calculate (versionedInput "2") = .ok newPrints ∧
        ((forward.diffPayload.findingChanges = [] ∧
            ∀ change ∈ forward.diffPayload.dependencyChanges,
              ¬ change.IsSemantic) ↔
          oldPrints.semanticFingerprint = newPrints.semanticFingerprint) ∧
        backward.diffPayload.findingChanges =
          forward.diffPayload.findingChanges.map FindingChange.swapped ∧
        backward.diffPayload.dependencyChanges =
          forward.diffPayload.dependencyChanges.map
            DependencyChange.swapped := by
  have sameText :
      (versionedInput "2").overall = (versionedInput "1").overall :=
    FingerprintInput.overall_eq ⟨rfl, rfl, rfl⟩ ⟨.refl _, .refl _⟩
  refine @compare_agrees_with_fingerprint ⟨1, by decide⟩ ⟨2, by decide⟩
    (versionedInput "1") (versionedInput "2")
    {text | canonicalJson (versionedInput "1").overall = some text}
    (by decide) ⟨rfl, rfl, rfl⟩ (wellKeyed_versionedInput "1")
    (wellKeyed_versionedInput "2") ?_ (fun _ written => written) ?_
  · -- Both snapshots are fingerprinted through the same text.
    intro left leftWritten right rightWritten _
    exact Option.some.inj (leftWritten.symm.trans rightWritten)
  · rw [sameText]
    exact fun _ written => written

end SanTanHeights.Snapshot
