import Mathlib.Logic.Function.Basic
import SanTanHeights.Foundation.Json
import SanTanHeights.Foundation.Sha256
import SanTanHeights.Foundation.Text
import SanTanHeights.Foundation.Uuid

/-!
# Release tables

The tables of release control, the statements that `release_repository.py`
and the release services run on them, and the triggers that freeze a release
as soon as its manifest is there.  A statement that a check, a constraint or a
trigger refuses raises, and its transaction leaves nothing behind.  Columns
that no modelled statement reads (names, scopes, times) are left out.
-/

namespace SanTanHeights.Release

open Foundation Foundation.Outcome

/-- `release_items.item_state`, closed by the check constraint. -/
inductive ItemState where
  | pending
  | generationQueued
  | generating
  | generated
  | validated
  | staged
  | approved
  | publishing
  | published
  | blocked
  | failed
  | rolledBack
  | cancelled
  deriving DecidableEq, Repr

def ItemState.code : ItemState → String
  | .pending => "PENDING"
  | .generationQueued => "GENERATION_QUEUED"
  | .generating => "GENERATING"
  | .generated => "GENERATED"
  | .validated => "VALIDATED"
  | .staged => "STAGED"
  | .approved => "APPROVED"
  | .publishing => "PUBLISHING"
  | .published => "PUBLISHED"
  | .blocked => "BLOCKED"
  | .failed => "FAILED"
  | .rolledBack => "ROLLED_BACK"
  | .cancelled => "CANCELLED"

/-- A row of `operations.releases`. -/
structure ReleaseRecord where
  releaseId : Uuid
  policyVersion : Option String
  membershipFingerprint : Option String
  manifestFingerprint : Option String
  totalItemCount : Nat
  deriving DecidableEq

/-- A row of `operations.release_manifests`. -/
structure ReleaseManifestRecord where
  releaseId : Uuid
  membershipFingerprint : String
  manifestFingerprint : String
  manifestPayload : Json
  frozenBy : String

/-- A row of `operations.release_items`, and the object loaded from it. -/
structure ReleaseItemRecord where
  releaseItemId : Uuid
  releaseId : Uuid
  propertyId : Uuid
  reportVariant : String
  membershipOrdinal : Int
  channel : Option String
  itemState : ItemState
  targetSnapshotId : Option Uuid
  targetReportId : Option Uuid
  targetRenderId : Option Uuid
  targetSemanticFingerprint : Option String
  targetPresentationFingerprint : Option String
  lastErrorCode : Option String
  deriving DecidableEq

/-- A row of `operations.release_item_history`. -/
structure ReleaseItemHistory where
  releaseItemId : Uuid
  releaseId : Uuid
  fromState : ItemState
  toState : ItemState
  reasonCode : Option String
  actor : String
  correlationId : Option Uuid
  deriving DecidableEq

/-- A row of `operations.release_approvals`. -/
structure ReleaseApproval where
  releaseId : Uuid
  manifestFingerprint : String
  decision : String
  approvedBy : String
  reasonCode : String
  deriving DecidableEq

/-- What is queued for an item. -/
inductive GenerationKind where
  | report
  | render
  deriving DecidableEq, Repr

/-- What `queue_report` or `queue_render` queued for an item. -/
structure GenerationRequest where
  releaseItemId : Uuid
  kind : GenerationKind
  deriving DecidableEq

/-- The rows of other schemas that an item may refer to. -/
structure Referenced where
  properties : List Uuid
  snapshots : List Uuid
  reports : List Uuid
  renders : List Uuid

/-- The release tables, each in insertion order. -/
structure Database where
  releases : List ReleaseRecord
  manifests : List ReleaseManifestRecord
  items : List ReleaseItemRecord
  history : List ReleaseItemHistory
  approvals : List ReleaseApproval
  requests : List GenerationRequest
  referenced : Referenced

/-- The columns of an item that a manifest freezes. -/
structure ItemEvidence where
  releaseId : Uuid
  propertyId : Uuid
  reportVariant : String
  channel : Option String
  membershipOrdinal : Int
  targetSnapshotId : Option Uuid
  targetReportId : Option Uuid
  targetRenderId : Option Uuid
  targetSemanticFingerprint : Option String
  targetPresentationFingerprint : Option String
  deriving DecidableEq

def ReleaseItemRecord.evidence (item : ReleaseItemRecord) : ItemEvidence where
  releaseId := item.releaseId
  propertyId := item.propertyId
  reportVariant := item.reportVariant
  channel := item.channel
  membershipOrdinal := item.membershipOrdinal
  targetSnapshotId := item.targetSnapshotId
  targetReportId := item.targetReportId
  targetRenderId := item.targetRenderId
  targetSemanticFingerprint := item.targetSemanticFingerprint
  targetPresentationFingerprint := item.targetPresentationFingerprint

/-- The columns of a release that its manifest freezes. -/
def ReleaseRecord.metadata (release : ReleaseRecord) :
    Option String × Option String × Option String × Nat :=
  (release.policyVersion, release.membershipFingerprint,
    release.manifestFingerprint, release.totalItemCount)

/-- An item moved to a state, with the code of its last error. -/
def ReleaseItemRecord.moved (item : ReleaseItemRecord) (toState : ItemState)
    (lastErrorCode : Option String) : ReleaseItemRecord :=
  { item with itemState := toState, lastErrorCode := lastErrorCode }

/-- `_VARIANTS`. -/
def variantCodes : List String :=
  ["AGENT", "SELLER", "PUBLIC"]

/-- `_CHANNELS`. -/
def channelCodes : List String :=
  ["WEB", "PDF_DOWNLOAD", "PRINT"]

/-- `_hash`. -/
def checkHash (value : Option String) (field : String) : Except String Unit :=
  require (value.all Sha256.isHex64) (field ++ " must be lowercase sha256")

namespace Database

def findRelease (database : Database) (releaseId : Uuid) : Option ReleaseRecord :=
  database.releases.find? fun release => release.releaseId = releaseId

def findManifest (database : Database) (releaseId : Uuid) : Option ReleaseManifestRecord :=
  database.manifests.find? fun manifest => manifest.releaseId = releaseId

def findItem (database : Database) (releaseItemId : Uuid) : Option ReleaseItemRecord :=
  database.items.find? fun item => item.releaseItemId = releaseItemId

/-- The stored state of an item. -/
def itemState (database : Database) (releaseItemId : Uuid) : Option ItemState :=
  (database.findItem releaseItemId).map ReleaseItemRecord.itemState

/-! ## Triggers -/

/-- `guard_frozen_release_item_membership`: there is no old row on `INSERT`
and no new one on `DELETE`. -/
def guardFrozenReleaseItemMembership
    (database : Database) (old new : Option ReleaseItemRecord) :
    Except String Unit :=
  match new.or old with
  | none => .ok ()
  | some row =>
      if (database.findManifest row.releaseId).isSome then do
        require (old.isSome ∧ new.isSome)
          "frozen release membership is immutable"
        require (new.map ReleaseItemRecord.evidence = old.map ReleaseItemRecord.evidence)
          "frozen release target evidence is immutable"
      else .ok ()

/-- `guard_frozen_release_parent_metadata`. -/
def guardFrozenReleaseParentMetadata
    (database : Database) (old new : ReleaseRecord) : Except String Unit :=
  require ((database.findManifest old.releaseId).isSome → new.metadata = old.metadata)
    "frozen release manifest metadata is immutable"

/-! ## Statements -/

/-- The foreign keys of an item. -/
def RefersTo (database : Database) (record : ReleaseItemRecord) : Prop :=
  (database.findRelease record.releaseId).isSome ∧
    record.propertyId ∈ database.referenced.properties ∧
    (∀ snapshotId ∈ record.targetSnapshotId, snapshotId ∈ database.referenced.snapshots) ∧
    (∀ reportId ∈ record.targetReportId, reportId ∈ database.referenced.reports) ∧
    ∀ renderId ∈ record.targetRenderId, renderId ∈ database.referenced.renders

instance (database : Database) (record : ReleaseItemRecord) :
    Decidable (database.RefersTo record) :=
  inferInstanceAs (Decidable (_ ∧ _))

/-- The unique keys that two items of a release may not share.  Null channels
are distinct from each other. -/
def SharesKey (left right : ReleaseItemRecord) : Prop :=
  left.releaseItemId = right.releaseItemId ∨ (left.releaseId = right.releaseId ∧
      ((left.propertyId = right.propertyId ∧ left.reportVariant = right.reportVariant ∧
          left.channel = right.channel ∧ left.channel ≠ none) ∨
        left.membershipOrdinal = right.membershipOrdinal))

instance (left right : ReleaseItemRecord) : Decidable (SharesKey left right) :=
  inferInstanceAs (Decidable (_ ∨ _))

/-- `insert_item`. -/
def insertItem (database : Database) (record : ReleaseItemRecord) :
    Except String Database := do
  require (record.reportVariant ∈ variantCodes) "unsupported report variant"
  require (∀ channel ∈ record.channel, channel ∈ channelCodes)
    "unsupported publication channel"
  require (0 < record.membershipOrdinal) "membership_ordinal must be positive"
  require (Text.isBlank record.itemState.code = false)
    "item_state cannot be blank"
  checkHash record.targetSemanticFingerprint "target_semantic_fingerprint"
  checkHash record.targetPresentationFingerprint "target_presentation_fingerprint"
  database.guardFrozenReleaseItemMembership none (some record)
  require (record.membershipOrdinal < 2 ^ 31) "integer out of range"
  require (∀ row ∈ database.items, ¬SharesKey row record)
    "duplicate key value violates unique constraint"
  require (database.RefersTo record) "violates foreign key constraint"
  return { database with items := database.items ++ [record] }

/-- `insert_manifest`. -/
def insertManifest (database : Database) (record : ReleaseManifestRecord) :
    Except String Database := do
  checkHash (some record.membershipFingerprint) "membership_fingerprint"
  checkHash (some record.manifestFingerprint) "manifest_fingerprint"
  require (database.findManifest record.releaseId).isNone
    "duplicate key value violates unique constraint"
  require (database.findRelease record.releaseId).isSome
    "violates foreign key constraint"
  return { database with manifests := database.manifests ++ [record] }

/-- An `UPDATE` of the release with an identifier, past its trigger and the
check constraints on fingerprints. -/
def updateRelease (database : Database) (releaseId : Uuid)
    (change : ReleaseRecord → ReleaseRecord) : Except String Database :=
  match database.findRelease releaseId with
  | none => return database
  | some release => do
      database.guardFrozenReleaseParentMetadata release (change release)
      checkHash (change release).membershipFingerprint "membership_fingerprint"
      checkHash (change release).manifestFingerprint "manifest_fingerprint"
      return { database with
        releases := database.releases.map fun row =>
          if row.releaseId = releaseId then change row else row }

/-- `UPDATE operations.release_items SET item_state=..., last_error_code=...`
of the item with an identifier, if it is in one of the given states.  The flag
says whether a row was updated. -/
def updateItem (database : Database) (releaseItemId : Uuid) (states : List ItemState)
    (toState : ItemState) (lastErrorCode : Option String) :
    Except String (Bool × Database) :=
  match database.findItem releaseItemId with
  | none => return (false, database)
  | some item =>
      if item.itemState ∈ states then do
        database.guardFrozenReleaseItemMembership (some item)
          (some (item.moved toState lastErrorCode))
        return (true, { database with
          items := database.items.map fun row =>
            if row.releaseItemId = releaseItemId then
              row.moved toState lastErrorCode
            else row })
      else return (false, database)

variable {database next : Database} {releaseItemId : Uuid}

/-! ## What the statements leave -/

theorem releaseItemId_of_findItem {item : ReleaseItemRecord}
    (found : database.findItem releaseItemId = some item) :
    item.releaseItemId = releaseItemId := by
  simpa using List.find?_some found

theorem releaseId_of_findRelease {releaseId : Uuid} {release : ReleaseRecord}
    (found : database.findRelease releaseId = some release) :
    release.releaseId = releaseId := by
  simpa using List.find?_some found

/-- An accepted item is added, and nothing else changes. -/
theorem insertItem_eq_ok {record : ReleaseItemRecord}
    (ran : database.insertItem record = .ok next) :
    next = { database with items := database.items ++ [record] } := by
  simp only [insertItem, checkHash, require_bind_eq_ok] at ran
  obtain ⟨_, _, _, _, _, _, continued⟩ := ran
  obtain ⟨⟨⟩, -, accepted⟩ := bind_eq_ok.mp continued
  simp only [require_bind_eq_ok, pure_eq_ok] at accepted
  exact accepted.2.2.2.symm

/-- An accepted manifest is added, and nothing else changes. -/
theorem insertManifest_eq_ok {record : ReleaseManifestRecord}
    (ran : database.insertManifest record = .ok next) :
    next = { database with manifests := database.manifests ++ [record] } := by
  simp only [insertManifest, checkHash, require_bind_eq_ok, pure_eq_ok] at ran
  exact ran.2.2.2.2.symm

/-- A release with a manifest keeps what the manifest froze. -/
theorem updateRelease_of_frozen {releaseId : Uuid} {release : ReleaseRecord}
    {change : ReleaseRecord → ReleaseRecord}
    (found : database.findRelease releaseId = some release)
    (frozen : (database.findManifest releaseId).isSome)
    (changes : (change release).metadata ≠ release.metadata) :
    database.updateRelease releaseId change =
      .error "frozen release manifest metadata is immutable" := by
  have refused : ¬((database.findManifest release.releaseId).isSome →
      (change release).metadata = release.metadata) := by
    rw [releaseId_of_findRelease found]
    exact fun keeps => changes (keeps frozen)
  simp only [updateRelease, found, guardFrozenReleaseParentMetadata, require, if_neg refused]
  rfl

/-- The states that a move leaves. -/
theorem itemState_moved {item : ReleaseItemRecord} {toState : ItemState}
    {lastErrorCode : Option String} (found : database.findItem releaseItemId = some item) :
    itemState { database with
      items := database.items.map fun row =>
        if row.releaseItemId = releaseItemId then
          row.moved toState lastErrorCode
        else row } =
      Function.update database.itemState releaseItemId (some toState) := by
  have keepsKey : ∀ row : ReleaseItemRecord,
      (if row.releaseItemId = releaseItemId then
        row.moved toState lastErrorCode else row).releaseItemId =
        row.releaseItemId := by
    intro row
    split_ifs <;> rfl
  funext other
  unfold itemState findItem
  rw [List.find?_map, Function.update_apply]
  simp only [Function.comp_def, keepsKey, Option.map_map]
  by_cases same : other = releaseItemId
  · rw [same, if_pos rfl]
    change (database.findItem releaseItemId).map _ = _
    rw [found, Option.map_some, if_pos (releaseItemId_of_findItem found)]
    rfl
  · rw [if_neg same]
    apply Option.map_congr
    intro row present
    have itself := releaseItemId_of_findItem present
    rw [if_neg (itself ▸ same)]

/-- The update finds the item in one of the given states and moves it, or does
nothing.  A move keeps what a manifest freezes, so no trigger refuses it. -/
theorem updateItem_cases {states : List ItemState} {toState : ItemState}
    {lastErrorCode : Option String} {updated : Bool}
    (ran : database.updateItem releaseItemId states toState lastErrorCode = .ok (updated, next)) :
    (updated = false ∧ next = database ∧ ∀ fromState ∈ states,
        database.itemState releaseItemId ≠ some fromState) ∨
    (updated = true ∧ (∃ fromState ∈ states,
        database.itemState releaseItemId = some fromState) ∧
      next.history = database.history ∧ next.itemState =
        Function.update database.itemState releaseItemId (some toState)) := by
  unfold updateItem at ran
  cases found : database.findItem releaseItemId with
  | none =>
      simp only [found, pure_eq_ok, Prod.mk.injEq] at ran
      refine .inl ⟨ran.1.symm, ran.2.symm, fun fromState _ stored => ?_⟩
      rw [itemState, found] at stored
      cases stored
  | some item =>
      have stored : database.itemState releaseItemId =
          some item.itemState := by
        rw [itemState, found, Option.map_some]
      simp only [found] at ran
      split_ifs at ran with ready
      · obtain ⟨⟨⟩, -, ended⟩ := bind_eq_ok.mp ran
        rw [pure_eq_ok, Prod.mk.injEq] at ended
        refine .inr ⟨ended.1.symm, ⟨_, ready, stored⟩, ?_, ?_⟩
        · rw [← ended.2]
        · rw [← ended.2]
          exact itemState_moved found
      · rw [pure_eq_ok, Prod.mk.injEq] at ran
        refine .inl ⟨ran.1.symm, ran.2.symm, ?_⟩
        intro fromState listed other
        rw [stored, Option.some.injEq] at other
        exact ready (other ▸ listed)

end Database

end SanTanHeights.Release
