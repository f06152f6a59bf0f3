import SanTanHeights.Foundation.Runs
import SanTanHeights.Release.Tables
import SanTanHeights.Shared.Hash

/-!
# Release manifests

`ReleaseManifestFreezer`: the manifest built for a resolved membership, and
the statements that persist it.  The manifest row is inserted before the
release is updated, so the trigger on releases always sees a frozen one.
-/

namespace SanTanHeights.Release

open Foundation Foundation.Outcome Foundation.Sorting Shared

/-- What `build` reads of a release policy. -/
structure ReleasePolicy where
  policyId : String
  registryId : String
  version : String

structure ReleaseScope where
  propertyIds : Option (List Uuid)
  variants : Option (List String)
  channels : Option (List String)

structure ReleaseCandidate where
  propertyId : Uuid
  reportVariant : String
  channel : Option String
  targetSnapshotId : Option Uuid
  targetReportId : Option Uuid
  targetRenderId : Option Uuid
  targetSemanticFingerprint : Option String
  targetPresentationFingerprint : Option String
  deriving DecidableEq

structure ResolvedMember where
  membershipOrdinal : Int
  candidate : ReleaseCandidate

structure MembershipResolution where
  members : List ResolvedMember
  membershipFingerprint : String

structure FrozenReleaseManifest where
  releaseId : Uuid
  policyId : String
  policyVersion : String
  membershipFingerprint : String
  manifestFingerprint : String
  totalItemCount : Nat
  manifestPayload : Json
  items : List ReleaseItemRecord

/-! ## Building -/

/-- An entry of `member_payload`. -/
def ResolvedMember.payload (member : ResolvedMember) : Json :=
  let candidate := member.candidate
  .obj [("membership_ordinal", .int member.membershipOrdinal),
      ("property_id", .str candidate.propertyId.str),
      ("report_variant", .str candidate.reportVariant),
      ("channel", .ofOptional candidate.channel),
      ("target_snapshot_id", .ofOptional (candidate.targetSnapshotId.map Uuid.str)),
      ("target_report_id", .ofOptional (candidate.targetReportId.map Uuid.str)),
      ("target_render_id", .ofOptional (candidate.targetRenderId.map Uuid.str)),
      ("target_semantic_fingerprint", .ofOptional candidate.targetSemanticFingerprint),
      ("target_presentation_fingerprint", .ofOptional candidate.targetPresentationFingerprint)]

/-- The item of a member. -/
def ResolvedMember.item (releaseId releaseItemId : Uuid) (member : ResolvedMember) :
    ReleaseItemRecord where
  releaseItemId := releaseItemId
  releaseId := releaseId
  propertyId := member.candidate.propertyId
  reportVariant := member.candidate.reportVariant
  membershipOrdinal := member.membershipOrdinal
  channel := member.candidate.channel
  itemState := .pending
  targetSnapshotId := member.candidate.targetSnapshotId
  targetReportId := member.candidate.targetReportId
  targetRenderId := member.candidate.targetRenderId
  targetSemanticFingerprint := member.candidate.targetSemanticFingerprint
  targetPresentationFingerprint := member.candidate.targetPresentationFingerprint
  lastErrorCode := none

/-- A sorted list of texts, or null. -/
def sortedTexts (texts : Option (List String)) : Json :=
  texts.elim .null fun texts => .arr ((sortedBy id texts).map .str)

/-- `scope_payload`. -/
def ReleaseScope.payload (scope : ReleaseScope) : Json :=
  .obj [("property_ids", sortedTexts (scope.propertyIds.map (List.map Uuid.str))),
      ("variants", sortedTexts scope.variants), ("channels", sortedTexts scope.channels)]

/-- `payload`. -/
def manifestPayload (releaseId : Uuid) (policy : ReleasePolicy) (scope : ReleaseScope)
    (resolution : MembershipResolution) : Json :=
  .obj [("release_id", .str releaseId.str), ("policy_id", .str policy.policyId),
      ("policy_registry_id", .str policy.registryId),
      ("policy_version", .str policy.version), ("scope", scope.payload),
      ("membership_fingerprint", .str resolution.membershipFingerprint),
      ("members", .arr (resolution.members.map ResolvedMember.payload))]

/-- `ReleaseManifestFreezer.build`, with the identifiers that `uuid4` gives
the items. -/
def build (releaseId : Uuid) (policy : ReleasePolicy) (scope : ReleaseScope)
    (resolution : MembershipResolution) (newItemId : Nat → Uuid) :
    Except String FrozenReleaseManifest := do
  let payload := manifestPayload releaseId policy scope resolution
  let fingerprint ← sha256Canonical payload
  return {
    releaseId := releaseId
    policyId := policy.policyId
    policyVersion := policy.version
    membershipFingerprint := resolution.membershipFingerprint
    manifestFingerprint := fingerprint
    totalItemCount := resolution.members.length
    manifestPayload := payload
    items := resolution.members.mapIdx fun index =>
      ResolvedMember.item releaseId (newItemId index) }

/-! ## Persisting -/

/-- The row of a frozen manifest. -/
def FrozenReleaseManifest.record (frozen : FrozenReleaseManifest) (frozenBy : String) :
    ReleaseManifestRecord where
  releaseId := frozen.releaseId
  membershipFingerprint := frozen.membershipFingerprint
  manifestFingerprint := frozen.manifestFingerprint
  manifestPayload := frozen.manifestPayload
  frozenBy := frozenBy

/-- What the `UPDATE` of `persist` sets. -/
def FrozenReleaseManifest.stamp (frozen : FrozenReleaseManifest) (release : ReleaseRecord) :
    ReleaseRecord :=
  { release with
    policyVersion := some frozen.policyVersion
    membershipFingerprint := some frozen.membershipFingerprint
    manifestFingerprint := some frozen.manifestFingerprint
    totalItemCount := frozen.totalItemCount }

/-- `ReleaseManifestFreezer.persist`. -/
def persist (frozen : FrozenReleaseManifest) (frozenBy : String)
    (database : Database) : Except String Database := do
  require (database.findRelease frozen.releaseId).isSome "release not found"
  match database.findManifest frozen.releaseId with
  | some existing =>
      require (existing.manifestFingerprint = frozen.manifestFingerprint)
        "release manifest already frozen with different fingerprint"
      return database
  | none => do
      let filled ← frozen.items.foldlM Database.insertItem database
      let manifested ← filled.insertManifest (frozen.record frozenBy)
      manifested.updateRelease frozen.releaseId frozen.stamp

/-- Adding items leaves the other tables alone. -/
theorem insertItems_keeps {items : List ReleaseItemRecord} {database filled : Database}
    (ran : items.foldlM Database.insertItem database = .ok filled) :
    filled.releases = database.releases ∧ filled.manifests = database.manifests := by
  refine foldlM_invariant (fun state => state.releases = database.releases ∧
      state.manifests = database.manifests) ?_ ⟨rfl, rfl⟩ ran
  intro state item next kept inserted
  rw [Database.insertItem_eq_ok inserted]
  exact kept

/-- What `persist` does for a release without a manifest: its last statement
always raises. -/
theorem persist_of_unfrozen {database : Database} {release : ReleaseRecord}
    {frozen : FrozenReleaseManifest}
    (found : database.findRelease frozen.releaseId = some release)
    (unfrozen : database.findManifest frozen.releaseId = none)
    (noFingerprint : release.manifestFingerprint = none) (frozenBy : String) :
    persist frozen frozenBy database = (do
      let filled ← frozen.items.foldlM Database.insertItem database
      let _ ← filled.insertManifest (frozen.record frozenBy)
      .error "frozen release manifest metadata is immutable") := by
  unfold persist
  rw [found, unfrozen]
  change (frozen.items.foldlM Database.insertItem database >>= _) =
    (frozen.items.foldlM Database.insertItem database >>= _)
  cases inserted : frozen.items.foldlM Database.insertItem database with
  | error message => rfl
  | ok filled =>
      change (filled.insertManifest (frozen.record frozenBy) >>= _) =
        (filled.insertManifest (frozen.record frozenBy) >>= _)
      cases manifested : filled.insertManifest (frozen.record frozenBy) with
      | error message => rfl
      | ok stamped =>
          obtain ⟨releases, -⟩ := insertItems_keeps inserted
          have written := Database.insertManifest_eq_ok manifested
          have kept : stamped.findRelease frozen.releaseId = some release := by
            rw [written, Database.findRelease, releases]
            exact found
          apply Database.updateRelease_of_frozen kept
          · rw [written, Database.findManifest, List.find?_append, Option.isSome_or]
            simp [FrozenReleaseManifest.record]
          · intro same
            have impossible := congrArg (fun columns => columns.2.2.1) same
            simp [ReleaseRecord.metadata, FrozenReleaseManifest.stamp, noFingerprint] at impossible

/-- No manifest can be frozen: for every release without one, and every
manifest built for it, persisting raises. -/
theorem persist_never_freezes {database : Database} {release : ReleaseRecord}
    {frozen : FrozenReleaseManifest}
    (found : database.findRelease frozen.releaseId = some release)
    (unfrozen : database.findManifest frozen.releaseId = none)
    (noFingerprint : release.manifestFingerprint = none) (frozenBy : String) :
    ∃ message, persist frozen frozenBy database = .error message := by
  rw [persist_of_unfrozen found unfrozen noFingerprint]
  apply exists_error_of_bind
  intro filled
  apply exists_error_of_bind
  intro manifested
  exact ⟨_, rfl⟩

/-! ## A release of one item -/

/-- A release that was just created, and the property it is to cover. -/
def sampleDatabase : Database where
  releases :=
    [{ releaseId := 1
       policyVersion := none
       membershipFingerprint := none
       manifestFingerprint := none
       totalItemCount := 0 }]
  manifests := []
  items := []
  history := []
  approvals := []
  requests := []
  referenced :=
    { properties := [2]
      snapshots := []
      reports := [3]
      renders := [4] }

/-- One member with its report and its render. -/
def sampleResolution : MembershipResolution where
  members :=
    [{ membershipOrdinal := 1
       candidate :=
         { propertyId := 2
           reportVariant := "PUBLIC"
           channel := some "WEB"
           targetSnapshotId := none
           targetReportId := some 3
           targetRenderId := some 4
           targetSemanticFingerprint := some (String.ofList (List.replicate 64 'a'))
           targetPresentationFingerprint :=
             some (String.ofList (List.replicate 64 'b')) } }]
  membershipFingerprint := String.ofList (List.replicate 64 'c')

def sampleBuild : Except String FrozenReleaseManifest :=
  build 1 ⟨"STANDARD_FLEET", "STH-RELEASE-POLICY-v1.0", "1.0.0"⟩
    ⟨none, none, none⟩ sampleResolution fun _ => 5

/-- The sample manifest, with the item it holds. -/
theorem exists_sampleBuild :
    ∃ frozen, sampleBuild = .ok frozen ∧ frozen.releaseId = ⟨1, by decide⟩ ∧
      frozen.items = sampleResolution.members.mapIdx (fun _ =>
        ResolvedMember.item ⟨1, by decide⟩ ⟨5, by decide⟩) ∧
      Sha256.isHex64 frozen.membershipFingerprint = true ∧
      Sha256.isHex64 frozen.manifestFingerprint = true := by
  have written : (canonicalText (manifestPayload ⟨1, by decide⟩
      ⟨"STANDARD_FLEET", "STH-RELEASE-POLICY-v1.0", "1.0.0"⟩
      ⟨none, none, none⟩ sampleResolution)).isSome = true := by
    decide +kernel
  obtain ⟨text, canonical⟩ := Option.isSome_iff_exists.mp written
  have hashed := sha256Canonical_eq_ok.mpr
    ⟨String.ofList text, congrArg (Option.map String.ofList) canonical, rfl⟩
  have isHash :
      Sha256.isHex64 sampleResolution.membershipFingerprint = true :=
    Sha256.isHex64_ofList rfl rfl
  exact ⟨_, bind_eq_ok.mpr ⟨_, hashed, rfl⟩, rfl, rfl, isHash, Sha256.isHex64_hexdigest _⟩

theorem persist_never_freezes_sample :
    ∃ frozen, sampleBuild = .ok frozen ∧
      ∃ message, persist frozen "RELEASE_SERVICE" sampleDatabase =
        .error message := by
  obtain ⟨frozen, built, ofRelease, -⟩ := exists_sampleBuild
  have found : sampleDatabase.findRelease frozen.releaseId =
      some ⟨⟨1, by decide⟩, none, none, none, 0⟩ := by
    rw [ofRelease]
    rfl
  exact ⟨frozen, built, persist_never_freezes found rfl rfl _⟩

/-- A well-formed manifest of a new release passes every check on its items
and its own row, and is then refused by the trigger on its release. -/
theorem sample_manifest_never_frozen :
    ∃ frozen filled, sampleBuild = .ok frozen ∧
      sampleDatabase.findManifest frozen.releaseId = none ∧
      sampleDatabase.findRelease frozen.releaseId =
        some ⟨frozen.releaseId, none, none, none, 0⟩ ∧
      frozen.items.foldlM Database.insertItem sampleDatabase = .ok filled ∧
      (filled.insertManifest (frozen.record "RELEASE_SERVICE")).isOk ∧
      persist frozen "RELEASE_SERVICE" sampleDatabase =
        .error "frozen release manifest metadata is immutable" := by
  obtain ⟨frozen, built, ofRelease, members, isHash, isFingerprint⟩ :=
    exists_sampleBuild
  have found : sampleDatabase.findRelease frozen.releaseId =
      some ⟨frozen.releaseId, none, none, none, 0⟩ := by
    rw [ofRelease]
    rfl
  have filled : frozen.items.foldlM Database.insertItem sampleDatabase =
      .ok { sampleDatabase with items := frozen.items } := by
    rw [members]
    rfl
  have manifested : Database.insertManifest
      { sampleDatabase with items := frozen.items }
      (frozen.record "RELEASE_SERVICE") =
      .ok { sampleDatabase with
        items := frozen.items
        manifests := [frozen.record "RELEASE_SERVICE"] } := by
    have known : (Database.findRelease
        { sampleDatabase with items := frozen.items }
        frozen.releaseId).isSome := by
      rw [ofRelease]
      rfl
    simp only [Database.insertManifest, checkHash,
      FrozenReleaseManifest.record, Option.all_some, isHash, isFingerprint, known, require, if_true]
    rfl
  refine ⟨frozen, _, built, rfl, found, filled, ?_, ?_⟩
  · rw [manifested]
    rfl
  · rw [persist_of_unfrozen found rfl rfl, filled]
    change (Database.insertManifest
      { sampleDatabase with items := frozen.items }
      (frozen.record "RELEASE_SERVICE") >>= _) = _
    rw [manifested]
    rfl

end SanTanHeights.Release
