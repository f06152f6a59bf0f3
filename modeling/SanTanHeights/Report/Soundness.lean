import SanTanHeights.Report.Noninterference
import SanTanHeights.Snapshot.Coverage
import SanTanHeights.Snapshot.Currency

/-!
# When equal fingerprints give equal reports

Two snapshots with the same fingerprint for a variant have the same findings in
its scope, up to what a finding's fingerprint leaves out: the identifier and
version of its passport, and how its canonical value is written.  A report
never reads the canonical value, but it names the passports it consumes.
-/

namespace SanTanHeights.Report

open Foundation Foundation.Sorting Foundation.Outcome Shared Snapshot

/-! ## What a report reads of a finding -/

/-- A row of a finding without its snapshot and its canonical value. -/
def strip (record : SnapshotFindingRecord) : SnapshotFindingRecord where
  snapshotId := 0
  finding := { record.finding with canonicalValue := .null }
  passportSemanticFingerprint := record.passportSemanticFingerprint

/-- A selection without what a report does not read. -/
def FindingSelection.strip (selection : FindingSelection) : FindingSelection :=
  { selection with finding := Report.strip selection.finding }

/-- Findings that agree in what the selector checks are selected alike. -/
theorem selectOne_congr (selector : FindingSelector) (variant : Variant)
    (record other : SnapshotFindingRecord)
    (findingType : record.finding.findingType = other.finding.findingType)
    (qaStatus : record.finding.qaStatus = other.finding.qaStatus)
    (productionStatus : record.finding.productionStatus = other.finding.productionStatus)
    (publicationScope : record.finding.publicationScope = other.finding.publicationScope) :
    selector.selectOne variant other =
      (selector.selectOne variant record).map fun selection =>
        { selection with finding := other } := by
  simp only [FindingSelector.selectOne, findingType, qaStatus,
    productionStatus, publicationScope,
    apply_ite (Option.map fun selection : FindingSelection =>
      { selection with finding := other }), Option.map_none, Option.map_map]
  rfl

theorem resolveAll_strip (selections : List FindingSelection) (variant : Variant) :
    resolveAll (selections.map FindingSelection.strip) variant = resolveAll selections variant := by
  rw [resolveAll, resolveAll, List.mapM_map]
  rfl

theorem selectionDependencies_strip
    (snapshotId : Uuid) (wordings : WordingByFinding) (seen : List String)
    (selections : List FindingSelection) :
    selectionDependencies snapshotId wordings seen
        (selections.map FindingSelection.strip) =
      selectionDependencies snapshotId wordings seen selections := by
  induction selections generalizing seen with
  | nil => rfl
  | cons selection selections ih =>
      rw [List.map_cons, selectionDependencies, selectionDependencies, ih]
      rfl

theorem identify_strip (propertyId snapshotId : Uuid) (variant : Variant)
    (versions : ReportVersions) (selections : List FindingSelection)
    (wordings : WordingByFinding) :
    identify propertyId snapshotId variant versions
        (selections.map FindingSelection.strip) wordings =
      identify propertyId snapshotId variant versions selections wordings := by
  have inputs : (selections.map FindingSelection.strip).mapM
      (findingInput wordings) = selections.mapM (findingInput wordings) := by
    rw [List.mapM_map]
    rfl
  simp only [identify, buildManifest, calculateInputHash, selectionDependencies_strip, inputs]

/-- The snapshot that a report is built from is not part of its hash. -/
theorem identify_relocate (propertyId oldId newId : Uuid) (variant : Variant)
    (versions : ReportVersions) (selections : List FindingSelection)
    (wordings : WordingByFinding) :
    (identify propertyId newId variant versions selections wordings).map
        ReportIdentity.inputHash =
      (identify propertyId oldId variant versions selections wordings).map
        ReportIdentity.inputHash := by
  simp only [identify, buildManifest_relocate oldId newId]
  cases buildManifest oldId selections wordings versions with
  | error message => rfl
  | ok manifest =>
      have projected : (manifest.relocate newId).semanticProjection =
          manifest.semanticProjection := by
        rw [ReportDependencyManifest.semanticProjection,
          ReportDependencyManifest.relocate, List.map_map]
        rfl
      have hashed : calculateInputHash propertyId variant selections wordings
          (manifest.relocate newId) versions =
            calculateInputHash propertyId variant selections wordings manifest versions := by
        simp only [calculateInputHash, inputProjection, projected]
      simp only [Except.map, bind, Except.bind, hashed]
      cases calculateInputHash propertyId variant selections wordings manifest
        versions <;> rfl

/-- Reports on findings that agree in what a report reads have the same
hash. -/
theorem inputHash_eq_of_strip_eq {config : ReportConfig} {variant : Variant}
    {left right : List SnapshotFindingRecord}
    {leftSelections rightSelections : List FindingSelection}
    (leftSelected : config.selector.select left variant = .ok leftSelections)
    (rightSelected : config.selector.select right variant = .ok rightSelections)
    (same : leftSelections.map FindingSelection.strip = rightSelections.map FindingSelection.strip)
    (propertyId leftId rightId : Uuid) (versions : ReportVersions) :
    (identifyFindings config propertyId leftId variant versions left).map
        ReportIdentity.inputHash =
      (identifyFindings config propertyId rightId variant versions right).map
        ReportIdentity.inputHash := by
  have wordings : resolveAll leftSelections variant =
      resolveAll rightSelections variant := by
    rw [← resolveAll_strip, same, resolveAll_strip]
  rw [identifyFindings, identifyFindings, leftSelected, rightSelected]
  change Except.map _ (resolveAll leftSelections variant >>= _) =
    Except.map _ (resolveAll rightSelections variant >>= _)
  rw [wordings]
  cases resolveAll rightSelections variant with
  | error message => rfl
  | ok resolved =>
      change (identify propertyId leftId variant versions leftSelections
        resolved).map _ = (identify propertyId rightId variant versions
          rightSelections resolved).map _
      rw [identify_relocate propertyId rightId leftId, ← identify_strip, same, identify_strip]

/-! ## Selections of two captures -/

/-- Selections of the same finding name the same passport. -/
def SamePassports (left right : List FindingSelection) : Prop :=
  ∀ selection ∈ left, ∀ other ∈ right, selection.findingId = other.findingId →
      selection.finding.finding.passportId = other.finding.finding.passportId ∧
        selection.finding.finding.passportVersion = other.finding.finding.passportVersion

theorem SamePassports.symm
    {left right : List FindingSelection} (same : SamePassports left right) :
    SamePassports right left :=
  fun other otherMember selection member equal =>
    (same selection member other otherMember equal.symm).imp Eq.symm Eq.symm

theorem mem_findingRecords
    {snapshotId : Uuid} {captured : Capture} {record : SnapshotFindingRecord} :
    record ∈ captured.findingRecords snapshotId ↔
      ∃ finding ∈ captured.findings, ∃ passport,
        captured.VerifiedBy finding passport ∧
          ⟨snapshotId, finding, passport.passportSemanticFingerprint⟩ = record := by
  simp only [Capture.findingRecords, List.mem_filterMap,
    Capture.findingRecord, Option.map_eq_some_iff, Capture.VerifiedBy]

theorem strip_eq {record other : SnapshotFindingRecord}
    {passport otherPassport : PassportReference}
    (same : SameSemantics record.finding other.finding passport otherPassport)
    (findingId : record.finding.findingId = other.finding.findingId)
    (fingerprint : record.finding.semanticFingerprint = other.finding.semanticFingerprint)
    (passportId : record.finding.passportId = other.finding.passportId)
    (passportVersion : record.finding.passportVersion = other.finding.passportVersion)
    (passportFingerprint : record.passportSemanticFingerprint = other.passportSemanticFingerprint) :
    strip record = strip other := by
  simp only [strip, findingId, fingerprint, passportId, passportVersion,
    passportFingerprint, same.findingType, same.confidenceCode, same.qaStatus,
    same.productionStatus, same.publicationScope, same.agentWording,
    same.sellerWording, same.publicWording, same.agentWordingVersion,
    same.sellerWordingVersion, same.publicWordingVersion, same.evidenceReferenceSetHash]

/-- The rows of a capture have distinct finding identifiers. -/
theorem distinctFindings_findingRecords {state : GovernedPropertyState} {captured : Capture}
    (spec : Captured state captured) (snapshotId : Uuid) :
    DistinctFindings (captured.findingRecords snapshotId) := by
  have identified : ((captured.findingRecords snapshotId).map
      fun record => record.finding.findingId) = captured.findings.map FrozenFinding.findingId := by
    rw [Capture.findingRecords, List.map_filterMap, ← List.filterMap_eq_map]
    apply List.filterMap_congr
    intro finding present
    obtain ⟨passport, _, verified, _⟩ := spec.verified finding present
    have found : passportByFinding captured.passports finding.findingId = some passport := verified
    simp [Capture.findingRecord, found]
  rw [DistinctFindings, identified]
  exact spec.distinct

/-- Stripped selections of distinct findings are told apart by their keys. -/
theorem sortKey_injOn_strip {selector : FindingSelector} {variant : Variant}
    {records : List SnapshotFindingRecord} (distinct : DistinctFindings records) :
    ∀ left ∈ (records.filterMap (selector.selectOne variant)).map
        FindingSelection.strip,
      ∀ right ∈ (records.filterMap (selector.selectOne variant)).map
          FindingSelection.strip,
        selector.sortKey left = selector.sortKey right → left = right := by
  intro left leftMember right rightMember equal
  obtain ⟨leftSelection, leftSelected, rfl⟩ := List.mem_map.mp leftMember
  obtain ⟨rightSelection, rightSelected, rfl⟩ := List.mem_map.mp rightMember
  rw [FindingSelector.sortKey_injOn distinct leftSelection leftSelected
    rightSelection rightSelected equal]

theorem nodup_strip_selections {selector : FindingSelector} {variant : Variant}
    {records : List SnapshotFindingRecord} (distinct : DistinctFindings records) :
    ((records.filterMap (selector.selectOne variant)).map FindingSelection.strip).Nodup := by
  refine List.Nodup.map_on ?_ (distinct.of_map.filterMap ?_)
  · intro left leftSelected right rightSelected equal
    have keys := congrArg selector.sortKey equal
    exact FindingSelector.sortKey_injOn distinct left leftSelected right rightSelected keys
  · intro record other selection selected otherSelected
    exact (FindingSelector.selectOne_eq_some selected).1.symm.trans
      (FindingSelector.selectOne_eq_some otherSelected).1

section Pair

variable {left right : GovernedPropertyState}
  {leftCapture rightCapture : Capture} {texts : Set String}
  (leftCaptured : Captured left leftCapture)
  (rightCaptured : Captured right rightCapture)
  (collisionFree : Sha256.CollisionFree texts)
  (leftHashed : leftCapture.texts left ⊆ texts)
  (rightHashed : rightCapture.texts right ⊆ texts)
  {selector : FindingSelector} {variant : Variant} {leftId rightId : Uuid}

include leftCaptured rightCaptured collisionFree leftHashed rightHashed

/-- What is selected from one capture is selected from a capture with the same
entries in scope, and looks the same to a report. -/
theorem strip_mem_selections (within : WithinAudience selector.variants)
    (entries : (leftCapture.input left).variantFindingEntries variant ⊆
      (rightCapture.input right).variantFindingEntries variant)
    (samePassports : SamePassports
      ((leftCapture.findingRecords leftId).filterMap (selector.selectOne variant))
      ((rightCapture.findingRecords rightId).filterMap (selector.selectOne variant)))
    {selection : FindingSelection}
    (selected : selection ∈ (leftCapture.findingRecords leftId).filterMap
      (selector.selectOne variant)) :
    selection.strip ∈ ((rightCapture.findingRecords rightId).filterMap
      (selector.selectOne variant)).map FindingSelection.strip := by
  obtain ⟨record, present, chosen⟩ := List.mem_filterMap.mp selected
  obtain ⟨finding, member, passport, verified, rfl⟩ := mem_findingRecords.mp present
  obtain ⟨ofRecord, admitted, _⟩ := FindingSelector.selectOne_eq_some chosen
  have inScope : variant ∈ scopeVariants finding.publicationScope :=
    (mem_scopeVariants_iff _ _).mpr (within variant admitted)
  have entry : findingEntry finding ∈
      (leftCapture.input left).variantFindingEntries variant :=
    List.mem_map_of_mem (List.mem_filter.mpr ⟨member, by simpa⟩)
  obtain ⟨other, otherInScope, equal⟩ := List.mem_map.mp (entries entry)
  have otherMember := (List.mem_filter.mp otherInScope).1
  have sameId : finding.findingId = other.findingId :=
    (congrArg FindingEntry.findingId equal).symm
  have sameFingerprint :
      finding.semanticFingerprint = other.semanticFingerprint :=
    (congrArg FindingEntry.semanticFingerprint equal).symm
  obtain ⟨verifier, otherPassport, verifies, otherVerified, same⟩ :=
    sameSemantics_of_captured leftCaptured rightCaptured collisionFree
      leftHashed rightHashed member otherMember sameFingerprint
  obtain rfl : verifier = passport := Option.some.inj (verifies.symm.trans verified)
  let selectedRecord : SnapshotFindingRecord :=
    ⟨leftId, finding, verifier.passportSemanticFingerprint⟩
  let otherRecord : SnapshotFindingRecord :=
    ⟨rightId, other, otherPassport.passportSemanticFingerprint⟩
  let otherSelection : FindingSelection := { selection with finding := otherRecord }
  have otherChosen : selector.selectOne variant otherRecord =
      some otherSelection := by
    rw [selectOne_congr selector variant selectedRecord otherRecord
      same.findingType same.qaStatus same.productionStatus same.publicationScope, chosen]
    rfl
  have otherSelected := List.mem_filterMap.mpr
    ⟨otherRecord, mem_findingRecords.mpr
      ⟨other, otherMember, otherPassport, otherVerified, rfl⟩, otherChosen⟩
  have sameSelectedId : selection.findingId = otherSelection.findingId := by
    rw [FindingSelection.findingId, ofRecord]
    exact sameId
  obtain ⟨passportId, passportVersion⟩ := samePassports selection selected
    otherSelection otherSelected sameSelectedId
  rw [ofRecord] at passportId passportVersion
  have sameStrip : strip selection.finding = strip otherRecord := by
    rw [ofRecord]
    exact strip_eq same sameId sameFingerprint passportId passportVersion
      same.passportSemanticFingerprint
  refine List.mem_map.mpr ⟨otherSelection, otherSelected, ?_⟩
  rw [FindingSelection.strip, FindingSelection.strip, sameStrip]

/-- Captures with the same fingerprint for a variant have the same selections,
as far as a report reads them. -/
theorem strip_selections_eq (within : WithinAudience selector.variants)
    (equal : leftCapture.fingerprints.ofVariant variant =
      rightCapture.fingerprints.ofVariant variant)
    {leftSelections rightSelections : List FindingSelection}
    (leftSelected : selector.select (leftCapture.findingRecords leftId)
      variant = .ok leftSelections)
    (rightSelected : selector.select (rightCapture.findingRecords rightId)
      variant = .ok rightSelections)
    (samePassports : SamePassports leftSelections rightSelections) :
    leftSelections.map FindingSelection.strip = rightSelections.map FindingSelection.strip := by
  have leftDistinct := distinctFindings_findingRecords leftCaptured leftId
  have rightDistinct := distinctFindings_findingRecords rightCaptured rightId
  rw [FindingSelector.select_eq leftDistinct, Except.ok.injEq] at leftSelected
  rw [FindingSelector.select_eq rightDistinct, Except.ok.injEq] at rightSelected
  subst leftSelected rightSelected
  have entries := (sameVariantEntries_of_ofVariant_eq leftCaptured
    rightCaptured collisionFree leftHashed rightHashed equal).2.1
  simp only [SamePassports, mem_sortedBy] at samePassports
  have keyed : ∀ items : List FindingSelection,
      (sortedBy selector.sortKey items).map FindingSelection.strip =
        sortedBy selector.sortKey (items.map FindingSelection.strip) :=
    map_sortedBy FindingSelection.strip selector.sortKey
  rw [keyed, keyed]
  refine sortedBy_eq_of_perm ?_ (sortKey_injOn_strip leftDistinct)
  rw [List.perm_ext_iff_of_nodup (nodup_strip_selections leftDistinct)
    (nodup_strip_selections rightDistinct)]
  intro selection
  constructor
  · intro present
    obtain ⟨original, selected, rfl⟩ := List.mem_map.mp present
    exact strip_mem_selections leftCaptured rightCaptured collisionFree
      leftHashed rightHashed within entries.subset samePassports selected
  · intro present
    obtain ⟨original, selected, rfl⟩ := List.mem_map.mp present
    exact strip_mem_selections rightCaptured leftCaptured collisionFree
      rightHashed leftHashed within entries.symm.subset
      (SamePassports.symm samePassports) selected

end Pair

/-- Snapshots of a property with the same fingerprint for a variant give that
variant the same report hash, when the findings selected from both name the
same passports. -/
theorem inputHash_eq_of_fingerprint_eq (config : ReportConfig)
    {leftResolver rightResolver : PassportResolver} {leftAllowed rightAllowed : List String}
    {left right : GovernedPropertyState} {leftCapture rightCapture : Capture}
    (leftCaptured :
      captureState leftResolver leftAllowed left = .ok leftCapture)
    (rightCaptured :
      captureState rightResolver rightAllowed right = .ok rightCapture)
    (collisionFree : Sha256.CollisionFree
      (leftCapture.texts left ∪ rightCapture.texts right))
    {variant : Variant}
    (equal : leftCapture.fingerprints.ofVariant variant =
      rightCapture.fingerprints.ofVariant variant)
    (leftId rightId : Uuid) {leftSelections rightSelections : List FindingSelection}
    (leftSelected : config.shipped.selector.select
      (leftCapture.findingRecords leftId) variant = .ok leftSelections)
    (rightSelected : config.shipped.selector.select
      (rightCapture.findingRecords rightId) variant = .ok rightSelections)
    (samePassports : SamePassports leftSelections rightSelections)
    (propertyId : Uuid) (versions : ReportVersions) :
    (identifyFindings config.shipped propertyId leftId variant versions
        (leftCapture.findingRecords leftId)).map ReportIdentity.inputHash =
      (identifyFindings config.shipped propertyId rightId variant versions
        (rightCapture.findingRecords rightId)).map
          ReportIdentity.inputHash := by
  have same := strip_selections_eq (captureState_eq_ok leftCaptured)
    (captureState_eq_ok rightCaptured) collisionFree Set.subset_union_left
    Set.subset_union_right variantPolicies_withinAudience equal leftSelected
    rightSelected samePassports
  exact inputHash_eq_of_strip_eq leftSelected rightSelected same propertyId
    leftId rightId versions

/-! ## Two findings and their passports -/

/-- A fingerprint of the right form. -/
def zeroFingerprint : String := String.ofList (List.replicate 64 '0')

/-- A finding about the pool, for agents. -/
def poolFinding (findingId passportId passportVersion : String) : GovernedFinding where
  findingId := findingId
  findingType := "POOL_STATUS"
  passportId := passportId
  passportVersion := passportVersion
  canonicalValue := .null
  confidenceCode := "HIGH"
  qaStatus := .pass
  productionStatus := .productionReady
  publicationScope := .agent
  approvedWording := ⟨some "Pool", none, none⟩
  wordingVersions := ⟨some "1", none, none⟩
  semanticFingerprint := "d9022655fb663a334f1edda0c566120441e7e085ab16b6e3f4d435a09b5ee32a"
  evidenceReferenceSetHash := zeroFingerprint

/-- The first version of a passport belongs to the first finding and the
second version to the second. -/
def poolPassport (passportId passportVersion : String) : PassportReference where
  passportId := passportId
  passportVersion := passportVersion
  passportSemanticFingerprint := zeroFingerprint
  passportQaStatus := "PASS"
  findingId := if passportVersion = "1" then "f1" else "f2"
  evidenceReferenceSetHash := zeroFingerprint

theorem validate_poolPassport {passportId passportVersion : String}
    (identified : Text.isBlank passportId = false)
    (versioned : passportVersion = "1" ∨ passportVersion = "2") :
    (poolPassport passportId passportVersion).validate.isOk = true := by
  have fingerprint : Sha256.isHex64 zeroFingerprint = true := Sha256.isHex64_ofList rfl rfl
  have named : Text.isBlank passportVersion = false ∧ Text.isBlank
      (poolPassport passportId passportVersion).findingId = false := by
    rcases versioned with rfl | rfl
    · exact ⟨Text.isBlank_ofList_cons rfl, Text.isBlank_ofList_cons rfl⟩
    · exact ⟨Text.isBlank_ofList_cons rfl, Text.isBlank_ofList_cons rfl⟩
  have valid : (poolPassport passportId passportVersion).validate = .ok () := by
    simp only [PassportReference.validate, require_bind_eq_ok, require_eq_ok]
    exact ⟨identified, named.1, named.2, fingerprint, fingerprint, List.mem_cons_self⟩
  rw [valid]
  rfl

/-- The resolver of these passports. -/
def poolResolver : PassportResolver :=
  fun passportId version => some (poolPassport passportId version)

/-- Two findings, the second with its own passport or with another version of
the first one's. -/
def poolFindings (secondPassport : String) : List FrozenFinding :=
  [frozenFinding (poolFinding "f1" "P1" "1"), frozenFinding (poolFinding "f2" secondPassport "2")]

def poolState (secondPassport : String) : GovernedPropertyState :=
  { scopedState [] with
    findings := [poolFinding "f1" "P1" "1", poolFinding "f2" secondPassport "2"]
    dependencies := [] }

def poolPassports (secondPassport : String) : List PassportReference :=
  [poolPassport "P1" "1", poolPassport secondPassport "2"]

/-- What the upstream of both findings hashed. -/
def poolProjection : Json :=
  findingProjection (frozenFinding (poolFinding "f1" "P1" "1")) (poolPassport "P1" "1")

theorem sha256Canonical_poolProjection :
    sha256Canonical poolProjection = .ok (poolFinding "f1" "P1" "1").semanticFingerprint :=
  sha256Canonical_of_spelled (by repeat' constructor) (by decide +kernel)

theorem captureOne_poolFinding {findingId passportId version : String}
    (valid : (poolPassport passportId version).validate.isOk = true)
    (belongs : (poolPassport passportId version).findingId = findingId) :
    captureOne poolResolver
        (frozenFinding (poolFinding findingId passportId version)) =
      .ok (poolPassport passportId version) := by
  have resolved : resolveValid poolResolver (frozenFinding
      (poolFinding findingId passportId version)) = some (poolPassport passportId version) :=
    Option.filter_eq_some_iff.mpr ⟨rfl, valid⟩
  refine bind_eq_ok.mpr ⟨_, orRaise_eq_ok.mpr resolved, ?_⟩
  simp only [require_bind_eq_ok, pure_eq_ok]
  exact ⟨⟨rfl, rfl⟩, belongs, rfl, rfl, trivial⟩

theorem verifyUpstream_poolFinding {findingId passportId version : String}
    (belongs : (poolPassport passportId version).findingId = findingId) :
    verifyUpstream (frozenFinding (poolFinding findingId passportId version))
        (poolPassport passportId version) =
      .ok (poolFinding "f1" "P1" "1").semanticFingerprint := by
  refine bind_eq_ok.mpr ⟨(poolFinding "f1" "P1" "1").semanticFingerprint, ?_, ?_⟩
  · rw [calculateFinding, require_bind_eq_ok]
    exact ⟨belongs, sha256Canonical_poolProjection⟩
  · rw [require_bind_eq_ok]
    exact ⟨rfl, rfl⟩

theorem capture_poolFindings {secondPassport : String}
    (valid : (poolPassport secondPassport "2").validate.isOk = true) :
    capture poolResolver (poolFindings secondPassport) = .ok (poolPassports secondPassport) := by
  have loop : captureLoop poolResolver [] (poolFindings secondPassport) =
      .ok (poolPassports secondPassport) := by
    simp only [poolFindings, captureLoop, require_bind_eq_ok]
    refine ⟨by simp, bind_eq_ok.mpr ⟨_, captureOne_poolFinding
      (validate_poolPassport (Text.isBlank_ofList_cons rfl) (.inl rfl)) rfl,
      bind_eq_ok.mpr ⟨_, ?_, rfl⟩⟩⟩
    rw [require_bind_eq_ok]
    exact ⟨by simp [frozenFinding, poolFinding], bind_eq_ok.mpr
      ⟨_, captureOne_poolFinding valid rfl, rfl⟩⟩
  have before : "f1" < "f2" := by decide
  rw [capture, loop, Except.map, sortedBy_eq_self]
  exact List.pairwise_pair.mpr (Prod.Lex.toLex_le_toLex.mpr (.inl before))

theorem captureState_poolState (secondPassport : String)
    (valid : (poolPassport secondPassport "2").validate.isOk = true) :
    ∃ fingerprints,
      captureState poolResolver dependencyTypes (poolState secondPassport) =
        .ok ⟨poolFindings secondPassport, poolPassports secondPassport, [], fingerprints⟩ ∧
      calculate (fingerprintInput (poolState secondPassport)
        (poolFindings secondPassport) []) = .ok fingerprints := by
  obtain ⟨fingerprints, calculated, _⟩ := exists_calculate
    (fingerprintInput (poolState secondPassport) (poolFindings secondPassport) [])
  have frozen : freeze (poolState secondPassport).findings =
      .ok (poolFindings secondPassport) := by
    have loop : freezeLoop [] (poolState secondPassport).findings =
        .ok (poolFindings secondPassport) :=
      rfl
    rw [freeze, loop, Except.map, sortedBy_eq_self]
    simp [FrozenFinding.sortKey, frozenFinding, poolFinding, poolFindings, Prod.Lex.toLex_le_toLex]
  have verified : (poolFindings secondPassport).mapM
      (verifyWith (poolPassports secondPassport)) = .ok (List.replicate 2
          (poolFinding "f1" "P1" "1").semanticFingerprint) :=
    mapM_eq_ok.mpr
      (.cons (bind_eq_ok.mpr ⟨_, rfl, verifyUpstream_poolFinding rfl⟩)
        (.cons (bind_eq_ok.mpr ⟨_, rfl, verifyUpstream_poolFinding rfl⟩) .nil))
  exact ⟨fingerprints, bind_eq_ok.mpr ⟨_, frozen, bind_eq_ok.mpr
    ⟨_, capture_poolFindings valid, bind_eq_ok.mpr ⟨_, verified,
      bind_eq_ok.mpr ⟨_, rfl, bind_eq_ok.mpr ⟨_, calculated, rfl⟩⟩⟩⟩⟩,
    calculated⟩

/-- What an agent's report selects of such a capture. -/
def poolSelections (snapshotId : Uuid) (secondPassport : String) : List FindingSelection :=
  (poolFindings secondPassport).map fun finding =>
    ⟨⟨snapshotId, finding, zeroFingerprint⟩, "home-dna", .agentInternal⟩

theorem select_poolFindings (snapshotId : Uuid) (secondPassport : String)
    (fingerprints : SnapshotFingerprints) :
    sampleConfig.shipped.selector.select
        (Capture.findingRecords snapshotId ⟨poolFindings secondPassport,
          poolPassports secondPassport, [], fingerprints⟩) .agent =
      .ok (poolSelections snapshotId secondPassport) := by
  have rows : Capture.findingRecords snapshotId
      ⟨poolFindings secondPassport, poolPassports secondPassport, [], fingerprints⟩ =
      (poolSelections snapshotId secondPassport).map FindingSelection.finding := by
    rfl
  have chosen : ((poolSelections snapshotId secondPassport).map
      FindingSelection.finding).filterMap (sampleConfig.shipped.selector.selectOne .agent) =
      poolSelections snapshotId secondPassport := by
    rfl
  rw [FindingSelector.select_eq, rows, chosen, sortedBy_eq_self]
  · simp [FindingSelector.sortKey, poolSelections, poolFindings,
      frozenFinding, poolFinding, FindingSelection.findingType,
      FindingSelection.findingId, Prod.Lex.toLex_le_toLex]
  · rw [rows]
    simp [poolSelections, poolFindings, frozenFinding, poolFinding]

/-- The same agent wording for both findings. -/
def poolWordings : WordingByFinding :=
  [("f1", ⟨"Pool", "1"⟩), ("f2", ⟨"Pool", "1"⟩)]

/-- The entries of the findings in a report's manifest. -/
def poolDependencies (snapshotId : Uuid) (secondPassport wordingFingerprint : String) :
    List ReportDependencyEntry :=
  [⟨"PRODUCTION_FINDING", "f1",
      (poolFinding "f1" "P1" "1").semanticFingerprint, "semantic-v1", some snapshotId⟩,
    ⟨"PASSPORT", "P1", zeroFingerprint, "1", some snapshotId⟩,
    ⟨"APPROVED_WORDING", "f1", wordingFingerprint, "1", some snapshotId⟩,
    ⟨"PRODUCTION_FINDING", "f2",
      (poolFinding "f1" "P1" "1").semanticFingerprint, "semantic-v1", some snapshotId⟩,
    ⟨"PASSPORT", secondPassport, zeroFingerprint, "2", some snapshotId⟩,
    ⟨"APPROVED_WORDING", "f2", wordingFingerprint, "1", some snapshotId⟩]

theorem selectionDependencies_poolSelections
    (snapshotId : Uuid) (secondPassport : String) {wordingFingerprint : String}
    (hashed : wordingHash ⟨"Pool", "1"⟩ = .ok wordingFingerprint) :
    selectionDependencies snapshotId poolWordings []
        (poolSelections snapshotId secondPassport) =
      .ok (poolDependencies snapshotId secondPassport wordingFingerprint) := by
  have entries : ∀ record : SnapshotFindingRecord,
      findingDependencies snapshotId record ⟨"Pool", "1"⟩ =
        (.ok _ : Except String (List ReportDependencyEntry)) :=
    fun record => bind_eq_ok.mpr ⟨wordingFingerprint, hashed, rfl⟩
  simp only [poolSelections, poolFindings, List.map_cons, List.map_nil,
    selectionDependencies, require_bind_eq_ok]
  refine ⟨by simp, bind_eq_ok.mpr ⟨_, rfl, bind_eq_ok.mpr
    ⟨_, entries _, bind_eq_ok.mpr ⟨_, ?_, rfl⟩⟩⟩⟩
  rw [require_bind_eq_ok]
  refine ⟨?_, bind_eq_ok.mpr ⟨_, rfl, bind_eq_ok.mpr ⟨_, entries _, bind_eq_ok.mpr ⟨_, rfl, rfl⟩⟩⟩⟩
  simp [FindingSelection.findingId, frozenFinding, poolFinding]

theorem identifyFindings_poolFindings (snapshotId : Uuid) (secondPassport : String)
    (fingerprints : SnapshotFingerprints) :
    identifyFindings sampleConfig.shipped someProperty snapshotId .agent
        sampleVersions
        (Capture.findingRecords snapshotId ⟨poolFindings secondPassport,
          poolPassports secondPassport, [], fingerprints⟩) =
      identify someProperty snapshotId .agent sampleVersions
        (poolSelections snapshotId secondPassport) poolWordings := by
  rw [identifyFindings, select_poolFindings]
  rfl

/-- A passport in two versions cannot be listed. -/
theorem identify_conflict (snapshotId : Uuid) {wordingFingerprint : String}
    (hashed : wordingHash ⟨"Pool", "1"⟩ = .ok wordingFingerprint) :
    identify someProperty snapshotId .agent sampleVersions
        (poolSelections snapshotId "P1") poolWordings =
      .error "conflicting dependency entry: PASSPORT:P1" := by
  obtain ⟨config, configured⟩ : ∃ config,
      sampleVersions.configEntries.mapM configDependency = .ok config :=
    exists_mapM_ok fun item present => exists_configDependency (by
      revert item
      decide +kernel)
  have conflict : (poolDependencies snapshotId "P1" wordingFingerprint).foldlM addUnique [] =
        .error "conflicting dependency entry: PASSPORT:P1" := by
    rfl
  rw [identify, buildManifest, selectionDependencies_poolSelections snapshotId
    "P1" hashed, configured]
  change (manifestOf (poolDependencies snapshotId "P1" wordingFingerprint ++ config) >>= _) = _
  rw [manifestOf, List.foldlM_append, conflict]
  rfl

/-- The second finding names another version of the first one's passport in
one snapshot and a passport of its own in the other.  All fingerprints agree,
but only the second snapshot has a report. -/
theorem inputHash_misses_passport :
    ∃ left right, captureState poolResolver dependencyTypes (poolState "P1") =
        .ok left ∧
      captureState poolResolver dependencyTypes (poolState "P2") = .ok right ∧
      left.fingerprints = right.fingerprints ∧
      identifyFindings sampleConfig.shipped someProperty ⟨1, by decide⟩
          .agent sampleVersions (left.findingRecords ⟨1, by decide⟩) =
        .error "conflicting dependency entry: PASSPORT:P1" ∧
      ∃ identity, identifyFindings sampleConfig.shipped someProperty
          ⟨2, by decide⟩ .agent sampleVersions
          (right.findingRecords ⟨2, by decide⟩) = .ok identity := by
  obtain ⟨leftPrints, leftCaptured, leftCalculated⟩ :=
    captureState_poolState "P1"
      (validate_poolPassport (Text.isBlank_ofList_cons rfl) (.inr rfl))
  obtain ⟨rightPrints, rightCaptured, rightCalculated⟩ :=
    captureState_poolState "P2"
      (validate_poolPassport (Text.isBlank_ofList_cons rfl) (.inr rfl))
  obtain ⟨fingerprint, hashed⟩ := exists_wordingHash ⟨"Pool", "1"⟩
  refine ⟨_, _, leftCaptured, rightCaptured, ?_, ?_, ?_⟩
  · exact Except.ok.inj (leftCalculated.symm.trans rightCalculated)
  · rw [identifyFindings_poolFindings, identify_conflict _ hashed]
  · rw [identifyFindings_poolFindings]
    have versioned : ∀ item ∈ sampleVersions.configEntries,
        Text.isBlank item.2.2 = false := by
      decide +kernel
    obtain ⟨identity, identified, _⟩ := exists_identify someProperty .agent
      (selectionDependencies_poolSelections ⟨2, by decide⟩ "P2" hashed)
      versioned (by
        simp [poolDependencies, ReportDependencyEntry.key, configKey,
          ReportVersions.configEntries])
    exact ⟨identity, identified⟩

/-- The texts hashed for such a capture have different digests. -/
theorem collisionFree_poolState (fingerprints : SnapshotFingerprints) :
    Sha256.CollisionFree (Capture.texts (poolState "P2")
      ⟨poolFindings "P2", poolPassports "P2", [], fingerprints⟩) := by
  let input := fingerprintInput (poolState "P2") (poolFindings "P2") []
  refine collisionFree_of_spelled
    (show SpelledItems [poolProjection, input.overall,
      input.variantProjection .agent, input.variantProjection .seller,
      input.variantProjection .pub] _ by repeat' constructor)
    (by decide +kernel) ?_
  rintro text ⟨value, hashed, written⟩
  refine ⟨value, ?_, written⟩
  cases hashed with
  | finding present verified =>
      simp only [poolFindings, List.mem_cons, List.not_mem_nil, or_false]
        at present
      rcases present with rfl | rfl <;> cases verified <;> exact List.mem_cons_self
  | overall => simp [input, Capture.input]
  | variant variant => cases variant <;> simp [input, Capture.input]

/-- One state, captured as two snapshots. -/
theorem inputHash_eq_of_fingerprint_eq_pool :
    ∃ captured, captureState poolResolver dependencyTypes (poolState "P2") =
        .ok captured ∧
      (identifyFindings sampleConfig.shipped someProperty ⟨1, by decide⟩
          .agent sampleVersions
          (captured.findingRecords ⟨1, by decide⟩)).map
            ReportIdentity.inputHash =
        (identifyFindings sampleConfig.shipped someProperty ⟨2, by decide⟩
          .agent sampleVersions
          (captured.findingRecords ⟨2, by decide⟩)).map
            ReportIdentity.inputHash := by
  obtain ⟨fingerprints, captured, _⟩ :=
    captureState_poolState "P2"
      (validate_poolPassport (Text.isBlank_ofList_cons rfl) (.inr rfl))
  refine ⟨_, captured, inputHash_eq_of_fingerprint_eq sampleConfig captured
    captured ?_ rfl _ _ (select_poolFindings _ _ _)
    (select_poolFindings _ _ _) ?_ _ _⟩
  · rw [Set.union_self]
    exact collisionFree_poolState fingerprints
  · intro selection member other otherMember same
    simp only [poolSelections, poolFindings, List.map_cons, List.map_nil,
      List.mem_cons, List.not_mem_nil, or_false] at member otherMember
    rcases member with rfl | rfl <;> rcases otherMember with rfl | rfl
    · exact ⟨rfl, rfl⟩
    · simp [FindingSelection.findingId, frozenFinding, poolFinding] at same
    · simp [FindingSelection.findingId, frozenFinding, poolFinding] at same
    · exact ⟨rfl, rfl⟩

end SanTanHeights.Report
