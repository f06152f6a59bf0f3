import SanTanHeights.Snapshot.GovernedState
import SanTanHeights.Foundation.Sha256
import SanTanHeights.Foundation.Text

/-!
# Freezing findings

`FindingFreezer.freeze` selects the production-ready findings of a state and
puts them in a fixed order.
-/

namespace SanTanHeights.Snapshot

open Foundation Foundation.Sorting Shared

structure FrozenFinding where
  findingId : String
  findingType : String
  passportId : String
  passportVersion : String
  canonicalValue : Json
  confidenceCode : String
  qaStatus : QaStatus
  productionStatus : ProductionStatus
  publicationScope : PublicationScope
  agentWording : Option String
  sellerWording : Option String
  publicWording : Option String
  agentWordingVersion : Option String
  sellerWordingVersion : Option String
  publicWordingVersion : Option String
  semanticFingerprint : String
  evidenceReferenceSetHash : String

/-- `FrozenFinding(...)` built from a governed finding. -/
def frozenFinding (finding : GovernedFinding) : FrozenFinding where
  findingId := finding.findingId
  findingType := finding.findingType
  passportId := finding.passportId
  passportVersion := finding.passportVersion
  canonicalValue := finding.canonicalValue
  confidenceCode := finding.confidenceCode
  qaStatus := finding.qaStatus
  productionStatus := finding.productionStatus
  publicationScope := finding.publicationScope
  agentWording := finding.approvedWording.agent
  sellerWording := finding.approvedWording.seller
  publicWording := finding.approvedWording.pub
  agentWordingVersion := finding.wordingVersions.agent
  sellerWordingVersion := finding.wordingVersions.seller
  publicWordingVersion := finding.wordingVersions.pub
  semanticFingerprint := finding.semanticFingerprint
  evidenceReferenceSetHash := finding.evidenceReferenceSetHash

/-- `ELIGIBLE`. -/
def eligible : List ProductionStatus := [.productionReady]

/-- `EXCLUDED`. -/
def excluded : List ProductionStatus :=
  [.blocked, .deprecated, .superseded, .internalOnly]

/-- The loop of `freeze`, with the identifiers seen so far. -/
def freezeLoop (seen : List String) :
    List GovernedFinding → Except String (List FrozenFinding)
  | [] => .ok []
  | finding :: findings =>
      if finding.findingId ∈ seen then
        .error ("duplicate finding_id: " ++ finding.findingId)
      else if finding.productionStatus ∈ excluded then
        freezeLoop (finding.findingId :: seen) findings
      else if finding.productionStatus ∉ eligible then
        .error ("unsupported production_status: " ++ finding.productionStatus.code)
      else if finding.qaStatus ≠ .pass then
        .error ("production-ready finding must have PASS QA: " ++ finding.findingId)
      else
        (freezeLoop (finding.findingId :: seen) findings).map fun out =>
          frozenFinding finding :: out

/-- The order of frozen findings. -/
def FrozenFinding.sortKey (finding : FrozenFinding) : String ×ₗ String :=
  toLex (finding.findingType, finding.findingId)

/-- `FindingFreezer.freeze`. -/
def freeze (findings : List GovernedFinding) : Except String (List FrozenFinding) :=
  (freezeLoop [] findings).map (sortedBy FrozenFinding.sortKey)

/-! ## What is frozen -/

/-- The findings that are kept. -/
def isReady (finding : GovernedFinding) : Bool :=
  decide (finding.productionStatus = .productionReady)

theorem freezeLoop_eq_ok {seen : List String} {findings : List GovernedFinding}
    {out : List FrozenFinding} (result : freezeLoop seen findings = .ok out) :
    out = (findings.filter isReady).map frozenFinding ∧
      (findings.map GovernedFinding.findingId).Nodup ∧
      (∀ finding ∈ findings, finding.findingId ∉ seen) ∧
      ∀ finding ∈ out, finding.qaStatus = .pass := by
  induction findings generalizing seen out with
  | nil =>
      cases result
      simp
  | cons finding findings ih =>
      simp only [freezeLoop] at result
      split_ifs at result with duplicate skipped unsupported failed
      · obtain ⟨rfl, nodup, fresh, passed⟩ := ih result
        have notReady : isReady finding = false := by
          cases status : finding.productionStatus <;>
            simp_all [isReady, excluded]
        refine ⟨by simp [notReady], ?_, ?_, passed⟩
        · rw [List.map_cons, List.nodup_cons]
          refine ⟨?_, nodup⟩
          intro again
          obtain ⟨other, present, same⟩ := List.mem_map.mp again
          exact fresh other present (by simp [same])
        · intro other present
          rcases List.mem_cons.mp present with rfl | later
          · exact duplicate
          · exact fun old => fresh other later (List.mem_cons_of_mem _ old)
      · obtain ⟨others, later, rfl⟩ := Outcome.map_eq_ok.mp result
        obtain ⟨rfl, nodup, fresh, passed⟩ := ih later
        have ready : isReady finding = true := by
          simpa [isReady, eligible] using unsupported
        refine ⟨by simp [ready], ?_, ?_, ?_⟩
        · rw [List.map_cons, List.nodup_cons]
          refine ⟨?_, nodup⟩
          intro again
          obtain ⟨other, present, same⟩ := List.mem_map.mp again
          exact fresh other present (by simp [same])
        · intro other present
          rcases List.mem_cons.mp present with rfl | old
          · exact duplicate
          · exact fun seenBefore =>
              fresh other old (List.mem_cons_of_mem _ seenBefore)
        · intro frozen present
          rcases List.mem_cons.mp present with rfl | old
          · simpa [frozenFinding] using failed
          · exact passed frozen old

/-- What `freeze` returns: the ready findings, in order and with distinct
identifiers. -/
theorem freeze_eq_ok {findings : List GovernedFinding} {frozen : List FrozenFinding}
    (result : freeze findings = .ok frozen) :
    frozen = sortedBy FrozenFinding.sortKey
        ((findings.filter isReady).map frozenFinding) ∧
      (frozen.map FrozenFinding.findingId).Nodup ∧
      ∀ finding ∈ frozen, finding.qaStatus = .pass := by
  obtain ⟨out, loop, rfl⟩ := Outcome.map_eq_ok.mp result
  obtain ⟨rfl, nodup, _, passed⟩ := freezeLoop_eq_ok loop
  refine ⟨rfl, ?_, fun finding present => passed finding (by simpa using present)⟩
  have permuted := (sortedBy_perm FrozenFinding.sortKey
    ((findings.filter isReady).map frozenFinding)).map FrozenFinding.findingId
  rw [permuted.nodup_iff, List.map_map]
  exact nodup.sublist ((List.filter_sublist).map GovernedFinding.findingId)

end SanTanHeights.Snapshot

/-!
## Passport lineage

`PassportLineageCapture.capture` resolves the exact passport version of every
frozen finding.  The resolver is a parameter; `none` stands for any exception
it raises.
-/

namespace SanTanHeights.Snapshot

open Foundation Foundation.Sorting Foundation.Outcome Shared

structure PassportReference where
  passportId : String
  passportVersion : String
  passportSemanticFingerprint : String
  passportQaStatus : String
  findingId : String
  evidenceReferenceSetHash : String
  deriving DecidableEq, Repr

/-- `_QA`. -/
def passportQaStatuses : List String :=
  ["PASS", "REVIEW_REQUIRED", "FAIL", "PENDING"]

/-- `PassportReference.validate`. -/
def PassportReference.validate (reference : PassportReference) :
    Except String Unit := do
  require (Text.isBlank reference.passportId = false) "passport_id is required"
  require (Text.isBlank reference.passportVersion = false)
    "passport_version is required"
  require (Text.isBlank reference.findingId = false) "finding_id is required"
  require (Sha256.isHex64 reference.passportSemanticFingerprint = true)
    "passport_semantic_fingerprint must be lowercase sha256"
  require (Sha256.isHex64 reference.evidenceReferenceSetHash = true)
    "evidence_reference_set_hash must be lowercase sha256"
  require (reference.passportQaStatus ∈ passportQaStatuses)
    "unknown passport_qa_status"

/-- A source of immutable passport versions. -/
abbrev PassportResolver := String → String → Option PassportReference

/-- The resolver's answer, when it is valid. -/
def resolveValid (resolver : PassportResolver) (finding : FrozenFinding) :
    Option PassportReference :=
  (resolver finding.passportId finding.passportVersion).filter
    fun reference => (reference.validate).isOk

/-- The body of the loop of `capture`. -/
def captureOne (resolver : PassportResolver) (finding : FrozenFinding) :
    Except String PassportReference := do
  let reference ← orRaise (resolveValid resolver finding)
    ("unable to resolve immutable Passport " ++ finding.passportId ++ "@" ++
      finding.passportVersion)
  require (reference.passportId = finding.passportId ∧
      reference.passportVersion = finding.passportVersion)
    ("Passport identity/version mismatch for " ++ finding.findingId)
  require (reference.findingId = finding.findingId)
    ("Passport finding mismatch for " ++ finding.findingId)
  require (reference.evidenceReferenceSetHash = finding.evidenceReferenceSetHash)
    ("evidence reference set mismatch for " ++ finding.findingId)
  require (reference.passportQaStatus = "PASS")
    ("Passport QA must be PASS for production finding " ++ finding.findingId)
  return reference

/-- The loop of `capture`, with the findings seen so far. -/
def captureLoop (resolver : PassportResolver) (seen : List String) :
    List FrozenFinding → Except String (List PassportReference)
  | [] => .ok []
  | finding :: findings => do
      require (finding.findingId ∉ seen)
        ("duplicate finding lineage: " ++ finding.findingId)
      let reference ← captureOne resolver finding
      let references ← captureLoop resolver (finding.findingId :: seen) findings
      return reference :: references

/-- The order of captured references. -/
def PassportReference.sortKey (reference : PassportReference) : String ×ₗ String ×ₗ String :=
  toLex (reference.findingId, toLex (reference.passportId, reference.passportVersion))

/-- `PassportLineageCapture.capture`. -/
def capture (resolver : PassportResolver) (findings : List FrozenFinding) :
    Except String (List PassportReference) :=
  (captureLoop resolver [] findings).map (sortedBy PassportReference.sortKey)

/-- `passport_by_finding[finding_id]` for the dictionary of the references by
their finding. -/
def passportByFinding (references : List PassportReference) (findingId : String) :
    Option PassportReference :=
  references.reverse.find? fun reference => reference.findingId = findingId

end SanTanHeights.Snapshot
