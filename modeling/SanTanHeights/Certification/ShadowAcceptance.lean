import SanTanHeights.Foundation.Text
import SanTanHeights.Foundation.Uuid
import SanTanHeights.Shared.Textual

/-!
# Acceptance of shadow cycles

Shadow runs are captured as numbered cycles.  A certification is accepted when
its latest cycles pass and the manual audit of the latest one is complete;
cycles follow one another by their place in the sorted list, whatever numbers
are missing between them.
-/

namespace SanTanHeights.Certification

open Foundation Foundation.Json Foundation.Sorting Foundation.Outcome Shared

/-! ## Cycles -/

/-- What a shadow run did with one variant of a property. -/
structure ShadowTargetResult where
  propertyId : Uuid
  variant : String
  status : String
  generatedFingerprint : Option String
  comparisonFingerprint : Option String
  detail : List (String × Json)

structure ShadowRunResult where
  productionCertificationId : Uuid
  policyVersion : String
  membershipFingerprint : String
  status : String
  targetResults : List ShadowTargetResult
  evidenceHash : String

structure ShadowCycleTargetEvidence where
  propertyId : Uuid
  variant : String
  status : String
  generatedFingerprint : Option String
  comparisonFingerprint : Option String
  detail : List (String × Json)
  targetEvidenceHash : String

structure ShadowCycleEvidence where
  shadowCycleId : Uuid
  productionCertificationId : Uuid
  cycleNumber : Int
  policyVersion : String
  pilotMembershipFingerprint : String
  targetCount : Nat
  passedTargetCount : Nat
  failedTargetCount : Nat
  cycleStatus : String
  orchestratorEvidenceHash : String
  cycleFingerprint : String
  recordedBy : String
  targetResults : List ShadowCycleTargetEvidence

/-- What the hash of a target covers. -/
def ShadowTargetResult.payload (result : ShadowTargetResult) : Json :=
  .obj [("property_id", .str result.propertyId.str), ("variant", .str result.variant),
      ("status", .str result.status),
      ("generated_fingerprint", .ofOptional result.generatedFingerprint),
      ("comparison_fingerprint", .ofOptional result.comparisonFingerprint),
      ("detail", .obj result.detail)]

/-- The evidence of a target. -/
def captureTarget (result : ShadowTargetResult) :
    Except String ShadowCycleTargetEvidence := do
  require (result.status ∈ ["PASS", "FAIL"]) "unknown shadow target status"
  let targetEvidenceHash ← sha256Canonical result.payload
  return ⟨result.propertyId, result.variant, result.status,
    result.generatedFingerprint, result.comparisonFingerprint, result.detail,
    targetEvidenceHash⟩

def ShadowCycleTargetEvidence.summary (target : ShadowCycleTargetEvidence) : Json :=
  .obj [("property_id", .str target.propertyId.str), ("variant", .str target.variant),
      ("status", .str target.status),
      ("target_evidence_hash", .str target.targetEvidenceHash)]

/-- What the fingerprint of a cycle covers. -/
def ShadowCycleEvidence.payload (cycle : ShadowCycleEvidence) : Json :=
  .obj [("production_certification_id", .str cycle.productionCertificationId.str),
      ("cycle_number", .int cycle.cycleNumber),
      ("policy_version", .str cycle.policyVersion),
      ("pilot_membership_fingerprint", .str cycle.pilotMembershipFingerprint),
      ("orchestrator_evidence_hash", .str cycle.orchestratorEvidenceHash),
      ("cycle_status", .str cycle.cycleStatus),
      ("targets", .arr (cycle.targetResults.map ShadowCycleTargetEvidence.summary))]

/-- The cycle of a run with captured targets, before it has a fingerprint. -/
def draftCycle (cycleNumber : Int) (runResult : ShadowRunResult) (recordedBy : String)
    (shadowCycleId : Uuid) (targets : List ShadowCycleTargetEvidence) :
    ShadowCycleEvidence :=
  let failed := targets.countP fun target => target.status = "FAIL"
  { shadowCycleId
    productionCertificationId := runResult.productionCertificationId
    cycleNumber
    policyVersion := runResult.policyVersion
    pilotMembershipFingerprint := runResult.membershipFingerprint
    targetCount := targets.length
    passedTargetCount := targets.countP fun target => target.status = "PASS"
    failedTargetCount := failed
    cycleStatus :=
      if targets ≠ [] ∧ failed = 0 ∧ runResult.status = "PASS" then "PASS"
      else "FAIL"
    orchestratorEvidenceHash := runResult.evidenceHash
    cycleFingerprint := ""
    recordedBy
    targetResults := targets }

/-- `ShadowCycleTracker.capture`, under an identifier that was given or
drawn. -/
def capture (cycleNumber : Int) (runResult : ShadowRunResult) (recordedBy : String)
    (shadowCycleId : Uuid) : Except String ShadowCycleEvidence := do
  require (1 ≤ cycleNumber) "cycle_number must be >= 1"
  require (Text.isBlank recordedBy = false) "recorded_by is required"
  require (Sha256.isHex64 runResult.membershipFingerprint = true ∧
    Sha256.isHex64 runResult.evidenceHash = true)
    "shadow run fingerprints must be lowercase SHA-256"
  let ordered := sortedBy
    (fun result => toLex (result.propertyId.str, result.variant))
    runResult.targetResults
  require (ordered.map fun result =>
    (result.propertyId, result.variant)).Nodup
    "duplicate shadow target result"
  let targets ← ordered.mapM captureTarget
  let cycle := draftCycle cycleNumber runResult recordedBy shadowCycleId targets
  let cycleFingerprint ← sha256Canonical cycle.payload
  return { cycle with cycleFingerprint := cycleFingerprint }

/-- A cycle that the tracker captured. -/
def ShadowCycleEvidence.Captured (cycle : ShadowCycleEvidence) : Prop :=
  ∃ cycleNumber runResult recordedBy shadowCycleId,
    capture cycleNumber runResult recordedBy shadowCycleId = .ok cycle

/-! ## The audited sample -/

structure ManualAuditSample where
  manualAuditSampleId : Uuid
  productionCertificationId : Uuid
  shadowCycleId : Uuid
  policyVersion : String
  sampledPropertyIds : List Uuid
  failedShadowPropertyIds : List Uuid
  sampleFingerprint : String
  builtBy : String

structure ManualAuditEvidence where
  manualAuditSampleId : Uuid
  propertyId : Uuid
  auditStatus : String
  evidenceHash : String

/-! ## Acceptance -/

/-- An acceptance policy, which is loaded only with one cycle or more and with
an allowed status. -/
structure ShadowAcceptancePolicy where
  policyVersion : String
  minimumConsecutiveCycles : Nat
  requireAllTargetsPass : Bool
  requireLatestCycleManualAudit : Bool
  requireCompleteManualAuditSample : Bool
  allowedManualAuditStatusesForAcceptance : List String
  requireMembershipFingerprintMatch : Bool
  positive : 1 ≤ minimumConsecutiveCycles
  allowed : allowedManualAuditStatusesForAcceptance ≠ []

/-- `shadow-acceptance-policy.yaml`. -/
def shadowAcceptancePolicy : ShadowAcceptancePolicy where
  policyVersion := "1.0.0"
  minimumConsecutiveCycles := 3
  requireAllTargetsPass := true
  requireLatestCycleManualAudit := true
  requireCompleteManualAuditSample := true
  allowedManualAuditStatusesForAcceptance := ["PASS"]
  requireMembershipFingerprintMatch := true
  positive := by decide
  allowed := by decide

structure ShadowAcceptanceResult where
  productionCertificationId : Uuid
  policyVersion : String
  status : String
  reasonCodes : List String
  acceptedCycleIds : List Uuid
  latestShadowCycleId : Option Uuid
  manualAuditSampleId : Option Uuid
  acceptanceFingerprint : String
  evaluatedBy : String

/-- The arguments of `ShadowAcceptanceEngine.evaluate`. -/
structure AcceptanceRequest where
  policy : ShadowAcceptancePolicy
  productionCertificationId : Uuid
  pilotMembershipFingerprint : String
  cycles : List ShadowCycleEvidence
  manualAuditSample : Option ManualAuditSample
  manualAuditEvidence : List ManualAuditEvidence
  evaluatedBy : String

/-- A code, where its reason is given. -/
def reason (given : Prop) [Decidable given] (code : String) : List String :=
  if given then [code] else []

namespace AcceptanceRequest

variable (request : AcceptanceRequest)

/-- The cycles of the certification, by number. -/
def rows : List ShadowCycleEvidence :=
  sortedBy ShadowCycleEvidence.cycleNumber (request.cycles.filter fun cycle =>
      cycle.productionCertificationId = request.productionCertificationId)

/-- Whether the search for passing cycles goes on past a cycle. -/
def passes (cycle : ShadowCycleEvidence) : Bool :=
  cycle.cycleStatus = "PASS" ∧ (request.policy.requireAllTargetsPass = true →
      cycle.failedTargetCount = 0)

/-- The accepted cycles, which are searched for from the latest one. -/
def passing : List ShadowCycleEvidence :=
  ((request.rows.reverse.takeWhile request.passes).take
    request.policy.minimumConsecutiveCycles).reverse

def latest : Option ShadowCycleEvidence :=
  request.rows.getLast?

/-- The evidence on the audited sample. -/
def sampleEvidence (sample : ManualAuditSample) : List ManualAuditEvidence :=
  request.manualAuditEvidence.filter fun evidence =>
    evidence.manualAuditSampleId = sample.manualAuditSampleId

/-- The sample is one of the latest cycle. -/
def AuditsLatest : Prop :=
  ∃ cycle ∈ request.latest, ∃ sample ∈ request.manualAuditSample,
    sample.shadowCycleId = cycle.shadowCycleId

instance : Decidable request.AuditsLatest :=
  inferInstanceAs (Decidable (∃ cycle ∈ request.latest,
    ∃ sample ∈ request.manualAuditSample, sample.shadowCycleId = cycle.shadowCycleId))

/-- The reasons that the evidence on a sample gives.  Its properties are
distinct, so that each of them keeps its own row. -/
def sampleReasons (sample : ManualAuditSample) : List String :=
  reason (request.policy.requireCompleteManualAuditSample = true ∧
      ((request.sampleEvidence sample).map ManualAuditEvidence.propertyId).toFinset ≠
        sample.sampledPropertyIds.toFinset)
      "MANUAL_AUDIT_SAMPLE_INCOMPLETE" ++
    reason (∃ evidence ∈ request.sampleEvidence sample, evidence.auditStatus ∉
        request.policy.allowedManualAuditStatusesForAcceptance)
      "MANUAL_AUDIT_NOT_ALL_PASS"

def reasons : List String :=
  reason (request.policy.requireMembershipFingerprintMatch = true ∧
      ∃ cycle ∈ request.rows, cycle.pilotMembershipFingerprint ≠
        request.pilotMembershipFingerprint) "SHADOW_MEMBERSHIP_DRIFT" ++
    reason (request.passing.length < request.policy.minimumConsecutiveCycles)
      "INSUFFICIENT_CONSECUTIVE_PASS_CYCLES" ++
    reason (request.policy.requireLatestCycleManualAudit = true ∧
      ¬request.AuditsLatest) "LATEST_CYCLE_MANUAL_AUDIT_MISSING" ++
    match request.manualAuditSample with
    | some sample => request.sampleReasons sample
    | none => reason (request.policy.requireLatestCycleManualAudit = true)
        "MANUAL_AUDIT_SAMPLE_MISSING"

def status : String :=
  if request.reasons = [] then "PASS" else "FAIL"

def reasonCodes : List String :=
  sortedBy id request.reasons.dedup

/-- What the fingerprint of an acceptance covers. -/
def payload : Json :=
  .obj [("production_certification_id", .str request.productionCertificationId.str),
      ("policy_version", .str request.policy.policyVersion),
      ("pilot_membership_fingerprint", .str request.pilotMembershipFingerprint),
      ("status", .str request.status),
      ("reason_codes", .arr (request.reasonCodes.map .str)), ("accepted_cycle_ids",
        .arr (request.passing.map fun cycle => .str cycle.shadowCycleId.str)),
      ("latest_shadow_cycle_id", .ofOptional
        (request.latest.map fun cycle => cycle.shadowCycleId.str)),
      ("manual_audit_sample_id", .ofOptional
        (request.manualAuditSample.map fun sample =>
          sample.manualAuditSampleId.str)),
      ("manual_audit_evidence_hashes", .arr ((sortedBy id (request.manualAuditEvidence.map
          ManualAuditEvidence.evidenceHash)).map .str))]

/-- The result of an evaluation under its fingerprint. -/
def result (acceptanceFingerprint : String) : ShadowAcceptanceResult where
  productionCertificationId := request.productionCertificationId
  policyVersion := request.policy.policyVersion
  status := request.status
  reasonCodes := request.reasonCodes
  acceptedCycleIds := request.passing.map ShadowCycleEvidence.shadowCycleId
  latestShadowCycleId := request.latest.map ShadowCycleEvidence.shadowCycleId
  manualAuditSampleId := request.manualAuditSample.map ManualAuditSample.manualAuditSampleId
  acceptanceFingerprint := acceptanceFingerprint
  evaluatedBy := request.evaluatedBy

/-- `ShadowAcceptanceEngine.evaluate`. -/
def evaluate : Except String ShadowAcceptanceResult := do
  require (Text.isBlank request.evaluatedBy = false) "evaluated_by is required"
  require (request.rows.map ShadowCycleEvidence.cycleNumber).Nodup
    "duplicate shadow cycle number"
  require (∀ sample ∈ request.manualAuditSample,
    ((request.sampleEvidence sample).map ManualAuditEvidence.propertyId).Nodup)
    "duplicate manual audit evidence for property"
  let acceptanceFingerprint ← sha256Canonical request.payload
  return request.result acceptanceFingerprint

end AcceptanceRequest

/-! ## Captured cycles -/

theorem captureTarget_eq_ok {result : ShadowTargetResult} {target : ShadowCycleTargetEvidence} :
    captureTarget result = .ok target ↔ result.status ∈ ["PASS", "FAIL"] ∧
        ∃ targetEvidenceHash,
          sha256Canonical result.payload = .ok targetEvidenceHash ∧
            target = ⟨result.propertyId, result.variant, result.status,
              result.generatedFingerprint, result.comparisonFingerprint,
              result.detail, targetEvidenceHash⟩ := by
  simp only [captureTarget, bind_eq_ok, require_eq_ok, exists_const, pure_eq_ok, @eq_comm _ target]

theorem capture_eq_ok {cycleNumber : Int} {runResult : ShadowRunResult} {recordedBy : String}
    {shadowCycleId : Uuid} {cycle : ShadowCycleEvidence} :
    capture cycleNumber runResult recordedBy shadowCycleId = .ok cycle ↔
      1 ≤ cycleNumber ∧ Text.isBlank recordedBy = false ∧
        (Sha256.isHex64 runResult.membershipFingerprint = true ∧
          Sha256.isHex64 runResult.evidenceHash = true) ∧
        (((sortedBy
            (fun result => toLex (result.propertyId.str, result.variant))
            runResult.targetResults).map fun result =>
          (result.propertyId, result.variant)).Nodup) ∧
        ∃ targets, (sortedBy
            (fun result => toLex (result.propertyId.str, result.variant))
            runResult.targetResults).mapM captureTarget = .ok targets ∧
          ∃ cycleFingerprint,
            sha256Canonical (draftCycle cycleNumber runResult recordedBy
              shadowCycleId targets).payload = .ok cycleFingerprint ∧
            cycle = { draftCycle cycleNumber runResult recordedBy
              shadowCycleId targets with
                cycleFingerprint := cycleFingerprint } := by
  simp only [capture, bind_eq_ok, require_eq_ok, exists_const, pure_eq_ok, @eq_comm _ cycle]

/-- The targets of a captured cycle pass or fail. -/
theorem status_of_captured {cycle : ShadowCycleEvidence} (captured : cycle.Captured)
    {target : ShadowCycleTargetEvidence} (listed : target ∈ cycle.targetResults) :
    target.status = "PASS" ∨ target.status = "FAIL" := by
  obtain ⟨number, runResult, recordedBy, shadowCycleId, made⟩ := captured
  obtain ⟨-, -, -, -, targets, mapped, fingerprint, -, rfl⟩ := capture_eq_ok.mp made
  obtain ⟨result, -, taken⟩ := (mem_mapM_iff mapped).mp listed
  obtain ⟨allowed, hash, -, rfl⟩ := captureTarget_eq_ok.mp taken
  simpa using allowed

/-- A captured cycle passes only with every target. -/
theorem passed_of_captured {cycle : ShadowCycleEvidence} (captured : cycle.Captured)
    (passed : cycle.cycleStatus = "PASS") :
    ∀ target ∈ cycle.targetResults, target.status = "PASS" := by
  intro target listed
  refine (status_of_captured captured listed).resolve_right fun failed => ?_
  obtain ⟨number, runResult, recordedBy, shadowCycleId, made⟩ := captured
  obtain ⟨-, -, -, -, targets, -, fingerprint, -, rfl⟩ := capture_eq_ok.mp made
  have counted : 0 < targets.countP fun target => target.status = "FAIL" :=
    List.countP_pos_iff.mpr ⟨target, listed, by simpa using failed⟩
  dsimp only [draftCycle] at passed
  rw [if_neg fun all => counted.ne' all.2.1] at passed
  simp at passed

/-! ## Descending lists -/

/-- What is missing from a prefix of a list is related to all of it. -/
theorem rel_of_prefix {α : Type*} {relation : α → α → Prop} {items front : List α}
    (related : items.Pairwise relation) (isPrefix : front <+: items)
    {left right : α} (leftListed : left ∈ front) (rightListed : right ∈ items)
    (missing : right ∉ front) :
    relation left right := by
  obtain ⟨rest, rfl⟩ := isPrefix
  have later : right ∈ rest := (List.mem_append.mp rightListed).resolve_left missing
  exact (List.pairwise_append.mp related).2.2 left leftListed right later

/-- A descending list that misses none of the numbers below its bound starts
with them. -/
theorem mem_take_iff_of_descending {items : List Int} {top : Int} {count : Nat}
    (descending : items.Pairwise fun left right => right < left)
    (bounded : ∀ number ∈ items, number ≤ top)
    (whole : ∀ number, top - count < number → number ≤ top → number ∈ items) {number : Int} :
    number ∈ items.take count ↔ top - count < number ∧ number ≤ top := by
  induction count generalizing items top with
  | zero =>
      rw [List.take_zero]
      refine iff_of_false List.not_mem_nil ?_
      omega
  | succ count ih =>
      have topListed : top ∈ items := whole top (by omega) le_rfl
      cases items with
      | nil => exact absurd topListed List.not_mem_nil
      | cons first rest =>
          rw [List.pairwise_cons] at descending
          have isTop : first = top := by
            rcases List.mem_cons.mp topListed with same | later
            · exact same.symm
            · have above := descending.1 top later
              have below := bounded first List.mem_cons_self
              omega
          subst isTop
          have restWhole : ∀ number, first - 1 - count < number →
              number ≤ first - 1 → number ∈ rest := by
            intro number above below
            have listed := whole number (by omega) (by omega)
            exact (List.mem_cons.mp listed).resolve_left (by omega)
          have restBounded : ∀ number ∈ rest, number ≤ first - 1 := by
            intro number listed
            have below := descending.1 number listed
            omega
          rw [List.take_succ_cons, List.mem_cons, ih descending.2 restBounded restWhole]
          omega

/-! ## Evaluations -/

theorem reason_eq_nil {given : Prop} [Decidable given] {code : String} :
    reason given code = [] ↔ ¬given := by
  simp [reason]

namespace AcceptanceRequest

variable {request : AcceptanceRequest}

theorem textual_payload (request : AcceptanceRequest) : Textual request.payload := by
  simp [payload, textual_obj, IsTagged]

/-- The checks that an evaluation makes before it gives any reason. -/
structure WellFormed (request : AcceptanceRequest) : Prop where
  evaluator : Text.isBlank request.evaluatedBy = false
  numbers : (request.rows.map ShadowCycleEvidence.cycleNumber).Nodup
  evidence : ∀ sample ∈ request.manualAuditSample,
    ((request.sampleEvidence sample).map ManualAuditEvidence.propertyId).Nodup

theorem evaluate_eq_ok {found : ShadowAcceptanceResult} :
    request.evaluate = .ok found ↔ request.WellFormed ∧ ∃ fingerprint,
        sha256Canonical request.payload = .ok fingerprint ∧ request.result fingerprint = found := by
  simp only [evaluate, bind_eq_ok, require_eq_ok, exists_const, pure_eq_ok]
  constructor
  · rintro ⟨evaluator, numbers, evidence, hashed⟩
    exact ⟨⟨evaluator, numbers, evidence⟩, hashed⟩
  · rintro ⟨⟨evaluator, numbers, evidence⟩, hashed⟩
    exact ⟨evaluator, numbers, evidence, hashed⟩

/-- What passes the checks is evaluated. -/
theorem WellFormed.exists_evaluate (wellFormed : request.WellFormed) :
    ∃ found, request.evaluate = .ok found ∧ found.status = request.status := by
  obtain ⟨fingerprint, hashed, -⟩ := (textual_payload request).exists_sha256Canonical
  exact ⟨_, evaluate_eq_ok.mpr ⟨wellFormed, fingerprint, hashed, rfl⟩, rfl⟩

theorem status_eq_pass : request.status = "PASS" ↔ request.reasons = [] := by
  unfold status
  split_ifs with clear
  · exact iff_of_true rfl clear
  · exact iff_of_false (by decide) clear

theorem status_eq_fail : request.status = "FAIL" ↔ request.reasons ≠ [] := by
  unfold status
  split_ifs with clear
  · exact iff_of_false (by decide) (not_not.mpr clear)
  · exact iff_of_true rfl clear

/-! ### Cycles of the certification -/

/-- A cycle of the certification. -/
def Holds (request : AcceptanceRequest) (cycle : ShadowCycleEvidence) : Prop :=
  cycle ∈ request.cycles ∧ cycle.productionCertificationId = request.productionCertificationId

/-- The cycle of the certification with the highest number. -/
structure Latest (request : AcceptanceRequest) (cycle : ShadowCycleEvidence) : Prop where
  held : request.Holds cycle
  highest : ∀ other, request.Holds other → other.cycleNumber ≤ cycle.cycleNumber

@[simp] theorem mem_rows {cycle : ShadowCycleEvidence} :
    cycle ∈ request.rows ↔ request.Holds cycle := by
  simp [rows, Holds]

theorem mem_passing {cycle : ShadowCycleEvidence} :
    cycle ∈ request.passing ↔
      cycle ∈ (request.rows.reverse.takeWhile request.passes).take
        request.policy.minimumConsecutiveCycles := by
  rw [passing, List.mem_reverse]

/-- The accepted cycles are the first of those that are searched. -/
theorem passing_isPrefix (request : AcceptanceRequest) :
    (request.rows.reverse.takeWhile request.passes).take
        request.policy.minimumConsecutiveCycles <+: request.rows.reverse :=
  (List.take_prefix _ _).trans (List.takeWhile_prefix _)

theorem holds_of_mem_passing
    {cycle : ShadowCycleEvidence} (accepted : cycle ∈ request.passing) :
    request.Holds cycle := by
  have listed := request.passing_isPrefix.subset (mem_passing.mp accepted)
  rwa [List.mem_reverse, mem_rows] at listed

theorem passes_of_mem_passing
    {cycle : ShadowCycleEvidence} (accepted : cycle ∈ request.passing) :
    request.passes cycle = true := by
  have taken := List.mem_of_mem_take (mem_passing.mp accepted)
  exact List.mem_takeWhile_imp taken

section WellFormed

variable (wellFormed : request.WellFormed)

include wellFormed

/-- The search meets ever lower numbers. -/
theorem WellFormed.descending :
    request.rows.reverse.Pairwise fun left right =>
      right.cycleNumber < left.cycleNumber := by
  rw [List.pairwise_reverse]
  have ordered := pairwise_sortedBy ShadowCycleEvidence.cycleNumber
    (request.cycles.filter fun cycle =>
      cycle.productionCertificationId = request.productionCertificationId)
  have apart := List.pairwise_map.mp wellFormed.numbers
  exact (ordered.and apart).imp fun both => lt_of_le_of_ne both.1 both.2

theorem WellFormed.nodup_rows : request.rows.Nodup := wellFormed.numbers.of_map

theorem WellFormed.latest_eq_some {cycle : ShadowCycleEvidence} :
    request.latest = some cycle ↔ request.Latest cycle := by
  have descending := wellFormed.descending
  have listed : ∀ other, request.Holds other ↔ other ∈ request.rows.reverse := by simp
  rw [latest, ← List.head?_reverse]
  cases searched : request.rows.reverse with
  | nil =>
      rw [searched] at listed
      exact iff_of_false nofun fun isLatest =>
        absurd ((listed cycle).mp isLatest.held) List.not_mem_nil
  | cons first rest =>
      rw [searched] at listed descending
      rw [List.pairwise_cons] at descending
      have highest : ∀ other, request.Holds other →
          other.cycleNumber ≤ first.cycleNumber := by
        intro other held
        rcases List.mem_cons.mp ((listed other).mp held) with rfl | later
        · exact le_rfl
        · exact (descending.1 other later).le
      rw [List.head?_cons, Option.some.injEq]
      constructor
      · rintro rfl
        exact ⟨(listed first).mpr List.mem_cons_self, highest⟩
      · intro isLatest
        rcases List.mem_cons.mp ((listed cycle).mp isLatest.held) with
          same | later
        · exact same.symm
        · have below := descending.1 cycle later
          have above := isLatest.highest first ((listed first).mpr List.mem_cons_self)
          omega

/-- A cycle of the certification above an accepted one is accepted. -/
theorem WellFormed.mem_passing_of_lt
    {lower upper : ShadowCycleEvidence} (accepted : lower ∈ request.passing)
    (held : request.Holds upper) (above : lower.cycleNumber < upper.cycleNumber) :
    upper ∈ request.passing := by
  rw [mem_passing] at accepted ⊢
  by_contra missing
  have below := rel_of_prefix wellFormed.descending request.passing_isPrefix
    accepted (by simpa using held) missing
  omega

/-- Nothing below a cycle that does not pass is accepted. -/
theorem WellFormed.lt_of_mem_passing {cycle blocking : ShadowCycleEvidence}
    (accepted : cycle ∈ request.passing) (held : request.Holds blocking)
    (blocks : request.passes blocking = false) :
    blocking.cycleNumber < cycle.cycleNumber := by
  refine rel_of_prefix wellFormed.descending request.passing_isPrefix
    (mem_passing.mp accepted) (by simpa using held) fun taken => ?_
  rw [← mem_passing] at taken
  rw [passes_of_mem_passing taken] at blocks
  exact absurd blocks (by decide)

theorem WellFormed.nodup_passing : request.passing.Nodup := by
  rw [passing, List.nodup_reverse]
  have distinct : request.rows.reverse.Nodup := List.nodup_reverse.mpr wellFormed.nodup_rows
  exact distinct.sublist request.passing_isPrefix.sublist

end WellFormed

/-! ### Accepted certifications -/

/-- No number is missing among the last ones of the certification. -/
def Gapless (request : AcceptanceRequest) : Prop :=
  ∀ latest, request.Latest latest → ∀ number,
    latest.cycleNumber - request.policy.minimumConsecutiveCycles < number →
      number ≤ latest.cycleNumber → ∃ cycle, request.Holds cycle ∧ cycle.cycleNumber = number

/-- What the policy does not require is given all the same. -/
structure Forthcoming (request : AcceptanceRequest) : Prop where
  membership : request.policy.requireMembershipFingerprintMatch = false →
    ∀ latest, request.Latest latest → ∀ cycle, request.Holds cycle →
      latest.cycleNumber - request.policy.minimumConsecutiveCycles <
          cycle.cycleNumber →
        cycle.pilotMembershipFingerprint = request.pilotMembershipFingerprint
  audit : request.policy.requireLatestCycleManualAudit = false →
    ∃ sample ∈ request.manualAuditSample, ∀ latest, request.Latest latest →
      sample.shadowCycleId = latest.shadowCycleId
  complete : request.policy.requireCompleteManualAuditSample = false →
    ∀ sample ∈ request.manualAuditSample,
      ∀ propertyId ∈ sample.sampledPropertyIds,
        ∃ evidence ∈ request.sampleEvidence sample, evidence.propertyId = propertyId

/-- The audit of a sample of a cycle: each property of the sample has one row,
with an allowed status, and none that failed in the cycle is left out. -/
structure Audited (request : AcceptanceRequest) (cycle : ShadowCycleEvidence)
    (sample : ManualAuditSample) : Prop where
  latest : sample.shadowCycleId = cycle.shadowCycleId
  rows : ∀ propertyId ∈ sample.sampledPropertyIds, ∃ evidence,
    ((request.sampleEvidence sample).filter fun evidence =>
        evidence.propertyId = propertyId) = [evidence] ∧
      evidence.auditStatus ∈ request.policy.allowedManualAuditStatusesForAcceptance
  failed : ∀ target ∈ cycle.targetResults, target.status ≠ "PASS" →
    target.propertyId ∈ sample.sampledPropertyIds

/-- The request about other cycles. -/
def withCycles (request : AcceptanceRequest) (cycles : List ShadowCycleEvidence) :
    AcceptanceRequest :=
  { request with cycles := cycles }

/-- What the acceptance of a certification stands for. -/
structure Accepts (request : AcceptanceRequest) (accepted : List Uuid) : Prop where
  accepted : accepted = request.passing.map ShadowCycleEvidence.shadowCycleId
  /-- The accepted cycles are those of the last numbers, without a gap. -/
  numbers : ∃ latest, request.Latest latest ∧ ∀ number,
    (∃ cycle ∈ request.passing, cycle.cycleNumber = number) ↔
      latest.cycleNumber - request.policy.minimumConsecutiveCycles < number ∧
        number ≤ latest.cycleNumber
  passed : ∀ cycle ∈ request.passing, request.Holds cycle ∧
    ∀ target ∈ cycle.targetResults, target.status = "PASS"
  membership : ∀ cycle ∈ request.passing,
    cycle.pilotMembershipFingerprint = request.pilotMembershipFingerprint
  audited : ∃ sample ∈ request.manualAuditSample, ∀ latest,
    request.Latest latest → request.Audited latest sample
  /-- A cycle that did not pass between accepted ones refutes them. -/
  refuted : ∀ cycle, cycle.cycleStatus ≠ "PASS" →
    cycle.productionCertificationId = request.productionCertificationId →
    (∀ held, request.Holds held → held.cycleNumber ≠ cycle.cycleNumber) →
    (∃ lower ∈ request.passing, lower.cycleNumber < cycle.cycleNumber) →
    (∃ upper ∈ request.passing, cycle.cycleNumber < upper.cycleNumber) →
    ∀ cycles, cycles.Perm (cycle :: request.cycles) →
      ∃ found, (request.withCycles cycles).evaluate = .ok found ∧ found.status = "FAIL"

/-- What is left when an evaluation gives no reason. -/
structure Clear (request : AcceptanceRequest) : Prop where
  membership : request.policy.requireMembershipFingerprintMatch = true →
    ∀ cycle, request.Holds cycle →
      cycle.pilotMembershipFingerprint = request.pilotMembershipFingerprint
  enough : request.policy.minimumConsecutiveCycles ≤ request.passing.length
  audit : request.policy.requireLatestCycleManualAudit = true → request.AuditsLatest
  complete : ∀ sample ∈ request.manualAuditSample,
    request.policy.requireCompleteManualAuditSample = true →
      ((request.sampleEvidence sample).map
        ManualAuditEvidence.propertyId).toFinset = sample.sampledPropertyIds.toFinset
  allowed : ∀ sample ∈ request.manualAuditSample,
    ∀ evidence ∈ request.sampleEvidence sample, evidence.auditStatus ∈
      request.policy.allowedManualAuditStatusesForAcceptance

theorem clear_of_reasons (clear : request.reasons = []) : request.Clear := by
  simp only [reasons, List.append_eq_nil_iff, reason_eq_nil, not_and,
    not_exists, not_not, not_lt, mem_rows] at clear
  obtain ⟨⟨⟨membership, enough⟩, audit⟩, sampled⟩ := clear
  have samples : ∀ sample ∈ request.manualAuditSample,
      request.sampleReasons sample = [] := by
    intro sample given
    rw [Option.mem_def.mp given] at sampled
    exact sampled
  simp only [sampleReasons, List.append_eq_nil_iff, reason_eq_nil, not_and,
    not_exists, ne_eq, not_not] at samples
  exact
    { membership := membership
      enough := enough
      audit := audit
      complete := fun sample given => (samples sample given).1
      allowed := fun sample given => (samples sample given).2 }

/-- The accepted cycles are as many as the policy demands, from the latest
one. -/
theorem Clear.mem_passing_iff (clear : request.Clear) {cycle : ShadowCycleEvidence} :
    cycle ∈ request.passing ↔ cycle ∈ request.rows.reverse.take
      request.policy.minimumConsecutiveCycles := by
  have enough := clear.enough
  rw [passing, List.length_reverse] at enough
  have atMost := List.length_take_le request.policy.minimumConsecutiveCycles
    (request.rows.reverse.takeWhile request.passes)
  have isTake := List.prefix_iff_eq_take.mp request.passing_isPrefix
  rw [le_antisymm atMost enough] at isTake
  rw [mem_passing, isTake]

section Accepted

variable (wellFormed : request.WellFormed) (clear : request.Clear)

include wellFormed

theorem WellFormed.eq_of_number
    {left right : ShadowCycleEvidence} (leftHeld : request.Holds left)
    (rightHeld : request.Holds right)
    (same : left.cycleNumber = right.cycleNumber) : left = right :=
  List.inj_on_of_nodup_map wellFormed.numbers (mem_rows.mpr leftHeld) (mem_rows.mpr rightHeld) same

include clear

theorem WellFormed.exists_latest :
    ∃ latest, request.Latest latest ∧ latest ∈ request.passing := by
  have some_accepted : 0 < request.passing.length :=
    lt_of_lt_of_le request.policy.positive clear.enough
  obtain ⟨cycle, accepted⟩ := List.exists_mem_of_length_pos some_accepted
  have held := holds_of_mem_passing accepted
  cases found : request.latest with
  | none =>
      rw [latest, List.getLast?_eq_none_iff] at found
      rw [← mem_rows, found] at held
      exact absurd held List.not_mem_nil
  | some highest =>
      have isLatest := wellFormed.latest_eq_some.mp found
      refine ⟨highest, isLatest, ?_⟩
      rcases (isLatest.highest cycle held).lt_or_eq with below | same
      · exact wellFormed.mem_passing_of_lt accepted isLatest.held below
      · rwa [← wellFormed.eq_of_number held isLatest.held same]

/-- The accepted numbers are the last ones just where none is missing. -/
theorem WellFormed.numbers_iff
    {latest : ShadowCycleEvidence} (isLatest : request.Latest latest) :
    (∀ number, (∃ cycle ∈ request.passing, cycle.cycleNumber = number) ↔
        latest.cycleNumber - request.policy.minimumConsecutiveCycles < number ∧
          number ≤ latest.cycleNumber) ↔
      request.Gapless := by
  constructor
  · intro exact_ other otherLatest number above below
    have same : other.cycleNumber = latest.cycleNumber :=
      le_antisymm (isLatest.highest other otherLatest.held)
        (otherLatest.highest latest isLatest.held)
    rw [same] at above below
    obtain ⟨cycle, accepted, numbered⟩ := (exact_ number).mpr ⟨above, below⟩
    exact ⟨cycle, holds_of_mem_passing accepted, numbered⟩
  · intro gapless number
    have descending :
        (request.rows.reverse.map ShadowCycleEvidence.cycleNumber).Pairwise
          fun left right => right < left :=
      List.pairwise_map.mpr wellFormed.descending
    have bounded : ∀ number ∈
        request.rows.reverse.map ShadowCycleEvidence.cycleNumber,
        number ≤ latest.cycleNumber := by
      simp only [List.mem_map, List.mem_reverse, mem_rows,
        forall_exists_index, and_imp, forall_apply_eq_imp_iff₂]
      exact isLatest.highest
    have whole : ∀ number,
        latest.cycleNumber - request.policy.minimumConsecutiveCycles <
            number → number ≤ latest.cycleNumber →
          number ∈ request.rows.reverse.map ShadowCycleEvidence.cycleNumber := by
      intro number above below
      simpa only [List.mem_map, List.mem_reverse, mem_rows] using
        gapless latest isLatest number above below
    rw [← mem_take_iff_of_descending descending bounded whole, ← List.map_take, List.mem_map]
    simp only [clear.mem_passing_iff]

omit clear in
/-- A cycle that did not pass between accepted ones leaves too few above
it. -/
theorem WellFormed.refuted
    {cycle lower : ShadowCycleEvidence} (failed : cycle.cycleStatus ≠ "PASS")
    (own : cycle.productionCertificationId = request.productionCertificationId)
    (fresh : ∀ held, request.Holds held → held.cycleNumber ≠ cycle.cycleNumber)
    (accepted : lower ∈ request.passing) (above : lower.cycleNumber < cycle.cycleNumber)
    {cycles : List ShadowCycleEvidence} (added : cycles.Perm (cycle :: request.cycles)) :
    ∃ found, (request.withCycles cycles).evaluate = .ok found ∧ found.status = "FAIL" := by
  have holds_iff : ∀ other, (request.withCycles cycles).Holds other ↔
      other = cycle ∨ request.Holds other := by
    intro other
    unfold Holds
    rw [withCycles, added.mem_iff, List.mem_cons]
    constructor
    · rintro ⟨rfl | listed, same⟩
      · exact .inl rfl
      · exact .inr ⟨listed, same⟩
    · rintro (rfl | ⟨listed, same⟩)
      · exact ⟨.inl rfl, own⟩
      · exact ⟨.inr listed, same⟩
  have rowsPerm : (request.withCycles cycles).rows.Perm
      (cycle :: request.rows) := by
    have filtered := added.filter fun other =>
      other.productionCertificationId = request.productionCertificationId
    rw [List.filter_cons_of_pos (by simpa using own)] at filtered
    exact ((sortedBy_perm _ _).trans filtered).trans ((sortedBy_perm _ _).symm.cons cycle)
  have wider : (request.withCycles cycles).WellFormed :=
    { evaluator := wellFormed.evaluator
      numbers := by
        rw [(rowsPerm.map ShadowCycleEvidence.cycleNumber).nodup_iff,
          List.map_cons, List.nodup_cons]
        refine ⟨fun listed => ?_, wellFormed.numbers⟩
        obtain ⟨other, held, same⟩ := List.mem_map.mp listed
        exact fresh other (mem_rows.mp held) same
      evidence := wellFormed.evidence }
  have blocks : (request.withCycles cycles).passes cycle = false := by
    simp [passes, failed]
  have fewer : (request.withCycles cycles).passing.length <
      request.passing.length := by
    refine ((List.nodup_cons.mpr ⟨?_, wider.nodup_passing⟩).subperm
      fun other listed => ?_ :
        (lower :: (request.withCycles cycles).passing).Subperm request.passing).length_le
    · intro taken
      have higher := wider.lt_of_mem_passing taken ((holds_iff cycle).mpr (.inl rfl)) blocks
      omega
    · rcases List.mem_cons.mp listed with rfl | taken
      · exact accepted
      · have higher := wider.lt_of_mem_passing taken ((holds_iff cycle).mpr (.inl rfl)) blocks
        rcases (holds_iff other).mp (holds_of_mem_passing taken) with
          rfl | held
        · exact absurd higher (lt_irrefl _)
        · exact wellFormed.mem_passing_of_lt accepted held (by omega)
  obtain ⟨found, evaluated, same⟩ := wider.exists_evaluate
  refine ⟨found, evaluated, same.trans (status_eq_fail.mpr fun none => ?_)⟩
  have enough := (clear_of_reasons none).enough
  have atMost : request.passing.length ≤
      request.policy.minimumConsecutiveCycles := by
    rw [passing, List.length_reverse]
    exact List.length_take_le _ _
  have same : (request.withCycles cycles).policy = request.policy := rfl
  rw [same] at enough
  omega

omit clear in
/-- A property with a row has only that one. -/
theorem WellFormed.filter_sampleEvidence
    {sample : ManualAuditSample} (given : sample ∈ request.manualAuditSample)
    {evidence : ManualAuditEvidence} (listed : evidence ∈ request.sampleEvidence sample) :
    ((request.sampleEvidence sample).filter fun other =>
      other.propertyId = evidence.propertyId) = [evidence] := by
  have distinct := wellFormed.evidence sample given
  have only : ∀ other ∈ (request.sampleEvidence sample).filter fun other =>
      other.propertyId = evidence.propertyId, other = evidence := by
    intro other found
    obtain ⟨otherListed, same⟩ := List.mem_filter.mp found
    exact List.inj_on_of_nodup_map distinct otherListed listed (of_decide_eq_true same)
  have repeats := List.eq_replicate_of_mem only
  have once : ((request.sampleEvidence sample).filter fun other =>
      other.propertyId = evidence.propertyId).Nodup :=
    distinct.of_map.filter _
  rw [repeats, List.nodup_replicate] at once
  have found : evidence ∈ (request.sampleEvidence sample).filter fun other =>
      other.propertyId = evidence.propertyId :=
    List.mem_filter.mpr ⟨listed, decide_eq_true rfl⟩
  have some_found := List.length_pos_of_mem found
  rw [repeats, le_antisymm once some_found]
  rfl

end Accepted

/-! ### Sample cycles -/

def sampleUuid (number : Nat) : Uuid :=
  .ofNat number

/-- A run with one target, which passes. -/
def sampleRun : ShadowRunResult where
  productionCertificationId := sampleUuid 0
  policyVersion := "1.0.0"
  membershipFingerprint := Sha256.hexdigest "MEMBERSHIP"
  status := "PASS"
  targetResults := [⟨sampleUuid 0, "AGENT", "PASS", none, none, []⟩]
  evidenceHash := Sha256.hexdigest "EVIDENCE"

/-- The cycle of the sample run under a number, with the hash of its target and
its own. -/
def sampleCycle (hash : String) (number : Nat) (fingerprint : String) : ShadowCycleEvidence :=
  { draftCycle number sampleRun "RECORDER" (sampleUuid number)
      [⟨sampleUuid 0, "AGENT", "PASS", none, none, [], hash⟩] with
    cycleFingerprint := fingerprint }

theorem exists_sampleHash :
    ∃ hash, ∀ number : Nat, 1 ≤ number → number ≤ 9 →
      ∃ fingerprint, (sampleCycle hash number fingerprint).Captured := by
  have textual : Textual (ShadowTargetResult.mk (sampleUuid 0) "AGENT" "PASS"
      none none []).payload := by
    simp [ShadowTargetResult.payload, textual_obj, IsTagged]
  obtain ⟨hash, hashed, -⟩ := textual.exists_sha256Canonical
  refine ⟨hash, fun number positive small => ?_⟩
  have oneDigit : Decimal.numDigits number ≤ 1 :=
    Decimal.numDigits_le_of_lt_ten_pow one_pos (by omega)
  have short : ShortInt number := oneDigit.trans (by decide)
  have preserved : Preserved (draftCycle number sampleRun "RECORDER"
      (sampleUuid number) [⟨sampleUuid 0, "AGENT", "PASS", none, none, [], hash⟩]).payload := by
    simp [Preserved, ShadowCycleEvidence.payload,
      ShadowCycleTargetEvidence.summary, draftCycle, all_obj, All,
      AllItems, AllMembers, Untagged, IsTagged, NumberFits, short]
  obtain ⟨text, written⟩ := Option.ne_none_iff_exists'.mp (canonicalText_ne_none preserved)
  refine ⟨_, number, sampleRun, "RECORDER", sampleUuid number,
    capture_eq_ok.mpr ⟨by omega, by decide, ⟨Sha256.isHex64_hexdigest _,
      Sha256.isHex64_hexdigest _⟩, List.nodup_singleton _, _, ?_, _,
      sha256Canonical_eq_ok.mpr ⟨_, by rw [canonicalJson, written, Option.map_some], rfl⟩, rfl⟩⟩
  refine mapM_eq_ok.mpr (.cons (captureTarget_eq_ok.mpr ⟨?_, hash, hashed, rfl⟩) .nil)
  exact List.mem_cons_self

/-- An audit of one property of a cycle. -/
def sampleAudit (cycle : ShadowCycleEvidence) : ManualAuditSample where
  manualAuditSampleId := sampleUuid 0
  productionCertificationId := sampleUuid 0
  shadowCycleId := cycle.shadowCycleId
  policyVersion := "1.0.0"
  sampledPropertyIds := [sampleUuid 0]
  failedShadowPropertyIds := []
  sampleFingerprint := "SAMPLE"
  builtBy := "BUILDER"

/-- Three cycles of the sample run, the last of which is audited. -/
def sampleRequest (first second third : ShadowCycleEvidence) : AcceptanceRequest where
  policy := shadowAcceptancePolicy
  productionCertificationId := sampleUuid 0
  pilotMembershipFingerprint := Sha256.hexdigest "MEMBERSHIP"
  cycles := [first, second, third]
  manualAuditSample := some (sampleAudit third)
  manualAuditEvidence := [⟨sampleUuid 0, sampleUuid 0, "PASS", "EVIDENCE"⟩]
  evaluatedBy := "EVALUATOR"

/-- Three ascending cycles of the sample run are accepted, whatever numbers are
missing between them. -/
theorem exists_sampleAcceptance {first second third : Nat} (positive : 1 ≤ first)
    (ascending : first < second ∧ second < third) (small : third ≤ 9) :
    ∃ request : AcceptanceRequest, request.policy = shadowAcceptancePolicy ∧
      (∀ cycle ∈ request.cycles, cycle.Captured) ∧
      (∃ found, request.evaluate = .ok found ∧ found.status = "PASS") ∧
      ∀ number, (∃ cycle, request.Holds cycle ∧ cycle.cycleNumber = number) ↔
        number = first ∨ number = second ∨ number = third := by
  obtain ⟨hash, makes⟩ := exists_sampleHash
  obtain ⟨firstPrint, firstCaptured⟩ := makes first positive (by omega)
  obtain ⟨secondPrint, secondCaptured⟩ := makes second (by omega) (by omega)
  obtain ⟨thirdPrint, thirdCaptured⟩ := makes third (by omega) small
  let cycles := [sampleCycle hash first firstPrint,
    sampleCycle hash second secondPrint, sampleCycle hash third thirdPrint]
  let request := sampleRequest (sampleCycle hash first firstPrint)
    (sampleCycle hash second secondPrint) (sampleCycle hash third thirdPrint)
  have rows : request.rows = cycles := by
    refine sortedBy_eq_self ?_
    simp only [request, sampleRequest, sampleCycle, draftCycle, sampleRun,
      decide_true, List.filter_cons_of_pos, List.filter_nil, List.pairwise_cons]
    simp
    omega
  have passing : request.passing = cycles := by
    rw [AcceptanceRequest.passing, rows]
    rfl
  have wellFormed : request.WellFormed :=
    { evaluator := (by decide : Text.isBlank "EVALUATOR" = false)
      numbers := by
        rw [rows]
        simp [cycles, sampleCycle, draftCycle]
        omega
      evidence := by
        rintro sample given
        obtain rfl := Option.some.inj given
        exact List.nodup_singleton (sampleUuid 0) }
  have reasons : request.reasons = [] := by
    have audits : request.AuditsLatest := by
      refine ⟨sampleCycle hash third thirdPrint, ?_, _, rfl, rfl⟩
      rw [AcceptanceRequest.latest, rows]
      rfl
    have sampled : request.sampleReasons
        (sampleAudit (sampleCycle hash third thirdPrint)) = [] := rfl
    rw [AcceptanceRequest.reasons, rows, passing]
    simp only [List.append_eq_nil_iff, reason_eq_nil]
    refine ⟨⟨⟨?_, Nat.lt_irrefl 3⟩, fun missing => missing.2 audits⟩, sampled⟩
    rintro ⟨-, cycle, listed, differs⟩
    simp only [cycles, List.mem_cons, List.not_mem_nil, or_false] at listed
    rcases listed with rfl | rfl | rfl
    · exact differs rfl
    · exact differs rfl
    · exact differs rfl
  obtain ⟨found, evaluated, same⟩ := wellFormed.exists_evaluate
  refine ⟨request, rfl, ?_, ⟨found, evaluated,
    same.trans (status_eq_pass.mpr reasons)⟩, fun number => ?_⟩
  · simp only [request, sampleRequest, List.forall_mem_cons,
      List.not_mem_nil, IsEmpty.forall_iff, implies_true, and_true]
    exact ⟨firstCaptured, secondCaptured, thirdCaptured⟩
  · simp only [← mem_rows, rows]
    simp [cycles, sampleCycle, draftCycle, eq_comm]

/-! ### What acceptance stands for -/

end AcceptanceRequest

end SanTanHeights.Certification
