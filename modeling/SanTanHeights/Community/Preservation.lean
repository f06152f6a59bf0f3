import Mathlib.Logic.Relation
import SanTanHeights.Community.Dependence

/-!
# Preserved records

What a plan decides about a record, and what decisions about the deltas of a
chain say about a direct comparison of its ends.
-/

namespace SanTanHeights.Community

open Foundation Foundation.Sorting Foundation.Outcome Shared

/-! ## Decisions of a plan -/

theorem makeDecision_eq_ok_iff {registry : RefreshRegistry} {delta : CommunityDelta}
    {record : DerivedIntelligenceRecord} {decision : RefreshDecision} :
    makeDecision registry delta record = .ok decision ↔
      record.certificationState ∈ registry.allowedCurrentCertificationStates ∧
        Sha256.isHex64 record.recordFingerprint = true ∧ ∃ fingerprint,
            hash (.obj (decisionRecord registry delta record).payload) =
                .ok fingerprint ∧
              { decisionRecord registry delta record with
                decisionFingerprint := fingerprint } = decision := by
  simp only [makeDecision, validateRecordFp, bind_eq_ok, require_eq_ok, exists_const, pure_eq_ok]

/-- A plan is made of the decisions about the sorted records. -/
theorem buildSelectiveRefreshPlan_eq_ok_iff
    {registry : RefreshRegistry} {planId : String} {delta : CommunityDelta}
    {records : List DerivedIntelligenceRecord} {plan : SelectiveRefreshPlan} :
    buildSelectiveRefreshPlan registry planId delta records = .ok plan ↔
      Text.isBlank planId = false ∧
        delta.certificationState = registry.acceptedDeltaState ∧
          validateDeltaReplay delta = .ok true ∧
            (records.map DerivedIntelligenceRecord.artifactId).Nodup ∧
              ∃ decisions,
                (sortedBy DerivedIntelligenceRecord.artifactId records).mapM
                    (makeDecision registry delta) = .ok decisions ∧
                  ∃ policy, policyFingerprint registry = .ok policy ∧
                    ∃ fingerprint, hash (planRecord planId delta decisions
                          policy).payload = .ok fingerprint ∧
                        { planRecord planId delta decisions policy with
                          planFingerprint := fingerprint } = plan := by
  simp only [buildSelectiveRefreshPlan, require_bind_eq_ok, and_congr_right_iff]
  intro _ _
  constructor
  · intro planned
    obtain ⟨replays, replayed, planned⟩ := bind_eq_ok.mp planned
    simp only [require_bind_eq_ok] at planned
    obtain ⟨rfl, distinct, planned⟩ := planned
    simp only [bind_eq_ok, pure_eq_ok] at planned
    exact ⟨replayed, distinct, planned⟩
  · rintro ⟨replayed, distinct, planned⟩
    refine bind_eq_ok.mpr ⟨true, replayed, ?_⟩
    simp only [require_bind_eq_ok]
    refine ⟨trivial, distinct, ?_⟩
    simpa only [bind_eq_ok, pure_eq_ok] using planned

section Planned

variable {registry : RefreshRegistry} {planId : String}
  {delta : CommunityDelta} {records : List DerivedIntelligenceRecord}
  {plan : SelectiveRefreshPlan} {record : DerivedIntelligenceRecord}

theorem map_decisions {decisions : List RefreshDecision}
    (decided : (sortedBy DerivedIntelligenceRecord.artifactId records).mapM
      (makeDecision registry delta) = .ok decisions) :
    (sortedBy DerivedIntelligenceRecord.artifactId records).map
        (fun record => (record.artifactId, (decisionRecord registry delta record).decision)) =
      decisions.map fun decision =>
        (decision.artifactId, decision.decision) := by
  apply map_eq_of_mapM decided
  intro record decision made
  obtain ⟨_, _, _, _, rfl⟩ := makeDecision_eq_ok_iff.mp made
  rfl

theorem decisionRecord_decision_eq_noImpact :
    (decisionRecord registry delta record).decision = .noImpact ↔
      matching registry delta record = [] := by
  rw [decisionRecord]
  dsimp only
  split_ifs with none <;> simp [none]

/-- The records that a plan preserves are those that no change makes
stale. -/
theorem mem_preserved_iff
    (planned : buildSelectiveRefreshPlan registry planId delta records = .ok plan)
    (member : record ∈ records) :
    record.artifactId ∈ plan.preservedArtifactIds ↔ matching registry delta record = [] := by
  obtain ⟨_, _, _, distinct, decisions, decided, _, _, _, _, rfl⟩ :=
    buildSelectiveRefreshPlan_eq_ok_iff.mp planned
  have decides := map_decisions decided
  have preserved : record.artifactId ∈ artifactIds .noImpact decisions ↔
      (record.artifactId, Decision.noImpact) ∈ decisions.map fun decision =>
        (decision.artifactId, decision.decision) := by
    simp only [artifactIds, List.mem_map, List.mem_filter, decide_eq_true_eq, Prod.mk.injEq]
    grind
  rw [planRecord]
  dsimp only
  rw [preserved, ← decides, List.mem_map]
  constructor
  · rintro ⟨other, listed, same⟩
    obtain ⟨sameId, decision⟩ := Prod.mk.inj same
    have equal : other = record := List.inj_on_of_nodup_map distinct
      ((sortedBy_perm _ _).subset listed) member sameId
    rw [← equal]
    exact decisionRecord_decision_eq_noImpact.mp decision
  · intro none
    exact ⟨record, (sortedBy_perm _ _).symm.subset member,
      congrArg (Prod.mk record.artifactId) (decisionRecord_decision_eq_noImpact.mpr none)⟩

end Planned

/-! ## Certified deltas -/

/-- A certified delta between two snapshots. -/
def CertifiedDelta (fromisoformat : FromIsoformat) (snapshotRegistry : SnapshotRegistry)
    (deltaRegistry : DeltaRegistry)
    (before after : CommunityStateSnapshot) (delta : CommunityDelta) :
    Prop :=
  ∃ arguments draft, arguments.before = before ∧ arguments.after = after ∧
    buildCommunityDelta fromisoformat snapshotRegistry deltaRegistry
        arguments = .ok draft ∧
      certifyDelta draft = .ok delta

section Deltas

variable {fromisoformat : FromIsoformat}
  {snapshotRegistry : SnapshotRegistry} {deltaRegistry : DeltaRegistry}
  {before after : CommunityStateSnapshot} {delta : CommunityDelta}

theorem certifyDelta_eq_ok_iff {draft : CommunityDelta} :
    certifyDelta draft = .ok delta ↔ draft.certificationState = .draft ∧
        validateDeltaReplay draft = .ok true ∧ (∀ change ∈ draft.changes,
            change.classification ≠ .notComparable) ∧
            { draft with certificationState := .certified } = delta := by
  simp only [certifyDelta, require_bind_eq_ok, and_congr_right_iff]
  intro _
  constructor
  · intro certifies
    obtain ⟨replays, replayed, certifies⟩ := bind_eq_ok.mp certifies
    simp only [require_bind_eq_ok, pure_eq_ok] at certifies
    obtain ⟨rfl, comparable, certifies⟩ := certifies
    exact ⟨replayed, comparable, certifies⟩
  · rintro ⟨replayed, comparable, certifies⟩
    refine bind_eq_ok.mpr ⟨true, replayed, ?_⟩
    simp only [require_bind_eq_ok, pure_eq_ok]
    exact ⟨trivial, comparable, certifies⟩

theorem CertifiedDelta.compared
    (certified : CertifiedDelta fromisoformat snapshotRegistry deltaRegistry before after delta) :
    Compared fromisoformat before after delta := by
  obtain ⟨arguments, draft, rfl, rfl, built, certifies⟩ := certified
  obtain ⟨_, _, _, rfl⟩ := certifyDelta_eq_ok_iff.mp certifies
  have compared := compared_of_build built
  exact ⟨compared.1, compared.2, compared.3, compared.4, compared.5, compared.6, compared.7⟩

theorem CertifiedDelta.accepted
    (certified : CertifiedDelta fromisoformat snapshotRegistry deltaRegistry before after delta) :
    delta.certificationState = .certified ∧ validateDeltaReplay delta = .ok true := by
  obtain ⟨_, draft, _, _, _, certifies⟩ := certified
  obtain ⟨_, replayed, _, rfl⟩ := certifyDelta_eq_ok_iff.mp certifies
  exact ⟨rfl, replayed⟩

/-- A plan preserves a record just when the two snapshots agree on what the
record depends on. -/
theorem mem_preserved_iff_agreesOn {planId : String} {records : List DerivedIntelligenceRecord}
    {plan : SelectiveRefreshPlan} {record : DerivedIntelligenceRecord}
    (certified : CertifiedDelta fromisoformat snapshotRegistry deltaRegistry before after delta)
    (planned : buildSelectiveRefreshPlan refreshRegistry planId delta records = .ok plan)
    (member : record ∈ records) :
    record.artifactId ∈ plan.preservedArtifactIds ↔ AgreesOn refreshRegistry record before after :=
  (mem_preserved_iff planned member).trans
    (matching_eq_nil_iff_agreesOn refreshRegistry_covering certified.compared)

end Deltas

/-! ## Plans that are made -/

@[simp] theorem RefreshDecision.textual_asdict (decision : RefreshDecision) :
    Textual decision.asdict := by
  simp [asdict, payload, textual_obj, IsTagged]

theorem RefreshDecision.textual_payload (decision : RefreshDecision) :
    Textual (.obj decision.payload) := by
  simp [payload, textual_obj, IsTagged]

theorem SelectiveRefreshPlan.textual_payload (plan : SelectiveRefreshPlan) :
    Textual plan.payload := by
  simp [payload, textual_obj, IsTagged]

theorem DerivedIntelligenceRecord.textual_payload (record : DerivedIntelligenceRecord) :
    Textual (.obj record.payload) := by
  simp [payload, textual_obj, IsTagged]

theorem exists_policyFingerprint :
    ∃ policy, policyFingerprint refreshRegistry = .ok policy := by
  apply exists_hash
  simp [refreshRegistry, textual_obj, IsTagged, canonicalNumber]

/-- What a plan asks of current records. -/
def DerivedIntelligenceRecord.Current (record : DerivedIntelligenceRecord) : Prop :=
  record.certificationState = "CERTIFIED" ∧ Sha256.isHex64 record.recordFingerprint = true

/-- A plan is made for all current records with distinct identifiers. -/
theorem exists_plan {fromisoformat : FromIsoformat} {snapshotRegistry : SnapshotRegistry}
    {deltaRegistry : DeltaRegistry} {before after : CommunityStateSnapshot}
    {delta : CommunityDelta} {planId : String} {records : List DerivedIntelligenceRecord}
    (identified : Text.isBlank planId = false)
    (certified : CertifiedDelta fromisoformat snapshotRegistry deltaRegistry before after delta)
    (distinct : (records.map DerivedIntelligenceRecord.artifactId).Nodup)
    (current : ∀ record ∈ records, record.Current) :
    ∃ plan, buildSelectiveRefreshPlan refreshRegistry planId delta records = .ok plan := by
  have decides : ∃ decisions,
      (sortedBy DerivedIntelligenceRecord.artifactId records).mapM
        (makeDecision refreshRegistry delta) = .ok decisions := by
    apply exists_mapM_ok
    intro record listed
    obtain ⟨state, shape⟩ := current record ((sortedBy_perm _ _).subset listed)
    obtain ⟨fingerprint, hashed⟩ := exists_hash
      (decisionRecord refreshRegistry delta record).textual_payload
    exact ⟨_, makeDecision_eq_ok_iff.mpr ⟨List.mem_singleton.mpr state,
      shape, fingerprint, hashed, rfl⟩⟩
  obtain ⟨decisions, decided⟩ := decides
  obtain ⟨policy, policyHashed⟩ := exists_policyFingerprint
  obtain ⟨fingerprint, hashed⟩ :=
    exists_hash (planRecord planId delta decisions policy).textual_payload
  exact ⟨_, buildSelectiveRefreshPlan_eq_ok_iff.mpr ⟨identified,
    certified.accepted.1, certified.accepted.2, distinct, decisions, decided,
    policy, policyHashed, fingerprint, hashed, rfl⟩⟩

theorem isHex64_of_hash {value : Json} {fingerprint : String}
    (hashed : hash value = .ok fingerprint) :
    Sha256.isHex64 fingerprint = true := by
  obtain ⟨text, _, rfl⟩ := sha256Canonical_eq_ok.mp hashed
  exact Sha256.isHex64_hexdigest text

/-- A record about a community, before its fingerprint is known. -/
def communityRecord (artifactId source : String) : DerivedIntelligenceRecord where
  artifactId := artifactId
  artifactType := "SELLER_INTELLIGENCE"
  scope := "COMMUNITY"
  scopeId := "STH"
  sourceSnapshotSemanticHash := source
  payloadFingerprint := snapshotRegistry.certificationRoot
  certificationState := "CERTIFIED"
  lineageFingerprints := []
  recordFingerprint := ""

theorem exists_communityRecord {artifactId source : String}
    (identified : Text.isBlank artifactId = false) (shape : Sha256.isHex64 source = true) :
    ∃ fingerprint, makeDerivedRecord (communityRecord artifactId source) =
        .ok { communityRecord artifactId source with
          recordFingerprint := fingerprint } ∧
      Sha256.isHex64 fingerprint = true := by
  obtain ⟨fingerprint, hashed⟩ :=
    exists_hash (communityRecord artifactId source).textual_payload
  have named : Text.isBlank "SELLER_INTELLIGENCE" = false ∧
      Text.isBlank "COMMUNITY" = false ∧ Text.isBlank "STH" = false := by
    decide
  have payloadShape :
      Sha256.isHex64 snapshotRegistry.certificationRoot = true :=
    Sha256.isHex64_ofList rfl rfl
  refine ⟨fingerprint, ?_, isHex64_of_hash hashed⟩
  simp only [makeDerivedRecord, validateRecordFp, require_bind_eq_ok]
  refine ⟨⟨identified, named⟩, List.mem_cons_of_mem _ List.mem_cons_self, ?_⟩
  exact ⟨shape, payloadShape, bind_eq_ok.mpr ⟨[], rfl, bind_eq_ok.mpr ⟨fingerprint, hashed, rfl⟩⟩⟩

theorem exists_bareCertifiedDelta {fromisoformat : FromIsoformat} {time later : String}
    {instant laterInstant : Int} {sources laterSources : List TemporalManifestEntry}
    {semanticHash recordHash laterSemanticHash laterRecordHash : String}
    (parsed : fromisoformat time = some (some instant))
    (laterParsed : fromisoformat later = some (some laterInstant))
    (inOrder : instant < laterInstant)
    (before : Certified fromisoformat snapshotRegistry
      (bareSnapshot time sources semanticHash recordHash))
    (after : Certified fromisoformat snapshotRegistry
      (bareSnapshot later laterSources laterSemanticHash laterRecordHash)) :
    ∃ delta, CertifiedDelta fromisoformat snapshotRegistry deltaRegistry
      (bareSnapshot time sources semanticHash recordHash)
      (bareSnapshot later laterSources laterSemanticHash laterRecordHash)
      delta := by
  obtain ⟨draft, built⟩ := exists_bareDelta parsed laterParsed inOrder before after
  exact ⟨_, bareDelta _ _, draft, rfl, rfl, built, exists_certified built⟩

/-- Snapshots with the same sources agree on every record. -/
theorem agreesOn_bareSnapshot (registry : RefreshRegistry) (record : DerivedIntelligenceRecord)
    (time later : String) (sources : List TemporalManifestEntry)
    (semanticHash recordHash laterSemanticHash laterRecordHash : String) :
    AgreesOn registry record (bareSnapshot time sources semanticHash recordHash)
      (bareSnapshot later sources laterSemanticHash laterRecordHash) := by
  intro dependency _
  cases dependency with
  | community field => cases field <;> rfl
  | presence propertyId => rfl
  | fieldOf propertyId field => rfl
  | entry kind identity => cases kind <;> rfl

/-! ## Chains of deltas -/

section Chains

variable (fromisoformat : FromIsoformat)
  (snapshotRegistry : SnapshotRegistry) (deltaRegistry : DeltaRegistry)

/-- Some plan of a certified delta preserves a record. -/
def Preserves (record : DerivedIntelligenceRecord)
    (before after : CommunityStateSnapshot) : Prop :=
  ∃ delta planId records plan,
    CertifiedDelta fromisoformat snapshotRegistry deltaRegistry before after
        delta ∧
      buildSelectiveRefreshPlan refreshRegistry planId delta records =
          .ok plan ∧
        record ∈ records ∧ record.artifactId ∈ plan.preservedArtifactIds

/-- Every plan of a certified delta preserves a record. -/
def AlwaysPreserves (record : DerivedIntelligenceRecord)
    (before after : CommunityStateSnapshot) : Prop :=
  ∀ delta planId records plan,
    CertifiedDelta fromisoformat snapshotRegistry deltaRegistry before after
        delta →
      buildSelectiveRefreshPlan refreshRegistry planId delta records =
          .ok plan →
        record ∈ records → record.artifactId ∈ plan.preservedArtifactIds

variable {fromisoformat : FromIsoformat}
  {snapshotRegistry : SnapshotRegistry} {deltaRegistry : DeltaRegistry}
  {before after : CommunityStateSnapshot}

theorem Preserves.agreesOn {record : DerivedIntelligenceRecord}
    (preserves : Preserves fromisoformat snapshotRegistry deltaRegistry record before after) :
    AgreesOn refreshRegistry record before after := by
  obtain ⟨delta, planId, records, plan, certified, planned, member, kept⟩ := preserves
  exact (mem_preserved_iff_agreesOn certified planned member).mp kept

theorem alwaysPreserves_of_agreesOn {record : DerivedIntelligenceRecord}
    (agrees : AgreesOn refreshRegistry record before after) :
    AlwaysPreserves fromisoformat snapshotRegistry deltaRegistry record before after :=
  fun _ _ _ _ certified planned member =>
    (mem_preserved_iff_agreesOn certified planned member).mpr agrees

/-- The ends of a chain of deltas that preserve a record agree on it. -/
theorem agreesOn_of_chain {record : DerivedIntelligenceRecord}
    (chain : Relation.TransGen (Preserves fromisoformat snapshotRegistry deltaRegistry record)
      before after) :
    AgreesOn refreshRegistry record before after := by
  induction chain with
  | single preserves => exact preserves.agreesOn
  | tail _ preserves ih =>
      exact ih.trans preserves.agreesOn

end Chains

/-- A record that is preserved by two deltas in a row, or by any chain of
deltas, is preserved by every direct comparison. -/
theorem refresh_composes (fromisoformat : FromIsoformat) (snapshotRegistry : SnapshotRegistry)
    (deltaRegistry : DeltaRegistry) (record : DerivedIntelligenceRecord) :
    (∀ first second third,
      Preserves fromisoformat snapshotRegistry deltaRegistry record first
          second →
        Preserves fromisoformat snapshotRegistry deltaRegistry record second
            third →
          AlwaysPreserves fromisoformat snapshotRegistry deltaRegistry
            record first third) ∧
      ∀ first last, Relation.TransGen
            (Preserves fromisoformat snapshotRegistry deltaRegistry record)
            first last →
          AlwaysPreserves fromisoformat snapshotRegistry deltaRegistry
            record first last := by
  constructor
  · intro first second third preserves continues
    exact alwaysPreserves_of_agreesOn
      (preserves.agreesOn.trans continues.agreesOn)
  · intro first last chain
    exact alwaysPreserves_of_agreesOn (agreesOn_of_chain chain)

theorem refresh_composes_sample :
    ∃ (record : DerivedIntelligenceRecord)
      (first second third : CommunityStateSnapshot),
      Preserves sampleFromisoformat snapshotRegistry deltaRegistry record
          first second ∧
        Preserves sampleFromisoformat snapshotRegistry deltaRegistry record
            second third ∧
          Preserves sampleFromisoformat snapshotRegistry deltaRegistry record
            first third := by
  obtain ⟨_, _, firstCertified⟩ := @exists_bareSnapshot _ _ _ [] first_instant
    (by simp) List.nodup_nil
  obtain ⟨_, _, secondCertified⟩ := @exists_bareSnapshot _ _ _ [] second_instant
    (by simp) List.nodup_nil
  obtain ⟨_, _, thirdCertified⟩ := @exists_bareSnapshot _ _ _ [] third_instant
    (by simp) List.nodup_nil
  obtain ⟨earlier, earlierCertified⟩ := exists_bareCertifiedDelta first_instant
    second_instant (by decide) firstCertified secondCertified
  obtain ⟨later, laterCertified⟩ := exists_bareCertifiedDelta second_instant
    third_instant (by decide) secondCertified thirdCertified
  obtain ⟨direct, directCertified⟩ := exists_bareCertifiedDelta first_instant
    third_instant (by decide) firstCertified thirdCertified
  obtain ⟨fingerprint, _, shape⟩ := @exists_communityRecord "A"
    snapshotRegistry.certificationRoot (by decide) (by decide)
  let record := { communityRecord "A" snapshotRegistry.certificationRoot with
    recordFingerprint := fingerprint }
  have distinct : ([record].map
      DerivedIntelligenceRecord.artifactId).Nodup := List.nodup_singleton _
  have current : ∀ other ∈ [record], other.Current := by
    rw [List.forall_mem_singleton]
    exact ⟨rfl, shape⟩
  have member : record ∈ [record] := List.mem_singleton_self record
  obtain ⟨earlierPlan, earlierPlanned⟩ :=
    @exists_plan _ _ _ _ _ _ "PLAN" _ (by decide) earlierCertified distinct
      current
  obtain ⟨laterPlan, laterPlanned⟩ :=
    @exists_plan _ _ _ _ _ _ "PLAN" _ (by decide) laterCertified distinct
      current
  obtain ⟨directPlan, directPlanned⟩ :=
    @exists_plan _ _ _ _ _ _ "PLAN" _ (by decide) directCertified distinct
      current
  have earlierKept : Preserves sampleFromisoformat snapshotRegistry
      deltaRegistry record _ _ :=
    ⟨earlier, _, _, earlierPlan, earlierCertified, earlierPlanned, member,
      (mem_preserved_iff_agreesOn earlierCertified earlierPlanned
        member).mpr (agreesOn_bareSnapshot _ _ _ _ _ _ _ _ _)⟩
  have laterKept : Preserves sampleFromisoformat snapshotRegistry
      deltaRegistry record _ _ :=
    ⟨later, _, _, laterPlan, laterCertified, laterPlanned, member,
      (mem_preserved_iff_agreesOn laterCertified laterPlanned member).mpr
        (agreesOn_bareSnapshot _ _ _ _ _ _ _ _ _)⟩
  exact ⟨record, _, _, _, earlierKept, laterKept, direct, "PLAN", [record],
    directPlan, directCertified, directPlanned, member,
    (refresh_composes sampleFromisoformat snapshotRegistry deltaRegistry
      record).1 _ _ _ earlierKept laterKept direct "PLAN" [record] directPlan
        directCertified directPlanned member⟩

end SanTanHeights.Community
