import SanTanHeights.Community.Preservation

/-!
# Applied plans

What a refresh returns under a plan, for records that may have changed since
the plan was made.
-/

namespace SanTanHeights.Community

open Foundation Foundation.Sorting Foundation.Outcome Shared

/-! ## Lookups -/

theorem missingFrom_eq_nil_iff {left right : List String} :
    missingFrom left right = [] ↔ left ⊆ right := by
  rw [missingFrom, List.eq_nil_iff_forall_not_mem, List.subset_def]
  apply forall_congr'
  intro artifactId
  simp

/-- The record under an identifier does not depend on the order. -/
theorem artifact?_perm {records others : List DerivedIntelligenceRecord}
    (permuted : records.Perm others)
    (distinct : (records.map DerivedIntelligenceRecord.artifactId).Nodup) :
    artifact? others = artifact? records := by
  funext artifactId
  have alsoDistinct := (permuted.map _).nodup_iff.mp distinct
  apply Option.ext
  intro record
  rw [artifact?, artifact?, Merging.get_eq_some_iff distinct,
    Merging.get_eq_some_iff alsoDistinct, permuted.mem_iff]

/-! ## Steps -/

section Steps

variable {registry : RefreshRegistry} {plan : SelectiveRefreshPlan}
  {currentRecords replacements : List DerivedIntelligenceRecord}
  {decision : RefreshDecision}

/-- What a replacement is to the record that it replaces. -/
structure Replaces (plan : SelectiveRefreshPlan) (decision : RefreshDecision)
    (record replacement : DerivedIntelligenceRecord) : Prop where
  sameType : replacement.artifactType = record.artifactType
  sameScope : replacement.scope = record.scope
  sameScopeId : replacement.scopeId = record.scopeId
  certified : replacement.certificationState = "CERTIFIED"
  bound : replacement.sourceSnapshotSemanticHash = plan.afterSnapshotSemanticHash
  deltaLineage : plan.deltaFingerprint ∈ replacement.lineageFingerprints
  decisionLineage : decision.decisionFingerprint ∈ replacement.lineageFingerprints

theorem checkReplacement_eq_ok {record replacement : DerivedIntelligenceRecord} :
    checkReplacement refreshRegistry plan decision record replacement = .ok () ↔
      Replaces plan decision record replacement := by
  simp only [checkReplacement, require_bind_eq_ok, require_eq_ok,
    refreshRegistry, List.mem_singleton]
  constructor
  · rintro ⟨certified, ⟨sameType, sameScope, sameScopeId⟩, bound, deltaLineage, decisionLineage⟩
    exact ⟨sameType, sameScope, sameScopeId, certified, bound, deltaLineage, decisionLineage⟩
  · intro replaces
    exact ⟨replaces.certified, ⟨replaces.sameType, replaces.sameScope,
      replaces.sameScopeId⟩, replaces.bound, replaces.deltaLineage, replaces.decisionLineage⟩

/-- A decision keeps the current record or takes its replacement. -/
theorem refreshed_eq_ok_iff {kept : DerivedIntelligenceRecord × Bool} :
    refreshed registry plan currentRecords replacements decision = .ok kept ↔
      ∃ old, artifact? currentRecords decision.artifactId = some old ∧
        old.recordFingerprint = decision.currentRecordFingerprint ∧
          (decision.decision = .noImpact ∧ (old, false) = kept ∨
            decision.decision = .refreshRequired ∧ ∃ replacement,
              artifact? replacements decision.artifactId = some replacement ∧
                checkReplacement registry plan decision old replacement = .ok () ∧
                  (replacement, true) = kept) := by
  rw [refreshed, bind_eq_ok]
  simp only [orRaise_eq_ok, require_bind_eq_ok]
  cases decision.decision with
  | noImpact => simp
  | refreshRequired => simp [bind_eq_ok, Unique.exists_iff, -bind_pure_comp]

/-- What a decision keeps has the identifier of the decision. -/
theorem artifactId_of_refreshed {kept : DerivedIntelligenceRecord × Bool}
    (refreshes : refreshed registry plan currentRecords replacements decision = .ok kept) :
    kept.1.artifactId = decision.artifactId := by
  obtain ⟨old, found, -, ⟨-, rfl⟩ | ⟨-, replacement, replaced, -, rfl⟩⟩ :=
    refreshed_eq_ok_iff.mp refreshes
  · exact Merging.key_of_get found
  · exact Merging.key_of_get replaced

end Steps

/-! ## Refreshes -/

section Refreshes

variable {registry : RefreshRegistry} {plan : SelectiveRefreshPlan}
  {currentRecords replacements : List DerivedIntelligenceRecord}
  {listRepr : List String → String} {resultId : String}
  {result : SelectiveRefreshResult}

/-- What a refresh that returns has checked, up to its fingerprint. -/
theorem applySelectiveRefresh_eq_ok_iff :
    applySelectiveRefresh registry plan currentRecords replacements listRepr
        resultId = .ok result ↔
      Text.isBlank resultId = false ∧
        validateRefreshPlanReplay plan = .ok true ∧
          (currentRecords.map DerivedIntelligenceRecord.artifactId).Nodup ∧
          (replacements.map DerivedIntelligenceRecord.artifactId).Nodup ∧
            (∀ artifactId, artifactId ∈ plan.refreshArtifactIds ↔ artifactId ∈
                replacements.map DerivedIntelligenceRecord.artifactId) ∧
              ∃ output,
                plan.decisions.mapM (refreshed registry plan currentRecords
                    replacements) = .ok output ∧
                  (∀ artifactId, artifactId ∈ (resultRecord plan resultId
                        output).records.map DerivedIntelligenceRecord.artifactId ↔
                      artifactId ∈ currentRecords.map DerivedIntelligenceRecord.artifactId) ∧
                    ∃ fingerprint,
                      hash (resultRecord plan resultId output).payload =
                          .ok fingerprint ∧
                        { resultRecord plan resultId output with
                          resultFingerprint := fingerprint } = result := by
  have both : ∀ left right : List String,
      (missingFrom left right = [] ∧ missingFrom right left = []) ↔
        ∀ artifactId, artifactId ∈ left ↔ artifactId ∈ right := by
    intro left right
    rw [missingFrom_eq_nil_iff, missingFrom_eq_nil_iff, List.subset_def, List.subset_def]
    grind
  simp only [applySelectiveRefresh, require_bind_eq_ok, and_congr_right_iff]
  intro _
  constructor
  · intro applied
    obtain ⟨replays, replayed, applied⟩ := bind_eq_ok.mp applied
    simp only [require_bind_eq_ok] at applied
    obtain ⟨rfl, ⟨distinct, alsoDistinct⟩, matched, applied⟩ := applied
    obtain ⟨output, traversed, applied⟩ := bind_eq_ok.mp applied
    rw [require_bind_eq_ok] at applied
    simp only [bind_eq_ok, pure_eq_ok] at applied
    obtain ⟨kept, fingerprint, hashed, rfl⟩ := applied
    exact ⟨replayed, distinct, alsoDistinct, (both _ _).mp matched, output,
      traversed, (both _ _).mp kept, fingerprint, hashed, rfl⟩
  · rintro ⟨replayed, distinct, alsoDistinct, matched, output, traversed,
      kept, fingerprint, hashed, rfl⟩
    refine bind_eq_ok.mpr ⟨true, replayed, ?_⟩
    simp only [require_bind_eq_ok]
    refine ⟨trivial, ⟨distinct, alsoDistinct⟩, (both _ _).mpr matched, ?_⟩
    refine bind_eq_ok.mpr ⟨output, traversed, ?_⟩
    rw [require_bind_eq_ok]
    simp only [bind_eq_ok, pure_eq_ok]
    exact ⟨(both _ _).mpr kept, fingerprint, hashed, rfl⟩

/-- A refresh does not depend on the order of the records. -/
theorem applySelectiveRefresh_perm
    {otherRecords otherReplacements : List DerivedIntelligenceRecord}
    (permuted : currentRecords.Perm otherRecords)
    (alsoPermuted : replacements.Perm otherReplacements)
    (applied : applySelectiveRefresh registry plan currentRecords
      replacements listRepr resultId = .ok result) :
    applySelectiveRefresh registry plan otherRecords otherReplacements
      listRepr resultId = .ok result := by
  obtain ⟨identified, replayed, distinct, alsoDistinct, matched, output,
    traversed, kept, hashed⟩ := applySelectiveRefresh_eq_ok_iff.mp applied
  have sameStep : refreshed registry plan otherRecords otherReplacements =
      refreshed registry plan currentRecords replacements := by
    funext decision
    rw [refreshed, refreshed, artifact?_perm permuted distinct,
      artifact?_perm alsoPermuted alsoDistinct]
  apply applySelectiveRefresh_eq_ok_iff.mpr
  rw [sameStep]
  refine ⟨identified, replayed, (permuted.map _).nodup_iff.mp distinct,
    (alsoPermuted.map _).nodup_iff.mp alsoDistinct, ?_, output, traversed, ?_, hashed⟩
  · intro artifactId
    rw [matched, (alsoPermuted.map _).mem_iff]
  · intro artifactId
    rw [kept, (permuted.map _).mem_iff]

end Refreshes

/-! ## Decisions -/

section Decisions

variable {registry : RefreshRegistry} {planId : String}
  {delta : CommunityDelta}
  {plannedRecords : List DerivedIntelligenceRecord}
  {plan : SelectiveRefreshPlan}

/-- The decisions of a plan, from the lists that it keeps of them. -/
theorem decisions_of_plan
    (planned : buildSelectiveRefreshPlan registry planId delta plannedRecords = .ok plan) :
    (plannedRecords.map DerivedIntelligenceRecord.artifactId).Nodup ∧
      (sortedBy DerivedIntelligenceRecord.artifactId plannedRecords).mapM
          (makeDecision registry delta) = .ok plan.decisions ∧
        plan.refreshArtifactIds = artifactIds .refreshRequired plan.decisions ∧
          plan.preservedArtifactIds = artifactIds .noImpact plan.decisions := by
  obtain ⟨_, _, _, distinct, decisions, decided, _, _, _, _, rfl⟩ :=
    buildSelectiveRefreshPlan_eq_ok_iff.mp planned
  exact ⟨distinct, decided, rfl, rfl⟩

/-- The decision about a record names it and its fingerprint. -/
theorem names_of_makeDecision {record : DerivedIntelligenceRecord} {decision : RefreshDecision}
    (made : makeDecision registry delta record = .ok decision) :
    decision.artifactId = record.artifactId ∧
      decision.currentRecordFingerprint = record.recordFingerprint := by
  obtain ⟨_, _, _, _, rfl⟩ := makeDecision_eq_ok_iff.mp made
  exact ⟨rfl, rfl⟩

theorem map_artifactId_decisions
    (planned : buildSelectiveRefreshPlan registry planId delta plannedRecords = .ok plan) :
    (plan.decisions.map RefreshDecision.artifactId).Perm
      (plannedRecords.map DerivedIntelligenceRecord.artifactId) := by
  obtain ⟨-, decided, -, -⟩ := decisions_of_plan planned
  have named : (sortedBy DerivedIntelligenceRecord.artifactId
      plannedRecords).map DerivedIntelligenceRecord.artifactId =
        plan.decisions.map RefreshDecision.artifactId :=
    map_eq_of_mapM decided fun _ _ made => (names_of_makeDecision made).1.symm
  rw [← named]
  exact (sortedBy_perm _ _).map _

theorem mem_artifactIds {kind : Decision} {decisions : List RefreshDecision}
    {artifactId : String} :
    artifactId ∈ artifactIds kind decisions ↔
      ∃ decision ∈ decisions, decision.decision = kind ∧ decision.artifactId = artifactId := by
  simp only [artifactIds, List.mem_map, List.mem_filter, decide_eq_true_eq, and_assoc]

/-- Every decision is of one of the two kinds. -/
theorem artifactIds_append_perm (decisions : List RefreshDecision) :
    (artifactIds .refreshRequired decisions ++
      artifactIds .noImpact decisions).Perm (decisions.map RefreshDecision.artifactId) := by
  have other : (fun decision : RefreshDecision =>
      decide (decision.decision = .noImpact)) =
        fun decision => !decide (decision.decision = .refreshRequired) := by
    funext decision
    cases decision.decision <;> rfl
  rw [artifactIds, artifactIds, other, ← List.map_append]
  exact (List.filter_append_perm _ decisions).map _

end Decisions

/-! ## Exactness -/

/-- No current record keeps the identifier and the fingerprint of a planned
record and differs from it in another field. -/
def Undisguised (plannedRecords currentRecords : List DerivedIntelligenceRecord) : Prop :=
  ∀ current ∈ currentRecords, ∀ record ∈ plannedRecords,
    current.artifactId = record.artifactId →
      current.recordFingerprint = record.recordFingerprint → current = record

section Exactness

variable (plan : SelectiveRefreshPlan)
  (plannedRecords currentRecords replacements : List DerivedIntelligenceRecord)
  (listRepr : List String → String) (resultId : String)
  (result : SelectiveRefreshResult)

/-- A refresh does what its plan says, and nothing else. -/
structure AppliesPlan : Prop where
  sameIds : (result.records.map DerivedIntelligenceRecord.artifactId).Perm
    (currentRecords.map DerivedIntelligenceRecord.artifactId)
  preserved : ∀ record ∈ plannedRecords,
    record.artifactId ∈ plan.preservedArtifactIds → record ∈ result.records
  replaced : ∀ record ∈ plannedRecords,
    record.artifactId ∈ plan.refreshArtifactIds →
      ∃ decision ∈ plan.decisions, decision.artifactId = record.artifactId ∧
          ∃ replacement ∈ result.records, (∀ other, other = replacement ↔
              other ∈ replacements ∧ other.artifactId = record.artifactId) ∧
              Replaces plan decision record replacement
  partition :
    (result.refreshedArtifactIds ++ result.preservedArtifactIds).Perm
      (currentRecords.map DerivedIntelligenceRecord.artifactId)
  undrifted : currentRecords ⊆ plannedRecords
  unordered : ∀ otherRecords otherReplacements,
    currentRecords.Perm otherRecords →
      replacements.Perm otherReplacements →
        applySelectiveRefresh refreshRegistry plan otherRecords
          otherReplacements listRepr resultId = .ok result

variable {plan plannedRecords currentRecords replacements listRepr resultId
  result} {planId : String} {delta : CommunityDelta}
  {record : DerivedIntelligenceRecord}

/-- What a refresh makes of a planned record. -/
theorem kept_of_planned
    (planned : buildSelectiveRefreshPlan refreshRegistry planId delta plannedRecords = .ok plan)
    (applied : applySelectiveRefresh refreshRegistry plan currentRecords
      replacements listRepr resultId = .ok result)
    (member : record ∈ plannedRecords) :
    ∃ decision ∈ plan.decisions, decision.artifactId = record.artifactId ∧
      ∃ old ∈ currentRecords, old.artifactId = record.artifactId ∧
        old.recordFingerprint = record.recordFingerprint ∧
          (decision.decision = .noImpact ∧ old ∈ result.records ∨
            decision.decision = .refreshRequired ∧ ∃ replacement ∈ result.records,
                artifact? replacements record.artifactId = some replacement ∧
                  Replaces plan decision old replacement) := by
  obtain ⟨-, decided, -, -⟩ := decisions_of_plan planned
  obtain ⟨-, -, -, -, -, output, traversed, -, _, -, rfl⟩ :=
    applySelectiveRefresh_eq_ok_iff.mp applied
  obtain ⟨decision, listed, made⟩ := exists_ok_of_mapM decided ((mem_sortedBy _ _ _).mpr member)
  obtain ⟨named, fingerprint⟩ := names_of_makeDecision made
  obtain ⟨kept, produced, refreshes⟩ := exists_ok_of_mapM traversed listed
  obtain ⟨old, found, same, branch⟩ := refreshed_eq_ok_iff.mp refreshes
  rw [named] at found branch
  have output : kept.1 ∈ (resultRecord plan resultId output).records :=
    (mem_sortedBy _ _ _).mpr (List.mem_map_of_mem produced)
  refine ⟨decision, listed, named, old, Merging.mem_of_get found,
    Merging.key_of_get found, same.trans fingerprint, ?_⟩
  rcases branch with ⟨kind, rfl⟩ | ⟨kind, replacement, replaced, checked, rfl⟩
  · exact .inl ⟨kind, output⟩
  · exact .inr ⟨kind, replacement, output, replaced, checkReplacement_eq_ok.mp checked⟩

/-- The records of a result are those of the decisions. -/
theorem map_artifactId_result
    (planned : buildSelectiveRefreshPlan refreshRegistry planId delta plannedRecords = .ok plan)
    (applied : applySelectiveRefresh refreshRegistry plan currentRecords
      replacements listRepr resultId = .ok result) :
    (result.records.map DerivedIntelligenceRecord.artifactId).Perm
        (plannedRecords.map DerivedIntelligenceRecord.artifactId) ∧
      (plannedRecords.map DerivedIntelligenceRecord.artifactId).Perm
        (currentRecords.map DerivedIntelligenceRecord.artifactId) := by
  obtain ⟨distinct, -, -, -⟩ := decisions_of_plan planned
  obtain ⟨-, -, alsoDistinct, -, -, output, traversed, kept, _, -, rfl⟩ :=
    applySelectiveRefresh_eq_ok_iff.mp applied
  have named : plan.decisions.map RefreshDecision.artifactId =
      output.map fun kept => kept.1.artifactId :=
    map_eq_of_mapM traversed fun _ _ refreshes => (artifactId_of_refreshed refreshes).symm
  have produced : ((resultRecord plan resultId output).records.map
      DerivedIntelligenceRecord.artifactId).Perm
        (plan.decisions.map RefreshDecision.artifactId) := by
    rw [named]
    apply ((sortedBy_perm _ _).map _).trans
    rw [List.map_map]
    exact .refl _
  have same := produced.trans (map_artifactId_decisions planned)
  refine ⟨same, (List.perm_ext_iff_of_nodup distinct alsoDistinct).mpr ?_⟩
  intro artifactId
  rw [← kept, same.mem_iff]

/-- A current record has the identifier and the fingerprint of a planned
one. -/
theorem planned_of_current
    (planned : buildSelectiveRefreshPlan refreshRegistry planId delta plannedRecords = .ok plan)
    (applied : applySelectiveRefresh refreshRegistry plan currentRecords
      replacements listRepr resultId = .ok result)
    (member : record ∈ currentRecords) :
    ∃ other ∈ plannedRecords, record.artifactId = other.artifactId ∧
      record.recordFingerprint = other.recordFingerprint := by
  have same := (map_artifactId_result planned applied).2
  obtain ⟨-, -, alsoDistinct, -⟩ := applySelectiveRefresh_eq_ok_iff.mp applied
  obtain ⟨other, listed, sameId⟩ := List.mem_map.mp (same.mem_iff.mpr (List.mem_map_of_mem member))
  obtain ⟨_, _, _, old, present, oldId, fingerprint, -⟩ :=
    kept_of_planned planned applied listed
  obtain rfl : old = record := List.inj_on_of_nodup_map alsoDistinct present
    member (oldId.trans sameId)
  exact ⟨other, listed, sameId.symm, fingerprint⟩

/-- Two decisions of a plan about one artifact are one. -/
theorem decision_ext
    (planned : buildSelectiveRefreshPlan refreshRegistry planId delta plannedRecords = .ok plan)
    {left right : RefreshDecision} (leftListed : left ∈ plan.decisions)
    (rightListed : right ∈ plan.decisions) (same : left.artifactId = right.artifactId) :
    left = right :=
  List.inj_on_of_nodup_map ((map_artifactId_decisions planned).nodup_iff.mpr
      (decisions_of_plan planned).1) leftListed rightListed same

theorem partition_of_applied
    (planned : buildSelectiveRefreshPlan refreshRegistry planId delta plannedRecords = .ok plan)
    (applied : applySelectiveRefresh refreshRegistry plan currentRecords
      replacements listRepr resultId = .ok result) :
    (result.refreshedArtifactIds ++ result.preservedArtifactIds).Perm
      (currentRecords.map DerivedIntelligenceRecord.artifactId) := by
  have same := (map_artifactId_result planned applied).2
  obtain ⟨distinct, -, refreshIds, preservedIds⟩ := decisions_of_plan planned
  obtain ⟨-, -, -, -, -, output, -, -, _, -, rfl⟩ := applySelectiveRefresh_eq_ok_iff.mp applied
  have whole := (artifactIds_append_perm plan.decisions).trans (map_artifactId_decisions planned)
  rw [← refreshIds, ← preservedIds] at whole
  have apart := List.nodup_append.mp (whole.nodup_iff.mpr distinct)
  rw [resultRecord]
  dsimp only
  rw [apart.1.dedup, apart.2.1.dedup]
  exact (((sortedBy_perm _ _).append (sortedBy_perm _ _)).trans whole).trans same

theorem appliesPlan_of_undisguised
    (planned : buildSelectiveRefreshPlan refreshRegistry planId delta plannedRecords = .ok plan)
    (applied : applySelectiveRefresh refreshRegistry plan currentRecords
      replacements listRepr resultId = .ok result)
    (undisguised : Undisguised plannedRecords currentRecords) :
    AppliesPlan plan plannedRecords currentRecords replacements listRepr resultId result := by
  obtain ⟨-, -, refreshIds, preservedIds⟩ := decisions_of_plan planned
  have same := map_artifactId_result planned applied
  refine ⟨same.1.trans same.2, ?_, ?_, partition_of_applied planned applied,
    ?_, fun _ _ permuted alsoPermuted =>
      applySelectiveRefresh_perm permuted alsoPermuted applied⟩
  · intro record member preserved
    rw [preservedIds] at preserved
    obtain ⟨other, otherListed, kind, otherId⟩ := mem_artifactIds.mp preserved
    obtain ⟨decision, listed, named, old, present, oldId, fingerprint,
      branch⟩ := kept_of_planned planned applied member
    obtain rfl := decision_ext planned otherListed listed (otherId.trans named.symm)
    obtain rfl := undisguised old present record member oldId fingerprint
    rcases branch with ⟨-, kept⟩ | ⟨refreshed, -⟩
    · exact kept
    · rw [kind] at refreshed
      cases refreshed
  · intro record member replaced
    rw [refreshIds] at replaced
    obtain ⟨other, otherListed, kind, otherId⟩ := mem_artifactIds.mp replaced
    obtain ⟨decision, listed, named, old, present, oldId, fingerprint,
      branch⟩ := kept_of_planned planned applied member
    obtain rfl := decision_ext planned otherListed listed (otherId.trans named.symm)
    obtain rfl := undisguised old present record member oldId fingerprint
    rcases branch with ⟨preserved, -⟩ | ⟨-, replacement, kept, found, replaces⟩
    · rw [kind] at preserved
      cases preserved
    · obtain ⟨-, -, -, distinct, -⟩ := applySelectiveRefresh_eq_ok_iff.mp applied
      refine ⟨other, otherListed, named, replacement, kept, ?_, replaces⟩
      intro candidate
      rw [← Merging.get_eq_some_iff distinct]
      unfold artifact? at found
      rw [found, Option.some.injEq, eq_comm]
  · intro record member
    obtain ⟨other, listed, sameId, fingerprint⟩ := planned_of_current planned applied member
    rwa [undisguised record member other listed sameId fingerprint]

end Exactness

/-! ## A plan without impact -/

@[simp] theorem DerivedIntelligenceRecord.textual_asdict (record : DerivedIntelligenceRecord) :
    Textual record.asdict := by
  simp [asdict, payload, textual_obj, IsTagged]

theorem SelectiveRefreshResult.textual_payload (result : SelectiveRefreshResult) :
    Textual result.payload := by
  simp [payload, textual_obj, IsTagged]

/-- The plan that is built replays. -/
theorem replays_of_build {registry : RefreshRegistry} {planId : String} {delta : CommunityDelta}
    {records : List DerivedIntelligenceRecord} {plan : SelectiveRefreshPlan}
    (planned : buildSelectiveRefreshPlan registry planId delta records = .ok plan) :
    validateRefreshPlanReplay plan = .ok true := by
  obtain ⟨_, _, _, _, _, _, _, _, fingerprint, hashed, rfl⟩ :=
    buildSelectiveRefreshPlan_eq_ok_iff.mp planned
  refine bind_eq_ok.mpr ⟨fingerprint, hashed, ?_⟩
  rw [pure_eq_ok]
  exact decide_eq_true rfl

/-- A plan that preserves its only record is applied to every record with the
same identifier and fingerprint. -/
theorem exists_applied {planId : String} {delta : CommunityDelta}
    {record other : DerivedIntelligenceRecord} {plan : SelectiveRefreshPlan}
    (planned : buildSelectiveRefreshPlan refreshRegistry planId delta [record] = .ok plan)
    (preserved : record.artifactId ∈ plan.preservedArtifactIds)
    (sameId : other.artifactId = record.artifactId)
    (sameFingerprint : other.recordFingerprint = record.recordFingerprint)
    (listRepr : List String → String) :
    ∃ result, applySelectiveRefresh refreshRegistry plan [other] [] listRepr
      "RESULT" = .ok result := by
  obtain ⟨-, decided, refreshIds, preservedIds⟩ := decisions_of_plan planned
  have alone : sortedBy DerivedIntelligenceRecord.artifactId [record] = [record] := rfl
  rw [alone, mapM_eq_ok, List.forall₂_cons_left_iff] at decided
  obtain ⟨decision, rest, made, none, decisions⟩ := decided
  rw [List.forall₂_nil_left_iff.mp none] at decisions
  obtain ⟨named, fingerprint⟩ := names_of_makeDecision made
  rw [preservedIds, decisions] at preserved
  obtain ⟨_, listed, kind, -⟩ := mem_artifactIds.mp preserved
  rw [List.mem_singleton.mp listed] at kind
  have distinct : ([other].map DerivedIntelligenceRecord.artifactId).Nodup :=
    List.nodup_singleton _
  have refreshes : refreshed refreshRegistry plan [other] [] decision =
      .ok (other, false) := by
    refine refreshed_eq_ok_iff.mpr ⟨other, ?_, ?_, .inl ⟨kind, rfl⟩⟩
    · rw [named, ← sameId]
      exact (Merging.get_eq_some_iff distinct).mpr ⟨List.mem_singleton_self _, rfl⟩
    · rw [fingerprint, sameFingerprint]
  obtain ⟨resultFingerprint, hashed⟩ := exists_hash
    (resultRecord plan "RESULT" [(other, false)]).textual_payload
  refine ⟨_, applySelectiveRefresh_eq_ok_iff.mpr ⟨by decide,
    replays_of_build planned, distinct, List.nodup_nil, ?_,
    [(other, false)], ?_, fun _ => Iff.rfl, resultFingerprint, hashed,
    rfl⟩⟩
  · intro artifactId
    rw [refreshIds, decisions, mem_artifactIds]
    simp [kind]
  · rw [decisions, mapM_eq_ok]
    exact .cons refreshes .nil

/-- A certified delta between two snapshots without a change has a plan that
preserves a record. -/
theorem exists_preservingPlan :
    ∃ record delta plan,
      buildSelectiveRefreshPlan refreshRegistry "PLAN" delta [record] =
          .ok plan ∧
        record.payloadFingerprint = snapshotRegistry.certificationRoot ∧
          record.artifactId ∈ plan.preservedArtifactIds := by
  obtain ⟨_, _, firstCertified⟩ := @exists_bareSnapshot _ _ _ [] first_instant
    (by simp) List.nodup_nil
  obtain ⟨_, _, secondCertified⟩ := @exists_bareSnapshot _ _ _ [] second_instant
    (by simp) List.nodup_nil
  obtain ⟨delta, certified⟩ := exists_bareCertifiedDelta first_instant
    second_instant (by decide) firstCertified secondCertified
  obtain ⟨fingerprint, _, shape⟩ := @exists_communityRecord "A"
    snapshotRegistry.certificationRoot (by decide) (by decide)
  let record := { communityRecord "A" snapshotRegistry.certificationRoot with
    recordFingerprint := fingerprint }
  have current : ∀ other ∈ [record], other.Current := by
    rw [List.forall_mem_singleton]
    exact ⟨rfl, shape⟩
  have distinct : ([record].map
      DerivedIntelligenceRecord.artifactId).Nodup := List.nodup_singleton _
  obtain ⟨plan, planned⟩ := @exists_plan _ _ _ _ _ _ "PLAN" _ (by decide) certified distinct current
  exact ⟨record, delta, plan, planned, rfl, (mem_preserved_iff_agreesOn
    certified planned (List.mem_singleton_self _)).mpr (agreesOn_bareSnapshot _ _ _ _ _ _ _ _ _)⟩

/-! ## Plans that are applied -/

/-- A refresh that returns has applied its plan exactly if no current record
differs from the planned one behind the same fingerprint. -/
theorem applies_plan_iff {plan : SelectiveRefreshPlan}
    {plannedRecords currentRecords replacements :
      List DerivedIntelligenceRecord}
    {listRepr : List String → String} {resultId planId : String}
    {result : SelectiveRefreshResult} {delta : CommunityDelta}
    (planned : buildSelectiveRefreshPlan refreshRegistry planId delta
      plannedRecords = .ok plan)
    (applied : applySelectiveRefresh refreshRegistry plan currentRecords
      replacements listRepr resultId = .ok result) :
    AppliesPlan plan plannedRecords currentRecords replacements listRepr
        resultId result ↔
      Undisguised plannedRecords currentRecords := by
  constructor
  · intro applies current present record member sameId _
    exact List.inj_on_of_nodup_map (decisions_of_plan planned).1
      (applies.undrifted present) member sameId
  · exact appliesPlan_of_undisguised planned applied

theorem applies_plan_sample :
    ∃ record plan result,
      AppliesPlan plan [record] [record] [] (fun _ => "[]") "RESULT"
        result := by
  obtain ⟨record, delta, plan, planned, -, preserved⟩ :=
    exists_preservingPlan
  obtain ⟨result, applied⟩ :=
    exists_applied planned preserved rfl rfl fun _ => "[]"
  refine ⟨record, plan, result, (applies_plan_iff planned applied).mpr ?_⟩
  intro current present planned member _ _
  rw [List.mem_singleton.mp present, List.mem_singleton.mp member]

/-- A record whose payload fingerprint was changed under its old record
fingerprint counts as the record that was planned. -/
theorem disguised_record_preserved :
    ∃ planId delta plan record current result,
      buildSelectiveRefreshPlan refreshRegistry planId delta [record] =
          .ok plan ∧
        applySelectiveRefresh refreshRegistry plan [current] []
            (fun _ => "[]") "RESULT" = .ok result ∧
          current.artifactId = record.artifactId ∧
            Sha256.isHex64 current.payloadFingerprint = true ∧
              current.payloadFingerprint ≠ record.payloadFingerprint ∧
                ¬ AppliesPlan plan [record] [current] [] (fun _ => "[]")
                  "RESULT" result := by
  obtain ⟨record, delta, plan, planned, payload, preserved⟩ :=
    exists_preservingPlan
  let fingerprint :=
    "aaaaaaaaaaaaaaaaaaaaaaaaaaaaaaaaaaaaaaaaaaaaaaaaaaaaaaaaaaaaaaaa"
  have shape : Sha256.isHex64 fingerprint = true :=
    Sha256.isHex64_ofList rfl rfl
  have different : fingerprint ≠ snapshotRegistry.certificationRoot := by
    decide
  let current : DerivedIntelligenceRecord :=
    { record with payloadFingerprint := fingerprint }
  obtain ⟨result, applied⟩ := @exists_applied _ _ _ current _ planned
    preserved rfl rfl fun _ => "[]"
  rw [← payload] at different
  refine ⟨"PLAN", delta, plan, record, current, result, planned, applied,
    rfl, shape, different, ?_⟩
  intro applies
  have member := applies.undrifted (List.mem_singleton_self _)
  exact different (congrArg DerivedIntelligenceRecord.payloadFingerprint
    (List.mem_singleton.mp member))

end SanTanHeights.Community
