import SanTanHeights.Publication.Staging

/-!
# All or nothing

A publication either swaps the pointers of its target together with the
history and its stage, or leaves the pointers and the history alone.  What it
does after an exception is for its caller to roll back.
-/

namespace SanTanHeights.Publication

open Foundation Foundation.Outcome Shared

/-! ## The freshness check -/

/-- What is read of the answer of a variant freshness checker. -/
structure VariantFreshness where
  status : String
  reasonCode : Option String

/-- Any `variant_freshness_checker`: its answer for a property, a target
snapshot and a variant. -/
abbrev VariantFreshnessChecker := Uuid → Uuid → Variant → VariantFreshness

/-- `PrePublicationVariantFreshness.check`. -/
def prePublicationVariantFreshness
    (checker : VariantFreshnessChecker) (report : PublicationReport) :
    FreshnessResult :=
  let result := checker report.propertyId report.snapshotId report.reportVariant
  let reasonOr := fun (reasonCode : String) =>
    (result.reasonCode.filter fun given => given ≠ "").getD reasonCode
  if result.status = "FRESH" then ⟨.fresh, none⟩
  else if result.status = "STALE" then
    ⟨.stale, some (reasonOr "PREPUBLICATION_VARIANT_STALE")⟩
  else ⟨.blocked, some (reasonOr "PREPUBLICATION_FRESHNESS_BLOCKED")⟩

/-- A call whose report is checked before it is published. -/
def StageCall.checkedBy (call : StageCall) (checker : VariantFreshnessChecker) : StageCall :=
  { call with
    freshness := prePublicationVariantFreshness checker call.report }

theorem prePublicationVariantFreshness_fresh
    {checker : VariantFreshnessChecker} {report : PublicationReport} :
    (prePublicationVariantFreshness checker report).status = .fresh ↔
      (checker report.propertyId report.snapshotId report.reportVariant).status = "FRESH" := by
  simp only [prePublicationVariantFreshness]
  split_ifs with fresh stale
  · simp [fresh]
  · simp [fresh]
  · simp [fresh]

/-! ## Outcomes -/

/-- The report of a publication that came through was fresh. -/
theorem fresh_of_published {service : AtomicPublicationService} {call : StageCall}
    {database next : Database} {result : PublicationResult}
    (ran : service.publish call database = .ok (result, next))
    (published : result.status = .published) :
    call.freshness.status = .fresh := by
  unfold AtomicPublicationService.publish at ran
  cases frozen : frozenBy service.hasFreezes database call.stage.target
    call.stage.channel with
  | some freeze =>
      simp only [frozen, pure_eq_ok, Prod.mk.injEq] at ran
      rw [← ran.1] at published
      cases published
  | none =>
      simp only [frozen] at ran
      split_ifs at ran with allowed
      · obtain ⟨reason, _, ended⟩ := bind_eq_ok.mp ran
        simp only [pure_eq_ok, Prod.mk.injEq] at ended
        rw [← ended.1] at published
        cases published
      · cases status : call.freshness.status with
        | fresh => rfl
        | stale =>
            simp only [status, pure_eq_ok, Prod.mk.injEq] at ran
            rw [← ran.1] at published
            cases published
        | blocked =>
            simp only [status, pure_eq_ok, Prod.mk.injEq] at ran
            rw [← ran.1] at published
            cases published

/-- Everything that a publication of a stage does. -/
structure Published (call : StageCall) (before after : Database) : Prop where
  current :
    (after.reportCurrent call.stage.target).map CurrentReport.reportId = some call.stage.reportId
  delivered :
    (after.channelPointers call.stage.target call.stage.channel).map
        (fun row => (row.reportId, row.renderId)) =
      some (call.stage.reportId, call.stage.renderId)
  recorded : ∃ superseded : List HistoryRecord,
    after.history = before.history ++ superseded ++
        [call.record .published call.stage.reportId call.stage.renderId none] ∧
      ∀ record ∈ superseded, record.action ≠ .published
  staged : ∃ row, before.staging call.stage.stagingId = some row ∧
    row.stagingState = call.stage.stagingState ∧
      after.staging call.stage.stagingId =
        some { row with stagingState := .published, reasonCode := none }

/-- The writes of a publication, once its stage has moved. -/
theorem published_of_transition {service : AtomicPublicationService} {call : StageCall}
    {before after : Database}
    (moved : (before.withState (publishWrites service.hasHistory call
          before.toPublicationState)).transition
      call.stage.stagingId call.stage.stagingState .published none = (true, after)) :
    Published call before after := by
  have ended := congrArg Prod.snd moved
  simp only at ended
  subst ended
  have pointers := pointers_publishWrites service call before.toPublicationState
  obtain ⟨row, found, inState⟩ := transition_succeeds moved
  constructor
  · rw [transition_publicationState, withState_publicationState]
    apply (congrFun (congrArg Pointers.current pointers) _).trans
    simp [Pointers.setChannel, Pointers.setCurrent]
  · rw [transition_publicationState, withState_publicationState]
    apply (congrFun (congrFun (congrArg Pointers.channels pointers) _) _).trans
    simp
  · rw [transition_publicationState, withState_publicationState, publishWrites_eq]
    refine ⟨_, (List.append_assoc ..).symm, fun record present => ?_⟩
    rcases action_of_mem_displacedRows present with is | is <;> simp [is]
  · refine ⟨row, found, inState, ?_⟩
    rw [transition_staging, found, Option.map_some, if_pos ⟨rfl, inState⟩]

/-- A publication that returns has published an allowed and fresh report
completely, or has refused and left the pointers and the history alone. -/
theorem publish_all_or_nothing (service : AtomicPublicationService) (call : StageCall)
    (checker : VariantFreshnessChecker) (before after : Database) (result : PublicationResult)
    (ran : service.publish (call.checkedBy checker) before =
      .ok (result, after)) :
    (result.status = .published ∧
        (service.guard call.stage call.report call.render).allowed = true ∧
        (checker call.report.propertyId call.report.snapshotId
          call.report.reportVariant).status = "FRESH" ∧
        Published call before after) ∨
      ((result.status = .blocked ∨ result.status = .stale) ∧
        after.reportCurrent = before.reportCurrent ∧
        after.channelPointers = before.channelPointers ∧
        after.history = before.history) := by
  rcases publish_cases ran with
    ⟨refused, _, _, -, rfl⟩ | ⟨rfl, -, allowed, moved⟩
  · refine .inr ⟨?_, ?_⟩
    · cases status : result.status with
      | published => exact absurd status refused
      | blocked => exact .inl rfl
      | stale => exact .inr rfl
    · rw [transition_publicationState]
      exact ⟨rfl, rfl, rfl⟩
  · refine .inl ⟨rfl, allowed, ?_, ?_⟩
    · exact prePublicationVariantFreshness_fresh.mp
        (fresh_of_published ran rfl)
    · obtain ⟨current, delivered, recorded, staged⟩ :=
        published_of_transition moved
      exact ⟨current, delivered, recorded, staged⟩

theorem publish_all_or_nothing_sample :
    (PublicationStatus.published = .published ∧
        (publicationGuard (sampleCall 10 11 12 .web).stage
          (sampleCall 10 11 12 .web).report
          (sampleCall 10 11 12 .web).render).allowed = true ∧
        "FRESH" = "FRESH" ∧
        Published (sampleCall 10 11 12 .web)
          (sampleDatabase [sampleCall 10 11 12 .web] []) sampleLive) ∨
      ((PublicationStatus.published = .blocked ∨
          PublicationStatus.published = .stale) ∧
        sampleLive.reportCurrent =
          (sampleDatabase [sampleCall 10 11 12 .web] []).reportCurrent ∧
        sampleLive.channelPointers =
          (sampleDatabase [sampleCall 10 11 12 .web] []).channelPointers ∧
        sampleLive.history =
          (sampleDatabase [sampleCall 10 11 12 .web] []).history) :=
  publish_all_or_nothing samplePublisher (sampleCall 10 11 12 .web)
    (fun _ _ _ => ⟨"FRESH", none⟩) _ _ ⟨.published, []⟩ rfl

end SanTanHeights.Publication
