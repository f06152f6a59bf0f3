import SanTanHeights.Foundation.Outcome
import SanTanHeights.Publication.Tables

/-!
# Publishing

`AtomicPublicationService.publish`, and what it checks before any pointer
moves: `PublicationGuardEngine.evaluate` and the outcome of the freshness
check.  It runs in its caller's transaction, which an exception rolls back.
Cache events are left out: no operation reads them.
-/

namespace SanTanHeights.Publication

open Foundation Foundation.Outcome Shared

/-- `render_type`. -/
inductive RenderType where
  | web
  | pdf
  | print
  deriving DecidableEq, Repr

/-- What the guard reads of a report version. -/
structure PublicationReport where
  reportId : Uuid
  propertyId : Uuid
  reportVariant : Variant
  snapshotId : Uuid
  contentState : ContentState
  qaStatus : QaStatus
  publicationEligible : Bool
  healthState : HealthState
  deriving DecidableEq

/-- What the guard reads of a render version. -/
structure PublicationRender where
  renderId : Uuid
  reportId : Uuid
  renderType : RenderType
  contentState : ContentState
  qaStatus : QaStatus
  publicationEligible : Bool
  healthState : HealthState
  storageUri : Option String
  artifactHash : Option String
  deriving DecidableEq

structure PublicationGuardResult where
  allowed : Bool
  reasons : List String
  deriving DecidableEq, Repr

/-- Any `guard_engine`. -/
abbrev GuardEngine :=
  PublicationStage → PublicationReport → PublicationRender → PublicationGuardResult

/-- `CHANNEL_RENDER`. -/
def channelRender : Channel → RenderType
  | .web => .web
  | .pdfDownload => .pdf
  | .print => .print

/-- The staging states a publication may start from. -/
def StagingState.active : StagingState → Bool
  | .staged => true
  | .validating => true
  | .ready => true
  | _ => false

/-- A text that is there and not empty. -/
def isGiven (text : Option String) : Bool :=
  text.any fun content => content ≠ ""

/-- The checks of `evaluate` that fail, with their reasons. -/
def guardReasons (stage : PublicationStage) (report : PublicationReport)
    (render : PublicationRender) : List String :=
  [(!stage.stagingState.active, "PUBLICATION_STAGE_NOT_ACTIVE"),
    (report.propertyId ≠ stage.target.propertyId, "REPORT_PROPERTY_MISMATCH"),
    (report.reportVariant ≠ stage.target.reportVariant, "REPORT_VARIANT_MISMATCH"),
    (report.reportId ≠ stage.reportId, "REPORT_ID_MISMATCH"),
    (report.contentState ≠ .ready ∨ report.qaStatus ≠ .pass ∨
        report.publicationEligible = false ∨ report.healthState ≠ .clean,
      "REPORT_NOT_PUBLICATION_ELIGIBLE"),
    (render.renderId ≠ stage.renderId ∨ render.reportId ≠ report.reportId,
      "RENDER_LINEAGE_MISMATCH"),
    (render.renderType ≠ channelRender stage.channel, "RENDER_CHANNEL_MISMATCH"),
    (render.contentState ≠ .ready ∨ render.qaStatus ≠ .pass ∨
        render.publicationEligible = false ∨ render.healthState ≠ .clean,
      "RENDER_NOT_PUBLICATION_ELIGIBLE"),
    (!isGiven render.storageUri || !isGiven render.artifactHash,
      "RENDER_ARTIFACT_INCOMPLETE")].filterMap
    fun (check : Bool × String) => if check.1 then some check.2 else none

/-- `PublicationGuardEngine.evaluate`. -/
def publicationGuard : GuardEngine :=
  fun stage report render =>
    let reasons := guardReasons stage report render
    ⟨reasons.isEmpty, reasons⟩

/-- A stage that is not active is refused, and for that reason first. -/
theorem publicationGuard_of_not_active {stage : PublicationStage}
    (inactive : stage.stagingState.active = false)
    (report : PublicationReport) (render : PublicationRender) :
    (publicationGuard stage report render).allowed = false ∧
      (publicationGuard stage report render).reasons.head? =
        some "PUBLICATION_STAGE_NOT_ACTIVE" := by
  simp [publicationGuard, guardReasons, inactive]

/-- Nothing passes the guard whose report is not eligible. -/
theorem report_eligible_of_publicationGuard
    {stage : PublicationStage} {report : PublicationReport} {render : PublicationRender}
    (allowed : (publicationGuard stage report render).allowed = true) :
    report.contentState = .ready ∧ report.qaStatus = .pass ∧
      report.publicationEligible = true ∧ report.healthState = .clean := by
  by_contra ineligible
  have refused : "REPORT_NOT_PUBLICATION_ELIGIBLE" ∈
      guardReasons stage report render := by
    simp only [guardReasons, List.mem_filterMap, List.mem_cons]
    refine ⟨_, .inr (.inr (.inr (.inr (.inl rfl)))), ?_⟩
    rw [if_pos]
    simp only [decide_eq_true_eq]
    grind
  rw [publicationGuard, List.isEmpty_iff] at allowed
  rw [allowed] at refused
  cases refused

/-- The status of a freshness check. -/
inductive FreshnessStatus where
  | fresh
  | stale
  | blocked
  deriving DecidableEq, Repr

/-- `PrePublicationFreshnessResult`. -/
structure FreshnessResult where
  status : FreshnessStatus
  reasonCode : Option String
  deriving DecidableEq, Repr

/-! ## The service -/

/-- A stage with the report and the render it is for, who acts, and what the
freshness check answers. -/
structure StageCall where
  stage : PublicationStage
  report : PublicationReport
  render : PublicationRender
  actor : String
  freshness : FreshnessResult

/-- A row of the history about a stage. -/
def StageCall.record (call : StageCall) (action : Action) (reportId renderId : Uuid)
    (reasonCode : Option String) : HistoryRecord where
  target := call.stage.target
  reportId := reportId
  action := action
  actor := call.actor
  channel := some call.stage.channel
  renderId := some renderId
  reasonCode := reasonCode
  correlationId := call.stage.correlationId

/-- `record_pointer_replacement`, for the channel of a stage. -/
def recordPointerReplacement (call : StageCall) (previousReport : Uuid) (previousRender : Uuid)
    (newReport newRender : Uuid) (reasonCode : String)
    (state : PublicationState) : PublicationState :=
  let withRender :=
    if previousRender ≠ newRender then
      state.appendHistory (call.record .superseded previousReport previousRender (some reasonCode))
    else state
  if previousReport ≠ newReport then
    withRender.appendHistory
      { call.record .semanticSuperseded previousReport previousRender
          (some reasonCode) with
        channel := none
        renderId := none }
  else withRender

/-- `get_channel_pointer`, for the channel of a stage. -/
def StageCall.priorChannel
    (call : StageCall) (state : PublicationState) : Option ChannelPointer :=
  state.channelPointers call.stage.target call.stage.channel

/-- `get_current_report`, for the target of a stage. -/
def StageCall.priorReport
    (call : StageCall) (state : PublicationState) : Option CurrentReport :=
  state.reportCurrent call.stage.target

/-! ## Publishing -/

/-- The collaborators of `AtomicPublicationService`: its guard, and whether
freezes and history are configured. -/
structure AtomicPublicationService where
  guard : GuardEngine
  hasFreezes : Bool
  hasHistory : Bool

inductive PublicationStatus where
  | published
  | blocked
  | stale
  deriving DecidableEq, Repr

structure PublicationResult where
  status : PublicationStatus
  reasonCodes : List String
  deriving DecidableEq, Repr

/-- A freeze that the configured repository reports. -/
def frozenBy (hasFreezes : Bool) (database : Database) (target : Target)
    (channel : Channel) : Option (Uuid × String) :=
  if hasFreezes then database.activeFreeze target channel else none

/-- The pointer and history writes of `publish`. -/
def publishWrites (hasHistory : Bool) (call : StageCall) (state : PublicationState) :
    PublicationState :=
  let stage := call.stage
  let recorded :=
    match call.priorChannel state with
    | some previous =>
        if hasHistory then
          recordPointerReplacement call
            ((call.priorReport state).elim previous.reportId CurrentReport.reportId)
            previous.renderId stage.reportId stage.renderId
            "PUBLISH_REPLACEMENT" state
        else state
    | none => state
  ((recorded.setCurrentReport stage.target stage.reportId call.actor
    ).setChannelPointer stage.target stage.channel stage.reportId
      stage.renderId call.actor).appendHistory
    (call.record .published stage.reportId stage.renderId none)

/-- `AtomicPublicationService.publish`. -/
def AtomicPublicationService.publish (service : AtomicPublicationService) (call : StageCall)
    (database : Database) : Except String (PublicationResult × Database) :=
  let stage := call.stage
  let refuse := fun toState reason =>
    (database.transition stage.stagingId stage.stagingState toState (some reason)).2
  match frozenBy service.hasFreezes database stage.target stage.channel with
  | some (_, reason) =>
      return (⟨.blocked, [reason]⟩, refuse .blocked reason)
  | none => do
      let guard := service.guard stage call.report call.render
      if guard.allowed = false then
        let reason ← orRaise guard.reasons.head? "tuple index out of range"
        return (⟨.blocked, guard.reasons⟩, refuse .blocked reason)
      let fresh := call.freshness
      let reason := fresh.reasonCode.filter fun reason => reason ≠ ""
      let because := reason.getD "PREPUBLICATION_FRESHNESS_FAILED"
      let failed := fun toState =>
        (database.transition stage.stagingId stage.stagingState toState fresh.reasonCode).2
      match fresh.status with
      | .stale => return (⟨.stale, [because]⟩, failed .stale)
      | .blocked => return (⟨.blocked, [because]⟩, failed .blocked)
      | .fresh =>
          let (moved, next) :=
            (database.withState (publishWrites service.hasHistory call
                database.toPublicationState)).transition
              stage.stagingId stage.stagingState .published none
          require (moved = true)
            "publication staging state changed during publish"
          return (⟨.published, []⟩, next)

end SanTanHeights.Publication
