import Mathlib.Data.List.MinMax
import Mathlib.Logic.Function.Basic
import SanTanHeights.Foundation.Uuid
import SanTanHeights.Shared.Vocabulary

/-!
# Publication tables

The tables of the `publication` schema and the statements that
`publication_repository.py`, `staging/repository.py` and
`freeze/repository.py` run on them.  Pointer rows are given by their primary
keys; the history lists its rows in insertion order.  Update times are left
out, since nothing reads them.
-/

namespace SanTanHeights.Publication

open Foundation Shared

/-- `reference.publication_channel`. -/
inductive Channel where
  | web
  | pdfDownload
  | print
  deriving DecidableEq, Repr

/-- `ORDER BY channel`. -/
def channels : List Channel :=
  [.pdfDownload, .print, .web]

theorem mem_channels (channel : Channel) : channel ∈ channels := by
  cases channel <;> decide

/-- The primary key of `publication.report_current`. -/
structure Target where
  propertyId : Uuid
  reportVariant : Variant
  deriving DecidableEq

/-- A row of `publication.report_current`. -/
structure CurrentReport where
  reportId : Uuid
  pointerVersion : Nat
  updatedBy : String
  deriving DecidableEq

/-- A row of `publication.channel_pointers`. -/
structure ChannelPointer where
  reportId : Uuid
  renderId : Uuid
  pointerVersion : Nat
  updatedBy : String
  deriving DecidableEq

/-- `publication_history.action`. -/
inductive Action where
  | published
  | renderPromoted
  | republished
  | unpublished
  | rolledBack
  | invalidated
  | withdrawn
  | semanticWithdrawn
  | superseded
  | semanticSuperseded
  deriving DecidableEq, Repr

/-- A row of `publication.publication_history`. -/
structure HistoryRecord where
  target : Target
  reportId : Uuid
  action : Action
  actor : String
  channel : Option Channel
  renderId : Option Uuid
  reasonCode : Option String
  correlationId : Option Uuid
  deriving DecidableEq

/-- `staging_state`. -/
inductive StagingState where
  | staged
  | validating
  | ready
  | published
  | blocked
  | failed
  | stale
  | cancelled
  deriving DecidableEq, Repr

/-- A row of `publication.publication_staging`, and the stage loaded from
it. -/
structure PublicationStage where
  stagingId : Uuid
  target : Target
  channel : Channel
  reportId : Uuid
  renderId : Uuid
  stagingState : StagingState
  requestedBy : String
  reasonCode : Option String
  correlationId : Option Uuid
  deriving DecidableEq

/-- A row of `publication.publication_freezes`, or of
`operations.global_publication_freezes` when it has no scope. -/
structure PublicationFreeze where
  freezeId : Uuid
  scope : Option (Target × Option Channel)
  reasonCode : String
  createdAt : Nat
  released : Bool
  deriving DecidableEq

/-- A freeze is in force for a channel of a target. -/
def PublicationFreeze.Covers
    (freeze : PublicationFreeze) (target : Target) (channel : Channel) :
    Prop :=
  freeze.released = false ∧
    (freeze.scope = none ∨ freeze.scope = some (target, none) ∨
      freeze.scope = some (target, some channel))

instance (freeze : PublicationFreeze) (target : Target) (channel : Channel) :
    Decidable (freeze.Covers target channel) :=
  inferInstanceAs (Decidable (_ ∧ _))

/-- The two pointer tables and their history. -/
structure PublicationState where
  reportCurrent : Target → Option CurrentReport
  channelPointers : Target → Channel → Option ChannelPointer
  history : List HistoryRecord

/-- The publication tables. -/
structure Database extends PublicationState where
  staging : Uuid → Option PublicationStage
  freezes : List PublicationFreeze

namespace PublicationState

/-! ## Pointers -/

/-- The row that `UPSERT_CURRENT` leaves. -/
def upsertCurrent (prior : Option CurrentReport) (reportId : Uuid) (actor : String) :
    CurrentReport where
  reportId := reportId
  pointerVersion := prior.elim 1 fun row => row.pointerVersion + 1
  updatedBy := actor

/-- The row that `UPSERT_CHANNEL` leaves. -/
def upsertChannel (prior : Option ChannelPointer) (reportId renderId : Uuid)
    (actor : String) : ChannelPointer where
  reportId := reportId
  renderId := renderId
  pointerVersion := prior.elim 1 fun row => row.pointerVersion + 1
  updatedBy := actor

/-- `set_current_report`. -/
def setCurrentReport (state : PublicationState) (target : Target) (reportId : Uuid)
    (actor : String) : PublicationState :=
  { state with
    reportCurrent := Function.update state.reportCurrent target
      (some (upsertCurrent (state.reportCurrent target) reportId actor)) }

/-- `clear_current_report`. -/
def clearCurrentReport (state : PublicationState) (target : Target) : PublicationState :=
  { state with
    reportCurrent := Function.update state.reportCurrent target none }

/-- One channel's pointer replaced. -/
def writeChannel (state : PublicationState) (target : Target) (channel : Channel)
    (row : Option ChannelPointer) : PublicationState :=
  { state with
    channelPointers := Function.update state.channelPointers target
      (Function.update (state.channelPointers target) channel row) }

/-- `set_channel_pointer`. -/
def setChannelPointer (state : PublicationState) (target : Target) (channel : Channel)
    (reportId renderId : Uuid) (actor : String) : PublicationState :=
  state.writeChannel target channel
    (some (upsertChannel (state.channelPointers target channel) reportId renderId actor))

/-- `clear_channel_pointer`. -/
def clearChannelPointer (state : PublicationState) (target : Target) (channel : Channel) :
    PublicationState :=
  state.writeChannel target channel none

/-- `list_channel_pointers_for_report`. -/
def listChannelPointersForReport
    (state : PublicationState) (target : Target) (reportId : Uuid) :
    List (Channel × Uuid) :=
  channels.filterMap fun channel =>
    ((state.channelPointers target channel).filter fun row =>
      row.reportId = reportId).map fun row => (channel, row.renderId)

theorem channelPointers_writeChannel
    (state : PublicationState) (target : Target) (channel : Channel)
    (row : Option ChannelPointer) (otherTarget : Target) (otherChannel : Channel) :
    (state.writeChannel target channel row).channelPointers otherTarget
        otherChannel =
      if otherTarget = target ∧ otherChannel = channel then row
      else state.channelPointers otherTarget otherChannel := by
  unfold writeChannel
  by_cases sameTarget : otherTarget = target
  · subst sameTarget
    simp [Function.update_apply]
  · simp [sameTarget]

theorem mem_listChannelPointersForReport
    {state : PublicationState} {target : Target} {reportId : Uuid}
    {channel : Channel} {renderId : Uuid} :
    (channel, renderId) ∈ state.listChannelPointersForReport target reportId ↔
      ∃ row, state.channelPointers target channel = some row ∧
        row.reportId = reportId ∧ row.renderId = renderId := by
  simp only [listChannelPointersForReport, List.mem_filterMap,
    Option.map_eq_some_iff, Option.filter_eq_some_iff, Prod.mk.injEq, decide_eq_true_eq]
  constructor
  · rintro ⟨_, _, row, ⟨found, sameReport⟩, rfl, sameRender⟩
    exact ⟨row, found, sameReport, sameRender⟩
  · rintro ⟨row, found, sameReport, sameRender⟩
    exact ⟨channel, mem_channels channel, row, ⟨found, sameReport⟩, rfl, sameRender⟩

/-! ## History -/

/-- `append_history`. -/
def appendHistory (state : PublicationState) (record : HistoryRecord) : PublicationState :=
  { state with history := state.history ++ [record] }

/-- The actions that `WAS_PUBLISHED` looks for. -/
def publishingActions : List Action :=
  [.published, .republished, .renderPromoted, .rolledBack]

/-- `was_previously_published`. -/
def wasPreviouslyPublished (state : PublicationState) (target : Target) (channel : Channel)
    (reportId renderId : Uuid) : Bool :=
  state.history.any fun record =>
    record.target = target ∧ record.channel = some channel ∧
      record.reportId = reportId ∧ record.renderId = some renderId ∧
      record.action ∈ publishingActions

end PublicationState

namespace Database

/-- The pointers and the history replaced. -/
def withState (database : Database) (state : PublicationState) : Database :=
  { database with toPublicationState := state }

/-! ## Staging -/

/-- `PublicationStagingRepository.transition`: whether a row was updated, and
the tables. -/
def transition (database : Database) (stagingId : Uuid)
    (fromState toState : StagingState) (reasonCode : Option String) :
    Bool × Database :=
  match database.staging stagingId with
  | none => (false, database)
  | some row =>
      if row.stagingState = fromState then
        (true, { database with
            staging := Function.update database.staging stagingId
              (some { row with
                stagingState := toState
                reasonCode := reasonCode }) })
      else (false, database)

/-! ## Freezes -/

/-- `PublicationFreezeRepository.active`: the identifier and the reason of the
latest freeze in force. -/
def activeFreeze (database : Database) (target : Target) (channel : Channel) :
    Option (Uuid × String) :=
  ((database.freezes.filter fun freeze => freeze.Covers target channel).argmax
    PublicationFreeze.createdAt).map fun freeze =>
      (freeze.freezeId, freeze.reasonCode)

/-- `PublicationFreezeRepository.create`, and the insert of a global
freeze. -/
def createFreeze (database : Database) (freeze : PublicationFreeze) : Database :=
  { database with freezes := database.freezes ++ [freeze] }

/-- `PublicationFreezeRepository.release`, and the release of a global
freeze. -/
def releaseFreeze (database : Database) (isGlobal : Bool) (freezeId : Uuid) : Database :=
  { database with
    freezes := database.freezes.map fun freeze =>
      if freeze.freezeId = freezeId ∧ freeze.scope.isNone = isGlobal then
        { freeze with released := true }
      else freeze }

end Database

end SanTanHeights.Publication
