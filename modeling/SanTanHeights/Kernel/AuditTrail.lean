import SanTanHeights.Kernel.Transitions

/-!
# The audit of transitions

Calls of the engine and other code in turn.  The rows that were applied account
for the state and the version of every test entity, an entity moves only where
the engine let a call pass, and a key is answered for good.
-/

namespace SanTanHeights.Kernel.Transitions

open Foundation Foundation.Outcome Foundation.Runs Foundation.Chains Commands
open Guards Shared TransitionEngine

/-- A row says that a test entity was moved. -/
def StateTransitionRecord.Moved (row : StateTransitionRecord) : Prop :=
  row.entityType = "KERNEL_TEST_ENTITY" ∧ row.stateDimension = "CONTENT" ∧ row.result = "APPLIED"

instance (row : StateTransitionRecord) : Decidable row.Moved :=
  inferInstanceAs (Decidable (_ ∧ _))

/-- The rows that say that an entity was moved. -/
def moves (entityId : Uuid) (rows : List StateTransitionRecord) : List StateTransitionRecord :=
  rows.filter fun row => row.Moved ∧ row.entityId = entityId

section Engine

variable {σ τ : Type}

/-- A call is answered, or other code adds commands, entities and audit rows
that move no test entity.  The latter holds where a call is rolled back. -/
inductive TransitionEngine.Step (engine : TransitionEngine σ τ) :
    KernelTables σ τ → Option TransitionRequest → KernelTables σ τ → Prop
  | answered {before after : KernelTables σ τ} {request : TransitionRequest}
      {draw : Draw} {result : TransitionResult} :
      engine.execute request draw before = .ok (result, after) →
        Step engine before (some request) after
  | elsewhere {before after : KernelTables σ τ}
      {rows : List StateTransitionRecord} :
      before.ledger.Extends after.ledger →
      before.entities.Extends after.entities →
      after.transitions = before.transitions ++ rows →
      (∀ row ∈ rows, ¬ row.Moved) → Step engine before none after

/-- The engine lets a call pass: the transition is registered, its caller may
make it, it starts from the stored state, and no guard stops it. -/
structure TransitionEngine.Passes (engine : TransitionEngine σ τ) (request : TransitionRequest)
    (entities : Table StateRecord.entityId) (world : τ)
    (transition : TransitionDefinition) (current : StateRecord) : Prop where
  known : engine.transitions.get request.transitionId = some transition
  caller : request.callerId ∈ transition.allowedCallers
  found : entities.find request.entityId = some current
  expected : current.state = transition.fromState
  guards : ∃ results after, engine.guardRunner.run transition.requiredGuards
      (context request transition (some current)) world =
        .ok (results, after) ∧ overallResult results = .pass

variable {engine : TransitionEngine σ τ} {request : TransitionRequest}
  {transition : TransitionDefinition} {draw : Draw} {requestHash : String}
  {tables before after : KernelTables σ τ} {answer : TransitionResult}
  {settlement : Settlement}

/-! ## What a call does -/

/-- A call leaves its answer in the ledger. -/
def Booked (request : TransitionRequest) (requestHash : String)
    (answer : TransitionResult) (before after : Ledger) : Prop :=
  ∃ row : ProcessedCommand,
    row.key = (request.serviceName, request.idempotencyKey) ∧
    row.requestHash = requestHash ∧ row.resultPayload = answer.toPayload ∧
    answer.status ∈ resultStatuses ∧ before.insert row = some after

/-- A call leaves the entities, or moves one of them and says so. -/
def Effect (engine : TransitionEngine σ τ) (request : TransitionRequest)
    (before after : KernelTables σ τ) : Prop :=
  (after.entities = before.entities ∧ ∃ rows,
    after.transitions = before.transitions ++ rows ∧ ∀ row ∈ rows, ¬ row.Moved) ∨
  ∃ transition current row,
    engine.Passes request before.entities before.world transition current ∧
    after.entities = KernelTables.advance before.entities request.entityId transition.toState ∧
    after.transitions = before.transitions ++ [row] ∧ row.Moved ∧
    row.entityId = request.entityId ∧ row.fromState = transition.fromState ∧
    row.toState = transition.toState ∧
    engine.transitions.get row.transitionId = some transition

theorem writeEvent_eq_ok {draft : EventDraft} {eventId : Uuid}
    (ran : engine.writeEvent tables draft = .ok (eventId, after)) :
    ∃ events, after = { tables with events := events } := by
  obtain ⟨⟨_, events⟩, -, ended⟩ := bind_eq_ok.mp ran
  cases ended
  exact ⟨events, rfl⟩

theorem writeAll_eq_ok {drafts : List EventDraft}
    (ran : engine.writeAll drafts tables = .ok after) :
    ∃ events, after = { tables with events := events } := by
  induction drafts generalizing tables with
  | nil =>
      cases ran
      exact ⟨_, rfl⟩
  | cons draft drafts ih =>
      obtain ⟨⟨_, next⟩, wrote, rest⟩ := bind_eq_ok.mp ran
      obtain ⟨_, rfl⟩ := writeEvent_eq_ok wrote
      obtain ⟨events, rfl⟩ := ih rest
      exact ⟨events, rfl⟩

theorem recordGuards_eq_ok {ordinal : Nat} {guards : List GuardResult}
    (ran : KernelTables.recordGuards request draw ordinal guards tables = .ok after) :
    ∃ evaluations, after = { tables with evaluations := evaluations } := by
  induction guards generalizing tables ordinal with
  | nil =>
      cases ran
      exact ⟨_, rfl⟩
  | cons guard guards ih =>
      obtain ⟨next, inserted, rest⟩ := bind_eq_ok.mp ran
      simp only [KernelTables.insertEvaluation, require_bind_eq_ok, pure_eq_ok] at inserted
      obtain ⟨-, -, rfl⟩ := inserted
      obtain ⟨evaluations, rfl⟩ := ih rest
      exact ⟨evaluations, rfl⟩

theorem recordProcessedCommand_eq_ok {result : TransitionResult}
    (ran : tables.recordProcessedCommand request requestHash draw result = .ok (answer, after)) :
    answer = result ∧
      Booked request requestHash answer tables.ledger after.ledger ∧
      after.entities = tables.entities ∧
      after.transitions = tables.transitions := by
  obtain ⟨ledger, recorded, ended⟩ := bind_eq_ok.mp ran
  cases ended
  obtain ⟨-, admitted, -, inserted⟩ := record_eq_ok_iff.mp recorded
  exact ⟨rfl, ⟨_, rfl, rfl, rfl, admitted, inserted⟩, rfl, rfl⟩

/-- What came of a transition is audited in one row and is booked. -/
theorem settle_eq_ok
    (ran : engine.settle request transition requestHash draw settlement
      tables = .ok (answer, after)) :
    Booked request requestHash answer tables.ledger after.ledger ∧
      after.entities = tables.entities ∧ ∃ eventId, after.transitions =
        tables.transitions ++ [auditRow request transition draw settlement eventId] := by
  obtain ⟨⟨eventId, written⟩, wrote, continued⟩ := bind_eq_ok.mp ran
  obtain ⟨audited, inserted, continued⟩ := bind_eq_ok.mp continued
  obtain ⟨guarded, recorded, continued⟩ := bind_eq_ok.mp continued
  obtain ⟨last, wroteAll, ended⟩ := bind_eq_ok.mp continued
  obtain ⟨_, rfl⟩ := writeEvent_eq_ok wrote
  simp only [KernelTables.insertTransition, require_bind_eq_ok, pure_eq_ok] at inserted
  obtain ⟨-, -, rfl⟩ := inserted
  obtain ⟨_, rfl⟩ := recordGuards_eq_ok recorded
  obtain ⟨_, rfl⟩ := writeAll_eq_ok wroteAll
  obtain ⟨-, booked, entities, transitions⟩ := recordProcessedCommand_eq_ok ended
  exact ⟨booked, entities, eventId, transitions⟩

/-- What came of a transition that was not applied moves no entity. -/
theorem effect_of_settle
    (ran : engine.settle request transition requestHash draw settlement
      tables = .ok (answer, after)) (kept : settlement.result ≠ "APPLIED")
    (ledger : tables.ledger = before.ledger) (entities : tables.entities = before.entities)
    (transitions : tables.transitions = before.transitions) :
    Effect engine request before after ∧
      Booked request requestHash answer before.ledger after.ledger := by
  obtain ⟨booked, left, eventId, audited⟩ := settle_eq_ok ran
  rw [ledger] at booked
  rw [entities] at left
  rw [transitions] at audited
  refine ⟨.inl ⟨left, _, audited, ?_⟩, booked⟩
  intro row listed moved
  rw [List.mem_singleton.mp listed] at moved
  exact kept moved.2.2

theorem effect_of_attempt {command : Uuid}
    (known : engine.transitions.get request.transitionId = some transition)
    (caller : request.callerId ∈ transition.allowedCallers)
    (ran : engine.attempt request transition requestHash draw command tables =
      .ok (answer, after)) :
    Effect engine request tables after ∧
      Booked request requestHash answer tables.ledger after.ledger := by
  simp only [attempt, require_bind_eq_ok] at ran
  obtain ⟨⟨-, entityType, dimension⟩, continued⟩ := ran
  obtain ⟨⟨guards, world⟩, guarded, continued⟩ := bind_eq_ok.mp continued
  dsimp only at continued
  split_ifs at continued with passed
  · obtain ⟨current, found, continued⟩ := bind_eq_ok.mp continued
    obtain ⟨moved, applied, continued⟩ := bind_eq_ok.mp continued
    have found := orRaise_eq_ok.mp found
    rw [KernelTables.applyState] at applied
    split_ifs at applied with expected
    · simp only [require_bind_eq_ok, pure_eq_ok] at applied
      obtain ⟨-, -, rfl⟩ := applied
      obtain ⟨booked, entities, eventId, transitions⟩ := settle_eq_ok continued
      rw [found] at guarded
      have own := Table.key_of_find found
      have same : transition.transitionId = request.transitionId := by
        simpa using List.find?_some known
      refine ⟨.inr ⟨transition, current, _,
        ⟨known, caller, found, expected, guards, world, guarded, passed⟩,
        by rw [entities, ← own], transitions,
        ⟨entityType, dimension, rfl⟩, rfl, rfl, rfl, ?_⟩, booked⟩
      exact (congrArg _ same).trans known
    · cases applied
      have kept : "CONFLICT" ≠ "APPLIED" := by decide
      exact effect_of_settle continued kept rfl rfl rfl
  · have status : rejectionStatus (overallResult guards) ≠ "APPLIED" := by
      unfold rejectionStatus
      split_ifs <;> decide
    exact effect_of_settle continued status rfl rfl rfl

/-- A call is answered from the ledger, or takes effect and is booked. -/
theorem execute_eq_ok (ran : engine.execute request draw before = .ok (answer, after)) :
    ∃ requestHash, sha256Canonical request.semanticPayload = .ok requestHash ∧
      ((∃ row, before.ledger.find (request.serviceName, request.idempotencyKey) = some row ∧
        row.requestHash = requestHash ∧
        TransitionResult.ofPayload row.resultPayload = .ok answer ∧ after = before) ∨
      (Effect engine request before after ∧
        Booked request requestHash answer before.ledger after.ledger)) := by
  obtain ⟨requestHash, hashed, continued⟩ := bind_eq_ok.mp ran
  obtain ⟨prior, checked, continued⟩ := bind_eq_ok.mp continued
  obtain ⟨found, same⟩ := check_eq_ok_iff.mp checked
  refine ⟨requestHash, hashed, ?_⟩
  cases prior with
  | some row =>
      obtain ⟨result, read, ended⟩ := bind_eq_ok.mp continued
      cases ended
      exact .inl ⟨row, found.symm, same row rfl, read, rfl⟩
  | none =>
      right
      cases known : engine.transitions.get request.transitionId with
      | none =>
          rw [known] at continued
          obtain ⟨-, booked, entities, transitions⟩ := recordProcessedCommand_eq_ok continued
          exact ⟨.inl ⟨entities, [], transitions.trans
            (List.append_nil _).symm, List.forall_mem_nil _⟩, booked⟩
      | some transition =>
          rw [known] at continued
          obtain ⟨⟨command, accepted⟩, wrote, continued⟩ := bind_eq_ok.mp continued
          obtain ⟨_, rfl⟩ := writeEvent_eq_ok wrote
          dsimp only at continued
          split_ifs at continued with caller
          · have done := effect_of_attempt known caller continued
            exact done
          · have kept : "REJECTED" ≠ "APPLIED" := by decide
            exact effect_of_settle continued kept rfl rfl rfl

/-! ## What holds in runs -/

variable {start reached later : KernelTables σ τ} {first : StateRecord}
  {calls : List (Option TransitionRequest)} {label : Option TransitionRequest}

/-- The rows that were applied to an entity count its versions and lead from
its first state to its last one, each along a registered transition. -/
def Accounted (engine : TransitionEngine σ τ) (start : KernelTables σ τ)
    (first : StateRecord) (reached : KernelTables σ τ) : Prop :=
  ∃ last rows, reached.entities.find first.entityId = some last ∧
    reached.transitions = start.transitions ++ rows ∧
    last.stateVersion = first.stateVersion + (moves first.entityId rows).length ∧
    Leads StateTransitionRecord.fromState StateTransitionRecord.toState
      first.state (moves first.entityId rows) last.state ∧
    ∀ row ∈ moves first.entityId rows, ∃ transition,
      engine.transitions.get row.transitionId = some transition ∧
        row.fromState = transition.fromState ∧
        row.toState = transition.toState

theorem Accounted.keep {rows : List StateTransitionRecord}
    (accounted : Accounted engine start first before)
    (entity : ∀ row, before.entities.find first.entityId = some row →
      after.entities.find first.entityId = some row)
    (appended : after.transitions = before.transitions ++ rows)
    (unmoved : ∀ row ∈ rows, row.Moved → row.entityId ≠ first.entityId) :
    Accounted engine start first after := by
  obtain ⟨last, earlier, found, transitions, rest⟩ := accounted
  refine ⟨last, earlier ++ rows, entity last found, ?_, ?_⟩
  · rw [appended, transitions, List.append_assoc]
  · have same : moves first.entityId (earlier ++ rows) =
        moves first.entityId earlier := by
      simpa [moves] using unmoved
    rw [same]
    exact rest

theorem find_advance {entities : Table StateRecord.entityId}
    {entityId identifier : Uuid} {target : String} :
    (KernelTables.advance entities entityId target).find identifier =
      (entities.find identifier).map fun row =>
        if row.entityId = entityId then
          ⟨row.entityId, target, row.stateVersion + 1⟩
        else row :=
  Table.find_update

theorem Accounted.step (accounted : Accounted engine start first before)
    (taken : engine.Step before label after) :
    Accounted engine start first after := by
  cases taken with
  | elsewhere _ entities appended unmoved =>
      exact accounted.keep (entities _) appended fun row listed moved =>
        absurd moved (unmoved row listed)
  | @answered _ request _ _ ran =>
      obtain ⟨-, -, ⟨_, -, -, -, rfl⟩ | ⟨⟨entities, rows, appended, unmoved⟩ |
        ⟨transition, current, row, passes, entities, appended, moved, own,
          source, target, known⟩, -⟩⟩ := execute_eq_ok ran
      · exact accounted
      · exact accounted.keep (by rw [entities]; exact fun _ => id) appended
          fun row listed moved => absurd moved (unmoved row listed)
      · by_cases same : request.entityId = first.entityId
        · obtain ⟨last, earlier, found, transitions, version, leads, listed⟩ := accounted
          have stored := passes.found
          rw [same, found] at stored
          obtain rfl := Option.some.inj stored
          have grown : moves first.entityId (earlier ++ [row]) =
              moves first.entityId earlier ++ [row] := by
            simp [moves, moved, own, same]
          refine ⟨⟨last.entityId, transition.toState, last.stateVersion + 1⟩,
            earlier ++ [row], ?_, ?_, ?_, ?_, ?_⟩
          · rw [entities, find_advance, found, Option.map_some, if_pos]
            rw [same, Table.key_of_find found]
          · rw [appended, transitions, List.append_assoc]
          · rw [grown, List.length_append, version]
            exact Int.add_assoc ..
          · rw [grown, leads_concat_iff, source, ← passes.expected]
            exact ⟨leads, target⟩
          · rw [grown]
            simp only [List.mem_append, List.mem_singleton]
            rintro other (old | rfl)
            · exact listed other old
            · exact ⟨transition, known, source, target⟩
        · refine accounted.keep (fun last found => ?_) appended ?_
          · rw [entities, find_advance, found, Option.map_some, if_neg]
            rw [Table.key_of_find found]
            exact Ne.symm same
          · intro other listed _
            rw [List.mem_singleton.mp listed, own]
            exact same

/-- In every run, the audit accounts for each entity that was stored before. -/
theorem audit_accounts (run : Exec engine.Step start calls reached)
    (stored : start.entities.find first.entityId = some first) :
    Accounted engine start first reached := by
  refine run.invariant ?_ fun _ _ _ holds taken => holds.step taken
  exact ⟨first, [], stored, (List.append_nil _).symm, (add_zero _).symm, rfl, List.forall_mem_nil _⟩

/-- An entity that a run changed was moved by a call that the engine let
pass. -/
theorem exists_passes_of_changed {entityId : Uuid} (run : Exec engine.Step start calls reached)
    (stored : start.entities.find entityId = some first)
    (changed : reached.entities.find entityId ≠ some first) :
    ∃ earlier request rest before transition current,
      calls = earlier ++ some request :: rest ∧
      Exec engine.Step start earlier before ∧ request.entityId = entityId ∧
      engine.Passes request before.entities before.world transition current := by
  induction run with
  | nil state => exact absurd stored changed
  | @cons start next reached label tail taken rest ih =>
      by_cases kept : next.entities.find entityId = some first
      · obtain ⟨earlier, request, others, before, transition, current, same,
          before', own, passes⟩ := ih kept changed
        exact ⟨label :: earlier, request, others, before, transition, current,
          by rw [same, List.cons_append], .cons taken before', own, passes⟩
      · cases taken with
        | elsewhere _ entities => exact absurd (entities _ _ stored) kept
        | @answered _ request _ _ ran =>
            obtain ⟨-, -, ⟨_, -, -, -, rfl⟩ | ⟨⟨entities, -⟩ |
              ⟨transition, current, row, passes, entities, -⟩, -⟩⟩ := execute_eq_ok ran
            · exact absurd stored kept
            · exact absurd (entities ▸ stored) kept
            · refine ⟨[], request, tail, start, transition, current, rfl, .nil _, ?_, passes⟩
              by_contra other
              rw [entities, find_advance, stored, Option.map_some, if_neg]
                at kept
              · exact kept rfl
              · rw [Table.key_of_find stored]
                exact Ne.symm other

/-- An answer is in the ledger, from which it is read back. -/
theorem recorded_of_execute (ran : engine.execute request draw before = .ok (answer, after)) :
    before.ledger.Extends after.ledger ∧ ∃ row, after.ledger.find
          (request.serviceName, request.idempotencyKey) = some row ∧
        sha256Canonical request.semanticPayload = .ok row.requestHash ∧
        TransitionResult.ofPayload row.resultPayload = .ok { answer with replayed := true } := by
  obtain ⟨requestHash, hashed, ⟨row, found, rfl, read, rfl⟩ |
    ⟨-, row, key, rfl, payload, admitted, inserted⟩⟩ := execute_eq_ok ran
  · refine ⟨.refl _, row, found, hashed, ?_⟩
    rw [read, TransitionResult.replayed_of_ofPayload read]
  · refine ⟨Table.extends_of_insert inserted, row, ?_, hashed, ?_⟩
    · rw [← key]
      exact Table.find_self_of_insert inserted
    · rw [payload]
      exact TransitionResult.ofPayload_toPayload admitted

theorem extends_of_run (run : Exec engine.Step start calls reached) :
    start.ledger.Extends reached.ledger := by
  induction run with
  | nil state => exact .refl _
  | cons taken _ ih =>
      refine .trans ?_ ih
      cases taken with
      | answered ran => exact (recorded_of_execute ran).1
      | elsewhere grows => exact grows

/-- A call that was answered is answered for good: a later call under its key
is answered just when it has the same content, with the same answer, and it
changes nothing. -/
theorem execute_again_iff {other : TransitionRequest} {again : Draw}
    {last : KernelTables σ τ} {result : TransitionResult}
    (ran : engine.execute request draw before = .ok (answer, after))
    (run : Exec engine.Step after calls later)
    (service : other.serviceName = request.serviceName)
    (key : other.idempotencyKey = request.idempotencyKey) :
    engine.execute other again later = .ok (result, last) ↔
      sha256Canonical other.semanticPayload =
          sha256Canonical request.semanticPayload ∧
        result = { answer with replayed := true } ∧ last = later := by
  obtain ⟨-, row, found, hashed, read⟩ := recorded_of_execute ran
  have kept := extends_of_run run _ _ found
  rw [hashed, execute, bind_eq_ok]
  constructor
  · rintro ⟨otherHash, otherHashed, continued⟩
    obtain ⟨prior, checked, continued⟩ := bind_eq_ok.mp continued
    obtain ⟨rfl, same⟩ := check_eq_ok_iff.mp checked
    rw [service, key, kept] at same continued
    obtain ⟨replayed, readAgain, ended⟩ := bind_eq_ok.mp continued
    rw [read] at readAgain
    cases readAgain
    cases ended
    exact ⟨otherHashed.trans (congrArg _ (same row rfl).symm), rfl, rfl⟩
  · rintro ⟨otherHashed, rfl, rfl⟩
    refine ⟨row.requestHash, otherHashed, bind_eq_ok.mpr ⟨some row, ?_,
      bind_eq_ok.mpr ⟨_, read, rfl⟩⟩⟩
    rw [service, key, check_eq_ok_iff, kept]
    refine ⟨rfl, ?_⟩
    rintro _ ⟨⟩
    rfl

end Engine

/-! ## A transition that is applied -/

def sampleTransition : TransitionDefinition :=
  ⟨"KERNEL_TEST_BUILDING_TO_VALIDATING", "KERNEL_TEST_ENTITY", "CONTENT",
    "BUILDING", "VALIDATING", ["KERNEL"], [], ["TRANSITION_APPLIED"],
    some "TRANSITION_REJECTED", none⟩

def sampleEngine : TransitionEngine Unit Unit where
  transitions := ⟨[sampleTransition], List.nodup_singleton _, List.nodup_singleton _⟩
  guardRunner :=
    ⟨⟨[], List.nodup_nil, List.forall_mem_nil _, List.forall_mem_nil _⟩,
      fun _ => none, List.forall_mem_nil _⟩
  write := fun _ events => .ok (7, events)
  registered := true

def sampleEntity : StateRecord := ⟨1, "BUILDING", 1⟩

def sampleTables : KernelTables Unit Unit where
  ledger := .empty _
  entities := ⟨[sampleEntity], List.nodup_singleton _⟩
  transitions := []
  evaluations := []
  contentStates := ["BUILDING", "VALIDATING"]
  reasonCodes := []
  guardIds := []
  events := ()
  world := ()

def sampleCall : TransitionRequest where
  transitionId := "KERNEL_TEST_BUILDING_TO_VALIDATING"
  entityId := 1
  callerId := "KERNEL"
  actorType := "SYSTEM"
  actorId := "kernel"
  serviceName := "kernel"
  idempotencyKey := "key"
  correlationId := 2
  commandType := "EXECUTE_TRANSITION"
  causationEventId := none
  metadata := []

def sampleDraw : Draw := ⟨3, 4, fun _ => 5⟩

def sampleAnswer : TransitionResult :=
  ⟨"APPLIED", sampleCall.transitionId, 1, some "BUILDING", some "VALIDATING",
    some 2, none, some 7, false⟩

theorem exists_execute_sample :
    ∃ answer after, sampleEngine.execute sampleCall sampleDraw sampleTables =
        .ok (answer, after) ∧
      after.entities.find 1 = some ⟨1, "VALIDATING", 2⟩ := by
  obtain ⟨requestHash, hashed, isHash⟩ : ∃ requestHash,
      sha256Canonical sampleCall.semanticPayload = .ok requestHash ∧
        Sha256.isHex64 requestHash = true := by
    apply Textual.exists_sha256Canonical
    unfold TransitionRequest.semanticPayload
    rw [textual_obj]
    refine ⟨?_, by simp [IsTagged], ?_⟩
    · simp only [List.map_cons, List.map_nil]
      decide
    · simp [sampleCall, textual_obj, IsTagged]
  have admitted : "APPLIED" ∈ resultStatuses := by decide
  obtain ⟨ledger, recorded⟩ : ∃ ledger, record sampleTables.ledger
      ⟨3, "kernel", "EXECUTE_TRANSITION", "key", requestHash, "APPLIED", 2,
        sampleAnswer.toPayload⟩ = .ok ledger :=
    exists_record isHash admitted (List.forall_mem_nil _) rfl
  refine ⟨sampleAnswer, { sampleTables with
    ledger := ledger
    entities := KernelTables.advance sampleTables.entities 1 "VALIDATING"
    transitions := [auditRow sampleCall sampleTransition sampleDraw
      (applied sampleCall sampleTransition 7 ⟨1, "VALIDATING", 2⟩ []) 7] },
    ?_, rfl⟩
  rw [execute, ok_bind hashed]
  change KernelTables.recordProcessedCommand sampleCall requestHash sampleDraw sampleAnswer _ = _
  exact bind_eq_ok.mpr ⟨ledger, recorded, rfl⟩

theorem audit_accounts_sample :
    ∃ reached, reached.entities.find 1 = some ⟨1, "VALIDATING", 2⟩ ∧
      Accounted sampleEngine sampleTables sampleEntity reached := by
  obtain ⟨answer, after, ran, moved⟩ := exists_execute_sample
  exact ⟨after, moved, audit_accounts (.single (.answered ran)) rfl⟩

theorem exists_passes_of_changed_sample :
    ∃ (request : TransitionRequest) (before : KernelTables Unit Unit)
      (transition : TransitionDefinition) (current : StateRecord),
      request.entityId = 1 ∧ sampleEngine.Passes request before.entities
        before.world transition current := by
  obtain ⟨answer, after, ran, moved⟩ := exists_execute_sample
  have changed : after.entities.find 1 ≠ some sampleEntity := by
    rw [moved]
    simp [sampleEntity]
  obtain ⟨_, request, _, before, transition, current, _, _, own, passes⟩ :=
    exists_passes_of_changed (.single (.answered ran)) rfl changed
  exact ⟨request, before, transition, current, own, passes⟩

theorem execute_again_iff_sample :
    ∃ (answer : TransitionResult) (after : KernelTables Unit Unit),
      sampleEngine.execute sampleCall sampleDraw after =
        .ok ({ answer with replayed := true }, after) := by
  obtain ⟨answer, after, ran, -⟩ := exists_execute_sample
  exact ⟨answer, after, (execute_again_iff ran (.nil after) rfl rfl).mpr ⟨rfl, rfl, rfl⟩⟩

end SanTanHeights.Kernel.Transitions
