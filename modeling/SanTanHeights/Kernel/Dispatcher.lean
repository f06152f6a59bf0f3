import SanTanHeights.Kernel.Delivery

/-!
# Outbox dispatcher

Workers run `dispatch_once` side by side: each claims a batch, publishes its
messages and marks them one at a time, and may crash in between.  A lease
that expires returns its row to the queue without counting an attempt, so
that the number of claims of a row is its counter and the number of its
reclaims, and one more while it is claimed or after it was delivered.
-/

namespace SanTanHeights.Kernel.Outbox

open Foundation Foundation.Outcome Foundation.Runs Shared

/-- `OutboxDispatcher`. -/
structure OutboxDispatcher where
  maxAttempts : Int

namespace OutboxDispatcher

/-- What `dispatch_once` does with a message after `publish`, which raises an
exception with the name of its class. -/
def mark (dispatcher : OutboxDispatcher) (workerId : String)
    (message : OutboxMessage) (published : Except String Unit) : Statement :=
  match published with
  | .ok () => .markDelivered message.outboxId workerId
  | .error className =>
      .markRetry message.outboxId workerId
        { errorCode := String.ofList (className.toUpper.toList.take 100)
          safeError := "External event delivery failed."
          maxAttempts := dispatcher.maxAttempts
          retrySeconds := 30 }

theorem mark_ne_claim {dispatcher : OutboxDispatcher} {workerId : String}
    {message : OutboxMessage} {published : Except String Unit}
    (other : String) (limit leaseSeconds : Int) (locked : List Uuid) :
    dispatcher.mark workerId message published ≠ .claim other limit leaseSeconds locked := by
  cases published <;> exact nofun

end OutboxDispatcher

/-- `DispatchResult`. -/
structure DispatchResult where
  claimed : Nat
  delivered : Nat
  retried : Nat
  deriving DecidableEq

/-- The counter that a message raises. -/
def DispatchResult.count (result : DispatchResult) (published : Except String Unit) :
    DispatchResult :=
  match published with
  | .ok () => { result with delivered := result.delivered + 1 }
  | .error _ => { result with retried := result.retried + 1 }

/-! ## Workers side by side -/

/-- The outbox, and the messages that each worker has yet to publish. -/
structure Dispatching where
  traced : Traced
  held : String → List OutboxMessage

variable {dispatcher : OutboxDispatcher} {workerId : String}
  {before after : Dispatching} {limit leaseSeconds : Int} {locked : List Uuid}
  {now : Time} {row : OutboxRow}

/-- Nobody has begun. -/
def Dispatching.start (events : List Uuid) (clock : Time) : Dispatching where
  traced := .start events clock
  held := fun _ => []

inductive DispatchEvent where
  | written (eventId : Uuid) (now : Time)
  | enqueued (outboxId eventId : Uuid) (topic : String) (now : Time)
  | began (workerId : String) (batchSize leaseSeconds : Int) (locked : List Uuid) (now : Time)
  | finished (workerId : String) (published : Except String Unit) (now : Time)
  | crashed (workerId : String)
  | reclaimed (now : Time)
  | passed (later : Time)

/-- The statement that an event executes. -/
def DispatchEvent.statement (event : DispatchEvent) (dispatcher : OutboxDispatcher)
    (before : Dispatching) : Option (Statement × Time) :=
  match event with
  | .written eventId now => some (.insertEvent eventId, now)
  | .enqueued outboxId eventId topic now =>
      some (.insert outboxId eventId topic, now)
  | .began workerId batchSize leaseSeconds locked now =>
      some (.claim workerId batchSize leaseSeconds locked, now)
  | .finished workerId published now =>
      (before.held workerId).head?.map fun message =>
        (dispatcher.mark workerId message published, now)
  | .reclaimed now => some (.reclaimExpired, now)
  | .crashed _ => none
  | .passed _ => none

/-- The messages that the workers hold after an event. -/
def DispatchEvent.held (event : DispatchEvent) (before : Dispatching) :
    String → List OutboxMessage :=
  match event with
  | .began workerId batchSize leaseSeconds locked now =>
      Function.update before.held workerId
        ((before.traced.database.nextRows batchSize locked now).map fun row =>
          (row.claim workerId leaseSeconds now).message)
  | .finished workerId _ _ =>
      Function.update before.held workerId (before.held workerId).tail
  | .crashed workerId => Function.update before.held workerId []
  | _ => before.held

/-- The worker that begins. -/
def DispatchEvent.beginner : DispatchEvent → Option String
  | .began workerId _ _ _ _ => some workerId
  | _ => none

/-- A worker begins when it has nothing left of its last batch.  One whose
statement raises crashes. -/
inductive DispatchStep (dispatcher : OutboxDispatcher) :
    Dispatching → DispatchEvent → Dispatching → Prop
  | executed {before : Dispatching} {event : DispatchEvent}
      {statement : Statement} {now : Time} {traced : Traced} :
      event.statement dispatcher before = some (statement, now) →
      (∀ workerId ∈ event.beginner, before.held workerId = []) →
      Step before.traced (.executed statement now) traced →
      DispatchStep dispatcher before event ⟨traced, event.held before⟩
  | crashed (before : Dispatching) (workerId : String) :
      DispatchStep dispatcher before (.crashed workerId)
        { before with
          held := (DispatchEvent.crashed workerId).held before }
  | passed {before : Dispatching} {later : Time} {traced : Traced} :
      Step before.traced (.passed later) traced →
      DispatchStep dispatcher before (.passed later) { before with traced := traced }

/-- Only a worker that begins claims. -/
theorem DispatchEvent.began_of_claim {event : DispatchEvent}
    (states : event.statement dispatcher before =
      some (.claim workerId limit leaseSeconds locked, now)) :
    event = .began workerId limit leaseSeconds locked now := by
  cases event with
  | began =>
      cases states
      rfl
  | finished workerId published now =>
      obtain ⟨message, -, same⟩ := Option.map_eq_some_iff.mp states
      exact absurd (congrArg Prod.fst same) (OutboxDispatcher.mark_ne_claim _ _ _ _)
  | _ => cases states

/-- What workers do is a run of their statements. -/
theorem Dispatching.run_traced {events : List DispatchEvent}
    (run : Exec (DispatchStep dispatcher) before events after) :
    ∃ labels, Exec Step before.traced labels after.traced := by
  induction run with
  | nil state => exact ⟨[], .nil state.traced⟩
  | cons taken _ ih =>
      obtain ⟨labels, rest⟩ := ih
      cases taken with
      | executed _ _ executed => exact ⟨_, .cons executed rest⟩
      | crashed => exact ⟨labels, rest⟩
      | passed passed => exact ⟨_, .cons passed rest⟩

/-! ## Claims -/

def Effect.isClaimed : Effect → Bool
  | .claimed _ _ => true
  | _ => false

def Effect.isReclaimed : Effect → Bool
  | .reclaimed => true
  | _ => false

/-- How often a row was claimed. -/
def Traced.claims (traced : Traced) (outboxId : Uuid) : Nat :=
  (traced.trail outboxId).countP Effect.isClaimed

/-- How often the lease of a row was found expired. -/
def Traced.reclaims (traced : Traced) (outboxId : Uuid) : Nat :=
  (traced.trail outboxId).countP Effect.isReclaimed

/-- The claim of a row that is under way, or that delivered it. -/
def OutboxRow.current (row : OutboxRow) : Nat :=
  if row.deliveryState = .claimed ∨ row.deliveryState = .delivered then 1
  else 0

/-- Every claim was counted, was reclaimed, or is the current one. -/
def Accounted (row : OutboxRow) (effects : List Effect) : Prop :=
  effects.countP Effect.isClaimed =
    row.attemptCount + effects.countP Effect.isReclaimed + row.current

theorem accounted_newRow (outboxId eventId : Uuid) (topic : String) (now : Time) :
    Accounted (newRow outboxId eventId topic now) [] := rfl

theorem OutboxRow.Ready.current (ready : row.Ready now) : row.current = 0 := by
  unfold OutboxRow.current
  rcases ready.1 with pending | retry
  · rw [pending]
    rfl
  · rw [retry]
    rfl

theorem Accounted.apply {effects : List Effect} {effect : Effect} {statement : Statement}
    (accounted : Accounted row effects) (allowed : effect.Allowed statement now row) :
    Accounted (effect.apply now row) (effects ++ [effect]) := by
  have underway : row.deliveryState = .claimed → row.current = 1 :=
    fun claimed => if_pos (.inl claimed)
  unfold Accounted at accounted ⊢
  rw [List.countP_append, List.countP_append, accounted]
  cases effect with
  | kept => rfl
  | claimed workerId leaseSeconds =>
      have idle := (allowed.claimed workerId leaseSeconds rfl).current
      change _ + 1 = row.attemptCount + (_ + 0) + 1
      omega
  | delivered =>
      obtain ⟨workerId, -, -, claimed, -⟩ := allowed.delivered rfl
      have busy := underway claimed
      change _ + 0 = row.attemptCount + (_ + 0) + 1
      omega
  | failed failure =>
      obtain ⟨workerId, -, -, claimed, -⟩ := allowed.failed failure rfl
      have busy := underway claimed
      have ended : (row.fail failure now).current = 0 := by
        unfold OutboxRow.current OutboxRow.fail
        dsimp only
        split_ifs <;> simp_all
      change _ + 0 = row.attemptCount + 1 + (_ + 0) + (row.fail failure now).current
      omega
  | reclaimed =>
      obtain ⟨-, claimed, -⟩ := allowed.reclaimed rfl
      have busy := underway claimed
      change _ + 0 = row.attemptCount + (_ + 1) + 0
      omega

/-- No row was claimed more often than the dispatcher attempts. -/
def Dispatching.Bounded (dispatcher : OutboxDispatcher) (state : Dispatching) : Prop :=
  ∀ outboxId, state.traced.claims outboxId ≤ dispatcher.maxAttempts.toNat

/-- A claim takes only rows whose failures and expired leases are fewer than
the attempts. -/
def DispatchEvent.Affords (dispatcher : OutboxDispatcher) (event : DispatchEvent)
    (before : Dispatching) : Prop :=
  match event with
  | .began _ batchSize _ locked now =>
      ∀ row ∈ before.traced.database.nextRows batchSize locked now,
        ((row.attemptCount + before.traced.reclaims row.outboxId : Nat) : Int) <
          dispatcher.maxAttempts
  | _ => True

instance (dispatcher : OutboxDispatcher) (event : DispatchEvent)
    (before : Dispatching) : Decidable (event.Affords dispatcher before) :=
  match event with
  | .began _ _ _ _ _ =>
      inferInstanceAs (Decidable (∀ row ∈ Database.nextRows _ _ _ _, _))
  | .written _ _ => .isTrue trivial
  | .enqueued _ _ _ _ => .isTrue trivial
  | .finished _ _ _ => .isTrue trivial
  | .crashed _ => .isTrue trivial
  | .reclaimed _ => .isTrue trivial
  | .passed _ => .isTrue trivial

/-- Trails account for the claims of the rows. -/
theorem accounted_of_run {events : List Uuid} {clock : Time} {labels : List DispatchEvent}
    {reached : Dispatching}
    (run : Exec (DispatchStep dispatcher) (.start events clock) labels reached) :
    ∀ outboxId row, reached.traced.database.outbox.find outboxId = some row →
      reached.traced.claims outboxId = row.attemptCount +
        reached.traced.reclaims outboxId + row.current := by
  obtain ⟨statements, traced⟩ := Dispatching.run_traced run
  exact Traced.row_invariant accounted_newRow Accounted.apply traced

/-- A statement adds its effect to the claims of a row. -/
theorem claims_of_find {before after : Traced} {statement : Statement}
    (executed : before.execute statement now = .ok after) {outboxId : Uuid}
    (found : before.database.outbox.find outboxId = some row) :
    after.claims outboxId = before.claims outboxId +
      if (statement.effect now before.database row).isClaimed then 1
      else 0 := by
  obtain ⟨database, -, rfl⟩ := map_eq_ok.mp executed
  change (before.extended statement now outboxId).countP _ = _
  rw [Traced.extended_of_find found, List.countP_append, List.countP_singleton, Traced.claims]

theorem claims_of_missing {before after : Traced} {statement : Statement}
    (executed : before.execute statement now = .ok after) {outboxId : Uuid}
    (missing : before.database.outbox.find outboxId = none) :
    after.claims outboxId = 0 := by
  obtain ⟨database, -, rfl⟩ := map_eq_ok.mp executed
  change (before.extended statement now outboxId).countP _ = _
  rw [Traced.extended_of_missing missing, List.countP_nil]

/-- Only a claim claims. -/
theorem Statement.effect_not_claimed {statement : Statement} {database : Database}
    (other : ∀ workerId limit leaseSeconds locked,
      statement ≠ .claim workerId limit leaseSeconds locked) :
    (statement.effect now database row).isClaimed = false := by
  unfold effect
  cases statement with
  | claim workerId limit leaseSeconds locked =>
      exact absurd rfl (other workerId limit leaseSeconds locked)
  | insertEvent => rfl
  | insert => rfl
  | markDelivered => dsimp only; split_ifs <;> rfl
  | markRetry => dsimp only; split_ifs <;> rfl
  | reclaimExpired => dsimp only; split_ifs <;> rfl

/-- A claim claims the rows that it takes. -/
theorem Statement.effect_claimed_iff {database : Database}
    (present : row ∈ database.outbox.rows) :
    ((Statement.claim workerId limit leaseSeconds locked).effect now database
      row).isClaimed = true ↔ row ∈ database.nextRows limit locked now := by
  rw [← mem_nextRows_of_find (Table.find_of_mem present)]
  unfold effect
  dsimp only
  split_ifs with taken
  · exact iff_of_true rfl taken
  · exact iff_of_false nofun taken

/-- A claim stays within the attempts exactly when it can afford its rows. -/
theorem bounded_claim_iff
    (accounted : ∀ outboxId row, before.traced.database.outbox.find outboxId = some row →
      before.traced.claims outboxId = row.attemptCount +
        before.traced.reclaims outboxId + row.current)
    (bounded : before.Bounded dispatcher)
    (executed : before.traced.execute
      (.claim workerId limit leaseSeconds locked) now = .ok after.traced) :
    after.Bounded dispatcher ↔
      (DispatchEvent.began workerId limit leaseSeconds locked now).Affords dispatcher before := by
  constructor
  · intro within row next
    obtain ⟨present, ready, -⟩ := mem_nextRows next
    have found := Table.find_of_mem present
    have earlier := accounted row.outboxId row found
    have later := claims_of_find executed found
    rw [if_pos ((Statement.effect_claimed_iff present).mpr next)] at later
    rw [ready.current] at earlier
    have limited := within row.outboxId
    omega
  · intro affords outboxId
    have limited := bounded outboxId
    cases found : before.traced.database.outbox.find outboxId with
    | none =>
        rw [claims_of_missing executed found]
        exact Nat.zero_le _
    | some row =>
        obtain ⟨present, rfl⟩ := Table.find_eq_some_iff.mp found
        have earlier := accounted row.outboxId row found
        have later := claims_of_find executed found
        by_cases next : row ∈ before.traced.database.nextRows limit locked now
        · have affordable := affords row next
          rw [if_pos ((Statement.effect_claimed_iff present).mpr next)] at later
          rw [(mem_nextRows next).2.1.current] at earlier
          omega
        · rw [if_neg fun claims =>
            next ((Statement.effect_claimed_iff present).mp claims)] at later
          omega

theorem DispatchStep.bounded_iff {event : DispatchEvent}
    (accounted : ∀ outboxId row, before.traced.database.outbox.find outboxId = some row →
      before.traced.claims outboxId = row.attemptCount +
        before.traced.reclaims outboxId + row.current)
    (bounded : before.Bounded dispatcher) (taken : DispatchStep dispatcher before event after) :
    after.Bounded dispatcher ↔ event.Affords dispatcher before := by
  cases taken with
  | crashed => exact iff_of_true bounded trivial
  | passed passed =>
      cases passed
      exact iff_of_true bounded trivial
  | @executed _ statement now traced states _ step =>
      cases step with
      | executed _ executed =>
          by_cases isClaim : ∃ workerId limit leaseSeconds locked,
              statement = .claim workerId limit leaseSeconds locked
          · obtain ⟨workerId, limit, leaseSeconds, locked, rfl⟩ := isClaim
            obtain rfl := DispatchEvent.began_of_claim states
            exact bounded_claim_iff accounted bounded executed
          · simp only [not_exists] at isClaim
            have affords : event.Affords dispatcher before := by
              cases event with
              | began workerId batchSize leaseSeconds locked now =>
                  cases states
                  exact absurd rfl (isClaim _ _ _ _)
              | _ => trivial
            refine iff_of_true (fun outboxId => ?_) affords
            cases found : before.traced.database.outbox.find outboxId with
            | none =>
                exact (claims_of_missing executed found).trans_le (Nat.zero_le _)
            | some row =>
                have same := claims_of_find executed found
                rw [Statement.effect_not_claimed isClaim] at same
                exact same.trans_le (bounded outboxId)

/-- The step of an event, computed. -/
def Dispatching.advance (dispatcher : OutboxDispatcher) (before : Dispatching)
    (event : DispatchEvent) : Except String Dispatching :=
  match event with
  | .crashed workerId =>
      .ok { before with held := (DispatchEvent.crashed workerId).held before }
  | .passed later =>
      (before.traced.advance (.passed later)).map fun traced =>
        { before with traced := traced }
  | event => do
      let (statement, now) ← orRaise (event.statement dispatcher before)
        "nothing to do"
      require (∀ workerId ∈ event.beginner, before.held workerId = [])
        "worker is busy"
      (before.traced.advance (.executed statement now)).map fun traced =>
        ⟨traced, event.held before⟩

theorem DispatchStep.of_advance
    (before : Dispatching) (event : DispatchEvent) (after : Dispatching)
    (advanced : before.advance dispatcher event = .ok after) :
    DispatchStep dispatcher before event after := by
  have executes : ∀ event : DispatchEvent, (do
        let (statement, now) ← orRaise (event.statement dispatcher before)
          "nothing to do"
        require (∀ workerId ∈ event.beginner, before.held workerId = [])
          "worker is busy"
        (before.traced.advance (.executed statement now)).map fun traced =>
          (⟨traced, event.held before⟩ : Dispatching)) = .ok after →
      DispatchStep dispatcher before event after := by
    intro event ran
    obtain ⟨⟨statement, now⟩, states, continued⟩ := bind_eq_ok.mp ran
    obtain ⟨idle, continued⟩ := require_bind_eq_ok.mp continued
    obtain ⟨traced, executed, rfl⟩ := map_eq_ok.mp continued
    exact .executed (orRaise_eq_ok.mp states) idle (Step.of_advance _ _ _ executed)
  cases event with
  | crashed workerId =>
      cases advanced
      exact .crashed before workerId
  | passed later =>
      obtain ⟨traced, passed, rfl⟩ := map_eq_ok.mp advanced
      exact .passed (Step.of_advance _ _ _ passed)
  | _ => exact executes _ advanced

/-- A worker crashes after its claim, and another takes the row over. -/
def sampleCrash : List DispatchEvent :=
  [.written 1 0, .enqueued 2 1 "events" 0, .began "worker-1" 50 60 [] 0,
    .crashed "worker-1", .passed (seconds 61), .reclaimed (seconds 61),
    .began "worker-2" 50 60 [] (seconds 61)]

/-- The step of an event that can afford it, computed. -/
def Dispatching.advanceAffording (dispatcher : OutboxDispatcher) (before : Dispatching)
    (event : DispatchEvent) : Except String Dispatching := do
  require (event.Affords dispatcher before) "too many attempts"
  before.advance dispatcher event

end SanTanHeights.Kernel.Outbox
