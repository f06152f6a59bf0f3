import SanTanHeights.Foundation.Outcome
import SanTanHeights.Foundation.Tables
import SanTanHeights.Foundation.Uuid
import SanTanHeights.Shared.Vocabulary

/-!
# Event outbox

The table `audit.event_outbox` and the statements of `OutboxRepository`.  A
row that a statement has changed stays locked until the transaction ends:
claims skip it and the other statements wait for it, so that statements take
effect one at a time.  A statement that raises leaves nothing behind.
-/

namespace SanTanHeights.Kernel.Outbox

open Foundation Foundation.Outcome Shared

/-- `event_outbox.delivery_state`, closed by the check constraint. -/
inductive DeliveryState where
  | pending
  | claimed
  | retry
  | delivered
  | deadLetter
  deriving DecidableEq, Repr

/-- A row of `audit.event_outbox`. -/
structure OutboxRow where
  outboxId : Uuid
  eventId : Uuid
  topic : String
  deliveryState : DeliveryState
  attemptCount : Nat
  createdAt : Time
  claimedAt : Option Time
  claimedBy : Option String
  leaseExpiresAt : Option Time
  nextAttemptAt : Option Time
  deliveredAt : Option Time
  lastErrorCode : Option String
  lastErrorSafe : Option String
  deriving DecidableEq

/-- `OutboxMessage`. -/
structure OutboxMessage where
  outboxId : Uuid
  eventId : Uuid
  topic : String
  deliveryState : DeliveryState
  attemptCount : Nat
  claimedBy : Option String
  leaseExpiresAt : Option Time
  deriving DecidableEq

def OutboxRow.message (row : OutboxRow) : OutboxMessage where
  outboxId := row.outboxId
  eventId := row.eventId
  topic := row.topic
  deliveryState := row.deliveryState
  attemptCount := row.attemptCount
  claimedBy := row.claimedBy
  leaseExpiresAt := row.leaseExpiresAt

/-- The outbox, and the events that its rows may refer to. -/
structure Database where
  events : List Uuid
  outbox : Table OutboxRow.outboxId

/-! ## What the statements do to a row -/

/-- The row that `INSERT_SQL` adds. -/
def newRow (outboxId eventId : Uuid) (topic : String) (now : Time) : OutboxRow where
  outboxId := outboxId
  eventId := eventId
  topic := topic
  deliveryState := .pending
  attemptCount := 0
  createdAt := now
  claimedAt := none
  claimedBy := none
  leaseExpiresAt := none
  nextAttemptAt := none
  deliveredAt := none
  lastErrorCode := none
  lastErrorSafe := none

/-- The condition of `next_rows` in `CLAIM_SQL`. -/
def OutboxRow.Ready (row : OutboxRow) (now : Time) : Prop :=
  (row.deliveryState = .pending ∨ row.deliveryState = .retry) ∧
    ∀ nextAttemptAt ∈ row.nextAttemptAt, nextAttemptAt ≤ now

instance (row : OutboxRow) (now : Time) : Decidable (row.Ready now) :=
  inferInstanceAs (Decidable (_ ∧ _))

/-- The assignments of `CLAIM_SQL`. -/
def OutboxRow.claim (row : OutboxRow) (workerId : String) (leaseSeconds : Int) (now : Time) :
    OutboxRow :=
  { row with
    deliveryState := .claimed
    claimedAt := some now
    claimedBy := some workerId
    leaseExpiresAt := some (now + seconds leaseSeconds) }

/-- The condition of `MARK_DELIVERED_SQL` and of `MARK_RETRY_SQL`. -/
def OutboxRow.HeldBy (row : OutboxRow) (outboxId : Uuid) (workerId : String) : Prop :=
  row.outboxId = outboxId ∧ row.deliveryState = .claimed ∧ row.claimedBy = some workerId

instance (row : OutboxRow) (outboxId : Uuid) (workerId : String) :
    Decidable (row.HeldBy outboxId workerId) :=
  inferInstanceAs (Decidable (_ ∧ _))

/-- The assignments of `MARK_DELIVERED_SQL`. -/
def OutboxRow.deliver (row : OutboxRow) (now : Time) : OutboxRow :=
  { row with
    deliveryState := .delivered
    deliveredAt := some now
    leaseExpiresAt := none
    lastErrorCode := none
    lastErrorSafe := none }

/-- What `mark_retry` is given beside the row and the worker. -/
structure Failure where
  errorCode : String
  safeError : String
  maxAttempts : Int
  retrySeconds : Int

/-- The assignments of `MARK_RETRY_SQL`. -/
def OutboxRow.fail (row : OutboxRow) (failure : Failure) (now : Time) : OutboxRow :=
  { row with
    deliveryState :=
      if failure.maxAttempts ≤ row.attemptCount + 1 then .deadLetter
      else .retry
    attemptCount := row.attemptCount + 1
    nextAttemptAt :=
      if failure.maxAttempts ≤ row.attemptCount + 1 then none
      else some (now + seconds failure.retrySeconds)
    leaseExpiresAt := none
    claimedBy := none
    lastErrorCode := some failure.errorCode
    lastErrorSafe := some (String.ofList (failure.safeError.toList.take 1000)) }

/-- The condition of `RECLAIM_EXPIRED_SQL`. -/
def OutboxRow.Expired (row : OutboxRow) (now : Time) : Prop :=
  row.deliveryState = .claimed ∧ ∃ leaseExpiresAt ∈ row.leaseExpiresAt, leaseExpiresAt < now

instance (row : OutboxRow) (now : Time) : Decidable (row.Expired now) :=
  inferInstanceAs (Decidable (_ ∧ _))

/-- The assignments of `RECLAIM_EXPIRED_SQL`. -/
def OutboxRow.reclaim (row : OutboxRow) (now : Time) : OutboxRow :=
  { row with
    deliveryState := .retry
    claimedBy := none
    leaseExpiresAt := none
    nextAttemptAt := some now
    lastErrorCode := some "LEASE_EXPIRED"
    lastErrorSafe :=
      some "Outbox delivery lease expired before completion." }

/-! ## The statements -/

namespace Database

/-- `EventRepository.insert`, as far as the outbox refers to it. -/
def insertEvent (database : Database) (eventId : Uuid) : Database :=
  { database with events := database.events ++ [eventId] }

/-- `OutboxRepository.insert`; the database draws the identifier. -/
def insert (database : Database) (outboxId eventId : Uuid) (topic : String)
    (now : Time) : Except String Database :=
  if ∃ row ∈ database.outbox.rows,
      row.eventId = eventId ∧ row.topic = topic then
    return database
  else do
    let inserted ← orRaise
      (database.outbox.insert (newRow outboxId eventId topic now))
      "duplicate key value violates unique constraint"
    require (eventId ∈ database.events) "violates foreign key constraint"
    return { database with outbox := inserted }

/-- `next_rows`: rows that other transactions have locked are skipped. -/
def nextRows (database : Database) (limit : Int) (locked : List Uuid) (now : Time) :
    List OutboxRow :=
  (Sorting.sortedBy (fun row => toLex (row.createdAt, row.outboxId.value))
    (database.outbox.rows.filter fun row =>
      row.Ready now ∧ row.outboxId ∉ locked)).take limit.toNat

/-- `OutboxRepository.claim`. -/
def claim (database : Database) (workerId : String) (limit leaseSeconds : Int)
    (locked : List Uuid) (now : Time) :
    Except String (List OutboxMessage × Database) := do
  require (1 ≤ limit) "limit must be >= 1"
  require (1 ≤ leaseSeconds) "lease_seconds must be >= 1"
  let next := database.nextRows limit locked now
  return (next.map fun row => (row.claim workerId leaseSeconds now).message,
    { database with
      outbox := database.outbox.update
        (fun row => row.outboxId ∈ next.map OutboxRow.outboxId)
        (fun row => row.claim workerId leaseSeconds now) fun _ => rfl })

/-- `OutboxRepository.mark_delivered`. -/
def markDelivered (database : Database) (outboxId : Uuid) (workerId : String)
    (now : Time) : Database :=
  { database with
    outbox := database.outbox.update (fun row => row.HeldBy outboxId workerId)
      (fun row => row.deliver now) fun _ => rfl }

/-- `OutboxRepository.mark_retry`. -/
def markRetry (database : Database) (outboxId : Uuid) (workerId : String)
    (failure : Failure) (now : Time) : Except String Database := do
  require (∀ row ∈ database.outbox.rows, row.HeldBy outboxId workerId →
      row.attemptCount + 1 < 2 ^ 31)
    "integer out of range"
  return { database with
    outbox := database.outbox.update (fun row => row.HeldBy outboxId workerId)
      (fun row => row.fail failure now) fun _ => rfl }

/-- `OutboxRepository.reclaim_expired`. -/
def reclaimExpired (database : Database) (now : Time) : Database :=
  { database with
    outbox := database.outbox.update (fun row => row.Expired now)
      (fun row => row.reclaim now) fun _ => rfl }

end Database

/-- A statement on the outbox. -/
inductive Statement where
  | insertEvent (eventId : Uuid)
  | insert (outboxId eventId : Uuid) (topic : String)
  | claim (workerId : String) (limit leaseSeconds : Int) (locked : List Uuid)
  | markDelivered (outboxId : Uuid) (workerId : String)
  | markRetry (outboxId : Uuid) (workerId : String) (failure : Failure)
  | reclaimExpired

/-- What a statement leaves. -/
def Statement.run (statement : Statement) (now : Time)
    (database : Database) : Except String Database :=
  match statement with
  | .insertEvent eventId => .ok (database.insertEvent eventId)
  | .insert outboxId eventId topic =>
      database.insert outboxId eventId topic now
  | .claim workerId limit leaseSeconds locked =>
      (database.claim workerId limit leaseSeconds locked now).map Prod.snd
  | .markDelivered outboxId workerId =>
      .ok (database.markDelivered outboxId workerId now)
  | .markRetry outboxId workerId failure =>
      database.markRetry outboxId workerId failure now
  | .reclaimExpired => .ok (database.reclaimExpired now)

/-! ## What a statement does to a row -/

/-- What a statement does to a row that it finds. -/
inductive Effect where
  | kept
  | claimed (workerId : String) (leaseSeconds : Int)
  | delivered
  | failed (failure : Failure)
  | reclaimed

def Effect.apply (effect : Effect) (now : Time) (row : OutboxRow) : OutboxRow :=
  match effect with
  | .kept => row
  | .claimed workerId leaseSeconds => row.claim workerId leaseSeconds now
  | .delivered => row.deliver now
  | .failed failure => row.fail failure now
  | .reclaimed => row.reclaim now

def Statement.effect (statement : Statement) (now : Time) (database : Database)
    (row : OutboxRow) : Effect :=
  match statement with
  | .insertEvent _ => .kept
  | .insert _ _ _ => .kept
  | .claim workerId limit leaseSeconds locked =>
      if row.outboxId ∈
          (database.nextRows limit locked now).map OutboxRow.outboxId then
        .claimed workerId leaseSeconds
      else .kept
  | .markDelivered outboxId workerId =>
      if row.HeldBy outboxId workerId then .delivered else .kept
  | .markRetry outboxId workerId failure =>
      if row.HeldBy outboxId workerId then .failed failure else .kept
  | .reclaimExpired => if row.Expired now then .reclaimed else .kept

variable {database before after : Database} {limit : Int} {locked : List Uuid}
  {now : Time} {row : OutboxRow} {outboxId : Uuid}

/-- The rows that are claimed were ready, and no other transaction had locked
them. -/
theorem mem_nextRows (taken : row ∈ database.nextRows limit locked now) :
    row ∈ database.outbox.rows ∧ row.Ready now ∧ row.outboxId ∉ locked := by
  have sorted := List.mem_of_mem_take taken
  rw [Sorting.mem_sortedBy, List.mem_filter] at sorted
  simpa using sorted

/-- A row is claimed when it is among the rows that are taken. -/
theorem mem_nextRows_of_find (found : database.outbox.find outboxId = some row) :
    row.outboxId ∈ (database.nextRows limit locked now).map OutboxRow.outboxId ↔
      row ∈ database.nextRows limit locked now := by
  constructor
  · intro taken
    obtain ⟨other, present, same⟩ := List.mem_map.mp taken
    have itself := Table.find_of_mem (mem_nextRows present).1
    rw [same, Table.key_of_find found, found, Option.some.injEq] at itself
    exact itself ▸ present
  · exact fun taken => List.mem_map_of_mem taken

/-- An insertion adds the new row, or finds the event and topic there. -/
theorem Database.insert_cases {eventId : Uuid} {topic : String}
    (ran : before.insert outboxId eventId topic now = .ok after) :
    after = before ∨ ∃ inserted, after = { before with outbox := inserted } ∧
        before.outbox.insert (newRow outboxId eventId topic now) = some inserted := by
  unfold insert at ran
  split_ifs at ran
  · exact .inl (pure_eq_ok.mp ran).symm
  · obtain ⟨inserted, added, continued⟩ := bind_eq_ok.mp ran
    obtain ⟨-, ended⟩ := require_bind_eq_ok.mp continued
    exact .inr ⟨inserted, (pure_eq_ok.mp ended).symm, orRaise_eq_ok.mp added⟩

/-- What a claim returns and leaves. -/
theorem Database.claim_eq_ok
    {workerId : String} {leaseSeconds : Int} {messages : List OutboxMessage}
    (ran : before.claim workerId limit leaseSeconds locked now = .ok (messages, after)) :
    1 ≤ leaseSeconds ∧
    messages = (before.nextRows limit locked now).map (fun row =>
      (row.claim workerId leaseSeconds now).message) ∧
    after = { before with
      outbox := before.outbox.update (fun row => row.outboxId ∈
          (before.nextRows limit locked now).map OutboxRow.outboxId)
        (fun row => row.claim workerId leaseSeconds now) fun _ => rfl } := by
  simp only [claim, require_bind_eq_ok, pure_eq_ok, Prod.mk.injEq] at ran
  exact ⟨ran.2.1, ran.2.2.1.symm, ran.2.2.2.symm⟩

/-- What a statement leaves under a key at which it finds a row. -/
theorem Statement.find_of_run {statement : Statement}
    (ran : statement.run now before = .ok after)
    (found : before.outbox.find outboxId = some row) :
    after.outbox.find outboxId = some ((statement.effect now before row).apply now row) := by
  have updated : ∀ (guard : OutboxRow → Prop) [DecidablePred guard]
      (change : OutboxRow → OutboxRow)
      (effect : Effect) (keeps : ∀ row, (change row).outboxId = row.outboxId),
      effect.apply now row = change row →
      (before.outbox.update guard change keeps).find outboxId =
        some ((if guard row then effect else .kept).apply now row) := by
    intro guard _ change effect keeps applied
    rw [Table.find_update, found, Option.map_some]
    split_ifs
    · rw [applied]
    · rfl
  cases statement with
  | insertEvent eventId =>
      cases ran
      exact found
  | insert newId eventId topic =>
      rcases Database.insert_cases ran with rfl | ⟨inserted, rfl, added⟩
      · exact found
      · exact Table.find_insert_of_find added found
  | claim workerId limit leaseSeconds locked =>
      obtain ⟨⟨messages, database⟩, claimed, rfl⟩ := map_eq_ok.mp ran
      obtain ⟨-, -, rfl⟩ := Database.claim_eq_ok claimed
      exact updated _ _ (.claimed workerId leaseSeconds) (by exact fun _ => rfl) rfl
  | markDelivered target workerId =>
      cases ran
      exact updated _ _ .delivered (by exact fun _ => rfl) rfl
  | markRetry target workerId failure =>
      obtain ⟨-, ended⟩ := require_bind_eq_ok.mp ran
      cases ended
      exact updated _ _ (.failed failure) (by exact fun _ => rfl) rfl
  | reclaimExpired =>
      cases ran
      exact updated _ _ .reclaimed (by exact fun _ => rfl) rfl

/-- What a statement leaves under a key at which it finds no row. -/
theorem Statement.new_of_run {statement : Statement}
    (ran : statement.run now before = .ok after) (missing : before.outbox.find outboxId = none)
    (found : after.outbox.find outboxId = some row) :
    ∃ eventId topic, statement = .insert outboxId eventId topic ∧
      row = newRow outboxId eventId topic now := by
  have updated : ∀ (guard : OutboxRow → Prop) [DecidablePred guard]
      (change : OutboxRow → OutboxRow)
      (keeps : ∀ row, (change row).outboxId = row.outboxId),
      (before.outbox.update guard change keeps).find outboxId ≠ some row := by
    intro guard _ change keeps present
    rw [Table.find_update, missing] at present
    cases present
  cases statement with
  | insertEvent eventId =>
      cases ran
      exact absurd (missing.symm.trans found) nofun
  | insert newId eventId topic =>
      rcases Database.insert_cases ran with rfl | ⟨inserted, rfl, added⟩
      · exact absurd (missing.symm.trans found) nofun
      · rw [Table.find_insert added, missing] at found
        split_ifs at found with own
        obtain rfl : newId = outboxId := own
        exact ⟨eventId, topic, rfl, (Option.some.inj found).symm⟩
  | claim workerId limit leaseSeconds locked =>
      obtain ⟨⟨messages, database⟩, claimed, rfl⟩ := map_eq_ok.mp ran
      obtain ⟨-, -, rfl⟩ := Database.claim_eq_ok claimed
      exact absurd found (updated _ _ (by exact fun _ => rfl))
  | markDelivered target workerId =>
      cases ran
      exact absurd found (updated _ _ (by exact fun _ => rfl))
  | markRetry target workerId failure =>
      obtain ⟨-, ended⟩ := require_bind_eq_ok.mp ran
      cases ended
      exact absurd found (updated _ _ (by exact fun _ => rfl))
  | reclaimExpired =>
      cases ran
      exact absurd found (updated _ _ (by exact fun _ => rfl))

/-- When a statement has an effect on a row of the table. -/
structure Effect.Allowed (effect : Effect) (statement : Statement) (now : Time)
    (row : OutboxRow) : Prop where
  claimed : ∀ workerId leaseSeconds, effect = .claimed workerId leaseSeconds → row.Ready now
  delivered : effect = .delivered → ∃ workerId,
    statement = .markDelivered row.outboxId workerId ∧ row.HeldBy row.outboxId workerId
  failed : ∀ failure, effect = .failed failure → ∃ workerId,
    statement = .markRetry row.outboxId workerId failure ∧ row.HeldBy row.outboxId workerId
  reclaimed : effect = .reclaimed → statement = .reclaimExpired ∧ row.Expired now

theorem Statement.effect_allowed (statement : Statement) (now : Time)
    (present : row ∈ database.outbox.rows) :
    (statement.effect now database row).Allowed statement now row := by
  cases statement with
  | insertEvent eventId => exact ⟨nofun, nofun, nofun, nofun⟩
  | insert newId eventId topic => exact ⟨nofun, nofun, nofun, nofun⟩
  | claim workerId limit leaseSeconds locked =>
      unfold effect
      dsimp only
      split_ifs with taken
      · have ready := (mem_nextRows ((mem_nextRows_of_find
          (Table.find_of_mem present)).mp taken)).2.1
        exact ⟨fun _ _ _ => ready, nofun, nofun, nofun⟩
      · exact ⟨nofun, nofun, nofun, nofun⟩
  | markDelivered target workerId =>
      unfold effect
      dsimp only
      split_ifs with held
      · obtain rfl := held.1
        exact ⟨nofun, fun _ => ⟨workerId, rfl, held⟩, nofun, nofun⟩
      · exact ⟨nofun, nofun, nofun, nofun⟩
  | markRetry target workerId failure =>
      unfold effect
      dsimp only
      split_ifs with held
      · obtain rfl := held.1
        refine ⟨nofun, nofun, fun other same => ?_, nofun⟩
        cases same
        exact ⟨workerId, rfl, held⟩
      · exact ⟨nofun, nofun, nofun, nofun⟩
  | reclaimExpired =>
      unfold effect
      dsimp only
      split_ifs with expired
      · exact ⟨nofun, nofun, nofun, fun _ => ⟨rfl, expired⟩⟩
      · exact ⟨nofun, nofun, nofun, nofun⟩

end SanTanHeights.Kernel.Outbox
