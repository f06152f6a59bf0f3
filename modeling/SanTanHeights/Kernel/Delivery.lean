import SanTanHeights.Foundation.Runs
import SanTanHeights.Kernel.Outbox

/-!
# Outbox delivery

Statements of any workers take effect in any order while time passes.  A row
carries what was done to it so far, so that its counter can be compared with
the failures that were recorded.
-/

namespace SanTanHeights.Kernel.Outbox

open Foundation Foundation.Outcome Foundation.Runs Shared

/-- The states that a row may be moved to. -/
def DeliveryState.successors : DeliveryState → List DeliveryState
  | .pending => [.claimed]
  | .retry => [.claimed]
  | .claimed => [.delivered, .retry, .deadLetter]
  | .delivered => []
  | .deadLetter => []

/-- Rows in these states are never changed. -/
def DeliveryState.Final (state : DeliveryState) : Prop :=
  state = .delivered ∨ state = .deadLetter

theorem DeliveryState.not_final_claimed : ¬DeliveryState.claimed.Final := nofun

/-! ## Runs -/

/-- A database at a time, with what was done to each row since it was
inserted. -/
structure Traced where
  database : Database
  clock : Time
  trail : Uuid → List Effect

/-- An outbox without rows. -/
def Traced.start (events : List Uuid) (clock : Time) : Traced where
  database := ⟨events, .empty _⟩
  clock := clock
  trail := fun _ => []

/-- The trails after a statement. -/
def Traced.extended (traced : Traced) (statement : Statement) (now : Time) :
    Uuid → List Effect :=
  fun outboxId =>
    match traced.database.outbox.find outboxId with
    | none => []
    | some row =>
        traced.trail outboxId ++ [statement.effect now traced.database row]

variable {statement : Statement} {now : Time} {outboxId : Uuid}
  {row : OutboxRow}

theorem Traced.extended_of_find {traced : Traced}
    (found : traced.database.outbox.find outboxId = some row) :
    traced.extended statement now outboxId =
      traced.trail outboxId ++ [statement.effect now traced.database row] := by
  rw [extended, found]

theorem Traced.extended_of_missing {traced : Traced}
    (missing : traced.database.outbox.find outboxId = none) :
    traced.extended statement now outboxId = [] := by
  rw [extended, missing]

/-- A statement that takes effect. -/
def Traced.execute (before : Traced) (statement : Statement) (now : Time) :
    Except String Traced :=
  (statement.run now before.database).map fun database =>
    ⟨database, before.clock, before.extended statement now⟩

/-- A statement that read a time, or the passage of time. -/
inductive Event where
  | executed (statement : Statement) (now : Time)
  | rolledBack (statement : Statement)
  | passed (later : Time)

/-- A statement takes effect, or its transaction is rolled back, as it is when
the statement raises. -/
inductive Step : Traced → Event → Traced → Prop
  | executed {before after : Traced} {statement : Statement}
      {now : Time} :
      now ≤ before.clock → before.execute statement now = .ok after →
      Step before (.executed statement now) after
  | rolledBack (before : Traced) (statement : Statement) :
      Step before (.rolledBack statement) before
  | passed {before : Traced} {later : Time} :
      before.clock ≤ later →
      Step before (.passed later) { before with clock := later }

/-- What a step does to a row that it finds. -/
theorem Step.effect {before after : Traced} {event : Event} (taken : Step before event after)
    (found : before.database.outbox.find outboxId = some row) :
    (after.database.outbox.find outboxId = some row ∧
      after.trail outboxId = before.trail outboxId) ∨
    ∃ statement now effect, event = .executed statement now ∧
      now ≤ before.clock ∧ effect.Allowed statement now row ∧
      after.database.outbox.find outboxId = some (effect.apply now row) ∧
      after.trail outboxId = before.trail outboxId ++ [effect] := by
  cases taken with
  | rolledBack => exact .inl ⟨found, rfl⟩
  | passed => exact .inl ⟨found, rfl⟩
  | @executed _ statement now earlier executed =>
      obtain ⟨database, ran, rfl⟩ := map_eq_ok.mp executed
      have present := (Table.find_eq_some_iff.mp found).1
      refine .inr ⟨statement, now, _, rfl, earlier, statement.effect_allowed now present,
        Statement.find_of_run ran found, Traced.extended_of_find found⟩

/-- What holds of a new row, and is kept by what statements do to it, holds of
the rows of every database reached. -/
theorem Traced.row_invariant {property : OutboxRow → List Effect → Prop}
    (new : ∀ outboxId eventId topic now, property (newRow outboxId eventId topic now) [])
    (preserved : ∀ {row effects effect statement now},
      property row effects → effect.Allowed statement now row →
      property (effect.apply now row) (effects ++ [effect]))
    {clock : Time} {events : List Uuid} {labels : List Event} {reached : Traced}
    (run : Exec Step (.start events clock) labels reached) :
    ∀ outboxId row, reached.database.outbox.find outboxId = some row →
      property row (reached.trail outboxId) := by
  apply run.invariant
  · exact fun _ _ => nofun
  · intro before event after holds taken outboxId next found
    cases prior : before.database.outbox.find outboxId with
    | some row =>
        have held := holds outboxId row prior
        rcases taken.effect prior with
          ⟨same, trail⟩ | ⟨statement, now, effect, -, -, allowed, same, trail⟩
        · rw [found, Option.some.injEq] at same
          rw [same, trail]
          exact held
        · rw [found, Option.some.injEq] at same
          rw [same, trail]
          exact preserved held allowed
    | none =>
        cases taken with
        | rolledBack => exact absurd (prior.symm.trans found) nofun
        | passed => exact absurd (prior.symm.trans found) nofun
        | @executed _ statement now _ executed =>
            obtain ⟨database, ran, rfl⟩ := map_eq_ok.mp executed
            obtain ⟨eventId, topic, -, rfl⟩ := Statement.new_of_run ran prior found
            change property _ (before.extended statement now outboxId)
            rw [Traced.extended_of_missing prior]
            exact new outboxId eventId topic now

/-! ## Rows -/

def Effect.isFailed : Effect → Bool
  | .failed _ => true
  | _ => false

/-- A claimed row has an owner and a lease, a row counts the failures that
were recorded, and it is a dead letter only when one of them found that
enough. -/
structure Sound (row : OutboxRow) (effects : List Effect) : Prop where
  leased : row.deliveryState = .claimed → row.claimedBy.isSome ∧ row.leaseExpiresAt.isSome
  counted : row.attemptCount = effects.countP Effect.isFailed
  exhausted : row.deliveryState = .deadLetter → ∃ failure,
    .failed failure ∈ effects ∧ failure.maxAttempts ≤ (row.attemptCount : Int)

theorem sound_newRow (outboxId eventId : Uuid) (topic : String) (now : Time) :
    Sound (newRow outboxId eventId topic now) [] :=
  ⟨nofun, rfl, nofun⟩

theorem Sound.apply {effects : List Effect} {effect : Effect}
    (sound : Sound row effects) (allowed : effect.Allowed statement now row) :
    Sound (effect.apply now row) (effects ++ [effect]) := by
  have counted := sound.counted
  cases effect with
  | kept =>
      refine ⟨sound.leased, ?_, fun dead => ?_⟩
      · rw [List.countP_append, ← counted]
        rfl
      · obtain ⟨failure, recorded, enough⟩ := sound.exhausted dead
        exact ⟨failure, List.mem_append_left _ recorded, enough⟩
  | claimed workerId leaseSeconds =>
      refine ⟨fun _ => ⟨rfl, rfl⟩, ?_, nofun⟩
      rw [List.countP_append, ← counted]
      rfl
  | delivered =>
      refine ⟨nofun, ?_, nofun⟩
      rw [List.countP_append, ← counted]
      rfl
  | failed failure =>
      refine ⟨fun claimed => ?_, ?_, fun dead => ?_⟩
      · simp only [Effect.apply, OutboxRow.fail] at claimed
        split_ifs at claimed
      · rw [List.countP_append, ← counted]
        rfl
      · simp only [Effect.apply, OutboxRow.fail] at dead ⊢
        split_ifs at dead with enough
        exact ⟨failure, by simp, by simpa using enough⟩
  | reclaimed =>
      refine ⟨nofun, ?_, nofun⟩
      rw [List.countP_append, ← counted]
      rfl

/-- A worker acknowledges a row, or gives up on it. -/
def Event.MarkedBy (event : Event) (outboxId : Uuid) (workerId : String) : Prop :=
  ∃ now, event = .executed (.markDelivered outboxId workerId) now ∨
    ∃ failure, event = .executed (.markRetry outboxId workerId failure) now

/-- What may become of a row in one step. -/
structure Follows (event : Event) (clock : Time) (row next : OutboxRow) : Prop where
  moves : next.deliveryState = row.deliveryState ∨ next.deliveryState ∈ row.deliveryState.successors
  final : row.deliveryState.Final → next = row
  owned : row.deliveryState = .claimed → next ≠ row →
    (∃ workerId, row.claimedBy = some workerId ∧ event.MarkedBy row.outboxId workerId) ∨
    ∃ leaseExpiresAt, row.leaseExpiresAt = some leaseExpiresAt ∧ leaseExpiresAt < clock
  exhausted : row.deliveryState ≠ .deadLetter →
    next.deliveryState = .deadLetter → ∃ workerId failure now,
      event = .executed (.markRetry row.outboxId workerId failure) now ∧
      failure.maxAttempts ≤ (next.attemptCount : Int)

theorem Follows.refl (event : Event) (clock : Time) (row : OutboxRow) :
    Follows event clock row row where
  moves := .inl rfl
  final _ := rfl
  owned _ changed := absurd rfl changed
  exhausted notDead dead := absurd dead notDead

theorem follows_of_allowed {effect : Effect} {clock : Time}
    (allowed : effect.Allowed statement now row) (earlier : now ≤ clock) :
    Follows (.executed statement now) clock row (effect.apply now row) := by
  cases effect with
  | kept => exact .refl _ _ row
  | claimed workerId leaseSeconds =>
      have ready := (allowed.claimed workerId leaseSeconds rfl).1
      have unclaimed : row.deliveryState ≠ .claimed := by
        rcases ready with pending | retry
        · exact pending ▸ nofun
        · exact retry ▸ nofun
      refine ⟨.inr ?_, fun final => ?_, fun claimed => absurd claimed unclaimed,
        fun _ => nofun⟩
      · rcases ready with pending | retry
        · rw [pending]
          exact List.mem_singleton_self _
        · rw [retry]
          exact List.mem_singleton_self _
      · rcases ready with pending | retry
        · exact absurd (pending ▸ final) nofun
        · exact absurd (retry ▸ final) nofun
  | delivered =>
      obtain ⟨workerId, rfl, -, claimed, owner⟩ := allowed.delivered rfl
      refine ⟨.inr ?_, fun final => ?_, fun _ _ => ?_, fun _ => nofun⟩
      · rw [claimed]
        exact List.mem_cons_self
      · exact absurd (claimed ▸ final) DeliveryState.not_final_claimed
      · exact .inl ⟨workerId, owner, now, .inl rfl⟩
  | failed failure =>
      obtain ⟨workerId, rfl, -, claimed, owner⟩ := allowed.failed failure rfl
      refine ⟨.inr ?_, fun final => ?_, fun _ _ => ?_, fun _ dead => ?_⟩
      · rw [claimed]
        simp only [Effect.apply, OutboxRow.fail, DeliveryState.successors]
        split_ifs <;> simp
      · exact absurd (claimed ▸ final) DeliveryState.not_final_claimed
      · exact .inl ⟨workerId, owner, now, .inr ⟨failure, rfl⟩⟩
      · refine ⟨workerId, failure, now, rfl, ?_⟩
        simp only [Effect.apply, OutboxRow.fail] at dead ⊢
        split_ifs at dead with enough
        simpa using enough
  | reclaimed =>
      obtain ⟨rfl, claimed, leaseExpiresAt, leased, expired⟩ := allowed.reclaimed rfl
      refine ⟨.inr ?_, fun final => ?_, fun _ _ => ?_, fun _ => nofun⟩
      · rw [claimed]
        simp [Effect.apply, OutboxRow.reclaim, DeliveryState.successors]
      · exact absurd (claimed ▸ final) DeliveryState.not_final_claimed
      · exact .inr ⟨leaseExpiresAt, leased, expired.trans_le earlier⟩

/-- What a step makes of each row. -/
theorem Step.follows {before after : Traced} {event : Event} (taken : Step before event after)
    (present : row ∈ before.database.outbox.rows) :
    ∃ next ∈ after.database.outbox.rows, next.outboxId = row.outboxId ∧
      Follows event before.clock row next := by
  rcases taken.effect (Table.find_of_mem present) with
    ⟨found, -⟩ | ⟨statement, now, effect, rfl, earlier, allowed, found, -⟩
  · exact ⟨row, (Table.find_eq_some_iff.mp found).1, rfl, .refl _ _ row⟩
  · obtain ⟨kept, same⟩ := Table.find_eq_some_iff.mp found
    exact ⟨_, kept, same, follows_of_allowed allowed earlier⟩

/-- In every outbox reached, claimed rows have an owner and a lease and rows
count their recorded failures; a further step moves a row along the states,
takes it from its owner only after its lease, makes a dead letter only of a
row that has used up its attempts, and changes none that is final. -/
theorem outbox_delivery {events : List Uuid} {clock : Time} {labels : List Event}
    {reached : Traced} (run : Exec Step (.start events clock) labels reached) :
    (∀ row ∈ reached.database.outbox.rows,
      Sound row (reached.trail row.outboxId)) ∧
    ∀ event after, Step reached event after →
      ∀ row ∈ reached.database.outbox.rows, ∃ next ∈ after.database.outbox.rows,
          next.outboxId = row.outboxId ∧
          Follows event reached.clock row next := by
  constructor
  · intro row present
    exact Traced.row_invariant sound_newRow Sound.apply run row.outboxId row
      (Table.find_of_mem present)
  · intro event after taken row present
    exact taken.follows present

/-! ## A run -/

/-- The step of an event, computed. -/
def Traced.advance (before : Traced) (event : Event) : Except String Traced :=
  match event with
  | .executed statement now => do
      require (now ≤ before.clock) "time has not come"
      before.execute statement now
  | .rolledBack _ => .ok before
  | .passed later => do
      require (before.clock ≤ later) "time has passed"
      return { before with clock := later }

theorem Step.of_advance (before : Traced) (event : Event) (after : Traced)
    (advanced : before.advance event = .ok after) :
    Step before event after := by
  cases event with
  | executed statement now =>
      obtain ⟨earlier, executed⟩ := require_bind_eq_ok.mp advanced
      exact .executed earlier executed
  | rolledBack statement =>
      cases advanced
      exact .rolledBack before statement
  | passed later =>
      obtain ⟨passed, ended⟩ := require_bind_eq_ok.mp advanced
      cases ended
      exact .passed passed

/-- One row that is claimed, dropped, reclaimed and claimed again. -/
def sampleEvents : List Event :=
  [.executed (.insert 2 1 "events") 0, .executed (.claim "worker-1" 50 60 []) 0,
    .passed (seconds 61), .executed .reclaimExpired (seconds 61),
    .executed (.claim "worker-2" 50 60 []) (seconds 61)]

theorem sampleEvents_reach :
    ((sampleEvents.foldlM Traced.advance
      (.start [⟨1, by decide⟩] 0)).toOption.map fun reached =>
        reached.database.outbox.rows.map OutboxRow.claimedBy) =
      some [some "worker-2"] := by
  decide +kernel

theorem outbox_delivery_sample :
    ∃ reached : Traced, ∃ row ∈ reached.database.outbox.rows,
      row.claimedBy = some "worker-2" ∧
      Sound row (reached.trail row.outboxId) := by
  have reach := sampleEvents_reach
  obtain ⟨reached, ran, owners⟩ := Option.map_eq_some_iff.mp reach
  obtain ⟨row, rows, owner⟩ := List.map_eq_singleton_iff.mp owners
  have present : row ∈ reached.database.outbox.rows := by
    rw [rows]
    exact List.mem_singleton_self row
  have run := Exec.of_foldlM Step.of_advance (toOption_eq_some.mp ran)
  exact ⟨reached, row, present, owner, (outbox_delivery run).1 row present⟩

end SanTanHeights.Kernel.Outbox
