import SanTanHeights.Kernel.Dispatcher

/-!
# What a dispatch reports

`dispatch_once` counts the messages that it published and those that it failed
to publish.  Beside its counters a call is followed by the rows that its own
statements moved, with other workers in between.  The counters are the rows as
long as each row is still claimed by the worker when its message is marked.
-/

namespace SanTanHeights.Kernel.Outbox

open Foundation Foundation.Outcome Foundation.Runs Shared

/-! ## Rows that a statement moves -/

/-- How many rows a statement moves to one of some states. -/
def movedRows (states : List DeliveryState) (before after : Database) : Nat :=
  before.outbox.rows.countP fun row : OutboxRow =>
    row.deliveryState ∉ states ∧
      ∃ next ∈ after.outbox.find row.outboxId, next.deliveryState ∈ states

/-- The row that a message is about is still claimed by the worker. -/
def Database.Holds (database : Database) (workerId : String) (message : OutboxMessage) : Prop :=
  ∃ row ∈ database.outbox.rows, row.HeldBy message.outboxId workerId

instance (database : Database) (workerId : String)
    (message : OutboxMessage) : Decidable (database.Holds workerId message) :=
  inferInstanceAs (Decidable (∃ row ∈ database.outbox.rows, _))

section Marks

variable {dispatcher : OutboxDispatcher} {workerId : String}
  {message : OutboxMessage} {published : Except String Unit} {now : Time}
  {before after : Database} {row : OutboxRow} {states : List DeliveryState}

/-- The state in which a mark leaves a row that it finds. -/
def OutboxDispatcher.markedState
    (dispatcher : OutboxDispatcher) (published : Except String Unit)
    (row : OutboxRow) : DeliveryState :=
  match published with
  | .ok () => .delivered
  | .error _ =>
      if dispatcher.maxAttempts ≤ row.attemptCount + 1 then .deadLetter
      else .retry

theorem OutboxDispatcher.effect_mark :
    (((dispatcher.mark workerId message published).effect now before
      row).apply now row).deliveryState =
      if row.HeldBy message.outboxId workerId then
        dispatcher.markedState published row
      else row.deliveryState := by
  cases published <;>
  · unfold mark Statement.effect markedState
    dsimp only
    split_ifs <;> simp_all [Effect.apply, OutboxRow.deliver, OutboxRow.fail]

/-- A mark moves at most the row of its message. -/
theorem movedRows_mark
    (ran : (dispatcher.mark workerId message published).run now before = .ok after)
    (elsewhere : .claimed ∉ states) :
    movedRows states before after =
      if ∃ row ∈ before.outbox.rows, row.HeldBy message.outboxId workerId ∧
        dispatcher.markedState published row ∈ states then 1 else 0 := by
  rw [← Table.countP_eq_ite fun row moved => moved.1.1]
  unfold movedRows
  apply List.countP_congr
  intro row present
  rw [Statement.find_of_run ran (Table.find_of_mem present)]
  have state := @OutboxDispatcher.effect_mark dispatcher workerId message published now before row
  simp only [Option.mem_some_iff, exists_eq_left', state, decide_eq_true_eq]
  split_ifs with held
  · have unmoved : row.deliveryState ∉ states := by
      rw [held.2.1]
      exact elsewhere
    exact and_congr_left fun _ => iff_of_true unmoved held
  · constructor
    · exact fun moved => absurd moved.2 moved.1
    · exact fun moved => absurd moved.1 held

/-- An acknowledged message moves its row to `DELIVERED`, if it is held. -/
theorem movedRows_acknowledged
    (ran : (dispatcher.mark workerId message (.ok ())).run now before = .ok after) :
    movedRows [.delivered] before after =
        (if before.Holds workerId message then 1 else 0) ∧
      movedRows [.retry, .deadLetter] before after = 0 := by
  constructor
  · rw [movedRows_mark ran (by simp)]
    simp only [OutboxDispatcher.markedState, List.mem_singleton, and_true]
    rfl
  · rw [movedRows_mark ran (by simp), if_neg]
    rintro ⟨row, -, -, moved⟩
    simp [OutboxDispatcher.markedState] at moved

/-- A message that failed moves its row to `RETRY` or `DEAD_LETTER`, if it is
held. -/
theorem movedRows_failed {className : String}
    (ran : (dispatcher.mark workerId message (.error className)).run now before = .ok after) :
    movedRows [.delivered] before after = 0 ∧
      movedRows [.retry, .deadLetter] before after =
        if before.Holds workerId message then 1 else 0 := by
  constructor
  · rw [movedRows_mark ran (by simp), if_neg]
    rintro ⟨row, -, -, moved⟩
    unfold OutboxDispatcher.markedState at moved
    dsimp only at moved
    split_ifs at moved <;> simp at moved
  · rw [movedRows_mark ran (by simp)]
    have moves : ∀ row, dispatcher.markedState (.error className) row ∈
        [DeliveryState.retry, .deadLetter] := by
      intro row
      unfold OutboxDispatcher.markedState
      dsimp only
      split_ifs <;> simp
    simp only [moves, and_true]
    rfl

end Marks

/-! ## Calls -/

/-- A call of `dispatch_once`: its counters so far, how many rows its
statements moved to `DELIVERED`, and to `RETRY` or `DEAD_LETTER`, and how many
of its messages it marked after it had lost their row. -/
structure DispatchCall where
  result : DispatchResult
  delivered : Nat
  retried : Nat
  lost : Nat
  deriving DecidableEq

namespace DispatchCall

/-- A call that has claimed its messages. -/
def begin (claimed : Nat) : DispatchCall :=
  ⟨⟨claimed, 0, 0⟩, 0, 0, 0⟩

/-- The call after it has marked a message. -/
def mark (call : DispatchCall) (workerId : String) (message : OutboxMessage)
    (published : Except String Unit) (before after : Database) :
    DispatchCall where
  result := call.result.count published
  delivered := call.delivered + movedRows [.delivered] before after
  retried := call.retried + movedRows [.retry, .deadLetter] before after
  lost := call.lost + if before.Holds workerId message then 0 else 1

/-- The counters exceed the rows that were moved by those that were lost, and
claimed are the counted messages and those left. -/
structure Accounts (call : DispatchCall) (left : Nat) : Prop where
  delivered : call.delivered ≤ call.result.delivered
  retried : call.retried ≤ call.result.retried
  counted : call.result.delivered + call.result.retried = call.delivered + call.retried + call.lost
  claimed : call.result.claimed = call.result.delivered + call.result.retried + left

/-- What a call that has returned reports is what happened to the rows. -/
structure Truthful (call : DispatchCall) : Prop where
  delivered : call.result.delivered = call.delivered
  retried : call.result.retried = call.retried
  claimed : call.result.claimed = call.result.delivered + call.result.retried

theorem accounts_begin (claimed : Nat) : (begin claimed).Accounts claimed := by
  constructor <;> simp [begin]

theorem Accounts.truthful_iff {call : DispatchCall} (accounts : call.Accounts 0) :
    call.Truthful ↔ call.lost = 0 := by
  obtain ⟨delivered, retried, counted, claimed⟩ := accounts
  constructor
  · intro truthful
    have sameDelivered := truthful.delivered
    have sameRetried := truthful.retried
    omega
  · intro kept
    constructor <;> omega

/-- A mark keeps the account, with its row or without. -/
theorem Accounts.mark {dispatcher : OutboxDispatcher} {workerId : String}
    {message : OutboxMessage} {published : Except String Unit} {now : Time}
    {before after : Database} {call : DispatchCall} {left : Nat}
    (accounts : call.Accounts (left + 1))
    (ran : (dispatcher.mark workerId message published).run now before = .ok after) :
    (call.mark workerId message published before after).Accounts left := by
  obtain ⟨delivered, retried, counted, claimed⟩ := accounts
  have either : (if before.Holds workerId message then 1 else 0) +
      (if before.Holds workerId message then 0 else 1) = 1 := by
    split_ifs <;> rfl
  cases published with
  | ok =>
      obtain ⟨moved, others⟩ := movedRows_acknowledged ran
      constructor <;>
        simp only [DispatchCall.mark, DispatchResult.count, moved, others] <;>
        omega
  | error className =>
      obtain ⟨others, moved⟩ := movedRows_failed ran
      constructor <;>
        simp only [DispatchCall.mark, DispatchResult.count, moved, others] <;>
        omega

end DispatchCall

/-! ## Calls side by side -/

/-- The workers, and the call that each has under way or has returned from. -/
structure Reporting where
  dispatching : Dispatching
  calls : String → Option DispatchCall

namespace Reporting

def database (state : Reporting) : Database :=
  state.dispatching.traced.database

/-- Nobody has called. -/
def start (events : List Uuid) (clock : Time) : Reporting where
  dispatching := .start events clock
  calls := fun _ => none

end Reporting

/-- The worker whose call an event is about. -/
def DispatchEvent.worker : DispatchEvent → Option String
  | .began workerId _ _ _ _ => some workerId
  | .finished workerId _ _ => some workerId
  | .crashed workerId => some workerId
  | _ => none

/-- The calls after an event. -/
def DispatchEvent.calls (event : DispatchEvent) (before : Reporting) (after : Dispatching) :
    String → Option DispatchCall :=
  match event with
  | .began workerId _ _ _ _ =>
      Function.update before.calls workerId (some (.begin (after.held workerId).length))
  | .finished workerId published _ =>
      Function.update before.calls workerId do
        let call ← before.calls workerId
        let message ← (before.dispatching.held workerId).head?
        return call.mark workerId message published before.database
          after.traced.database
  | .crashed workerId => Function.update before.calls workerId none
  | _ => before.calls

/-- A step of the workers, with what it adds to the calls. -/
structure ReportStep (dispatcher : OutboxDispatcher)
    (before : Reporting) (event : DispatchEvent) (after : Reporting) :
    Prop where
  dispatched : DispatchStep dispatcher before.dispatching event after.dispatching
  followed : after.calls = event.calls before after.dispatching

/-- A worker has nothing left without a call, and its call accounts for what
it has left. -/
def Reporting.AccountsFor (state : Reporting) (workerId : String) : Prop :=
  (state.calls workerId = none ∧ state.dispatching.held workerId = []) ∨
    ∃ call, state.calls workerId = some call ∧
      call.Accounts (state.dispatching.held workerId).length

section Steps

variable {dispatcher : OutboxDispatcher} {before after : Reporting}
  {event : DispatchEvent} {workerId : String}

theorem DispatchEvent.held_of_ne
    {state : Dispatching} (elsewhere : event.worker ≠ some workerId) :
    event.held state workerId = state.held workerId := by
  cases event with
  | began worker _ _ _ _ =>
      apply Function.update_of_ne
      exact fun same => elsewhere (congrArg some same.symm)
  | finished worker _ _ =>
      apply Function.update_of_ne
      exact fun same => elsewhere (congrArg some same.symm)
  | crashed worker =>
      apply Function.update_of_ne
      exact fun same => elsewhere (congrArg some same.symm)
  | _ => rfl

theorem DispatchEvent.calls_of_ne
    {state : Dispatching} (elsewhere : event.worker ≠ some workerId) :
    event.calls before state workerId = before.calls workerId := by
  cases event with
  | began worker _ _ _ _ =>
      apply Function.update_of_ne
      exact fun same => elsewhere (congrArg some same.symm)
  | finished worker _ _ =>
      apply Function.update_of_ne
      exact fun same => elsewhere (congrArg some same.symm)
  | crashed worker =>
      apply Function.update_of_ne
      exact fun same => elsewhere (congrArg some same.symm)
  | _ => rfl

/-- What the workers have left after a step. -/
theorem DispatchStep.held {first last : Dispatching}
    (taken : DispatchStep dispatcher first event last) :
    last.held = event.held first := by
  cases taken <;> rfl

/-- A worker that finishes marks the first of the messages that it holds. -/
theorem DispatchStep.finished_cases
    {first last : Dispatching} {published : Except String Unit} {now : Time}
    (taken : DispatchStep dispatcher first (.finished workerId published now) last) :
    ∃ message messages, first.held workerId = message :: messages ∧
      (dispatcher.mark workerId message published).run now
        first.traced.database = .ok last.traced.database := by
  cases taken with
  | executed states _ step =>
      obtain ⟨message, head, same⟩ := Option.map_eq_some_iff.mp states
      cases same
      cases step with
      | executed _ executed =>
          obtain ⟨database, ran, rfl⟩ := map_eq_ok.mp executed
          obtain ⟨messages, held⟩ := List.head?_eq_some_iff.mp head
          exact ⟨message, messages, held, ran⟩

/-- A step keeps the account of every worker. -/
theorem ReportStep.accounts (taken : ReportStep dispatcher before event after)
    (accounts : before.AccountsFor workerId) :
    after.AccountsFor workerId := by
  unfold Reporting.AccountsFor
  rw [taken.dispatched.held, taken.followed]
  by_cases own : event.worker = some workerId
  · cases event with
    | began worker batchSize leaseSeconds locked now =>
        cases own
        right
        refine ⟨_, Function.update_self .., ?_⟩
        rw [taken.dispatched.held]
        exact DispatchCall.accounts_begin _
    | finished worker published now =>
        cases own
        obtain ⟨message, messages, held, ran⟩ := taken.dispatched.finished_cases
        rcases accounts with ⟨-, none⟩ | ⟨call, called, accounts⟩
        · rw [held] at none
          cases none
        · rw [held] at accounts
          have left : (DispatchEvent.finished workerId published now).held
              before.dispatching workerId = messages := by
            change Function.update before.dispatching.held workerId _ workerId = messages
            rw [Function.update_self, held, List.tail_cons]
          rw [left]
          refine .inr ⟨call.mark workerId message published before.database
            after.database, ?_, accounts.mark ran⟩
          change Function.update before.calls workerId _ workerId = _
          rw [Function.update_self, called, held]
          rfl
    | crashed worker =>
        cases own
        exact .inl ⟨Function.update_self .., Function.update_self ..⟩
    | _ => cases own
  · rw [DispatchEvent.held_of_ne own, DispatchEvent.calls_of_ne own]
    exact accounts

end Steps

/-- In every run, what a call has returned is what happened to the rows just
when the worker still had each row at the time at which it marked the
message. -/
theorem reports_truthful_iff {dispatcher : OutboxDispatcher} {events : List Uuid} {clock : Time}
    {labels : List DispatchEvent} {reached : Reporting}
    (run : Exec (ReportStep dispatcher) (.start events clock) labels reached)
    {workerId : String} {call : DispatchCall} (called : reached.calls workerId = some call)
    (returned : reached.dispatching.held workerId = []) :
    call.Truthful ↔ call.lost = 0 := by
  have accounts : reached.AccountsFor workerId := by
    apply run.invariant
    · exact .inl ⟨rfl, rfl⟩
    · exact fun _ _ _ accounts taken => taken.accounts accounts
  rcases accounts with ⟨none, -⟩ | ⟨other, found, accounts⟩
  · rw [called] at none
    cases none
  · rw [called] at found
    cases found
    rw [returned] at accounts
    exact accounts.truthful_iff

/-! ## A lease that expires -/

/-- The step of an event, computed. -/
def Reporting.advance (dispatcher : OutboxDispatcher) (before : Reporting)
    (event : DispatchEvent) : Except String Reporting :=
  (before.dispatching.advance dispatcher event).map fun after =>
    ⟨after, event.calls before after⟩

theorem ReportStep.of_advance {dispatcher : OutboxDispatcher}
    (before : Reporting) (event : DispatchEvent) (after : Reporting)
    (advanced : before.advance dispatcher event = .ok after) :
    ReportStep dispatcher before event after := by
  obtain ⟨dispatching, dispatched, rfl⟩ := map_eq_ok.mp advanced
  exact ⟨.of_advance _ _ _ dispatched, rfl⟩

/-- A worker claims a row, and publishes its message. -/
def sampleCall : List DispatchEvent :=
  [.written 1 0, .enqueued 2 1 "events" 0, .began "worker-1" 50 60 [] 0,
    .finished "worker-1" (.ok ()) 0]

/-- Publishing takes longer than the lease. -/
def sampleSlowCall : List DispatchEvent :=
  [.written 1 0, .enqueued 2 1 "events" 0, .began "worker-1" 50 60 [] 0,
    .passed (seconds 61), .reclaimed (seconds 61),
    .finished "worker-1" (.ok ()) (seconds 61)]

/-- What a run leaves of the call of a worker, and of its messages. -/
def Reporting.callOf (state : Reporting) (workerId : String) :
    Option DispatchCall × List OutboxMessage :=
  (state.calls workerId, state.dispatching.held workerId)

theorem exists_report {labels : List DispatchEvent} {call : DispatchCall}
    (computed : ((labels.foldlM (Reporting.advance ⟨5⟩)
      (.start [] 0)).toOption.map fun reached =>
        reached.callOf "worker-1") = some (some call, [])) :
    ∃ reached, Exec (ReportStep ⟨5⟩) (.start [] 0) labels reached ∧
      reached.calls "worker-1" = some call ∧
      reached.dispatching.held "worker-1" = [] := by
  obtain ⟨reached, ran, left⟩ := Option.map_eq_some_iff.mp computed
  have run := Exec.of_foldlM ReportStep.of_advance (toOption_eq_some.mp ran)
  exact ⟨reached, run, congrArg Prod.fst left, congrArg Prod.snd left⟩

theorem reports_truthful_sample :
    ∃ (reached : Reporting) (call : DispatchCall),
      reached.calls "worker-1" = some call ∧ call.delivered = 1 ∧
      call.Truthful := by
  obtain ⟨reached, run, called, returned⟩ :=
    @exists_report sampleCall ⟨⟨1, 1, 0⟩, 1, 0, 0⟩ (by decide +kernel)
  exact ⟨reached, _, called, rfl,
    (reports_truthful_iff run called returned).mpr rfl⟩

/-- A call reports a delivery although its lease expired while the message was
being published, and its row went back to the queue. -/
theorem slow_call_misreports :
    ∃ (dispatcher : OutboxDispatcher) (events : List Uuid) (clock : Time)
      (labels : List DispatchEvent) (reached : Reporting)
      (workerId : String) (call : DispatchCall),
      Exec (ReportStep dispatcher) (.start events clock) labels reached ∧
      reached.calls workerId = some call ∧
      reached.dispatching.held workerId = [] ∧ ¬call.Truthful := by
  obtain ⟨reached, run, called, returned⟩ :=
    @exists_report sampleSlowCall ⟨⟨1, 1, 0⟩, 0, 0, 1⟩ (by decide +kernel)
  refine ⟨_, _, _, _, reached, _, _, run, called, returned, ?_⟩
  intro truthful
  cases truthful.delivered

end SanTanHeights.Kernel.Outbox
