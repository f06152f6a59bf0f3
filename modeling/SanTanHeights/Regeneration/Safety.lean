import Mathlib.Data.List.Chain
import SanTanHeights.Regeneration.Worker

/-!
# Safety of regeneration jobs

At most one active job has a target, no job is claimed more often than it may
be, a job under way has a worker and a lease, and the delays of its retries
grow.  The retry service decides on the copy of a job that it is given, while
the statement that retries the job checks only its worker and its state, so
that these hold as long as a retry is decided on what is stored.
-/

namespace SanTanHeights.Regeneration

open Foundation Foundation.Outcome Foundation.Runs Shared

/-- A job in one of these states waits for a worker. -/
def JobState.Waiting (state : JobState) : Prop :=
  state = .queued ∨ state = .retryWait

/-- A job has not been claimed too often, has an attempt left while it waits,
and has a worker and a lease while it is held. -/
structure RegenerationJob.Sound (job : RegenerationJob) : Prop where
  bounded : (job.attemptCount : Int) ≤ job.maxAttempts
  spare : job.jobState.Waiting → (job.attemptCount : Int) < job.maxAttempts
  leased : job.jobState.Held → job.workerId.isSome = true ∧ job.leaseExpiresAt.isSome = true

namespace RegenerationJob.Sound

variable {job : RegenerationJob}

/-- A job that waits with an attempt left. -/
theorem of_waiting (spare : (job.attemptCount : Int) < job.maxAttempts)
    (waiting : job.jobState.Waiting) :
    job.Sound where
  bounded := le_of_lt spare
  spare := fun _ => spare
  leased := by
    intro held
    rcases waiting with waiting | waiting
    · rw [waiting] at held
      exact absurd held (by decide)
    · rw [waiting] at held
      exact absurd held (by decide)

/-- A job that a worker holds under a lease. -/
theorem of_held (bounded : (job.attemptCount : Int) ≤ job.maxAttempts)
    (held : job.jobState.Held)
    (leased : job.workerId.isSome = true ∧ job.leaseExpiresAt.isSome = true) :
    job.Sound where
  bounded := bounded
  spare := by
    rintro (waiting | waiting)
    · rw [waiting] at held
      exact absurd held (by decide)
    · rw [waiting] at held
      exact absurd held (by decide)
  leased := fun _ => leased

/-- A job in a state that it does not leave. -/
theorem of_final (bounded : (job.attemptCount : Int) ≤ job.maxAttempts)
    (final : ¬ job.jobState.Active) :
    job.Sound where
  bounded := bounded
  spare := by
    rintro (waiting | waiting)
    · rw [waiting] at final
      exact absurd (by decide) final
    · rw [waiting] at final
      exact absurd (by decide) final
  leased := fun held => absurd held.active final

end RegenerationJob.Sound

/-- Every job is sound, active jobs have different targets, and the delays of
a job grow up to the maximum. -/
structure Safe (policy : RetryPolicy) (state : Regenerating) : Prop where
  unique : ∀ job ∈ state.tables.jobs.rows, ∀ other ∈ state.tables.jobs.rows,
    job.jobState.Active → other.jobState.Active → job.target = other.target → job = other
  sound : ∀ job ∈ state.tables.jobs.rows, job.Sound
  growing : ∀ jobId, (state.retries jobId).IsChain (· ≤ ·)
  bounded : ∀ jobId, ∀ delay ∈ state.retries jobId, delay ≤ policy.maximum

/-- The jobs that are not active are the same afterwards. -/
def JobTables.Frozen (before after : JobTables) : Prop :=
  ∀ job ∈ before.jobs.rows, ¬ job.jobState.Active → job ∈ after.jobs.rows

/-- A retry that takes effect on a job is decided while the job has an attempt
left, and after no shorter a delay than the retry before. -/
def Event.Current (policy : RetryPolicy) (event : Event) (before : Regenerating) : Prop :=
  match event with
  | .rolledBack _ => True
  | .made call _ =>
      match call.statement policy with
      | .ok (.setRetryWait jobId workerId _ _) =>
          ∀ job ∈ before.tables.jobs.rows,
            job.HeldBy jobId workerId [.claimed, .running] →
            (job.attemptCount : Int) < job.maxAttempts ∧
              ∀ delay ∈ (before.retries jobId).getLast?, delay ≤ policy.delay call.attemptCount
      | _ => True

instance (policy : RetryPolicy) (event : Event) (before : Regenerating) :
    Decidable (event.Current policy before) := by
  unfold Event.Current
  split
  · infer_instance
  · split <;> infer_instance

theorem Event.current_made_iff {policy : RetryPolicy} {call : Call} {now : Time}
    {before : Regenerating} : (Event.made call now).Current policy before ↔
      ∀ jobId workerId nextRetryAt failure, call.statement policy =
          .ok (.setRetryWait jobId workerId nextRetryAt failure) →
        ∀ job ∈ before.tables.jobs.rows,
          job.HeldBy jobId workerId [.claimed, .running] →
          (job.attemptCount : Int) < job.maxAttempts ∧
            ∀ delay ∈ (before.retries jobId).getLast?, delay ≤ policy.delay call.attemptCount := by
  simp only [Current]
  constructor
  · intro current jobId workerId nextRetryAt failure retried
    simpa only [retried] using current
  · intro current
    split
    · exact current _ _ _ _ ‹_›
    · trivial

/-! ## One statement -/

/-- The target of a job is fixed. -/
theorem Effect.target_apply (effect : Effect) (now : Time) (job : RegenerationJob) :
    (effect.apply now job).target = job.target := by
  cases effect <;> rfl

namespace Effect.Allowed

variable {effect : Effect} {statement : Statement} {now : Time}
  {job : RegenerationJob}

/-- A job that is not active is not changed. -/
theorem apply_of_not_active (allowed : effect.Allowed statement now job)
    (final : ¬ job.jobState.Active) :
    effect.apply now job = job := by
  cases allowed with
  | kept => rfl
  | claimed claimable =>
      apply absurd _ final
      rcases claimable with queued | ⟨waiting, -⟩
      · rw [queued]
        decide
      · rw [waiting]
        decide
  | started own claimed =>
      exact absurd (JobState.Held.active (.inl claimed)) final
  | prolonged own running =>
      exact absurd (JobState.Held.active (.inr running)) final
  | retried own held => exact absurd held.active final
  | terminated ends own prior =>
      apply absurd _ final
      rcases prior with held | waiting
      · exact held.active
      · rw [waiting]
        decide
  | completed ends own running =>
      exact absurd (JobState.Held.active (.inr running)) final
  | outdated own held => exact absurd held.active final

/-- A job that is active was so before. -/
theorem active_of_apply (allowed : effect.Allowed statement now job)
    (active : (effect.apply now job).jobState.Active) :
    job.jobState.Active := by
  by_contra final
  rw [allowed.apply_of_not_active final] at active
  exact final active

/-- A sound job stays so unless it is retried without an attempt left. -/
theorem sound_apply (allowed : effect.Allowed statement now job) (sound : job.Sound)
    (spare : ∀ nextRetryAt failure, effect = .retried nextRetryAt failure →
      (job.attemptCount : Int) < job.maxAttempts) :
    (effect.apply now job).Sound := by
  cases allowed with
  | kept => exact sound
  | claimed claimable =>
      have left := sound.spare (claimable.imp id And.left)
      apply RegenerationJob.Sound.of_held _ (.inl rfl) ⟨rfl, rfl⟩
      change ((job.attemptCount + 1 : Nat) : Int) ≤ job.maxAttempts
      omega
  | started own claimed =>
      exact .of_held sound.bounded (.inr rfl) (sound.leased (.inl claimed))
  | prolonged own running =>
      have worker := (sound.leased (.inr running)).1
      exact .of_held sound.bounded (.inr running) ⟨worker, rfl⟩
  | retried own held =>
      exact .of_waiting (spare _ _ rfl) (.inr rfl)
  | terminated ends own prior =>
      rcases ends with rfl | rfl
      · exact .of_final sound.bounded (by decide : ¬ JobState.failed.Active)
      · exact .of_final sound.bounded (by decide : ¬ JobState.blocked.Active)
  | completed ends own running =>
      rcases ends with rfl | rfl
      · exact .of_final sound.bounded (by decide : ¬ JobState.succeeded.Active)
      · exact .of_final sound.bounded (by decide : ¬ JobState.noOp.Active)
  | outdated own held =>
      exact .of_final sound.bounded (by decide : ¬ JobState.stale.Active)

end Effect.Allowed

/-- A new job has all its attempts left. -/
theorem JobRequest.sound_job (request : JobRequest) (queuedAt : Option Time)
    (checked : ({ request.job with queuedAt := queuedAt }).Checked) :
    ({ request.job with queuedAt := queuedAt } : RegenerationJob).Sound := by
  have positive : 1 ≤ request.maxAttempts := checked.2.2.2.2.1
  apply RegenerationJob.Sound.of_waiting _ (.inl rfl)
  change ((0 : Nat) : Int) < request.maxAttempts
  omega

/-- A statement keeps active jobs apart. -/
theorem Statement.unique_of_run {statement : Statement} {now : Time} {before after : JobTables}
    (ran : statement.run now before = .ok after)
    (unique : ∀ job ∈ before.jobs.rows, ∀ other ∈ before.jobs.rows,
      job.jobState.Active → other.jobState.Active → job.target = other.target → job = other) :
    ∀ job ∈ after.jobs.rows, ∀ other ∈ after.jobs.rows,
      job.jobState.Active → other.jobState.Active → job.target = other.target → job = other := by
  have apart : ∀ prior ∈ before.jobs.rows,
      ((statement.effect now before prior).apply now
        prior).jobState.Active → ∀ job : RegenerationJob,
      (job.jobState.Active → ∀ other ∈ before.jobs.rows,
        other.jobState.Active → other.target ≠ job.target) →
      job.jobState.Active →
      ((statement.effect now before prior).apply now prior).target ≠ job.target := by
    intro prior present active job distinct jobActive
    have allowed := Statement.allowed_of_run ran prior
    rw [Effect.target_apply]
    exact distinct jobActive prior present (allowed.active_of_apply active)
  intro job present other otherPresent active otherActive same
  rcases Statement.mem_of_run ran present with
    ⟨prior, priorPresent, rfl⟩ | ⟨new, inserts, new_eq, -, distinct⟩
  · rcases Statement.mem_of_run ran otherPresent with
      ⟨second, secondPresent, rfl⟩ | ⟨new, -, -, -, distinct⟩
    · have itself := unique prior priorPresent second secondPresent
        ((Statement.allowed_of_run ran prior).active_of_apply active)
        ((Statement.allowed_of_run ran second).active_of_apply otherActive)
      rw [Effect.target_apply, Effect.target_apply] at same
      rw [itself same]
    · exact absurd same (apart prior priorPresent active other distinct otherActive)
  · rcases Statement.mem_of_run ran otherPresent with
      ⟨second, secondPresent, rfl⟩ | ⟨again, insertsAgain, again_eq, -⟩
    · exact absurd same.symm (apart second secondPresent otherActive job distinct active)
    · rw [inserts, Statement.insert.injEq] at insertsAgain
      rw [new_eq, again_eq, insertsAgain]

/-! ## One step -/

variable {policy : RetryPolicy} {before after : Regenerating} {event : Event}

/-- A retry that a job accepts adds the delay that it was decided on. -/
theorem Regenerating.delayed_of_held {call : Call} {workerId : String} {nextRetryAt now : Time}
    {failure : Failure} {job : RegenerationJob}
    (stated : call.statement policy = .ok (.setRetryWait job.jobId workerId nextRetryAt failure))
    (present : job ∈ before.tables.jobs.rows)
    (held : job.HeldBy job.jobId workerId [.claimed, .running]) :
    before.delayed (.setRetryWait job.jobId workerId nextRetryAt failure)
        (call.decision policy) now job.jobId =
      before.retries job.jobId ++ [policy.delay call.attemptCount] := by
  have decided := Call.decision_of_statement stated
  have changed : (Statement.setRetryWait job.jobId workerId nextRetryAt
      failure).effect now before.tables job = .retried nextRetryAt failure := if_pos held
  simp only [delayed, Table.find_of_mem present, changed, decided, Option.toList_some]

/-- A call leaves the delays of a job as they are, or retries the job. -/
theorem Regenerating.delayed_cases {call : Call} {statement : Statement} {now : Time}
    {tables : JobTables} (stated : call.statement policy = .ok statement)
    (ran : statement.run now before.tables = .ok tables) (jobId : Uuid) :
    before.delayed statement (call.decision policy) now jobId =
        before.retries jobId ∨
      ∃ job ∈ before.tables.jobs.rows, ∃ workerId nextRetryAt failure,
        job.HeldBy jobId workerId [.claimed, .running] ∧
        call.statement policy = .ok (.setRetryWait jobId workerId nextRetryAt failure) ∧
        before.delayed statement (call.decision policy) now jobId =
          before.retries jobId ++ [policy.delay call.attemptCount] := by
  unfold delayed
  cases found : before.tables.jobs.find jobId with
  | none => exact .inl rfl
  | some job =>
      have present := (Table.find_eq_some_iff.mp found).1
      obtain rfl := Table.key_of_find found
      have allowed := Statement.allowed_of_run ran job
      dsimp only
      generalize statement.effect now before.tables job = effect at allowed
      cases allowed with
      | @retried workerId nextRetryAt _ failure _ own held =>
          right
          have decided := Call.decision_of_statement stated
          refine ⟨job, present, workerId, nextRetryAt, failure,
            ⟨rfl, own, by simpa [JobState.Held] using held⟩, stated, ?_⟩
          simp only [decided, Option.toList_some]
      | kept => exact .inl rfl
      | claimed _ => exact .inl rfl
      | started _ _ => exact .inl rfl
      | prolonged _ _ => exact .inl rfl
      | terminated _ _ _ => exact .inl rfl
      | completed _ _ _ => exact .inl rfl
      | outdated _ _ => exact .inl rfl

/-- A step keeps the jobs safe exactly when a retry that takes effect is
decided on what is stored. -/
theorem safe_iff_current (safe : Safe policy before) (taken : Step policy before event after) :
    Safe policy after ↔ event.Current policy before := by
  cases taken with
  | rolledBack call => exact ⟨fun _ => trivial, fun _ => safe⟩
  | @made _ call now made =>
      obtain ⟨statement, stated, ran, retries⟩ := Regenerating.make_eq_ok made
      rw [Event.current_made_iff]
      constructor
      · intro kept jobId workerId nextRetryAt failure retried job present held
        obtain rfl := held.1
        rw [stated, Except.ok.injEq] at retried
        subst retried
        have changed := Statement.mem_run_of_mem ran present
        rw [Statement.effect, if_pos held] at changed
        have growing := kept.growing job.jobId
        rw [retries, Regenerating.delayed_of_held stated present held,
          List.isChain_append] at growing
        refine ⟨(kept.sound _ changed).spare (.inr rfl), ?_⟩
        intro delay last
        exact growing.2.2 delay last _ (by simp)
      · intro current
        refine ⟨Statement.unique_of_run ran safe.unique, ?_, ?_, ?_⟩
        · intro job present
          rcases Statement.mem_of_run ran present with
            ⟨prior, priorPresent, rfl⟩ | ⟨new, inserts, rfl, checked, -⟩
          · have allowed := Statement.allowed_of_run ran prior
            apply allowed.sound_apply (safe.sound prior priorPresent)
            intro nextRetryAt failure retried
            rw [retried] at allowed
            cases allowed with
            | retried own held =>
                exact (current _ _ _ _ stated prior priorPresent
                  ⟨rfl, own, by simpa [JobState.Held] using held⟩).1
          · rw [inserts] at stated
            obtain ⟨request, rfl⟩ := Call.queue_of_statement stated
            exact request.sound_job _ checked
        · intro jobId
          rw [retries]
          rcases Regenerating.delayed_cases stated ran jobId with
            same | ⟨job, present, workerId, nextRetryAt, failure, held, retried, grown⟩
          · rw [same]
            exact safe.growing jobId
          · rw [grown, List.isChain_append]
            have above := (current _ _ _ _ retried job present held).2
            refine ⟨safe.growing jobId, List.isChain_singleton _, ?_⟩
            simpa using above
        · intro jobId delay recorded
          rw [retries] at recorded
          rcases Regenerating.delayed_cases stated ran jobId with
            same | ⟨job, present, workerId, nextRetryAt, failure, held, retried, grown⟩
          · rw [same] at recorded
            exact safe.bounded jobId delay recorded
          · rw [grown, List.mem_append, List.mem_singleton] at recorded
            rcases recorded with earlier | rfl
            · exact safe.bounded jobId delay earlier
            · exact policy.delay_le _

/-- No call changes a job that is not active. -/
theorem frozen_of_step (taken : Step policy before event after) :
    before.tables.Frozen after.tables := by
  cases taken with
  | rolledBack call => exact fun job present _ => present
  | @made _ call now made =>
      obtain ⟨statement, -, ran, -⟩ := Regenerating.make_eq_ok made
      intro job present final
      have left := Statement.mem_run_of_mem ran present
      rwa [(Statement.allowed_of_run ran job).apply_of_not_active final] at left

/-- Nor does a run. -/
theorem frozen_of_run {history : List Event} (run : Exec (Step policy) before history after) :
    before.tables.Frozen after.tables := by
  induction run with
  | nil state => exact fun job present _ => present
  | cons taken _ ih =>
      intro job present final
      exact ih job (frozen_of_step taken job present final) final

/-- There is nothing unsafe about no jobs. -/
theorem safe_start (policy : RetryPolicy) (referenced : Referenced) :
    Safe policy (.start referenced) where
  unique := by
    intro job present
    cases present
  sound := by
    intro job present
    cases present
  growing := fun _ => List.isChain_nil
  bounded := by
    intro jobId delay recorded
    cases recorded

/-- A property, a variant, a snapshot and a job of them. -/
def sampleReferenced : Referenced where
  properties := [1]
  variants := ["SELLER"]
  events := []
  snapshots := [2]
  reasonCodes := []

def sampleRequest (number : Nat) (maxAttempts : Int) : JobRequest where
  jobId := .ofNat number
  propertyId := 1
  reportVariant := "SELLER"
  triggerType := "MANUAL"
  targetSnapshotId := 2
  priorityClass := "NORMAL"
  priorityScore := 50
  jobTargetKey := String.ofList (List.replicate 64 'a')
  correlationId := 3
  triggerEventId := none
  oldReportId := none
  maxAttempts := maxAttempts
  releaseId := none

def sampleManager : RegenerationLeaseManager where
  leaseSeconds := 60
  longEnough := by decide

/-- The copy that the first claim of a job at a time gives. -/
def sampleCopy (now : Time) : RegenerationJob :=
  { (sampleRequest 4 2).job with queuedAt := some 0 }.claim
    "worker-1" (sampleManager.expiry now) now

def sampleTimeout : Failure :=
  ⟨"REPORT_BUILD", "TIMEOUT", none⟩

/-- A job is claimed, times out, and is claimed again. -/
def sampleRetry : List Event :=
  [.made (.queue (sampleRequest 4 2)) 0, .made (.claimNext "worker-1" sampleManager [] 0) 0,
    .made (.handleFailure "worker-1" (sampleCopy 0) sampleTimeout 0) 0,
    .made (.claimNext "worker-1" sampleManager [] (seconds 60)) (seconds 60)]

/-- The step of an event that decides retries on what is stored, computed. -/
def Regenerating.advanceCurrent (policy : RetryPolicy) (before : Regenerating) (event : Event) :
    Except String Regenerating := do
  require (event.Current policy before) "old copy"
  before.advance policy event

/-- The worker reports the first attempt once more after the second claim. -/
def sampleOldCopy : List Event :=
  sampleRetry ++ [.made (.handleFailure "worker-1" (sampleCopy 0) sampleTimeout
      (seconds 61)) (seconds 61),
    .made (.claimNext "worker-1" sampleManager [] (seconds 100)) (seconds 100)]

end SanTanHeights.Regeneration
