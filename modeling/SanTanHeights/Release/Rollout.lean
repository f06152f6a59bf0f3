import SanTanHeights.Release.Validation

/-!
# Chunked rollouts

`publish` works through the approved items chunk by chunk and asks the policy
for a halt after each chunk.  What it attempts is a prefix of the items, and
the counters, the stored states and the history are those of the prefix.
-/

namespace SanTanHeights.Release

open Foundation Foundation.Outcome Foundation.Runs

/-! ## Slices -/

section Slices

variable {α : Type} {size fuel : Nat} {items : List α}

/-- The first slices are a prefix of the items. -/
theorem flatten_take_slices (positive : 0 < size) (enough : items.length ≤ fuel) (count : Nat) :
    ((slices size fuel items).take count).flatten = items.take (count * size) := by
  induction fuel generalizing items count with
  | zero =>
      rw [List.length_eq_zero_iff.mp (Nat.le_zero.mp enough), slices, List.take_nil, List.take_nil]
      rfl
  | succ fuel ih =>
      cases items with
      | nil => simp [slices]
      | cons item items =>
          cases count with
          | zero => simp
          | succ count =>
              have shorter : ((item :: items).drop size).length ≤ fuel := by
                rw [List.length_drop, List.length_cons] at *
                omega
              rw [slices, List.take_succ_cons, List.flatten_cons, ih shorter, Nat.succ_mul,
                Nat.add_comm, List.take_add]

theorem flatten_slices (positive : 0 < size) (enough : items.length ≤ fuel) :
    (slices size fuel items).flatten = items := by
  have whole := flatten_take_slices positive enough
    (max (slices size fuel items).length items.length)
  rw [List.take_of_length_le (le_max_left _ _)] at whole
  rw [whole, List.take_of_length_le]
  exact (le_max_right _ _).trans (Nat.le_mul_of_pos_right _ positive)

/-- The end of a chunk. -/
structure Boundary (size length done : Nat) : Prop where
  positive : 0 < done
  within : done ≤ length
  aligned : size ∣ done ∨ done = length

end Slices

/-! ## Attempts -/

namespace PublicationAttempt

/-- `publish_item` answers with `PUBLISHED`. -/
def publishes (attempt : PublicationAttempt) : Bool :=
  attempt.outcome.toOption.any fun outcome => outcome.status = "PUBLISHED"

/-- The state that an attempt leaves an item in. -/
def settledState (attempt : PublicationAttempt) : ItemState :=
  if attempt.publishes then .published else .failed

/-- The reason that is recorded for that state. -/
def settledReason (attempt : PublicationAttempt) : String :=
  if attempt.publishes then "RELEASE_ITEM_PUBLISHED"
  else ((attempt.outcome.toOption.bind ItemOutcome.reasonCode).filter
    fun text => text ≠ "").getD "RELEASE_ITEM_PUBLICATION_FAILED"

/-- What an attempt records of its item. -/
def rows (audit : Audit) (attempt : PublicationAttempt) : List ReleaseItemHistory :=
  [attempt.item.historyRow .publishing
      { audit with reasonCode := some "RELEASE_ITEM_PUBLISHING" },
    ReleaseItemRecord.historyRow { attempt.item with itemState := .publishing }
      attempt.settledState
      { audit with reasonCode := some attempt.settledReason }]

/-- The item of an attempt. -/
def releaseItemId (attempt : PublicationAttempt) : Uuid :=
  attempt.item.releaseItemId

end PublicationAttempt

/-- How many attempts publish their item. -/
def publishedCount (attempts : List PublicationAttempt) : Nat :=
  attempts.countP PublicationAttempt.publishes

/-- How many attempts leave their item failed. -/
def failedCount (attempts : List PublicationAttempt) : Nat :=
  attempts.countP fun attempt => !attempt.publishes

theorem publishedCount_add_failedCount (attempts : List PublicationAttempt) :
    publishedCount attempts + failedCount attempts = attempts.length := by
  rw [List.length_eq_countP_add_countP PublicationAttempt.publishes]
  simp [publishedCount, failedCount]

/-- What a list of attempts does to a rollout. -/
structure Attempted (audit : Audit) (before : Rollout) (attempts : List PublicationAttempt)
    (after : Rollout) : Prop where
  moves : Exec Moves before.database.itemLog
    (attempts.flatMap (PublicationAttempt.rows audit)) after.database.itemLog
  published : after.published = before.published + publishedCount attempts
  failed : after.failed = before.failed + failedCount attempts
  halted : after.halted = before.halted

namespace Attempted

variable {audit : Audit} {first middle last : Rollout}
  {attempts others : List PublicationAttempt}

theorem refl (audit : Audit) (rollout : Rollout) : Attempted audit rollout [] rollout :=
  ⟨.nil _, rfl, rfl, rfl⟩

theorem trans (earlier : Attempted audit first attempts middle)
    (later : Attempted audit middle others last) :
    Attempted audit first (attempts ++ others) last where
  moves := by
    rw [List.flatMap_append]
    exact earlier.moves.append later.moves
  published := by
    rw [later.published, earlier.published, publishedCount, publishedCount,
      publishedCount, List.countP_append, Nat.add_assoc]
  failed := by
    rw [later.failed, earlier.failed, failedCount, failedCount, failedCount,
      List.countP_append, Nat.add_assoc]
  halted := later.halted.trans earlier.halted

end Attempted

/-- One turn of the inner loop attempts its item. -/
theorem attempted_of_publishItem
    {audit : Audit} {before after : Rollout} {attempt : PublicationAttempt}
    (ran : publishItem audit before attempt = .ok after) :
    Attempted audit before [attempt] after := by
  unfold publishItem at ran
  obtain ⟨started, begun, continued⟩ := bind_eq_ok.mp ran
  obtain ⟨outcome, answered, continued⟩ := bind_eq_ok.mp continued
  have publishes : attempt.publishes =
      decide (outcome.status = "PUBLISHED") := by
    rw [PublicationAttempt.publishes, answered]
    rfl
  dsimp only at continued
  split_ifs at continued with isPublished
  · obtain ⟨published, moved, ended⟩ := bind_eq_ok.mp continued
    rw [decide_eq_true isPublished] at publishes
    cases ended
    refine ⟨.cons (transition_moves begun) (.single ?_), ?_, ?_, rfl⟩
    · rw [PublicationAttempt.settledState, PublicationAttempt.settledReason, publishes]
      exact transition_moves moved
    · simp [publishedCount, publishes]
    · simp [failedCount, publishes]
  · obtain ⟨failed, moved, ended⟩ := bind_eq_ok.mp continued
    rw [decide_eq_false isPublished] at publishes
    cases ended
    refine ⟨.cons (transition_moves begun) (.single ?_), ?_, ?_, rfl⟩
    · rw [PublicationAttempt.settledState, PublicationAttempt.settledReason, publishes, answered]
      exact transition_moves moved
    · simp [publishedCount, publishes]
    · simp [failedCount, publishes]

/-- The inner loop attempts its items. -/
theorem attempted_of_foldlM {audit : Audit} {before after : Rollout}
    {attempts : List PublicationAttempt}
    (ran : attempts.foldlM (publishItem audit) before = .ok after) :
    Attempted audit before attempts after := by
  induction attempts generalizing before with
  | nil =>
      rw [List.foldlM_nil, pure_eq_ok] at ran
      subst ran
      exact .refl audit before
  | cons attempt attempts ih =>
      rw [List.foldlM_cons] at ran
      obtain ⟨next, taken, rest⟩ := bind_eq_ok.mp ran
      exact (attempted_of_publishItem taken).trans (ih rest)

/-! ## What attempts leave -/

/-- Attempts find their items approved, and settle these and no others. -/
structure Settled (before : Uuid → Option ItemState) (attempts : List PublicationAttempt)
    (after : Uuid → Option ItemState) : Prop where
  distinct : (attempts.map PublicationAttempt.releaseItemId).Nodup
  ready : ∀ attempt ∈ attempts, before attempt.releaseItemId = some .approved
  settled : ∀ attempt ∈ attempts, after attempt.releaseItemId = some attempt.settledState
  untouched : ∀ releaseItemId,
    releaseItemId ∉ attempts.map PublicationAttempt.releaseItemId →
      after releaseItemId = before releaseItemId

theorem PublicationAttempt.settledState_ne_approved (attempt : PublicationAttempt) :
    attempt.settledState ≠ .approved := by
  unfold settledState
  split_ifs <;> decide

/-- The two moves of one attempt. -/
theorem exists_settled_next {audit : Audit} {attempt : PublicationAttempt}
    {attempts : List PublicationAttempt} {before after : ItemLog}
    (moved : Exec Moves before
      ((attempt :: attempts).flatMap (PublicationAttempt.rows audit)) after) :
    ∃ next : ItemLog,
      before.states attempt.releaseItemId = some attempt.item.itemState ∧
        next.states = Function.update before.states attempt.releaseItemId
          (some attempt.settledState) ∧
        Exec Moves next (attempts.flatMap (PublicationAttempt.rows audit)) after := by
  rw [List.flatMap_cons] at moved
  obtain ⟨next, own, rest⟩ := moved.split
  have states := states_of_moves own
  cases own with
  | cons begun _ =>
      refine ⟨next, begun.stored, ?_, rest⟩
      change next.states = Function.update (Function.update before.states
        attempt.releaseItemId _) attempt.releaseItemId (some attempt.settledState) at states
      rw [states, Function.update_idem]

theorem settled_of_moves {audit : Audit} {attempts : List PublicationAttempt}
    {before after : ItemLog}
    (approved : ∀ attempt ∈ attempts, attempt.item.itemState = .approved)
    (moved : Exec Moves before (attempts.flatMap (PublicationAttempt.rows audit)) after) :
    Settled before.states attempts after.states := by
  induction attempts generalizing before with
  | nil =>
      cases moved
      exact ⟨List.nodup_nil, by simp, by simp, fun _ _ => rfl⟩
  | cons attempt attempts ih =>
      rw [List.forall_mem_cons] at approved
      obtain ⟨next, stored, states, rest⟩ := exists_settled_next moved
      rw [approved.1] at stored
      obtain ⟨distinct, ready, settled, untouched⟩ := ih approved.2 rest
      rw [states] at ready untouched
      -- The item is settled by now, so that no later attempt is ready for it.
      have fresh : attempt.releaseItemId ∉
          attempts.map PublicationAttempt.releaseItemId := by
        intro again
        obtain ⟨other, present, same⟩ := List.mem_map.mp again
        have found := ready other present
        rw [same, Function.update_self, Option.some.injEq] at found
        exact attempt.settledState_ne_approved found
      have apart : ∀ other ∈ attempts,
          other.releaseItemId ≠ attempt.releaseItemId := by
        intro other present same
        exact fresh (List.mem_map.mpr ⟨other, present, same⟩)
      refine ⟨List.nodup_cons.mpr ⟨fresh, distinct⟩, ?_, ?_, ?_⟩
      · rw [List.forall_mem_cons]
        refine ⟨stored, fun other present => ?_⟩
        have found := ready other present
        rwa [Function.update_of_ne (apart other present)] at found
      · rw [List.forall_mem_cons]
        refine ⟨?_, settled⟩
        rw [untouched _ fresh, Function.update_self]
      · intro releaseItemId outside
        rw [List.map_cons, List.mem_cons, not_or] at outside
        rw [untouched _ outside.2, Function.update_of_ne outside.1]

/-! ## Chunks -/

/-- The policy halts after a prefix of the attempts. -/
def PartialFailurePolicyEngine.HaltsAfter (policy : PartialFailurePolicyEngine)
    (attempts : List PublicationAttempt) : Prop :=
  policy.halts (failedCount attempts) (publishedCount attempts) = true

/-- The outer loop works through its first chunks, of which no earlier one
made the policy halt.  It ends after them because the policy halts, or because
there are no more. -/
structure Stopped (policy : PartialFailurePolicyEngine) (audit : Audit)
    (done : List PublicationAttempt)
    (chunks : List (List PublicationAttempt)) (before after : Rollout)
    (count : Nat) : Prop where
  bounded : count ≤ chunks.length
  attempted : ∃ rollout,
    Attempted audit before (chunks.take count).flatten rollout ∧
      after = { rollout with halted := after.halted }
  passed : ∀ earlier, 0 < earlier → earlier < count →
    ¬ policy.HaltsAfter (done ++ (chunks.take earlier).flatten)
  halted : after.halted = true ↔ 0 < count ∧ policy.HaltsAfter (done ++ (chunks.take count).flatten)
  completed : after.halted = false → count = chunks.length

theorem exists_stopped {policy : PartialFailurePolicyEngine} {audit : Audit}
    {done : List PublicationAttempt}
    {chunks : List (List PublicationAttempt)} {before after : Rollout}
    (published : before.published = publishedCount done)
    (failed : before.failed = failedCount done) (running : before.halted = false)
    (ran : publishChunks policy audit chunks before = .ok after) :
    ∃ count, Stopped policy audit done chunks before after count := by
  induction chunks generalizing done before with
  | nil =>
      rw [publishChunks, pure_eq_ok] at ran
      subst ran
      refine ⟨0, le_rfl, ⟨before, .refl _ _, rfl⟩,
        fun _ _ earlier => absurd earlier (Nat.not_lt_zero _), ?_,
        fun _ => rfl⟩
      rw [running]
      exact iff_of_false (by rintro ⟨⟩) fun halts => absurd halts.1 (lt_irrefl 0)
  | cons chunk chunks ih =>
      rw [publishChunks] at ran
      obtain ⟨next, worked, continued⟩ := bind_eq_ok.mp ran
      have attempted := attempted_of_foldlM worked
      have nextPublished : next.published = publishedCount (done ++ chunk) := by
        rw [attempted.published, published, publishedCount, publishedCount,
          publishedCount, List.countP_append]
      have nextFailed : next.failed = failedCount (done ++ chunk) := by
        rw [attempted.failed, failed, failedCount, failedCount, failedCount, List.countP_append]
      split_ifs at continued with halts <;>
        rw [nextPublished, nextFailed] at halts
      · rw [pure_eq_ok] at continued
        subst continued
        refine ⟨1, ?_, ⟨next, ?_, rfl⟩, ?_, ?_, by rintro ⟨⟩⟩
        · rw [List.length_cons]
          omega
        · rw [List.take_succ_cons, List.take_zero, List.flatten_singleton]
          exact attempted
        · intro earlier positive before
          omega
        · rw [List.take_succ_cons, List.take_zero, List.flatten_singleton]
          exact iff_of_true rfl ⟨one_pos, halts⟩
      · obtain ⟨count, bounded, ⟨rollout, rest, ended⟩, passed, halted,
          completed⟩ := ih nextPublished nextFailed (attempted.halted.trans running) continued
        have takes : ∀ later, done ++ ((chunk :: chunks).take (later + 1)).flatten =
            done ++ chunk ++ (chunks.take later).flatten := by
          intro later
          rw [List.take_succ_cons, List.flatten_cons, List.append_assoc]
        refine ⟨count + 1, ?_, ⟨rollout, ?_, ended⟩, ?_, ?_, ?_⟩
        · rw [List.length_cons]
          omega
        · rw [List.take_succ_cons, List.flatten_cons]
          exact attempted.trans rest
        · intro earlier positive before
          obtain ⟨later, rfl⟩ := Nat.exists_eq_succ_of_ne_zero positive.ne'
          rw [Nat.succ_eq_add_one, takes]
          rcases Nat.eq_zero_or_pos later with rfl | furtherOn
          · rw [List.take_zero, List.flatten_nil, List.append_nil]
            exact halts
          · exact passed later furtherOn (Nat.lt_of_succ_lt_succ before)
        · rw [takes, halted]
          constructor
          · exact And.imp_left fun _ => Nat.succ_pos _
          · rintro ⟨-, holds⟩
            refine ⟨Nat.pos_of_ne_zero ?_, holds⟩
            rintro rfl
            rw [List.take_zero, List.flatten_nil, List.append_nil] at holds
            exact halts holds
        · intro running
          rw [completed running, List.length_cons]

/-! ## Rollouts that return -/

/-- The update of an item that is in its state is not refused: a move keeps
what a manifest freezes. -/
theorem exists_transition {toState : ItemState} {audit : Audit} {database : Database}
    {item : ReleaseItemRecord} (allowed : toState ∈ itemTransitions item.itemState)
    (stored : database.itemState item.releaseItemId = some item.itemState) :
    ∃ after, transition toState audit database item = .ok after := by
  obtain ⟨row, found, state⟩ := Option.map_eq_some_iff.mp stored
  have kept : database.guardFrozenReleaseItemMembership (some row)
      (some (row.moved toState audit.reasonCode)) = .ok () := by
    simp only [Database.guardFrozenReleaseItemMembership, Option.or_some]
    split_ifs
    · exact require_bind_eq_ok.mpr ⟨⟨rfl, rfl⟩, require_eq_ok.mpr rfl⟩
    · rfl
  have listed : row.itemState ∈ [item.itemState] := List.mem_singleton.mpr state
  have updated : ∃ moved, database.updateItem item.releaseItemId
      [item.itemState] toState audit.reasonCode = .ok (true, moved) := by
    simp only [Database.updateItem, found, if_pos listed, kept]
    exact ⟨_, rfl⟩
  obtain ⟨moved, ran⟩ := updated
  exact ⟨_, require_bind_eq_ok.mpr ⟨allowed, bind_eq_ok.mpr
    ⟨_, ran, require_bind_eq_ok.mpr ⟨rfl, rfl⟩⟩⟩⟩

theorem exists_publishItem {audit : Audit} {before : Rollout} {attempt : PublicationAttempt}
    (answered : ∃ outcome, attempt.outcome = .ok outcome)
    (approved : attempt.item.itemState = .approved)
    (stored : before.database.itemState attempt.releaseItemId = some .approved) :
    ∃ after, publishItem audit before attempt = .ok after := by
  obtain ⟨outcome, answer⟩ := answered
  rw [← approved] at stored
  have publishing : ItemState.publishing ∈
      itemTransitions attempt.item.itemState := by
    rw [approved]
    decide
  obtain ⟨started, begun⟩ := @exists_transition .publishing
    { audit with reasonCode := some "RELEASE_ITEM_PUBLISHING" } _ _ publishing
    stored
  have moved := (transition_moves begun).moved
  have entered : started.itemState attempt.item.releaseItemId =
      some .publishing := by
    change started.itemLog.states _ = _
    rw [moved]
    exact Function.update_self _ _ _
  have settles : ∀ state reason, state ∈ [ItemState.published, .failed] →
      ∃ after, transition state { audit with reasonCode := reason } started
        { attempt.item with itemState := .publishing } = .ok after := by
    intro state reason listed
    have allowed : ∀ state ∈ [ItemState.published, .failed],
        state ∈ itemTransitions .publishing := by
      decide
    exact exists_transition (allowed state listed) entered
  unfold publishItem
  by_cases isPublished : outcome.status = "PUBLISHED"
  · obtain ⟨published, moved⟩ := settles .published _ (by decide)
    refine ⟨{ before with
      published := before.published + 1
      database := published }, bind_eq_ok.mpr ⟨started, begun, bind_eq_ok.mpr
      ⟨outcome, answer, ?_⟩⟩⟩
    dsimp only
    rw [if_pos isPublished]
    exact bind_eq_ok.mpr ⟨published, moved, rfl⟩
  · obtain ⟨failed, moved⟩ := settles .failed _ (by decide)
    refine ⟨{ before with
      failed := before.failed + 1
      database := failed }, bind_eq_ok.mpr ⟨started, begun, bind_eq_ok.mpr
      ⟨outcome, answer, ?_⟩⟩⟩
    dsimp only
    rw [if_neg isPublished]
    exact bind_eq_ok.mpr ⟨failed, moved, rfl⟩

/-- Attempts that meet no exception: the items are stored as approved, each
item once, and `publish_item` answers. -/
structure Publishable (attempts : List PublicationAttempt) (database : Database) : Prop where
  approved : ∀ attempt ∈ attempts, attempt.item.itemState = .approved
  answered : ∀ attempt ∈ attempts, ∃ outcome, attempt.outcome = .ok outcome
  distinct : (attempts.map PublicationAttempt.releaseItemId).Nodup
  stored : ∀ attempt ∈ attempts, database.itemState attempt.releaseItemId = some .approved

theorem exists_foldlM_publishItem {audit : Audit} {before : Rollout}
    {attempts others : List PublicationAttempt}
    (publishable : Publishable (attempts ++ others) before.database) :
    ∃ after, attempts.foldlM (publishItem audit) before = .ok after ∧
      Publishable others after.database := by
  induction attempts generalizing before with
  | nil => exact ⟨before, rfl, publishable⟩
  | cons attempt attempts ih =>
      obtain ⟨approved, answered, distinct, stored⟩ := publishable
      rw [List.cons_append, List.forall_mem_cons] at approved answered stored
      rw [List.cons_append, List.map_cons, List.nodup_cons] at distinct
      obtain ⟨next, taken⟩ := @exists_publishItem audit before attempt
        answered.1 approved.1 stored.1
      have settled := settled_of_moves
        (List.forall_mem_singleton.mpr approved.1)
        (attempted_of_publishItem taken).moves
      have rest : Publishable (attempts ++ others) next.database := by
        refine ⟨approved.2, answered.2, distinct.2, ?_⟩
        intro other present
        have apart : other.releaseItemId ∉
            [attempt].map PublicationAttempt.releaseItemId := by
          intro same
          apply distinct.1
          rw [← List.mem_singleton.mp same]
          exact List.mem_map_of_mem present
        exact (settled.untouched _ apart).trans (stored.2 other present)
      obtain ⟨after, ran, remaining⟩ := ih rest
      refine ⟨after, ?_, remaining⟩
      rw [List.foldlM_cons]
      exact bind_eq_ok.mpr ⟨next, taken, ran⟩

theorem exists_publishChunks
    {policy : PartialFailurePolicyEngine} {audit : Audit} {before : Rollout}
    {chunks : List (List PublicationAttempt)}
    (publishable : Publishable chunks.flatten before.database) :
    ∃ after, publishChunks policy audit chunks before = .ok after := by
  induction chunks generalizing before with
  | nil => exact ⟨before, rfl⟩
  | cons chunk chunks ih =>
      rw [List.flatten_cons] at publishable
      obtain ⟨next, worked, rest⟩ := @exists_foldlM_publishItem audit _ _ _ publishable
      obtain ⟨after, ran⟩ := ih rest
      rw [publishChunks]
      by_cases halts : policy.halts next.failed next.published = true
      · refine ⟨{ next with halted := true }, bind_eq_ok.mpr ⟨next, worked, ?_⟩⟩
        rw [if_pos halts]
        rfl
      · refine ⟨after, bind_eq_ok.mpr ⟨next, worked, ?_⟩⟩
        rwa [if_neg halts]

/-! ## Accounting -/

/-- The approved items among those that `publish` is given. -/
def eligible (attempts : List PublicationAttempt) : List PublicationAttempt :=
  attempts.filter fun attempt => attempt.item.itemState = .approved

/-- What a rollout did: it attempted a prefix of the approved items up to the
first chunk after which the policy halts. -/
structure Accounted (service : ChunkedPublicationService) (audit : Audit)
    (attempts : List PublicationAttempt) (before : Database)
    (after : Rollout) (done : Nat) : Prop where
  bounded : done ≤ attempts.length
  recorded : after.database.history = before.history ++
    (attempts.take done).flatMap (PublicationAttempt.rows audit)
  settled : Settled before.itemState (attempts.take done) after.database.itemState
  published : after.published = publishedCount (attempts.take done)
  failed : after.failed = failedCount (attempts.take done)
  counted : after.published + after.failed = done
  aligned : service.chunkSize ∣ done ∨ done = attempts.length
  passed : ∀ earlier < done,
    Boundary service.chunkSize attempts.length earlier →
      ¬ service.policy.HaltsAfter (attempts.take earlier)
  halted : after.halted = true ↔
    Boundary service.chunkSize attempts.length done ∧ service.policy.HaltsAfter (attempts.take done)
  completed : after.halted = false → done = attempts.length

theorem exists_accounted {service : ChunkedPublicationService} {audit : Audit}
    {attempts : List PublicationAttempt} {before : Database} {after : Rollout}
    (approved : ∀ attempt ∈ attempts, attempt.item.itemState = .approved)
    (ran : publishChunks service.policy audit
      (slices service.chunkSize attempts.length attempts) ⟨0, 0, false, before⟩ = .ok after) :
    ∃ done, Accounted service audit attempts before after done := by
  obtain ⟨count, bounded, ⟨rollout, attempted, ended⟩, passed, halted,
    completed⟩ := @exists_stopped _ _ [] _ _ _ rfl rfl rfl ran
  simp only [List.nil_append,
    flatten_take_slices service.positive le_rfl] at passed halted attempted
  have cut : attempts.take (count * service.chunkSize) =
      attempts.take (min (count * service.chunkSize) attempts.length) := by
    rw [← List.take_take, List.take_length]
  rw [cut] at halted attempted
  have doneLe := min_le_left (count * service.chunkSize) attempts.length
  have database := congrArg Rollout.database ended
  have published : after.published = publishedCount (attempts.take
      (min (count * service.chunkSize) attempts.length)) := by
    rw [congrArg Rollout.published ended, ← Nat.zero_add (publishedCount _)]
    exact attempted.published
  have failed : after.failed = failedCount (attempts.take
      (min (count * service.chunkSize) attempts.length)) := by
    rw [congrArg Rollout.failed ended, ← Nat.zero_add (failedCount _)]
    exact attempted.failed
  have aligned : service.chunkSize ∣
        min (count * service.chunkSize) attempts.length ∨
      min (count * service.chunkSize) attempts.length = attempts.length := by
    rcases min_choice (count * service.chunkSize) attempts.length with
      chunk | whole
    · rw [chunk]
      exact .inl (Dvd.intro_left count rfl)
    · exact .inr whole
  refine ⟨min (count * service.chunkSize) attempts.length, min_le_right _ _,
    ?_, ?_, published, failed, ?_, aligned, ?_, ?_, ?_⟩
  · rw [database]
    exact history_of_moves attempted.moves
  · rw [database]
    apply settled_of_moves _ attempted.moves
    intro attempt present
    exact approved attempt (List.mem_of_mem_take present)
  · rw [published, failed, publishedCount_add_failedCount, List.length_take, min_assoc, min_self]
  · intro earlier before boundary
    -- Before the end of the items only full chunks end.
    obtain ⟨chunk, rfl⟩ : service.chunkSize ∣ earlier := by
      refine boundary.aligned.resolve_right fun whole => ?_
      exact absurd (before.trans_le (min_le_right _ _)) (whole ▸ lt_irrefl _)
    rw [Nat.mul_comm] at before boundary ⊢
    apply passed chunk
    · exact Nat.pos_of_mul_pos_right boundary.positive
    · exact Nat.lt_of_mul_lt_mul_right (before.trans_le doneLe)
  · rw [halted]
    constructor
    · rintro ⟨positive, halts⟩
      refine ⟨⟨lt_min (Nat.mul_pos positive service.positive) ?_, min_le_right _ _, aligned⟩, halts⟩
      apply Nat.pos_of_ne_zero
      intro none
      rw [List.length_eq_zero_iff.mp none] at bounded
      exact absurd (positive.trans_le bounded) (lt_irrefl 0)
    · rintro ⟨boundary, halts⟩
      have positive := boundary.positive.trans_le doneLe
      exact ⟨Nat.pos_of_mul_pos_right positive, halts⟩
  · intro running
    have whole := flatten_take_slices service.positive (le_refl attempts.length) count
    rw [completed running, List.take_length, flatten_slices service.positive le_rfl, eq_comm,
      List.take_eq_self_iff, ← completed running] at whole
    exact min_eq_right whole

/-- Every rollout that returns is accounted for.  It returns where the items
are stored as approved, each item once, and `publish_item` answers; the items
that it did not attempt are then still approved. -/
theorem publish_accounted (service : ChunkedPublicationService) (audit : Audit)
    (attempts : List PublicationAttempt) (before : Database) :
    (∀ after, service.publish attempts audit before = .ok after →
      ∃ done, Accounted service audit (eligible attempts) before after done) ∧
      (Publishable (eligible attempts) before →
        ∃ after done, service.publish attempts audit before = .ok after ∧
          Accounted service audit (eligible attempts) before after done ∧
          ∀ attempt ∈ (eligible attempts).drop done,
            after.database.itemState attempt.releaseItemId =
              some .approved) := by
  have approved : ∀ attempt ∈ eligible attempts,
      attempt.item.itemState = .approved :=
    fun attempt present => of_decide_eq_true (List.mem_filter.mp present).2
  constructor
  · exact fun after ran => exists_accounted approved ran
  · intro publishable
    have chunked : Publishable (slices service.chunkSize
        (eligible attempts).length (eligible attempts)).flatten before := by
      rwa [flatten_slices service.positive le_rfl]
    obtain ⟨after, ran⟩ := @exists_publishChunks service.policy audit
      ⟨0, 0, false, before⟩ _ chunked
    obtain ⟨done, accounted⟩ := exists_accounted approved ran
    refine ⟨after, done, ran, accounted, fun attempt waiting => ?_⟩
    rw [accounted.settled.untouched]
    · exact publishable.stored attempt (List.mem_of_mem_drop waiting)
    · intro attempted
      have distinct := publishable.distinct
      rw [← List.take_append_drop done (eligible attempts), List.map_append]
        at distinct
      exact List.disjoint_of_nodup_append distinct attempted
        (List.mem_map_of_mem waiting)

/-- Two items in chunks of one, of which the first fails. -/
def sampleAttempts : List PublicationAttempt :=
  [⟨sampleItem .approved, .ok ⟨"BLOCKED", none⟩⟩,
    ⟨{ sampleItem .approved with releaseItemId := 6 }, .ok ⟨"PUBLISHED", none⟩⟩]

/-- The two items as they are stored. -/
def sampleApproved : Database :=
  { samplePending with items := sampleAttempts.map PublicationAttempt.item }

theorem publish_accounted_sample :
    ∃ after done,
      ChunkedPublicationService.publish ⟨⟨0, fun _ _ => true⟩, 1, by decide⟩
          sampleAttempts sampleAudit sampleApproved = .ok after ∧
        Accounted ⟨⟨0, fun _ _ => true⟩, 1, by decide⟩ sampleAudit
          (eligible sampleAttempts) sampleApproved after done ∧
        ∀ attempt ∈ (eligible sampleAttempts).drop done,
          after.database.itemState attempt.releaseItemId =
            some .approved := by
  have publishable : Publishable (eligible sampleAttempts) sampleApproved := by
    change Publishable sampleAttempts sampleApproved
    refine ⟨by decide, ?_, by decide, by decide⟩
    intro attempt present
    rcases List.mem_pair.mp present with rfl | rfl
    · exact ⟨_, rfl⟩
    · exact ⟨_, rfl⟩
  exact (publish_accounted _ _ _ _).2 publishable

end SanTanHeights.Release
