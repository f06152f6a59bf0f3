import SanTanHeights.Snapshot.Currency
import SanTanHeights.Snapshot.Transactions

/-!
# The chain of snapshots

However the transactions that create snapshots interleave, the accepted
snapshots of a property are numbered from one without gaps, each supersedes
the one before it, and no two have the same fingerprint.  The row lock of the
sequence counter makes it so: between the statement that takes a number and
the end of its transaction no other snapshot of the property is committed.
-/

namespace SanTanHeights.Snapshot

open Foundation Foundation.Outcome Foundation.Runs
open Foundation.ReadCommitted (Status Action)

/-! ## Chains -/

/-- The accepted snapshots of a property, in insertion order. -/
def Database.acceptedOf (database : Database) (propertyId : Uuid) : List SnapshotRecord :=
  database.snapshots.filter fun record =>
    record.propertyId = propertyId ∧ record.accepted

/-- The snapshot with the preceding sequence. -/
def predecessor (records : List SnapshotRecord) (record : SnapshotRecord) :
    Option SnapshotRecord :=
  records.find? fun other =>
    other.snapshotSequence + 1 = record.snapshotSequence

/-- Snapshots numbered from one without gaps, each of which supersedes the one
before it, with distinct fingerprints. -/
structure Linear (records : List SnapshotRecord) : Prop where
  sequences : records.map SnapshotRecord.snapshotSequence = List.range' 1 records.length
  supersedes : ∀ record ∈ records, record.supersedesSnapshotId =
    (predecessor records record).map SnapshotRecord.snapshotId
  fingerprints : (records.map SnapshotRecord.semanticFingerprint).Nodup

namespace Linear

variable {records : List SnapshotRecord}

theorem nil : Linear [] where
  sequences := rfl
  supersedes := nofun
  fingerprints := List.nodup_nil

theorem mem_sequences (linear : Linear records) (sequence : Nat) :
    sequence ∈ records.map SnapshotRecord.snapshotSequence ↔
      1 ≤ sequence ∧ sequence ≤ records.length := by
  rw [linear.sequences, List.mem_range'_1]
  omega

theorem sequence_bounds (linear : Linear records) {record : SnapshotRecord}
    (present : record ∈ records) :
    1 ≤ record.snapshotSequence ∧ record.snapshotSequence ≤ records.length :=
  (linear.mem_sequences _).mp (List.mem_map_of_mem present)

theorem eq_of_sequence_eq (linear : Linear records) {record other : SnapshotRecord}
    (present : record ∈ records) (otherPresent : other ∈ records)
    (same : record.snapshotSequence = other.snapshotSequence) :
    record = other := by
  refine List.inj_on_of_nodup_map ?_ present otherPresent same
  rw [linear.sequences]
  exact List.nodup_range'

/-- The latest snapshot of a chain is the last one. -/
theorem latest_sequence (linear : Linear records) {last : SnapshotRecord}
    (found : latest records = some last) :
    last.snapshotSequence = records.length := by
  obtain ⟨present, highest⟩ := latest_eq_some found
  have positive := List.length_pos_of_mem present
  have numbered := (linear.mem_sequences records.length).mpr ⟨positive, le_refl _⟩
  obtain ⟨other, otherPresent, sequence⟩ := List.mem_map.mp numbered
  apply le_antisymm (linear.sequence_bounds present).2
  rw [← sequence]
  exact highest other otherPresent

/-- The next snapshot is preceded by the latest one. -/
theorem predecessor_next (linear : Linear records) {record : SnapshotRecord}
    (next : record.snapshotSequence = records.length + 1) :
    predecessor (records ++ [record]) record = latest records := by
  have notItself : predecessor [record] record = none := by
    simp [predecessor]
  have split : predecessor (records ++ [record]) record =
      predecessor records record := by
    unfold predecessor at notItself ⊢
    rw [List.find?_append, notItself, Option.or_none]
  rw [split]
  cases found : latest records with
  | none =>
      rw [latest_eq_none.mp found]
      rfl
  | some last =>
      have sequence := linear.latest_sequence found
      have present := (latest_eq_some found).1
      cases before : predecessor records record with
      | none =>
          have absent := List.find?_eq_none.mp before last present
          simp only [decide_eq_true_eq] at absent
          omega
      | some other =>
          have preceding : other.snapshotSequence + 1 =
              record.snapshotSequence := by
            simpa using List.find?_some before
          rw [linear.eq_of_sequence_eq (List.mem_of_find?_eq_some before) present (by omega)]

/-- The predecessors of the snapshots of a chain stay as they are. -/
theorem predecessor_concat (linear : Linear records) {record other : SnapshotRecord}
    (next : record.snapshotSequence = records.length + 1) (present : other ∈ records) :
    predecessor (records ++ [record]) other = predecessor records other := by
  have notNext : predecessor [record] other = none := by
    have bound := (linear.sequence_bounds present).2
    have apart : record.snapshotSequence + 1 ≠ other.snapshotSequence := by
      omega
    simp [predecessor, apart]
  unfold predecessor at notNext ⊢
  rw [List.find?_append, notNext, Option.or_none]

end Linear

/-- What makes a record the next of a chain. -/
structure NextOf (records : List SnapshotRecord) (record : SnapshotRecord) : Prop where
  sequence : record.snapshotSequence = records.length + 1
  supersedes : record.supersedesSnapshotId = (latest records).map SnapshotRecord.snapshotId
  fingerprint : ∀ other ∈ records, other.semanticFingerprint ≠ record.semanticFingerprint

theorem Linear.concat {records : List SnapshotRecord} {record : SnapshotRecord}
    (linear : Linear records) (next : NextOf records record) :
    Linear (records ++ [record]) where
  sequences := by
    rw [List.map_append, linear.sequences, List.length_append,
      List.map_singleton, List.length_singleton, next.sequence,
      List.range'_1_concat, Nat.add_comm 1]
  supersedes := by
    intro other present
    rcases List.mem_append.mp present with old | new
    · rw [linear.predecessor_concat next.sequence old]
      exact linear.supersedes other old
    · rw [List.mem_singleton.mp new, linear.predecessor_next next.sequence]
      exact next.supersedes
  fingerprints := by
    rw [List.map_append, List.nodup_append]
    refine ⟨linear.fingerprints, List.nodup_singleton _, ?_⟩
    intro old listed new added
    obtain ⟨other, present, rfl⟩ := List.mem_map.mp listed
    rw [List.map_singleton, List.mem_singleton] at added
    rw [added]
    exact next.fingerprint other present

/-! ## What a call does in order -/

/-- Only rows that belong to a snapshot are left to insert. -/
inductive Program.Children : Program → Prop
  | finish {result : CreateSnapshotResult} : Children (.finish result)
  | raise {message : String} : Children (.raise message)
  | insertChild {row : ChildRow} {next : Program} : Children next → Children (.insertChild row next)

/-- The predecessor was read, and the snapshot is left to insert. -/
inductive Program.Linking (propertyId : Uuid) (sequence : Nat) (supersedes : Option Uuid) :
    Program → Prop
  | raise {message : String} : Linking propertyId sequence supersedes (.raise message)
  | insert {record : SnapshotRecord} {next : Program} :
      record.propertyId = propertyId → record.accepted →
      record.snapshotSequence = sequence →
      record.supersedesSnapshotId = supersedes → next.Children →
      Linking propertyId sequence supersedes (.insert record next)

/-- The sequence was taken, and the predecessor is left to read. -/
inductive Program.Numbered (propertyId : Uuid) (sequence : Nat) :
    Program → Prop
  | query {next : Database → Program} :
      (∀ database, (next database).Linking propertyId sequence
        ((database.currentAccepted propertyId).map SnapshotRecord.snapshotId)) →
      Numbered propertyId sequence (.query next)

/-- Nothing was written yet. -/
inductive Program.Fresh (propertyId : Uuid) : Program → Prop
  | finish {result : CreateSnapshotResult} : Fresh propertyId (.finish result)
  | raise {message : String} : Fresh propertyId (.raise message)
  | query {next : Database → Program} :
      (∀ database, (next database).Fresh propertyId) →
      Fresh propertyId (.query next)
  | allocate {next : Nat → Program} :
      (∀ sequence, (next sequence).Numbered propertyId sequence) →
      Fresh propertyId (.allocate propertyId next)

theorem Program.Fresh.after {α : Type} {propertyId : Uuid} {computed : Except String α}
    {next : α → Program}
    (fresh : ∀ value, computed = .ok value → (next value).Fresh propertyId) :
    (Program.after computed next).Fresh propertyId := by
  cases computed with
  | error message => exact .raise
  | ok value => exact fresh value rfl

theorem children_foldr {α : Type} {statement : α → Program → Program}
    (keeps : ∀ item next, next.Children → (statement item next).Children)
    (items : List α) {last : Program} (children : last.Children) :
    (items.foldr statement last).Children := by
  induction items with
  | nil => exact children
  | cons item items ih =>
      exact keeps item _ ih

theorem children_childrenProgram (snapshotId : Uuid) (captured : Capture)
    (requirements : List RequirementResult) (result : CreateSnapshotResult) :
    (childrenProgram snapshotId captured requirements result).Children := by
  apply children_foldr
  · intro finding next children
    unfold findingProgram
    cases orRaise (passportByFinding captured.passports finding.findingId)
      finding.findingId with
    | error message => exact .raise
    | ok passport => exact .insertChild children
  · apply children_foldr fun _ _ => .insertChild
    exact children_foldr (fun _ _ => .insertChild) requirements .finish

theorem fresh_insertProgram {call : CreateCall} (captured : Capture)
    {evaluation : RequirementEvaluation}
    (accepted : evaluation.completenessStatus = .complete ∨
      evaluation.completenessStatus = .partialValid) :
    (insertProgram call captured evaluation).Fresh call.propertyId := by
  refine .allocate fun sequence => .query fun database => ?_
  cases snapshotHash call.state captured evaluation.results with
  | error message => exact .raise
  | ok hash =>
      exact .insert rfl ⟨rfl, accepted⟩ rfl rfl (children_childrenProgram _ _ _ _)

/-- A call reads, takes its number, reads the predecessor, inserts the
snapshot and then what belongs to it. -/
theorem fresh_createProgram (service : CreationService) (call : CreateCall) :
    (createProgram service call).Fresh call.propertyId := by
  refine .after fun _ _ => .after fun _ valid => ?_
  split_ifs with blocked
  · exact .finish
  · refine .after fun captured _ => .after fun _ _ => .after fun _ _ =>
      .query fun database => ?_
    have accepted : (evaluate service.requirements call.state).completenessStatus = .complete ∨
          (evaluate service.requirements call.state).completenessStatus = .partialValid := by
      have notInvalid := require_eq_ok.mp valid
      revert notInvalid blocked
      cases (evaluate service.requirements call.state).completenessStatus <;>
        simp
    cases checkDuplicate database call.propertyId
        captured.fingerprints.semanticFingerprint with
    | some existing => exact .finish
    | none => exact fresh_insertProgram captured accepted

/-! ## Stages of a transaction -/

/-- How many snapshots of a property are numbered. -/
def Database.numbered (database : Database) (propertyId : Uuid) : Nat :=
  (database.sequenceCounters propertyId).elim 1 id

/-- How far a transaction has come, given the tables that are committed. -/
inductive Stage (propertyId : Uuid) (store : Database) :
    Program → List Write → Prop
  | fresh {program : Program} : program.Fresh propertyId → Stage propertyId store program []
  | numbered {program : Program} :
      program.Numbered propertyId (store.numbered propertyId) →
      Stage propertyId store program [.counter propertyId (store.numbered propertyId + 1)]
  | linking {program : Program} :
      program.Linking propertyId (store.numbered propertyId)
        ((latest (store.acceptedOf propertyId)).map SnapshotRecord.snapshotId) →
      Stage propertyId store program [.counter propertyId (store.numbered propertyId + 1)]
  | inserted {program : Program} {record : SnapshotRecord}
      {rows : List ChildRow} :
      program.Children → record.propertyId = propertyId → record.accepted →
      record.snapshotSequence = store.numbered propertyId →
      record.supersedesSnapshotId = (latest (store.acceptedOf propertyId)).map
          SnapshotRecord.snapshotId →
      (∀ other ∈ store.acceptedOf propertyId,
        other.semanticFingerprint ≠ record.semanticFingerprint) →
      Stage propertyId store program
        (.counter propertyId (store.numbered propertyId + 1) :: .snapshot record :: rows.map .child)

section Stages

variable {propertyId : Uuid} {store next : Database} {program : Program}
  {writes : List Write}

/-- A stage looks at one property only. -/
theorem Stage.congr (stage : Stage propertyId store program writes)
    (accepted : next.acceptedOf propertyId = store.acceptedOf propertyId)
    (numbered : next.numbered propertyId = store.numbered propertyId) :
    Stage propertyId next program writes := by
  cases stage with
  | fresh shape => exact .fresh shape
  | numbered shape =>
      rw [← numbered] at shape ⊢
      exact .numbered shape
  | linking shape =>
      rw [← numbered, ← accepted] at shape
      rw [← numbered]
      exact .linking shape
  | inserted children own isAccepted sequence supersedes unique =>
      rw [← numbered] at sequence ⊢
      rw [← accepted] at supersedes unique
      exact .inserted children own isAccepted sequence supersedes unique

/-- Without a lock nothing was written. -/
theorem Stage.eq_nil (stage : Stage propertyId store program writes)
    (unlocked : ∀ sequence, .counter propertyId sequence ∉ writes) :
    writes = [] ∧ program.Fresh propertyId := by
  cases stage with
  | fresh shape => exact ⟨rfl, shape⟩
  | numbered => exact absurd List.mem_cons_self (unlocked _)
  | linking => exact absurd List.mem_cons_self (unlocked _)
  | inserted => exact absurd List.mem_cons_self (unlocked _)

/-- A statement takes a transaction to its next stage. -/
theorem Stage.advance {session after : Session}
    (stage : Stage propertyId store session.program session.writes)
    (moved : session.advance store = some after) :
    Stage propertyId store after.program after.writes := by
  obtain ⟨program, writes, status⟩ := session
  dsimp only at stage
  cases stage with
  | fresh shape =>
      cases shape with
      | finish => cases moved
      | raise => cases moved
      | query later =>
          cases moved
          exact .fresh (later _)
      | allocate later =>
          simp only [Session.advance] at moved
          split at moved
          · rename_i sequence allocated allocation
            cases moved
            obtain ⟨rfl, _⟩ := Database.allocateSequence_eq_ok allocation
            exact .numbered (later _)
          · cases moved
  | numbered shape =>
      cases shape with
      | query later =>
          cases moved
          exact .linking (later (store.putAll
            [.counter propertyId (store.numbered propertyId + 1)]))
  | linking shape =>
      cases shape with
      | raise => cases moved
      | insert own isAccepted sequence supersedes children =>
          simp only [Session.advance] at moved
          split at moved
          · rename_i inserted
            cases moved
            have unique := (Database.insertSnapshot_eq_ok inserted).2
            refine @Stage.inserted propertyId store _ _ [] children own
              isAccepted sequence supersedes fun other present => ?_
            obtain ⟨stored, matching⟩ := List.mem_filter.mp present
            exact unique other stored ((of_decide_eq_true matching).1.trans own.symm)
          · cases moved
  | @inserted record rows children own isAccepted sequence supersedes
      unique =>
      cases children with
      | finish => cases moved
      | raise => cases moved
      | @insertChild row _ later =>
          simp only [Session.advance] at moved
          split at moved
          · cases moved
            have extended := @Stage.inserted propertyId store _ record
              (rows ++ [row]) later own isAccepted sequence supersedes unique
            simpa using extended
          · cases moved

end Stages

/-! ## What a commit leaves -/

theorem putAll_children (store : Database) (rows : List ChildRow) :
    (store.putAll (rows.map .child)).snapshots = store.snapshots ∧
      (store.putAll (rows.map .child)).sequenceCounters = store.sequenceCounters := by
  induction rows generalizing store with
  | nil => exact ⟨rfl, rfl⟩
  | cons row rows ih =>
      obtain ⟨snapshots, counters⟩ := ih (store.put (.child row))
      rw [List.map_cons]
      cases row <;> exact ⟨snapshots, counters⟩

/-- The rows of a committed transaction. -/
theorem putAll_inserted {store : Database} {propertyId : Uuid} {record : SnapshotRecord}
    {rows : List ChildRow} {sequence : Nat} {after : Database}
    (written : after = store.putAll
      (.counter propertyId sequence :: .snapshot record :: rows.map .child)) :
    after.snapshots = store.snapshots ++ [record] ∧ after.sequenceCounters =
        Function.update store.sequenceCounters propertyId (some sequence) := by
  subst written
  exact putAll_children ((store.put (.counter propertyId sequence)).put (.snapshot record)) rows

/-- A new snapshot of a property, whose counter the transaction locked. -/
structure Added (propertyId : Uuid) (store after : Database) (writes : List Write)
    (record : SnapshotRecord) : Prop where
  locked : ∃ sequence, .counter propertyId sequence ∈ writes
  accepted : after.acceptedOf propertyId = store.acceptedOf propertyId ++ [record]
  numbered : after.numbered propertyId = store.numbered propertyId + 1
  sequence : record.snapshotSequence = store.numbered propertyId
  supersedes : record.supersedesSnapshotId =
    (latest (store.acceptedOf propertyId)).map SnapshotRecord.snapshotId
  fingerprint : ∀ other ∈ store.acceptedOf propertyId,
    other.semanticFingerprint ≠ record.semanticFingerprint

/-- A commit leaves the snapshots of its property with at most one more, which
is the next one, and those of all other properties as they are. -/
structure Committed (propertyId : Uuid) (store after : Database) (writes : List Write) :
    Prop where
  own : after.acceptedOf propertyId = store.acceptedOf propertyId ∧
      after.numbered propertyId = store.numbered propertyId ∨
    ∃ record, Added propertyId store after writes record
  accepted : ∀ other, other ≠ propertyId → after.acceptedOf other = store.acceptedOf other
  numbered : ∀ other, other ≠ propertyId → after.numbered other = store.numbered other

theorem Stage.committed {propertyId : Uuid} {store : Database} {writes : List Write}
    {result : CreateSnapshotResult} (stage : Stage propertyId store (.finish result) writes) :
    Committed propertyId store (store.putAll writes) writes := by
  cases stage with
  | fresh => exact ⟨.inl ⟨rfl, rfl⟩, fun _ _ => rfl, fun _ _ => rfl⟩
  | numbered shape => cases shape
  | linking shape => cases shape
  | @inserted record rows _ own isAccepted sequence supersedes unique =>
      obtain ⟨snapshots, counters⟩ := @putAll_inserted store propertyId record
        rows (store.numbered propertyId + 1) _ rfl
      generalize store.putAll _ = after at snapshots counters
      have accepted : ∀ other, after.acceptedOf other =
          store.acceptedOf other ++ if other = propertyId then [record]
            else [] := by
        intro other
        unfold Database.acceptedOf
        rw [snapshots, List.filter_append]
        congr 1
        by_cases same : other = propertyId
        · simp [same, own, isAccepted]
        · simp [same, own, eq_comm]
      refine ⟨.inr ⟨record, ⟨_, List.mem_cons_self⟩, ?_, ?_, sequence,
        supersedes, unique⟩, ?_, ?_⟩
      · rw [accepted, if_pos rfl]
      · rw [Database.numbered, counters, Function.update_self]
        rfl
      · intro other apart
        rw [accepted, if_neg apart, List.append_nil]
      · intro other apart
        rw [Database.numbered, counters, Function.update_of_ne apart]
        rfl

/-! ## Every interleaving -/

variable {ι : Type*} [DecidableEq ι]

/-- The snapshots of every property are a chain that its counter follows, and
every transaction under way is at a stage of its own call. -/
structure Chained (calls : ι → CreationService × CreateCall) (system : System ι) : Prop where
  linear : ∀ propertyId, Linear (system.store.acceptedOf propertyId)
  numbered : ∀ propertyId, system.store.numbered propertyId =
    (system.store.acceptedOf propertyId).length + 1
  staged : ∀ transaction, (system.sessions transaction).status = .active →
    Stage (calls transaction).2.propertyId system.store
      (system.sessions transaction).program
      (system.sessions transaction).writes
  exclusive : ∀ left right, left ≠ right → Compatible (system.sessions left) (system.sessions right)

omit [DecidableEq ι] in
theorem chained_start (properties : List Uuid) (reasonCodes : List String)
    (calls : ι → CreationService × CreateCall) :
    Chained calls (System.start (Database.empty properties reasonCodes) calls) where
  linear := fun _ => .nil
  numbered := fun _ => rfl
  staged := fun transaction _ =>
    .fresh (fresh_createProgram (calls transaction).1 (calls transaction).2)
  exclusive := by
    intro left right _ row written
    cases written

/-- Replacing a session by a compatible one keeps sessions apart. -/
theorem exclusive_update {sessions : ι → Session} {transaction : ι} {session : Session}
    (exclusive : ∀ left right, left ≠ right → Compatible (sessions left) (sessions right))
    (free : ∀ other, other ≠ transaction → Compatible session (sessions other)) :
    ∀ left right, left ≠ right →
      Compatible (Function.update sessions transaction session left)
        (Function.update sessions transaction session right) := by
  intro left right apart
  by_cases isLeft : left = transaction
  · subst isLeft
    rw [Function.update_self, Function.update_of_ne apart.symm]
    exact free right apart.symm
  · rw [Function.update_of_ne isLeft]
    by_cases isRight : right = transaction
    · subst isRight
      rw [Function.update_self]
      exact (free left isLeft).symm
    · rw [Function.update_of_ne isRight]
      exact exclusive left right apart

theorem chained_advanced {calls : ι → CreationService × CreateCall} {system : System ι}
    {transaction : ι} {session : Session} (chained : Chained calls system)
    (active : (system.sessions transaction).status = .active)
    (moved : (system.sessions transaction).advance system.store = some session)
    (free : ∀ other, other ≠ transaction → Compatible session (system.sessions other)) :
    Chained calls { system with
      sessions := Function.update system.sessions transaction session } where
  linear := chained.linear
  numbered := chained.numbered
  staged := by
    intro other otherActive
    by_cases same : other = transaction
    · subst same
      dsimp only
      rw [Function.update_self]
      exact (chained.staged other active).advance moved
    · dsimp only at otherActive ⊢
      rw [Function.update_of_ne same] at otherActive ⊢
      exact chained.staged other otherActive
  exclusive := exclusive_update chained.exclusive free

theorem chained_committed {calls : ι → CreationService × CreateCall} {system : System ι}
    {transaction : ι} {result : CreateSnapshotResult} (chained : Chained calls system)
    (active : (system.sessions transaction).status = .active)
    (finished : (system.sessions transaction).program = .finish result) :
    Chained calls
      { store := (system.sessions transaction).visible system.store
        sessions := Function.update system.sessions transaction
          ((system.sessions transaction).stop .committed) } := by
  have stage := chained.staged transaction active
  rw [finished] at stage
  have committed := stage.committed
  change Committed _ _ ((system.sessions transaction).visible system.store) _
    at committed
  generalize (system.sessions transaction).visible system.store = after
    at committed
  constructor
  · intro propertyId
    by_cases own : propertyId = (calls transaction).2.propertyId
    · subst own
      rcases committed.own with ⟨same, _⟩ | ⟨record, added⟩
      · exact same ▸ chained.linear _
      · rw [added.accepted]
        exact (chained.linear _).concat
          ⟨added.sequence.trans (chained.numbered _), added.supersedes, added.fingerprint⟩
    · rw [committed.accepted propertyId own]
      exact chained.linear propertyId
  · intro propertyId
    dsimp only
    by_cases own : propertyId = (calls transaction).2.propertyId
    · subst own
      rcases committed.own with ⟨same, numbered⟩ | ⟨record, added⟩
      · rw [same, numbered]
        exact chained.numbered _
      · rw [added.accepted, added.numbered, chained.numbered,
          List.length_append, List.length_singleton]
    · rw [committed.accepted propertyId own, committed.numbered propertyId own]
      exact chained.numbered propertyId
  · intro other otherActive
    by_cases same : other = transaction
    · subst same
      simp [Session.stop] at otherActive
    · dsimp only at otherActive ⊢
      rw [Function.update_of_ne same] at otherActive ⊢
      have otherStage := chained.staged other otherActive
      by_cases own : (calls other).2.propertyId =
          (calls transaction).2.propertyId
      · rcases committed.own with ⟨accepted, numbered⟩ | ⟨record, added⟩
        · rw [← own] at accepted numbered
          exact otherStage.congr accepted numbered
        · -- The counter was locked, so the other has not come to it yet.
          obtain ⟨sequence, locked⟩ := added.locked
          obtain ⟨unwritten, shape⟩ := otherStage.eq_nil
            fun otherSequence written =>
              chained.exclusive transaction other (Ne.symm same) _ locked _ written own.symm
          rw [unwritten]
          exact .fresh shape
      · exact otherStage.congr (committed.accepted _ own) (committed.numbered _ own)
  · apply exclusive_update chained.exclusive
    intro other _ row written
    cases written

theorem chained_rolledBack {calls : ι → CreationService × CreateCall} {system : System ι}
    (transaction : ι) (chained : Chained calls system) :
    Chained calls { system with
      sessions := Function.update system.sessions transaction
        ((system.sessions transaction).stop .rolledBack) } where
  linear := chained.linear
  numbered := chained.numbered
  staged := by
    intro other otherActive
    by_cases same : other = transaction
    · subst same
      simp [Session.stop] at otherActive
    · dsimp only at otherActive ⊢
      rw [Function.update_of_ne same] at otherActive ⊢
      exact chained.staged other otherActive
  exclusive := by
    apply exclusive_update chained.exclusive
    intro other _ row written
    cases written

theorem Step.chained {calls : ι → CreationService × CreateCall} {before after : System ι}
    {event : ι × Action} (chained : Chained calls before) (taken : Step before event after) :
    Chained calls after := by
  cases taken with
  | advanced active moved free =>
      exact chained_advanced chained active moved free
  | committed active finished =>
      exact chained_committed chained active finished
  | rolledBack => exact chained_rolledBack _ chained

/-- In every interleaving of calls the accepted snapshots of a property are
numbered from one without gaps, each supersedes the one before it, and no two
have the same fingerprint. -/
theorem snapshots_linear {properties : List Uuid} {reasonCodes : List String}
    {calls : ι → CreationService × CreateCall} {events : List (ι × Action)} {system : System ι}
    (run : Exec Step
      (System.start (Database.empty properties reasonCodes) calls) events
      system)
    (propertyId : Uuid) :
    Linear (system.store.acceptedOf propertyId) := by
  have chained : Chained calls system :=
    run.invariant (chained_start properties reasonCodes calls)
      fun _ _ _ chained taken => taken.chained chained
  exact chained.linear propertyId

/-- Two calls for one property. -/
def twoCalls (again : Bool) : CreationService × CreateCall :=
  (coreService, bareCall "1.0" (if again then 2 else 1))

/-- The first of two calls is carried out. -/
theorem snapshots_linear_sample :
    ∃ events system record,
      Exec Step (System.start (Database.empty [someProperty] []) twoCalls)
        events system ∧
      system.store.acceptedOf someProperty = [record] ∧
      Linear (system.store.acceptedOf someProperty) := by
  obtain ⟨fingerprints, capturing, _⟩ := captureState_bareState "1.0"
  obtain ⟨after, row, created, inserted, _⟩ :=
    create_bareCall ⟨1, by decide⟩ (by decide) capturing
      (Sound.empty [someProperty] []) List.mem_cons_self
      ⟨by simp [Database.empty], by simp [Database.empty]⟩
      (by simp [Database.empty])
  have ran := (alone_createProgram coreService (bareCall "1.0" ⟨1, by decide⟩)
    (Database.empty [someProperty] [])).trans created
  obtain ⟨events, run⟩ := @exec_alone Bool _ (Database.empty [someProperty] [])
    (fun again => .start (createProgram (twoCalls again).1 (twoCalls again).2))
    false _ after [] _ rfl ran (fun _ _ => rfl)
  refine ⟨events, _, row, run, ?_, snapshots_linear run someProperty⟩
  have own : row.propertyId = someProperty := inserted.propertyId
  have accepted : row.accepted :=
    ⟨inserted.qaStatus, .inl inserted.completeness⟩
  change after.acceptedOf someProperty = [row]
  rw [Database.acceptedOf, inserted.snapshots]
  simp [Database.empty, own, accepted]

end SanTanHeights.Snapshot
