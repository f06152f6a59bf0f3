import SanTanHeights.Snapshot.Creation

/-!
# Creating snapshots beside one another

The statements of `SnapshotCreationService.create` one by one, and
transactions at READ COMMITTED whose statements interleave.  A statement sees
the committed tables under the rows of its own transaction.  The row of a
sequence counter, and the entries that an insert adds to the unique indexes,
stay locked until the transaction ends; a statement that needs them waits.
-/

namespace SanTanHeights.Snapshot

open Foundation Foundation.Outcome Foundation.Runs
open Foundation.ReadCommitted (Status Action)

/-! ## Statements -/

/-- A row that belongs to a snapshot. -/
inductive ChildRow where
  | finding (record : SnapshotFindingRecord)
  | dependency (record : SnapshotDependencyRecord)
  | requirement (record : SnapshotRequirementResultRecord)

/-- A row that a transaction writes. -/
inductive Write where
  | counter (propertyId : Uuid) (nextSequence : Nat)
  | snapshot (record : SnapshotRecord)
  | child (row : ChildRow)

namespace Database

/-- The insert of a row that belongs to a snapshot. -/
def insertChild (database : Database) : ChildRow → Except String Database
  | .finding record => database.insertFinding record
  | .dependency record => database.insertDependency record
  | .requirement record => database.insertRequirement record

/-- The tables with a written row. -/
def put (database : Database) : Write → Database
  | .counter propertyId nextSequence =>
      { database with
        sequenceCounters := Function.update database.sequenceCounters
          propertyId (some nextSequence) }
  | .snapshot record =>
      { database with snapshots := database.snapshots ++ [record] }
  | .child (.finding record) => database.addFindings [record]
  | .child (.dependency record) => database.addDependencies [record]
  | .child (.requirement record) => database.addRequirementResults [record]

/-- The tables with all rows that a transaction wrote. -/
def putAll (database : Database) (writes : List Write) : Database :=
  writes.foldl put database

@[simp] theorem putAll_append (database : Database) (writes others : List Write) :
    database.putAll (writes ++ others) = (database.putAll writes).putAll others :=
  List.foldl_append

theorem allocateSequence_eq_ok {database next : Database} {propertyId : Uuid} {sequence : Nat} :
    database.allocateSequence propertyId = .ok (sequence, next) →
      sequence = (database.sequenceCounters propertyId).elim 1 id ∧
        next = database.put (.counter propertyId (sequence + 1)) := by
  intro allocated
  simp only [allocateSequence, require_bind_eq_ok, pure_eq_ok, Prod.mk.injEq] at allocated
  obtain ⟨_, rfl, rfl⟩ := allocated
  cases counter : database.sequenceCounters propertyId <;> simp [put]

theorem insertSnapshot_eq_ok {database next : Database} {record : SnapshotRecord}
    (inserted : database.insertSnapshot record = .ok next) :
    next = database.put (.snapshot record) ∧
      ∀ other ∈ database.snapshots, other.propertyId = record.propertyId →
        other.semanticFingerprint ≠ record.semanticFingerprint := by
  simp only [insertSnapshot, require_bind_eq_ok, pure_eq_ok] at inserted
  obtain ⟨_, _, _, _, _, _, unique, rfl⟩ := inserted
  exact ⟨rfl, unique⟩

theorem insertChild_eq_ok {database next : Database} {row : ChildRow}
    (inserted : database.insertChild row = .ok next) :
    next = database.put (.child row) := by
  cases row with
  | finding record => exact insertFinding_eq_ok inserted
  | dependency record => exact insertDependency_eq_ok inserted
  | requirement record => exact insertRequirement_eq_ok inserted

end Database

/-- What a transaction still has to do. -/
inductive Program where
  | finish (result : CreateSnapshotResult)
  | raise (message : String)
  | query (next : Database → Program)
  | allocate (propertyId : Uuid) (next : Nat → Program)
  | insert (record : SnapshotRecord) (next : Program)
  | insertChild (row : ChildRow) (next : Program)

/-- What a program does when nothing runs beside it. -/
def Program.alone :
    Program → Database → Except String (CreateSnapshotResult × Database)
  | .finish result, database => return (result, database)
  | .raise message, _ => throw message
  | .query next, database => (next database).alone database
  | .allocate propertyId next, database => do
      let (sequence, database) ← database.allocateSequence propertyId
      (next sequence).alone database
  | .insert record next, database => do
      let database ← database.insertSnapshot record
      next.alone database
  | .insertChild row next, database => do
      let database ← database.insertChild row
      next.alone database

/-! ## The statements of a call -/

/-- Raise what a computation raises, or go on with its value. -/
def Program.after {α : Type} (computed : Except String α) (next : α → Program) : Program :=
  match computed with
  | .ok value => next value
  | .error message => .raise message

/-- The insert of a frozen finding. -/
def findingProgram (snapshotId : Uuid) (passports : List PassportReference)
    (finding : FrozenFinding) (next : Program) : Program :=
  .after (orRaise (passportByFinding passports finding.findingId) finding.findingId)
    fun passport => .insertChild (.finding
      { snapshotId := snapshotId
        finding := finding
        passportSemanticFingerprint := passport.passportSemanticFingerprint })
      next

/-- The inserts of the rows that belong to a snapshot. -/
def childrenProgram (snapshotId : Uuid) (captured : Capture)
    (requirements : List RequirementResult) (result : CreateSnapshotResult) :
    Program :=
  captured.findings.foldr (findingProgram snapshotId captured.passports)
    (captured.dependencies.foldr (fun dependency =>
        .insertChild (.dependency (dependencyRecord snapshotId dependency)))
      (requirements.foldr
        (fun requirement => .insertChild (.requirement ⟨snapshotId, requirement⟩))
        (.finish result)))

/-- From `allocate_sequence` on. -/
def insertProgram (call : CreateCall) (captured : Capture)
    (evaluation : RequirementEvaluation) : Program :=
  .allocate call.propertyId fun sequence =>
    .query fun database =>
      .after (snapshotHash call.state captured evaluation.results) fun hash =>
        .insert (snapshotRecord call captured.fingerprints
            evaluation.completenessStatus sequence
            ((database.currentAccepted call.propertyId).map SnapshotRecord.snapshotId) hash)
          (childrenProgram call.freshId captured evaluation.results
            ⟨.created, some call.freshId, some captured.fingerprints.semanticFingerprint,
              evaluation.completenessStatus⟩)

/-- `SnapshotCreationService.create`, statement by statement. -/
def createProgram (service : CreationService) (call : CreateCall) : Program :=
  .after (require (call.state.propertyId = call.propertyId)
      "governed-state provider returned the wrong property") fun _ =>
  let evaluation := evaluate service.requirements call.state
  .after (require (evaluation.completenessStatus ≠ .invalid) "SNAPSHOT_STATE_INVALID") fun _ =>
  if evaluation.completenessStatus = .blocked then
    .finish ⟨.blocked, none, none, .blocked⟩
  else
    .after (captureState service.resolver service.allowed call.state) fun captured =>
    .after (require (call.latestState.propertyId = call.propertyId)
        "governed-state provider returned the wrong property") fun _ =>
    .after (require (call.latestState.sourceReadToken = call.state.sourceReadToken)
        "SOURCE_STATE_CHANGED_DURING_CAPTURE") fun _ =>
    .query fun database =>
      match checkDuplicate database call.propertyId
          captured.fingerprints.semanticFingerprint with
      | some existing =>
          .finish ⟨.existingEquivalent, some existing,
            some captured.fingerprints.semanticFingerprint, evaluation.completenessStatus⟩
      | none => insertProgram call captured evaluation

/-! ## Alone -/

theorem alone_after {α : Type} (computed : Except String α) (next : α → Program)
    (database : Database) : (Program.after computed next).alone database =
      computed >>= fun value => (next value).alone database := by
  cases computed <;> rfl

/-- Inserts one after the other. -/
theorem alone_foldr {α : Type} {statement : α → Program → Program}
    {run : Database → α → Except String Database}
    (runs : ∀ item next database, (statement item next).alone database =
      run database item >>= next.alone)
    (items : List α) (last : Program) (database : Database) :
    (items.foldr statement last).alone database = items.foldlM run database >>= last.alone := by
  induction items generalizing database with
  | nil => rfl
  | cons item items ih =>
      rw [List.foldr_cons, runs, List.foldlM_cons, bind_assoc]
      congr 1
      funext next
      exact ih next

theorem alone_childrenProgram (snapshotId : Uuid) (captured : Capture)
    (requirements : List RequirementResult) (result : CreateSnapshotResult)
    (database : Database) :
    (childrenProgram snapshotId captured requirements result).alone database =
      insertChildren database snapshotId captured requirements >>=
        fun after => pure (result, after) := by
  unfold childrenProgram insertChildren
  have finding : ∀ finding next database,
      (findingProgram snapshotId captured.passports finding next).alone
          database =
        findingRecord snapshotId captured.passports database finding >>= next.alone := by
    intro finding next database
    rw [findingProgram, alone_after, findingRecord, bind_assoc]
    rfl
  rw [alone_foldr finding, bind_assoc]
  congr 1
  funext withFindings
  rw [alone_foldr (fun _ _ _ => rfl), bind_assoc]
  congr 1
  funext withDependencies
  rw [alone_foldr (fun _ _ _ => rfl)]
  rfl

theorem alone_insertProgram (call : CreateCall) (captured : Capture)
    (evaluation : RequirementEvaluation) (database : Database) :
    (insertProgram call captured evaluation).alone database =
      insertCapture call captured evaluation database >>= fun inserted =>
        pure (⟨.created, some call.freshId, some captured.fingerprints.semanticFingerprint,
          evaluation.completenessStatus⟩, inserted) := by
  unfold insertProgram insertCapture
  rw [Program.alone, bind_assoc]
  congr 1
  funext ⟨sequence, allocated⟩
  change (Program.after _ _).alone allocated = _
  rw [alone_after]
  change _ = (snapshotHash call.state captured evaluation.results >>= _) >>= _
  rw [bind_assoc]
  congr 1
  funext hash
  rw [Program.alone, bind_assoc]
  congr 1
  funext inserted
  exact alone_childrenProgram call.freshId captured _ _ inserted

/-- Statement by statement a call does what it does at once. -/
theorem alone_createProgram
    (service : CreationService) (call : CreateCall) (database : Database) :
    (createProgram service call).alone database = create service call database := by
  unfold createProgram create
  rw [alone_after]
  congr 1
  funext _
  rw [alone_after]
  congr 1
  funext _
  split_ifs with blocked
  · rfl
  · rw [alone_after]
    congr 1
    funext captured
    rw [alone_after]
    congr 1
    funext _
    rw [alone_after]
    congr 1
    funext _
    rw [Program.alone]
    dsimp only
    cases checkDuplicate database call.propertyId
        captured.fingerprints.semanticFingerprint with
    | some existing => rfl
    | none => exact alone_insertProgram call captured _ database

/-! ## Interleaved -/

/-- Rows that a unique index or a row lock keeps apart until a transaction
ends. -/
def Write.Conflicts : Write → Write → Prop
  | .counter propertyId _, .counter other _ => propertyId = other
  | .snapshot record, .snapshot other =>
      record.snapshotId = other.snapshotId ∨
        record.propertyId = other.propertyId ∧
          (record.snapshotSequence = other.snapshotSequence ∨
            record.semanticFingerprint = other.semanticFingerprint)
  | .child (.finding record), .child (.finding other) =>
      record.snapshotId = other.snapshotId ∧ record.finding.findingId = other.finding.findingId
  | .child (.dependency record), .child (.dependency other) =>
      record.snapshotId = other.snapshotId ∧
        record.dependencyType = other.dependencyType ∧
        record.dependencyId = other.dependencyId
  | .child (.requirement record), .child (.requirement other) =>
      record.snapshotId = other.snapshotId ∧
        record.result.requirementId = other.result.requirementId
  | _, _ => False

theorem Write.Conflicts.symm {row other : Write} (conflict : row.Conflicts other) :
    other.Conflicts row := by
  rcases row with _ | _ | (_ | _ | _) <;>
    rcases other with _ | _ | (_ | _ | _) <;> simp only [Conflicts] at conflict ⊢ <;> grind

/-- A transaction under way. -/
structure Session where
  program : Program
  writes : List Write
  status : Status

namespace Session

/-- Before its first statement. -/
def start (program : Program) : Session where
  program := program
  writes := []
  status := .active

/-- At its end a transaction gives up its locks. -/
def stop (session : Session) (status : Status) : Session :=
  { session with writes := [], status := status }

/-- What the statements of a transaction see. -/
def visible (session : Session) (store : Database) : Database :=
  store.putAll session.writes

/-- The next statement of a transaction, unless it raises. -/
def advance (session : Session) (store : Database) : Option Session :=
  match session.program with
  | .finish _ => none
  | .raise _ => none
  | .query next =>
      some { session with program := next (session.visible store) }
  | .allocate propertyId next =>
      match (session.visible store).allocateSequence propertyId with
      | .ok (sequence, _) =>
          some { session with
            program := next sequence
            writes := session.writes ++ [.counter propertyId (sequence + 1)] }
      | .error _ => none
  | .insert record next =>
      match (session.visible store).insertSnapshot record with
      | .ok _ =>
          some { session with
            program := next
            writes := session.writes ++ [.snapshot record] }
      | .error _ => none
  | .insertChild row next =>
      match (session.visible store).insertChild row with
      | .ok _ =>
          some { session with
            program := next
            writes := session.writes ++ [.child row] }
      | .error _ => none

end Session

/-- Neither transaction waits for the other. -/
def Compatible (left right : Session) : Prop :=
  ∀ row ∈ left.writes, ∀ other ∈ right.writes, ¬ row.Conflicts other

theorem Compatible.symm {left right : Session} (compatible : Compatible left right) :
    Compatible right left :=
  fun row present other otherPresent conflict =>
    compatible other otherPresent row present conflict.symm

/-- The committed tables, and the transactions beside each other. -/
structure System (ι : Type*) where
  store : Database
  sessions : ι → Session

variable {ι : Type*} [DecidableEq ι]

/-- One transaction runs a statement that need not wait, commits when it has
returned, or is rolled back. -/
inductive Step : System ι → ι × Action → System ι → Prop
  | advanced {before : System ι} {transaction : ι} {session : Session} :
      (before.sessions transaction).status = .active →
      (before.sessions transaction).advance before.store = some session →
      (∀ other, other ≠ transaction → Compatible session (before.sessions other)) →
      Step before (transaction, .advance)
        { before with
          sessions := Function.update before.sessions transaction session }
  | committed {before : System ι} {transaction : ι}
      {result : CreateSnapshotResult} :
      (before.sessions transaction).status = .active →
      (before.sessions transaction).program = .finish result →
      Step before (transaction, .commit)
        { store := (before.sessions transaction).visible before.store
          sessions := Function.update before.sessions transaction
            ((before.sessions transaction).stop .committed) }
  | rolledBack {before : System ι} {transaction : ι} :
      (before.sessions transaction).status = .active →
      Step before (transaction, .rollBack)
        { before with
          sessions := Function.update before.sessions transaction
            ((before.sessions transaction).stop .rolledBack) }

/-- Calls of `create` on a database, none of which has begun. -/
def System.start (store : Database) (calls : ι → CreationService × CreateCall) : System ι where
  store := store
  sessions := fun transaction =>
    .start (createProgram (calls transaction).1 (calls transaction).2)

/-! ## Alone for a while -/

section Alone

variable {store : Database} {sessions : ι → Session} {transaction : ι}

/-- A statement of a transaction that nothing stops, and what follows. -/
theorem exec_advanced {session next : Session} {events : List (ι × Action)} {last : System ι}
    (current : sessions transaction = session) (active : session.status = .active)
    (moved : session.advance store = some next)
    (unwritten : ∀ other, other ≠ transaction → (sessions other).writes = [])
    (later : Exec Step ⟨store, Function.update sessions transaction next⟩ events last) :
    Exec Step ⟨store, sessions⟩ ((transaction, .advance) :: events) last := by
  subst current
  refine .cons (.advanced active moved ?_) later
  intro other apart row _ conflicting present
  change conflicting ∈ (sessions other).writes at present
  rw [unwritten other apart] at present
  cases present

theorem exec_committed {result : CreateSnapshotResult} {writes : List Write}
    (current : sessions transaction = ⟨.finish result, writes, .active⟩) :
    Exec Step ⟨store, sessions⟩ [(transaction, .commit)]
      ⟨store.putAll writes, Function.update sessions transaction
        ⟨.finish result, [], .committed⟩⟩ := by
  have ends := @Step.committed ι _ ⟨store, sessions⟩ transaction result
    (congrArg Session.status current) (congrArg Session.program current)
  dsimp only at ends
  rw [current] at ends
  exact .single ends

/-- A run in which the others do nothing and a transaction commits. -/
def Commits (store : Database) (sessions : ι → Session) (transaction : ι)
    (result : CreateSnapshotResult) (after : Database) : Prop :=
  ∃ events, Exec Step ⟨store, sessions⟩ events ⟨after,
    Function.update sessions transaction ⟨.finish result, [], .committed⟩⟩

theorem commits_of_advance {session next : Session} {after : Database}
    {result : CreateSnapshotResult} (current : sessions transaction = session)
    (active : session.status = .active) (moved : session.advance store = some next)
    (unwritten : ∀ other, other ≠ transaction → (sessions other).writes = [])
    (later : (∀ other, other ≠ transaction →
        (Function.update sessions transaction next other).writes = []) →
      Commits store (Function.update sessions transaction next) transaction result after) :
    Commits store sessions transaction result after := by
  obtain ⟨events, rest⟩ := later fun other apart => by
    rw [Function.update_of_ne apart]
    exact unwritten other apart
  rw [Function.update_idem] at rest
  exact ⟨_, exec_advanced current active moved unwritten rest⟩

/-- Where the others have written nothing, a transaction does what its program
does alone. -/
theorem exec_alone {program : Program} {after : Database} {writes : List Write}
    {result : CreateSnapshotResult}
    (current : sessions transaction = ⟨program, writes, .active⟩)
    (ran : program.alone (store.putAll writes) = .ok (result, after))
    (unwritten : ∀ other, other ≠ transaction → (sessions other).writes = []) :
    Commits store sessions transaction result after := by
  induction program generalizing sessions writes with
  | finish returned =>
      obtain ⟨rfl, rfl⟩ := Prod.mk.inj (Except.ok.inj ran)
      exact ⟨_, exec_committed current⟩
  | raise message => cases ran
  | query next ih =>
      exact commits_of_advance current rfl rfl unwritten (ih _ (Function.update_self ..) ran)
  | allocate propertyId next ih =>
      obtain ⟨⟨sequence, allocated⟩, allocation, rest⟩ := bind_eq_ok.mp ran
      obtain ⟨_, rfl⟩ := Database.allocateSequence_eq_ok allocation
      have moved : Session.advance
          ⟨.allocate propertyId next, writes, .active⟩ store =
            some ⟨next sequence, writes ++ [.counter propertyId (sequence + 1)], .active⟩ := by
        simp only [Session.advance, Session.visible, allocation]
      refine commits_of_advance current rfl moved unwritten (ih _ (Function.update_self ..) ?_)
      rw [Database.putAll_append]
      exact rest
  | insert record next ih =>
      obtain ⟨inserted, insertion, rest⟩ := bind_eq_ok.mp ran
      obtain ⟨rfl, _⟩ := Database.insertSnapshot_eq_ok insertion
      have moved : Session.advance ⟨.insert record next, writes, .active⟩
          store = some ⟨next, writes ++ [.snapshot record], .active⟩ := by
        simp only [Session.advance, Session.visible, insertion]
      refine commits_of_advance current rfl moved unwritten (ih (Function.update_self ..) ?_)
      rw [Database.putAll_append]
      exact rest
  | insertChild row next ih =>
      obtain ⟨inserted, insertion, rest⟩ := bind_eq_ok.mp ran
      obtain rfl := Database.insertChild_eq_ok insertion
      have moved : Session.advance ⟨.insertChild row next, writes, .active⟩
          store = some ⟨next, writes ++ [.child row], .active⟩ := by
        simp only [Session.advance, Session.visible, insertion]
      refine commits_of_advance current rfl moved unwritten (ih (Function.update_self ..) ?_)
      rw [Database.putAll_append]
      exact rest

end Alone

end SanTanHeights.Snapshot
