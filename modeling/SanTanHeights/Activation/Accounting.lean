import Mathlib.Logic.Relation
import SanTanHeights.Activation.Exceptions
import SanTanHeights.Foundation.Runs

/-!
# What becomes of an exception

The accounting of a ledger compares ids only.  Where the records of an id, and
those that supersede it, are of one subject, every exception of the first
ledger of a chain is in the last, or a record of its subject descends from it.
-/

namespace SanTanHeights.Activation

open Foundation.Json Foundation.Sorting Foundation.Outcome Shared
open Foundation.Runs

/-! ## Audits -/

/-- The checks of a record pass. -/
structure ExceptionRecord.Evaluable
    (policy : ExceptionPolicy) (record : ExceptionRecord) : Prop where
  complete : ∀ key ∈ requiredFields, record.get key ≠ none
  scopeType : record.scopeType ∈ allowedScopeTypes
  severity : record.severity ∈ allowedSeverities
  repairState : record.repairState ∈ allowedRepairStates
  owned : ∃ classPolicy, policy.exceptionClasses.lookup record.exceptionClass =
        some classPolicy ∧
      record.owningLayer = classPolicy.owningLayer

theorem textual_decisionPayload (record : ExceptionRecord) (decision : ExceptionDecision) :
    Textual (decisionPayload record decision) := by
  simp [decisionPayload, textual_obj, IsTagged]

variable {record : ExceptionRecord} {policy : ExceptionPolicy}
  {records previous current : List ExceptionRecord}

theorem exists_evaluateException_iff :
    (∃ decision, evaluateException record policy = .ok decision) ↔ record.Evaluable policy := by
  simp only [evaluateException, bind_eq_ok, require_eq_ok, orRaise_eq_ok, exists_const, pure_eq_ok]
  constructor
  · rintro ⟨_, missing, scopeType, severity, repairState, classPolicy, found, owned, _⟩
    refine ⟨fun key listed => ?_, scopeType, severity, repairState, classPolicy, found, owned⟩
    intro absent
    exact List.filter_eq_nil_iff.mp missing key listed (decide_eq_true absent)
  · rintro ⟨complete, scopeType, severity, repairState, classPolicy, found, owned⟩
    obtain ⟨fingerprint, hashed, _⟩ := (textual_decisionPayload record
      (draftDecision record policy classPolicy)).exists_sha256Dumps
    refine ⟨_, List.filter_eq_nil_iff.mpr ?_, scopeType, severity,
      repairState, classPolicy, found, owned, fingerprint, hashed, rfl⟩
    intro key listed
    simpa using complete key listed

/-- A record that an audit accepts. -/
structure ExceptionRecord.Auditable
    (policy : ExceptionPolicy) (record : ExceptionRecord) : Prop where
  evaluable : record.Evaluable policy
  closed : record.isKnown policy.knownGovernedException →
    record.repairState = "CLOSED" →
      (record.get "repair_evidence_fingerprint").any (fun evidence => evidence ≠ "") = true

theorem exists_auditRecord_iff {state : AuditState} :
    (∃ next, auditRecord policy state record = .ok next) ↔
      record.get "exception_id" ∉ state.seenIds ∧ record.Auditable policy := by
  simp only [auditRecord, bind_eq_ok, require_eq_ok, exists_const, pure_eq_ok]
  constructor
  · rintro ⟨_, fresh, decision, evaluated, closed, _⟩
    exact ⟨fresh, exists_evaluateException_iff.mp ⟨decision, evaluated⟩, closed⟩
  · rintro ⟨fresh, evaluable, closed⟩
    obtain ⟨decision, evaluated⟩ := exists_evaluateException_iff.mpr evaluable
    exact ⟨_, fresh, decision, evaluated, closed, rfl⟩

theorem state_of_auditRecord {state next : AuditState}
    (audited : auditRecord policy state record = .ok next) :
    next.seenIds = state.seenIds ++ [record.get "exception_id"] ∧
      next.knownPartialPresent = (state.knownPartialPresent ||
        decide (record.isKnown policy.knownGovernedException)) := by
  simp only [auditRecord, bind_eq_ok, require_eq_ok, exists_const, pure_eq_ok] at audited
  obtain ⟨_, _, _, _, rfl⟩ := audited
  exact ⟨rfl, rfl⟩

/-- The records of a ledger are audited one by one. -/
theorem exists_auditRecords_iff {policy : ExceptionPolicy} {records : List ExceptionRecord}
    {state : AuditState} {known : Bool} :
    (∃ final, records.foldlM (auditRecord policy) state = .ok final ∧
        final.knownPartialPresent = known) ↔
      (∀ record ∈ records, record.get "exception_id" ∉ state.seenIds) ∧
        (records.map fun record => record.get "exception_id").Nodup ∧
          (∀ record ∈ records, record.Auditable policy) ∧
            (state.knownPartialPresent || records.any fun record =>
              decide (record.isKnown policy.knownGovernedException)) = known := by
  induction records generalizing state with
  | nil => simp [pure_eq_ok]
  | cons record records ih =>
      simp only [List.foldlM_cons, bind_eq_ok, List.forall_mem_cons,
        List.map_cons, List.nodup_cons, List.any_cons]
      constructor
      · rintro ⟨final, ⟨next, audited, rest⟩, present⟩
        obtain ⟨seen, partial_⟩ := state_of_auditRecord audited
        obtain ⟨fresh, auditable⟩ := exists_auditRecord_iff.mp ⟨_, audited⟩
        obtain ⟨later, distinct, each, found⟩ := ih.mp ⟨final, rest, present⟩
        rw [seen] at later
        rw [partial_, Bool.or_assoc] at found
        refine ⟨⟨fresh, fun other listed => ?_⟩, ⟨?_, distinct⟩,
          ⟨auditable, each⟩, found⟩
        · exact fun member =>
            later other listed (List.mem_append_left _ member)
        · intro repeated
          obtain ⟨other, listed, same⟩ := List.mem_map.mp repeated
          exact later other listed (by simp [same])
      · rintro ⟨⟨fresh, later⟩, ⟨new, distinct⟩, ⟨auditable, each⟩, found⟩
        obtain ⟨next, audited⟩ := exists_auditRecord_iff.mpr ⟨fresh, auditable⟩
        obtain ⟨seen, partial_⟩ := state_of_auditRecord audited
        have rest := (@ih next).mpr ⟨?_, distinct, each,
          by rw [partial_, Bool.or_assoc]; exact found⟩
        · obtain ⟨final, rest, present⟩ := rest
          exact ⟨final, ⟨next, audited, rest⟩, present⟩
        · intro other listed member
          rw [seen, List.mem_append, List.mem_singleton] at member
          rcases member with old | same
          · exact later other listed old
          · exact new (List.mem_map.mpr ⟨other, listed, same⟩)

/-- A ledger that an audit accepts. -/
structure Audited (policy : ExceptionPolicy) (records : List ExceptionRecord) : Prop where
  distinct : (records.map fun record => record.get "exception_id").Nodup
  auditable : ∀ record ∈ records, record.Auditable policy
  known : ∃ record ∈ records, record.isKnown policy.knownGovernedException

theorem exists_auditExceptionLedger_iff :
    (∃ audit, auditExceptionLedger records policy = .ok audit) ↔ Audited policy records := by
  have audits := @exists_auditRecords_iff policy records ⟨[], [], false⟩ true
  simp only [List.not_mem_nil, not_false_eq_true, implies_true, true_and,
    Bool.false_or, List.any_eq_true, decide_eq_true_eq] at audits
  simp only [auditExceptionLedger, bind_eq_ok, require_eq_ok, exists_const, pure_eq_ok]
  constructor
  · rintro ⟨_, final, audited, present, _⟩
    obtain ⟨distinct, auditable, known⟩ := audits.mp ⟨final, audited, present⟩
    exact ⟨distinct, auditable, known⟩
  · rintro ⟨distinct, auditable, known⟩
    obtain ⟨final, audited, present⟩ := audits.mpr ⟨distinct, auditable, known⟩
    exact ⟨_, final, audited, present, rfl⟩

/-- The ids of an audited ledger are distinct. -/
theorem Audited.nodup_exceptionId (audited : Audited policy records) :
    (records.map ExceptionRecord.exceptionId).Nodup := by
  refine List.Nodup.map_on ?_ (List.Nodup.of_map _ audited.distinct)
  intro left leftListed right rightListed same
  have present : ∀ record ∈ records,
      record.get "exception_id" = some record.exceptionId := by
    intro record listed
    obtain ⟨found, there⟩ := Option.ne_none_iff_exists'.mp
      ((audited.auditable record listed).evaluable.complete "exception_id" (by decide))
    rw [ExceptionRecord.exceptionId, ExceptionRecord.text, there, Option.getD_some]
  apply List.inj_on_of_nodup_map audited.distinct leftListed rightListed
  rw [present left leftListed, present right rightListed, same]

/-! ## Accounting -/

theorem byId_eq_self (distinct : (records.map ExceptionRecord.exceptionId).Nodup) :
    byId records = records := by
  induction records with
  | nil => rfl
  | cons record records ih =>
      rw [List.map_cons, List.nodup_cons] at distinct
      have last : ¬∃ later ∈ records,
          later.exceptionId = record.exceptionId := by
        rintro ⟨later, listed, same⟩
        exact distinct.1 (List.mem_map.mpr ⟨later, listed, same⟩)
      rw [byId, if_neg last, ih distinct.2]

/-- Audited ledgers account for one another where every id stays or is
superseded. -/
theorem validateExceptionAccounting_eq_ok
    (previousDistinct : (previous.map ExceptionRecord.exceptionId).Nodup)
    (currentDistinct : (current.map ExceptionRecord.exceptionId).Nodup) :
    validateExceptionAccounting previous current = .ok () ↔ ∀ record ∈ previous,
        (∃ kept ∈ current, kept.exceptionId = record.exceptionId) ∨
          ∃ later ∈ current, later.supersedesExceptionId = some record.exceptionId := by
  rw [validateExceptionAccounting, byId_eq_self previousDistinct, byId_eq_self currentDistinct]
  simp only [bind_eq_ok, pure_eq_ok, and_true]
  constructor
  · rintro ⟨results, ran⟩ record listed
    by_cases kept : ∃ other ∈ current, other.exceptionId = record.exceptionId
    · exact .inl kept
    · have gone : record.exceptionId ∈ sortedBy id
          ((previous.map ExceptionRecord.exceptionId).filter fun exceptionId =>
              exceptionId ∉ current.map ExceptionRecord.exceptionId) := by
        rw [mem_sortedBy, List.mem_filter]
        exact ⟨List.mem_map_of_mem listed, decide_eq_true
          fun present => kept (List.mem_map.mp present)⟩
      obtain ⟨_, _, checked⟩ := exists_ok_of_mapM ran gone
      exact .inr (require_eq_ok.mp checked)
  · intro accounted
    apply exists_mapM_ok
    intro exceptionId missing
    rw [mem_sortedBy, List.mem_filter, List.mem_map] at missing
    obtain ⟨⟨record, listed, rfl⟩, gone⟩ := missing
    refine ⟨(), require_eq_ok.mpr ?_⟩
    apply (accounted record listed).resolve_left
    intro kept
    exact of_decide_eq_true gone (List.mem_map.mpr kept)

/-! ## Chains of ledgers -/

/-- Records about one subject. -/
structure SameSubject (record other : ExceptionRecord) : Prop where
  property : other.canonicalPropertyId = record.canonicalPropertyId
  scopeType : other.scopeType = record.scopeType
  scopeKey : other.scopeKey = record.scopeKey

/-- Records of one exception. -/
structure SameException (record other : ExceptionRecord) : Prop
    extends SameSubject record other where
  exceptionClass : other.exceptionClass = record.exceptionClass

/-- Some ledger records that one id supersedes another. -/
def Supersedes (ledgers : List (List ExceptionRecord)) (earlier later : String) : Prop :=
  ∃ ledger ∈ ledgers, ∃ record ∈ ledger, record.exceptionId = later ∧
    record.supersedesExceptionId = some earlier

/-- Every exception of the first ledger is in the last one, or a record about
its subject descends from it. -/
def Accounted (ledgers : List (List ExceptionRecord))
    (first last : List ExceptionRecord) : Prop :=
  ∀ record ∈ first, (∃ kept ∈ last, kept.exceptionId = record.exceptionId ∧
      SameException record kept) ∨
    ∃ later ∈ last, SameSubject record later ∧
      Relation.TransGen (Supersedes ledgers) record.exceptionId later.exceptionId

/-- A ledger that is audited and accounts for the one before it. -/
def LedgerStep (policy : ExceptionPolicy) (previous : List ExceptionRecord)
    (current next : List ExceptionRecord) : Prop :=
  next = current ∧ (∃ audit, auditExceptionLedger current policy = .ok audit) ∧
      validateExceptionAccounting previous current = .ok ()

/-- Ids that stay are of their exception, and where something supersedes an id
that is gone, something does so about its subject. -/
structure Faithful (current previous : List ExceptionRecord) : Prop where
  kept : ∀ record ∈ previous, ∀ other ∈ current,
    other.exceptionId = record.exceptionId → SameException record other
  superseded : ∀ record ∈ previous,
    (∀ other ∈ current, other.exceptionId ≠ record.exceptionId) →
      (∃ later ∈ current, later.supersedesExceptionId = some record.exceptionId) →
        ∃ later ∈ current,
          later.supersedesExceptionId = some record.exceptionId ∧ SameSubject record later

theorem SameSubject.refl (record : ExceptionRecord) : SameSubject record record :=
  ⟨rfl, rfl, rfl⟩

theorem SameSubject.trans {middle other : ExceptionRecord}
    (left : SameSubject record middle) (right : SameSubject middle other) :
    SameSubject record other where
  property := right.property.trans left.property
  scopeType := right.scopeType.trans left.scopeType
  scopeKey := right.scopeKey.trans left.scopeKey

theorem SameException.refl (record : ExceptionRecord) : SameException record record :=
  ⟨.refl record, rfl⟩

theorem SameException.trans {middle other : ExceptionRecord}
    (left : SameException record middle) (right : SameException middle other) :
    SameException record other :=
  ⟨left.toSameSubject.trans right.toSameSubject, right.exceptionClass.trans left.exceptionClass⟩

theorem Supersedes.mono {ledgers others : List (List ExceptionRecord)} {earlier later : String}
    (included : ledgers ⊆ others) (supersedes : Supersedes ledgers earlier later) :
    Supersedes others earlier later := by
  obtain ⟨ledger, listed, recorded⟩ := supersedes
  exact ⟨ledger, included listed, recorded⟩

/-- What a faithful ledger makes of a record of the ledger before it. -/
theorem Faithful.carries (faithful : Faithful current previous)
    (accounts : (∃ kept ∈ current, kept.exceptionId = record.exceptionId) ∨
      ∃ later ∈ current, later.supersedesExceptionId = some record.exceptionId)
    (listed : record ∈ previous) :
    (∃ kept ∈ current, kept.exceptionId = record.exceptionId ∧ SameException record kept) ∨
      ∃ later ∈ current, later.supersedesExceptionId = some record.exceptionId ∧
          SameSubject record later := by
  by_cases stays : ∃ kept ∈ current, kept.exceptionId = record.exceptionId
  · obtain ⟨kept, present, same⟩ := stays
    exact .inl ⟨kept, present, same, faithful.kept record listed kept present same⟩
  · apply Or.inr
    apply faithful.superseded record listed
    · intro other present same
      exact stays ⟨other, present, same⟩
    · exact accounts.resolve_left stays

/-- One more faithful ledger still accounts for the exceptions of the
first. -/
theorem Accounted.step {first : List ExceptionRecord} {ledgers : List (List ExceptionRecord)}
    (accounted : Accounted ledgers first previous)
    (accounts : ∀ record ∈ previous, (∃ kept ∈ current, kept.exceptionId = record.exceptionId) ∨
        ∃ later ∈ current, later.supersedesExceptionId = some record.exceptionId)
    (faithful : Faithful current previous) :
    Accounted (ledgers ++ [current]) first current := by
  have earlier : ∀ {left right : String}, Supersedes ledgers left right →
        Supersedes (ledgers ++ [current]) left right :=
    fun supersedes => supersedes.mono (List.subset_append_left _ _)
  have newest : ∀ {record later : ExceptionRecord}, later ∈ current →
      later.supersedesExceptionId = some record.exceptionId →
        Supersedes (ledgers ++ [current]) record.exceptionId later.exceptionId := by
    intro record later present supersedes
    exact ⟨current, List.mem_append_right _ (List.mem_singleton_self _),
      later, present, rfl, supersedes⟩
  intro record listed
  rcases accounted record listed with
    ⟨kept, present, sameId, same⟩ | ⟨later, present, same, descends⟩
  · -- The record was still there under its own id.
    rcases faithful.carries (accounts kept present) present with
      ⟨next, found, nextId, nextSame⟩ | ⟨next, found, supersedes, nextSame⟩
    · exact .inl ⟨next, found, nextId.trans sameId, same.trans nextSame⟩
    · refine .inr ⟨next, found, same.toSameSubject.trans nextSame, ?_⟩
      rw [← sameId]
      exact .single (newest found supersedes)
  · -- The record was already superseded, perhaps several times.
    have descended : Relation.TransGen (Supersedes (ledgers ++ [current]))
        record.exceptionId later.exceptionId :=
      Relation.TransGen.mono (r := Supersedes ledgers) (fun _ _ => earlier) _ _ descends
    rcases faithful.carries (accounts later present) present with
      ⟨next, found, nextId, nextSame⟩ | ⟨next, found, supersedes, nextSame⟩
    · refine .inr ⟨next, found, same.trans nextSame.toSameSubject, ?_⟩
      rwa [nextId]
    · exact .inr ⟨next, found, same.trans nextSame, descended.tail (newest found supersedes)⟩

/-- Exceptions do not disappear in a chain of ledgers that are faithful to
those before them. -/
theorem exceptions_accounted {policy : ExceptionPolicy} {first last : List ExceptionRecord}
    {ledgers : List (List ExceptionRecord)}
    (audited : ∃ audit, auditExceptionLedger first policy = .ok audit)
    (chain : Exec (Guarded (LedgerStep policy) Faithful) first ledgers last) :
    Accounted (first :: ledgers) first last := by
  have holds : Audited policy last ∧
      Accounted (first :: ledgers) first last := by
    apply chain.history_invariant
    · refine ⟨exists_auditExceptionLedger_iff.mp audited, ?_⟩
      intro record listed
      exact .inl ⟨record, listed, rfl, .refl record⟩
    · rintro history previous current _ ⟨sound, accounted⟩
        ⟨⟨rfl, accepted, validated⟩, faithful⟩
      have next := exists_auditExceptionLedger_iff.mp accepted
      exact ⟨next, accounted.step
        ((validateExceptionAccounting_eq_ok sound.nodup_exceptionId
          next.nodup_exceptionId).mp validated) faithful⟩
  exact holds.2

/-! ## Ledgers that do not account for an exception -/

/-- An open exception with an id, a property and the id it supersedes. -/
def sampleException (exceptionId canonicalPropertyId : String) (supersedes : Option String) :
    ExceptionRecord where
  fields :=
    [("exception_id", exceptionId), ("canonical_property_id", canonicalPropertyId),
      ("scope_type", "FIELD"), ("scope_key", "frontage"),
      ("exception_class", "KNOWN_PARTIAL_FRONTAGE"),
      ("reason_code", "FRONTAGE_EVIDENCE_PARTIAL"), ("severity", "MATERIAL"),
      ("repair_state", "OPEN"), ("owning_layer", "M9-003")] ++
    (supersedes.map fun exceptionId =>
      ("supersedes_exception_id", exceptionId)).toList
  waiverRequested := false

/-- The exception that the policy knows, and one of another property. -/
def sampleLedger : List ExceptionRecord :=
  [sampleException "E1" "STH-516018120" none, sampleException "E2" "STH-1" none]

/-- A ledger in which a record of some property supersedes the second
exception. -/
def laterLedger (canonicalPropertyId : String) : List ExceptionRecord :=
  [sampleException "E1" "STH-516018120" none, sampleException "E3" canonicalPropertyId (some "E2")]

section Samples

variable (exceptionId canonicalPropertyId : String)
  (supersedes : Option String)

@[simp] theorem exceptionId_sampleException :
    (sampleException exceptionId canonicalPropertyId supersedes).exceptionId = exceptionId := by
  cases supersedes <;> rfl

@[simp] theorem canonicalPropertyId_sampleException :
    (sampleException exceptionId canonicalPropertyId
      supersedes).canonicalPropertyId = canonicalPropertyId := by
  cases supersedes <;> rfl

@[simp] theorem supersedesExceptionId_sampleException :
    (sampleException exceptionId canonicalPropertyId
      supersedes).supersedesExceptionId = supersedes := by
  cases supersedes <;> rfl

theorem sameException_sampleException (otherId : String) (otherSupersedes : Option String) :
    SameException (sampleException exceptionId canonicalPropertyId supersedes)
      (sampleException otherId canonicalPropertyId otherSupersedes) := by
  constructor
  · constructor <;> cases supersedes <;> cases otherSupersedes <;> rfl
  · cases supersedes <;> cases otherSupersedes <;> rfl

theorem auditable_sampleException :
    (sampleException exceptionId canonicalPropertyId supersedes).Auditable exceptionPolicy := by
  obtain ⟨scopeType, severity, repairState, exceptionClass, owningLayer⟩ :
      let record := sampleException exceptionId canonicalPropertyId supersedes
      record.scopeType = "FIELD" ∧ record.severity = "MATERIAL" ∧
        record.repairState = "OPEN" ∧
          record.exceptionClass = "KNOWN_PARTIAL_FRONTAGE" ∧ record.owningLayer = "M9-003" := by
    cases supersedes <;> exact ⟨rfl, rfl, rfl, rfl, rfl⟩
  constructor
  · refine ⟨?_, ?_, ?_, ?_, ⟨"M9-003", true, true, false⟩, ?_, owningLayer⟩
    · simp [requiredFields, sampleException, ExceptionRecord.get, List.lookup_cons]
    · rw [scopeType]; decide
    · rw [severity]; decide
    · rw [repairState]; decide
    · rw [exceptionClass]; decide
  · intro _ closed
    exact absurd (repairState.symm.trans closed) (by decide)

end Samples

theorem audited_sampleLedger :
    ∃ audit, auditExceptionLedger sampleLedger exceptionPolicy = .ok audit := by
  rw [exists_auditExceptionLedger_iff]
  refine ⟨by decide, ?_, _, List.mem_cons_self, by decide⟩
  simp [sampleLedger, auditable_sampleException]

theorem laterLedger_step (canonicalPropertyId : String) :
    LedgerStep exceptionPolicy sampleLedger (laterLedger canonicalPropertyId)
      (laterLedger canonicalPropertyId) := by
  refine ⟨rfl, ?_, ?_⟩
  · rw [exists_auditExceptionLedger_iff]
    refine ⟨?_, ?_, _, List.mem_cons_self, by decide⟩
    · simp [laterLedger, sampleException, ExceptionRecord.get]
    · simp [laterLedger, auditable_sampleException]
  · rw [validateExceptionAccounting_eq_ok (by decide) (by simp [laterLedger])]
    simp [sampleLedger, laterLedger]

/-- An exception of a chain in which its successor is of its property. -/
theorem exceptions_accounted_sample :
    Accounted [sampleLedger, laterLedger "STH-1"] sampleLedger
      (laterLedger "STH-1") := by
  apply exceptions_accounted audited_sampleLedger
  apply Exec.single
  refine ⟨laterLedger_step "STH-1", ?_, ?_⟩
  · intro record listed other present same
    simp only [sampleLedger, laterLedger, List.mem_cons, List.not_mem_nil,
      or_false] at listed present
    rcases listed with rfl | rfl <;> rcases present with rfl | rfl <;>
      simp at same
    exact .refl _
  · intro record listed gone _
    simp only [sampleLedger, List.mem_cons, List.not_mem_nil, or_false]
      at listed
    rcases listed with rfl | rfl
    · simp [laterLedger] at gone
    · refine ⟨sampleException "E3" "STH-1" (some "E2"), ?_, ?_, ?_⟩
      · simp [laterLedger]
      · simp
      · exact (sameException_sampleException "E2" "STH-1" none "E3"
          (some "E2")).toSameSubject

/-- A record of one property accounts for the exception of another one. -/
theorem exception_superseded_by_other_property :
    (∃ audit, auditExceptionLedger sampleLedger exceptionPolicy = .ok audit) ∧
      LedgerStep exceptionPolicy sampleLedger (laterLedger "STH-2")
        (laterLedger "STH-2") ∧
      ¬Accounted [sampleLedger, laterLedger "STH-2"] sampleLedger
        (laterLedger "STH-2") := by
  refine ⟨audited_sampleLedger, laterLedger_step "STH-2", ?_⟩
  intro accounted
  rcases accounted (sampleException "E2" "STH-1" none)
      (by simp [sampleLedger]) with
    ⟨kept, present, same, _⟩ | ⟨later, present, same, _⟩
  · simp only [laterLedger, List.mem_cons, List.not_mem_nil, or_false]
      at present
    rcases present with rfl | rfl <;> simp at same
  · simp only [laterLedger, List.mem_cons, List.not_mem_nil, or_false]
      at present
    rcases present with rfl | rfl <;> simpa using same.property

end SanTanHeights.Activation
