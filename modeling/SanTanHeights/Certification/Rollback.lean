import SanTanHeights.Foundation.Text
import SanTanHeights.Foundation.Uuid
import SanTanHeights.Shared.Textual

/-!
# Rollback of a fleet

`CohortRollbackContainmentService` takes the entries of a baseline in reverse
order, and contains the property of an entry that the executor cannot restore.
The executor is a parameter.  Who executes, and when, is not read again.
-/

namespace SanTanHeights.Certification.Rollback

open Foundation Foundation.Outcome Shared

/-- `RollbackBaselineEntry`. -/
structure RollbackBaselineEntry where
  propertyId : Uuid
  variant : String
  channel : String
  semanticReportId : Option Uuid
  channelRenderId : Option Uuid
  entryFingerprint : String

/-- `RollbackBaseline`. -/
structure RollbackBaseline where
  rollbackBaselineId : Uuid
  productionCertificationId : Uuid
  stageCode : String
  candidateFingerprint : String
  entries : List RollbackBaselineEntry
  baselineFingerprint : String

/-- What a pointer is stored under. -/
def RollbackBaselineEntry.key (entry : RollbackBaselineEntry) : Uuid × String × String :=
  (entry.propertyId, entry.variant, entry.channel)

/-- `RollbackContainmentItem`. -/
structure RollbackContainmentItem where
  propertyId : Uuid
  variant : String
  channel : String
  status : String
  evidenceHash : String
  detail : Json

/-- `RollbackContainmentRun`. -/
structure RollbackContainmentRun where
  rollbackRunId : Uuid
  status : String
  items : List RollbackContainmentItem
  runFingerprint : String

section Executor

variable {σ : Type}

/-- `RollbackPointerExecutor`, on the tables of pointers: a detail, or the type
and the text of an exception, or for `contain` an exception that is not
caught. -/
structure RollbackPointerExecutor (σ : Type) where
  restore : RollbackBaselineEntry → σ → Except (String × String) Json × σ
  contain : Uuid → String → σ → Except String (Json × σ)

namespace RollbackPointerExecutor

variable (executor : RollbackPointerExecutor σ) (reasonCode : String)

/-- The detail and the status of an entry. -/
def attempt (entry : RollbackBaselineEntry) (before : σ) : Except String (Json × String × σ) :=
  match executor.restore entry before with
  | (.ok detail, after) => return (detail, "PASS", after)
  | (.error (errorType, text), middle) => do
      let (containment, after) ← executor.contain entry.propertyId reasonCode middle
      return (.obj [("error_type", .str errorType), ("error", .str text),
        ("containment", containment)], "CONTAINED", after)

/-- The loop of `execute`. -/
def restoreAll : List RollbackBaselineEntry → σ →
    Except String (List RollbackContainmentItem × σ)
  | [], before => return ([], before)
  | entry :: entries, before => do
      let (detail, status, middle) ← executor.attempt reasonCode entry before
      let evidenceHash ← sha256Canonical (.obj
        [("property_id", .str entry.propertyId.str), ("variant", .str entry.variant),
          ("channel", .str entry.channel), ("status", .str status), ("detail", detail),
          ("baseline_entry_fingerprint", .str entry.entryFingerprint)])
      let (items, after) ← restoreAll entries middle
      return (⟨entry.propertyId, entry.variant, entry.channel, status, evidenceHash,
        detail⟩ :: items, after)

/-- `CohortRollbackContainmentService.execute`. -/
def execute (baseline : RollbackBaseline) (candidateFingerprint executedBy : String)
    (aware : Bool) (rollbackRunId : Uuid) (before : σ) :
    Except String (RollbackContainmentRun × σ) := do
  require (baseline.candidateFingerprint = candidateFingerprint)
    "rollback candidate fingerprint mismatch"
  require (Text.isBlank executedBy = false ∧ Text.isBlank reasonCode = false)
    "executed_by and reason_code are required"
  require (aware = true) "executed_at must be timezone-aware"
  let (items, after) ← executor.restoreAll reasonCode baseline.entries.reverse before
  let status := if ∀ item ∈ items, item.status = "PASS" then "PASS" else "CONTAINED"
  let fingerprint ← sha256Canonical (.obj [("rollback_run_id", .str rollbackRunId.str),
      ("production_certification_id", .str baseline.productionCertificationId.str),
      ("stage_code", .str baseline.stageCode),
      ("candidate_fingerprint", .str candidateFingerprint),
      ("rollback_baseline_id", .str baseline.rollbackBaselineId.str),
      ("rollback_baseline_fingerprint", .str baseline.baselineFingerprint),
      ("status", .str status),
      ("item_evidence_hashes", .arr (items.map fun item => .str item.evidenceHash)),
      ("reason_code", .str reasonCode)])
  return (⟨rollbackRunId, status, items, fingerprint⟩, after)

end RollbackPointerExecutor

/-! ## What a rollback restores -/

/-- Pointers under keys of their own, of which several entries may name one:
those of the channels, or those to semantic reports. -/
structure View (σ : Type) where
  Key : Type
  key : RollbackBaselineEntry → Key
  value : RollbackBaselineEntry → Option Uuid
  property : Key → Uuid
  own : ∀ entry, property (key entry) = entry.propertyId
  pointers : σ → Key → Option Uuid

/-- A restoration sets the pointer of its entry and no other, or fails; a
failure and its containment leave the pointers of other properties. -/
structure RollbackPointerExecutor.Lawful
    (executor : RollbackPointerExecutor σ) (view : View σ) : Prop where
  restored : ∀ entry before detail after,
    executor.restore entry before = (.ok detail, after) →
      view.pointers after (view.key entry) = view.value entry ∧
        ∀ key ≠ view.key entry, view.pointers after key = view.pointers before key
  failed : ∀ entry before error after,
    executor.restore entry before = (.error error, after) →
      ∀ key, view.property key ≠ entry.propertyId →
        view.pointers after key = view.pointers before key
  contained : ∀ propertyId reasonCode before detail after,
    executor.contain propertyId reasonCode before = .ok (detail, after) →
      ∀ key, view.property key ≠ propertyId → view.pointers after key = view.pointers before key

def RollbackContainmentItem.key (item : RollbackContainmentItem) : Uuid × String × String :=
  (item.propertyId, item.variant, item.channel)

variable {executor : RollbackPointerExecutor σ} {reasonCode status : String}
  {view : View σ} {entries : List RollbackBaselineEntry}
  {entry : RollbackBaselineEntry} {items : List RollbackContainmentItem}
  {before after : σ} {detail : Json}

/-- An entry that passed has its pointer, and one that did not leaves those of
other properties. -/
theorem pointers_of_attempt (lawful : executor.Lawful view)
    (ran : executor.attempt reasonCode entry before = .ok (detail, status, after)) :
    (status = "PASS" ∨ status = "CONTAINED") ∧
      (status = "PASS" → view.pointers after (view.key entry) = view.value entry) ∧
      ∀ key ≠ view.key entry, (view.property key = entry.propertyId → status = "PASS") →
        view.pointers after key = view.pointers before key := by
  unfold RollbackPointerExecutor.attempt at ran
  split at ran
  next restored =>
    cases ran
    obtain ⟨set, left⟩ := lawful.restored _ _ _ _ restored
    exact ⟨.inl rfl, fun _ => set, fun key other _ => left key other⟩
  next failed =>
    obtain ⟨⟨containment, last⟩, contained, ended⟩ := bind_eq_ok.mp ran
    cases ended
    refine ⟨.inr rfl, fun same => absurd same (by decide), fun key _ passed => ?_⟩
    have elsewhere : view.property key ≠ entry.propertyId := fun own =>
      absurd (passed own) (by decide)
    rw [lawful.contained _ _ _ _ _ contained key elsewhere,
      lawful.failed _ _ _ _ failed key elsewhere]

/-- Every entry is handled once.  Where each entry of a property passed, a
pointer of it is that of the entries that agree on it, or as before. -/
theorem pointers_of_restoreAll (lawful : executor.Lawful view)
    (ran : executor.restoreAll reasonCode entries before = .ok (items, after)) :
    items.map RollbackContainmentItem.key = entries.map RollbackBaselineEntry.key ∧
      (∀ item ∈ items, item.status = "PASS" ∨ item.status = "CONTAINED") ∧
      ∀ key,
        (∀ item ∈ items, item.propertyId = view.property key → item.status = "PASS") →
        ((∀ entry ∈ entries, view.key entry ≠ key) →
          view.pointers after key = view.pointers before key) ∧
        ∀ entry ∈ entries, view.key entry = key →
          (∀ other ∈ entries, view.key other = key → view.value other = view.value entry) →
            view.pointers after key = view.value entry := by
  induction entries generalizing before items with
  | nil =>
      cases ran
      simp
  | cons first entries ih =>
      obtain ⟨⟨detail, status, middle⟩, tried, continued⟩ := bind_eq_ok.mp ran
      obtain ⟨evidenceHash, -, continued⟩ := bind_eq_ok.mp continued
      obtain ⟨⟨others, last⟩, rest, ended⟩ := bind_eq_ok.mp continued
      cases ended
      obtain ⟨code, here, elsewhere⟩ := pointers_of_attempt lawful tried
      obtain ⟨keys, codes, restored⟩ := ih rest
      refine ⟨by rw [List.map_cons, List.map_cons, keys]; rfl,
        List.forall_mem_cons.mpr ⟨code, codes⟩, fun key passed => ?_⟩
      obtain ⟨own, passedRest⟩ := List.forall_mem_cons.mp passed
      obtain ⟨left, set⟩ := restored key passedRest
      refine ⟨fun absent => ?_, fun entry listed same agree => ?_⟩
      · obtain ⟨absentHere, absentRest⟩ := List.forall_mem_cons.mp absent
        rw [left absentRest]
        exact elsewhere key absentHere.symm fun named => own named.symm
      · obtain ⟨agreeHere, agreeRest⟩ := List.forall_mem_cons.mp agree
        by_cases again : ∃ other ∈ entries, view.key other = key
        · obtain ⟨other, otherListed, otherSame⟩ := again
          rw [← agreeRest other otherListed otherSame]
          refine set other otherListed otherSame fun third thirdListed thirdSame => ?_
          rw [agreeRest third thirdListed thirdSame, agreeRest other otherListed otherSame]
        · push Not at again
          obtain rfl | present := List.mem_cons.mp listed
          · rw [left again, ← same]
            exact here (own (same ▸ view.own entry).symm)
          · exact absurd same (again entry present)

/-- A rollback handles every entry once, and restores the pointers of each
property whose entries all passed, as far as its entries agree. -/
structure Restored (baseline : RollbackBaseline) (view : View σ) (before : σ)
    (run : RollbackContainmentRun) (after : σ) : Prop where
  items : run.items.map RollbackContainmentItem.key =
    (baseline.entries.map RollbackBaselineEntry.key).reverse
  codes : ∀ item ∈ run.items, item.status = "PASS" ∨ item.status = "CONTAINED"
  status : run.status = "PASS" ↔ ∀ item ∈ run.items, item.status = "PASS"
  restored : ∀ entry ∈ baseline.entries,
    (∀ item ∈ run.items, item.propertyId = entry.propertyId → item.status = "PASS") →
    (∀ other ∈ baseline.entries, view.key other = view.key entry →
      view.value other = view.value entry) →
    view.pointers after (view.key entry) = view.value entry
  others : ∀ key, (∀ entry ∈ baseline.entries, entry.propertyId ≠ view.property key) →
    view.pointers after key = view.pointers before key

theorem rollback_restores {baseline : RollbackBaseline}
    {candidateFingerprint executedBy : String} {aware : Bool} {rollbackRunId : Uuid}
    {run : RollbackContainmentRun} (lawful : executor.Lawful view)
    (ran : executor.execute reasonCode baseline candidateFingerprint executedBy aware
      rollbackRunId before = .ok (run, after)) :
    Restored baseline view before run after := by
  simp only [RollbackPointerExecutor.execute, require_bind_eq_ok] at ran
  obtain ⟨-, -, -, continued⟩ := ran
  obtain ⟨⟨items, last⟩, done, continued⟩ := bind_eq_ok.mp continued
  obtain ⟨_, -, ended⟩ := bind_eq_ok.mp continued
  cases ended
  obtain ⟨keys, codes, restored⟩ := pointers_of_restoreAll lawful done
  refine ⟨keys.trans (List.map_reverse ..), codes, ?_, fun entry listed passed agree => ?_,
    fun key away => ?_⟩
  · dsimp only
    split_ifs with all
    · exact iff_of_true rfl all
    · exact iff_of_false (by decide) all
  · refine (restored (view.key entry) ?_).2 entry (List.mem_reverse.mpr listed) rfl ?_
    · rw [view.own]
      exact passed
    · intro other otherListed
      exact agree other (List.mem_reverse.mp otherListed)
  · refine (restored key fun item listed own => ?_).1 fun entry listed same => ?_
    · have named := List.mem_map_of_mem (f := RollbackContainmentItem.key) listed
      rw [keys] at named
      obtain ⟨entry, present, equal⟩ := List.mem_map.mp named
      refine absurd ?_ (away entry (List.mem_reverse.mp present))
      exact (congrArg Prod.fst equal).trans own
    · refine away entry (List.mem_reverse.mp listed) ?_
      rw [← same, view.own]

end Executor

/-! ## A rollback that restores a channel -/

def sampleBaseline : RollbackBaseline :=
  ⟨4, 5, "COHORT_25", "candidate", [⟨1, "SELLER", "WEB", some 2, some 3, "entry"⟩], "baseline"⟩

def sampleView : View (Uuid × String × String → Option Uuid) :=
  ⟨_, RollbackBaselineEntry.key, RollbackBaselineEntry.channelRenderId, Prod.fst, fun _ => rfl, id⟩

def sampleExecutor : RollbackPointerExecutor (Uuid × String × String → Option Uuid) where
  restore := fun entry pointers =>
    (.ok .null, Function.update pointers entry.key entry.channelRenderId)
  contain := fun _ _ pointers => .ok (.null, pointers)

theorem lawful_sample : sampleExecutor.Lawful sampleView where
  restored := by
    rintro entry before detail after ⟨⟩
    refine ⟨Function.update_self .., fun key other => ?_⟩
    exact Function.update_of_ne (α := Uuid × String × String) other ..
  failed := by rintro _ _ _ _ ⟨⟩
  contained := by
    rintro _ _ _ _ _ ⟨⟩ _ _
    rfl

theorem rollback_restores_sample :
    ∃ run after, run.items ≠ [] ∧ Restored sampleBaseline sampleView (fun _ => none) run after := by
  have hashed : ∀ members : List (String × Json), (members.map Prod.fst).Nodup ∧
      ¬ IsTagged members ∧ (∀ member ∈ members, Textual member.2) →
        ∃ hash, sha256Canonical (.obj members) = .ok hash := by
    intro members textual
    obtain ⟨hash, known, -⟩ := ((textual_obj members).mpr textual).exists_sha256Canonical
    exact ⟨hash, known⟩
  obtain ⟨evidenceHash, evidence⟩ := hashed
    [("property_id", .str (Uuid.str 1)), ("variant", .str "SELLER"), ("channel", .str "WEB"),
      ("status", .str "PASS"), ("detail", .null), ("baseline_entry_fingerprint", .str "entry")]
    (by simp [IsTagged])
  obtain ⟨hash, known⟩ := hashed
    [("rollback_run_id", .str (Uuid.str 6)),
      ("production_certification_id", .str (Uuid.str 5)), ("stage_code", .str "COHORT_25"),
      ("candidate_fingerprint", .str "candidate"), ("rollback_baseline_id", .str (Uuid.str 4)),
      ("rollback_baseline_fingerprint", .str "baseline"), ("status", .str "PASS"),
      ("item_evidence_hashes", .arr [.str evidenceHash]), ("reason_code", .str "STOP")]
    (by simp [IsTagged])
  have ran : sampleExecutor.execute "STOP" sampleBaseline "candidate" "operator" true 6
      (fun _ => none) =
        .ok (⟨6, "PASS", [⟨1, "SELLER", "WEB", "PASS", evidenceHash, .null⟩], hash⟩, _) :=
    require_bind_eq_ok.mpr ⟨rfl, require_bind_eq_ok.mpr ⟨by decide,
      require_bind_eq_ok.mpr ⟨rfl, bind_eq_ok.mpr ⟨_, bind_eq_ok.mpr ⟨(.null, "PASS", _), rfl,
        bind_eq_ok.mpr ⟨_, evidence, rfl⟩⟩, bind_eq_ok.mpr ⟨hash, known, rfl⟩⟩⟩⟩⟩
  exact ⟨_, _, by simp, rollback_restores lawful_sample ran⟩

end SanTanHeights.Certification.Rollback
