import SanTanHeights.Foundation.Descent
import SanTanHeights.Seller.HistoricalReplay

/-!
# What the metrics of a replay report count

The cascade of `evaluate_replay_case` looks at the declared input condition
before it compares outputs, and nothing in it tells a false positive.  The
parents of corrections are only asked to be in the report.
-/

namespace SanTanHeights.Seller

open Foundation Foundation.Sorting Foundation.Outcome Shared

/-! ## Corrections -/

/-- A case corrects another one of the report. -/
structure Corrects (cases : List HistoricalReplayCase)
    (child parent : HistoricalReplayCase) : Prop where
  childListed : child ∈ cases
  parentListed : parent ∈ cases
  correction : child.inputCondition = "CORRECTED"
  named : child.correctionParentCaseId = some parent.caseId

/-- The chain of parents of a case ends at a case that is no correction. -/
inductive EndsAtOriginal (cases : List HistoricalReplayCase) :
    HistoricalReplayCase → Prop
  | original {given : HistoricalReplayCase}
      (original : given.inputCondition ≠ "CORRECTED") :
      EndsAtOriginal cases given
  | correction {child parent : HistoricalReplayCase}
      (corrects : Corrects cases child parent)
      (ends : EndsAtOriginal cases parent) : EndsAtOriginal cases child

section Chains

variable {cases : List HistoricalReplayCase}
  {child parent other : HistoricalReplayCase}

/-- A correction has one parent. -/
theorem Corrects.unique (distinct : (cases.map HistoricalReplayCase.caseId).Nodup)
    (first : Corrects cases child parent)
    (second : Corrects cases child other) : parent = other := by
  have same := first.named.symm.trans second.named
  rw [Option.some.injEq] at same
  exact List.inj_on_of_nodup_map distinct first.parentListed second.parentListed same

/-- A chain that ends is not on a cycle. -/
theorem EndsAtOriginal.acyclic (distinct : (cases.map HistoricalReplayCase.caseId).Nodup)
    (ends : EndsAtOriginal cases child) :
    ¬Relation.TransGen (Corrects cases) child child := by
  induction ends with
  | original original =>
      intro cycle
      obtain ⟨parent, corrects, -⟩ := Relation.TransGen.head'_iff.mp cycle
      exact original corrects.correction
  | correction corrects _ ih =>
      intro cycle
      obtain ⟨parent, step, rest⟩ := Relation.TransGen.head'_iff.mp cycle
      obtain rfl := step.unique distinct corrects
      exact ih (Relation.TransGen.tail' rest step)

/-- The chains of all corrections end just when no correction leads back to
itself. -/
theorem endsAtOriginal_iff_acyclic (distinct : (cases.map HistoricalReplayCase.caseId).Nodup)
    (parents : ∀ child ∈ cases, child.inputCondition = "CORRECTED" →
      ∃ parent, Corrects cases child parent) :
    (∀ given ∈ cases, given.inputCondition = "CORRECTED" → EndsAtOriginal cases given) ↔
      ∀ given, ¬Relation.TransGen (Corrects cases) given given := by
  constructor
  · intro ends given cycle
    obtain ⟨parent, corrects, -⟩ := Relation.TransGen.head'_iff.mp cycle
    exact (ends given corrects.childListed corrects.correction).acyclic distinct cycle
  · intro acyclic given present _
    have descends := Descent.acc_of_acyclic
      (fun _ _ corrects => corrects.parentListed) acyclic given present
    clear * - descends parents present
    induction descends with
    | intro given _ ih =>
        by_cases correction : given.inputCondition = "CORRECTED"
        · obtain ⟨parent, corrects⟩ := parents given present correction
          exact .correction corrects (ih parent corrects corrects.parentListed)
        · exact .original correction

end Chains

/-! ## Metrics -/

/-- The outputs of a case differ. -/
def HistoricalReplayCase.Differs (given : HistoricalReplayCase) : Prop :=
  given.expectedOutputFingerprint ≠ given.observedOutputFingerprint

instance (given : HistoricalReplayCase) : Decidable given.Differs :=
  inferInstanceAs (Decidable (_ ≠ _))

/-- An output was observed, and none was expected. -/
def HistoricalReplayCase.Spurious (given : HistoricalReplayCase) : Prop :=
  given.observedOutputFingerprint ≠ none ∧ given.expectedOutputFingerprint = none

instance (given : HistoricalReplayCase) : Decidable given.Spurious :=
  inferInstanceAs (Decidable (_ ∧ _))

/-- An output was expected, and none was observed. -/
def HistoricalReplayCase.Missed (given : HistoricalReplayCase) : Prop :=
  given.expectedOutputFingerprint ≠ none ∧ given.observedOutputFingerprint = none

instance (given : HistoricalReplayCase) : Decidable given.Missed :=
  inferInstanceAs (Decidable (_ ∧ _))

/-- A case that is declared missing has no observed output. -/
def HistoricalReplayCase.DeclaredMissing (given : HistoricalReplayCase) : Prop :=
  given.inputCondition = "MISSING" ∧ given.observedOutputFingerprint = none

instance (given : HistoricalReplayCase) : Decidable given.DeclaredMissing :=
  inferInstanceAs (Decidable (_ ∧ _))

/-- The metrics of a report hide no drift. -/
structure MetricsSound (reportId : String) (cases : List HistoricalReplayCase)
    (report : HistoricalReplayReport) : Prop where
  matched : ∀ result ∈ report.results, result.outcome = .matched →
    ∀ given ∈ cases, given.caseId = result.caseId →
      given.expectedOutputFingerprint = given.observedOutputFingerprint
  covers : ∀ given ∈ cases, given.Differs →
    ∃ result ∈ report.results, result.caseId = given.caseId ∧
      result.outcome ∈ [.drift, .degraded, .blocked]
  counted : cases.countP (fun given => given.Differs) ≤
    report.driftCount + report.degradedCount + report.blockedCount
  falsePositives : report.falsePositiveCount = cases.countP fun given => given.Spurious
  misses : report.missCount = cases.countP fun given => given.Missed
  corrections : ∀ given ∈ cases, given.inputCondition = "CORRECTED" → EndsAtOriginal cases given
  unordered : ∀ others, others.Perm cases → buildReplayReport reportId others = .ok report

/-- What the declared conditions must say for the metrics to be sound. -/
structure ConditionsDeclared (cases : List HistoricalReplayCase) : Prop where
  duplicates : ∀ given ∈ cases, given.inputCondition = "DUPLICATE" →
    given.duplicates = 0 → ¬given.Differs
  expected : ∀ given ∈ cases, ¬given.Spurious
  missing : cases.countP (fun given => given.DeclaredMissing) =
    cases.countP fun given => given.Missed
  acyclic : ∀ given, ¬Relation.TransGen (Corrects cases) given given

/-- A case is a match where it is declared a duplicate without duplicates, or
where nothing else is declared and its outputs are the same. -/
theorem assess_eq_matched_iff {given : HistoricalReplayCase} :
    given.assess.1 = .matched ↔
      given.inputCondition = "DUPLICATE" ∧ given.duplicates = 0 ∨
        given.inputCondition ∉ ["MISSING", "CONFLICTED", "DELAYED", "STALE",
          "DUPLICATE"] ∧ ¬given.Differs := by
  unfold HistoricalReplayCase.assess HistoricalReplayCase.Differs
  split_ifs with missing conflicted late duplicate counted same
  · simp [missing]
  · simp [conflicted]
  · rw [List.mem_cons, List.mem_singleton] at late
    rcases late with late | late <;> simp [late]
  · simp [duplicate, counted]
  · simp [duplicate, not_not.mp counted]
  · simp_all
  · simp [duplicate, same]

/-- A result belongs to its case. -/
theorem eq_draft_of_evaluate {given : HistoricalReplayCase} {result : HistoricalReplayResult}
    (evaluated : evaluateReplayCase given = .ok result) :
    result.caseId = given.caseId ∧ result.outcome = given.assess.1 ∧
      result.falsePositive = false ∧
      (result.miss = true ↔ given.DeclaredMissing) := by
  obtain ⟨-, fingerprint, -, rfl⟩ := evaluateReplayCase_eq_ok.mp evaluated
  exact ⟨rfl, rfl, rfl, decide_eq_true_iff⟩

/-- What `build_replay_report` asks of its cases. -/
structure CasesAcceptable (cases : List HistoricalReplayCase) : Prop where
  distinct : (cases.map HistoricalReplayCase.caseId).Nodup
  parents : ∀ given ∈ cases, ∀ parent ∈ given.correctionParentCaseId,
    parent ∈ cases.map HistoricalReplayCase.caseId

theorem buildReplayReport_eq_ok {reportId : String} {cases : List HistoricalReplayCase}
    {report : HistoricalReplayReport} :
    buildReplayReport reportId cases = .ok report ↔
      Text.isBlank reportId = false ∧ CasesAcceptable cases ∧ ∃ results,
          (sortedBy HistoricalReplayCase.caseId cases).mapM
              evaluateReplayCase = .ok results ∧
            ∃ fingerprint, hash (draftReport reportId results).payload =
                  .ok fingerprint ∧
                { draftReport reportId results with
                  reportFingerprint := fingerprint } = report := by
  have ids : ((sortedBy HistoricalReplayCase.caseId cases).map
      HistoricalReplayCase.caseId).Perm (cases.map HistoricalReplayCase.caseId) :=
    (sortedBy_perm _ cases).map _
  simp only [buildReplayReport, bind_eq_ok, require_eq_ok, exists_const,
    pure_eq_ok, ids.nodup_iff, ids.mem_iff, mem_sortedBy]
  constructor
  · rintro ⟨named, distinct, parents, made⟩
    exact ⟨named, ⟨distinct, parents⟩, made⟩
  · rintro ⟨named, ⟨distinct, parents⟩, made⟩
    exact ⟨named, distinct, parents, made⟩

/-- The order of the cases does not matter. -/
theorem buildReplayReport_of_perm {reportId : String} {cases others : List HistoricalReplayCase}
    {report : HistoricalReplayReport} (built : buildReplayReport reportId cases = .ok report)
    (permuted : others.Perm cases) :
    buildReplayReport reportId others = .ok report := by
  rw [buildReplayReport_eq_ok] at built ⊢
  obtain ⟨named, ⟨distinct, parents⟩, made⟩ := built
  have sorted : sortedBy HistoricalReplayCase.caseId others =
      sortedBy HistoricalReplayCase.caseId cases :=
    sortedBy_eq_of_perm permuted fun left leftPresent right rightPresent =>
      List.inj_on_of_nodup_map distinct (permuted.subset leftPresent) (permuted.subset rightPresent)
  have ids := permuted.map HistoricalReplayCase.caseId
  refine ⟨named, ⟨ids.nodup_iff.mpr distinct, ?_⟩, sorted ▸ made⟩
  intro given present parent given_parent
  exact ids.mem_iff.mpr (parents given (permuted.subset present) parent given_parent)

section Built

variable {reportId : String} {cases : List HistoricalReplayCase}
  {report : HistoricalReplayReport}
  (built : buildReplayReport reportId cases = .ok report)
include built

/-- Counting results is counting their cases. -/
theorem countP_results {ofResult : HistoricalReplayResult → Bool}
    {ofCase : HistoricalReplayCase → Bool}
    (agree : ∀ given result, evaluateReplayCase given = .ok result →
      ofResult result = ofCase given) :
    report.results.countP ofResult = cases.countP ofCase := by
  obtain ⟨-, -, results, ran, fingerprint, -, rfl⟩ := buildReplayReport_eq_ok.mp built
  have flags : (sortedBy HistoricalReplayCase.caseId cases).map ofCase =
      results.map ofResult :=
    map_eq_of_mapM ran fun given result one => (agree given result one).symm
  calc results.countP ofResult
      = (results.map ofResult).countP id := by
        rw [List.countP_map]
        rfl
    _ = ((sortedBy HistoricalReplayCase.caseId cases).map ofCase).countP id :=
        by rw [flags]
    _ = (sortedBy HistoricalReplayCase.caseId cases).countP ofCase := by
        rw [List.countP_map]
        rfl
    _ = cases.countP ofCase := (sortedBy_perm _ cases).countP_eq _

/-- Every result is that of a case, and every case has its result. -/
theorem mem_results :
    (∀ given ∈ cases, ∃ result ∈ report.results, evaluateReplayCase given = .ok result) ∧
      ∀ result ∈ report.results, ∃ given ∈ cases, evaluateReplayCase given = .ok result := by
  obtain ⟨-, -, results, ran, fingerprint, -, rfl⟩ := buildReplayReport_eq_ok.mp built
  have related := mapM_eq_ok.mp ran
  constructor
  · intro given present
    exact Traverse.exists_related_of_mem_left related ((mem_sortedBy _ _ _).mpr present)
  · intro result present
    obtain ⟨given, listed, one⟩ := Traverse.exists_related_of_mem_right related present
    exact ⟨given, (mem_sortedBy _ _ _).mp listed, one⟩

/-- The counts of a report, case by case. -/
theorem counts_of_build :
    report.falsePositiveCount = 0 ∧
      report.missCount = cases.countP (fun given => given.DeclaredMissing) ∧
      report.driftCount = cases.countP (fun given =>
        given.assess.1 = .drift) ∧
      report.degradedCount = cases.countP (fun given =>
        given.assess.1 = .degraded) ∧
      report.blockedCount = cases.countP fun given =>
        given.assess.1 = .blocked := by
  have outcomes : ∀ outcome : ReplayOutcome,
      report.results.countP (fun result => result.outcome = outcome) =
        cases.countP fun given => given.assess.1 = outcome := by
    intro outcome
    refine countP_results built fun given result one => ?_
    rw [(eq_draft_of_evaluate one).2.1]
  have spurious : report.results.countP HistoricalReplayResult.falsePositive =
        cases.countP fun _ => false :=
    countP_results built fun given result one =>
      (eq_draft_of_evaluate one).2.2.1
  have missing : report.results.countP HistoricalReplayResult.miss =
      cases.countP fun given => given.DeclaredMissing :=
    countP_results built fun given result one => by
      rw [Bool.eq_iff_iff, decide_eq_true_iff]
      exact (eq_draft_of_evaluate one).2.2.2
  rw [List.countP_false] at spurious
  obtain ⟨-, -, results, -, fingerprint, -, rfl⟩ := buildReplayReport_eq_ok.mp built
  exact ⟨spurious, missing, outcomes _, outcomes _, outcomes _⟩

/-- Cases that are not matched are drifted, degraded or blocked. -/
theorem countP_le_counts (apart : ∀ given ∈ cases, given.Differs → given.assess.1 ≠ .matched) :
    cases.countP (fun given => given.Differs) ≤
      report.driftCount + report.degradedCount + report.blockedCount := by
  obtain ⟨-, -, drift, degraded, blocked⟩ := counts_of_build built
  rw [drift, degraded, blocked]
  clear drift degraded blocked built
  induction cases with
  | nil => exact Nat.zero_le _
  | cons given cases ih =>
      rw [List.forall_mem_cons] at apart
      have later := ih apart.2
      simp only [List.countP_cons, decide_eq_true_eq]
      by_cases differs : given.Differs
      · have first := apart.1 differs
        cases outcome : given.assess.1 with
        | matched => exact absurd outcome first
        | _ =>
            simp only [differs, reduceCtorEq, if_true, if_false]
            omega
      · simp only [differs, if_false]
        omega

/-- A report's metrics are sound exactly when the declared conditions say what
the outputs do, and no correction corrects itself through others. -/
theorem metrics_sound_iff : MetricsSound reportId cases report ↔ ConditionsDeclared cases := by
  obtain ⟨falsePositives, misses, -⟩ := counts_of_build built
  obtain ⟨resultOf, caseOf⟩ := mem_results built
  obtain ⟨-, ⟨distinct, parents⟩, results, ran, -⟩ :=
    buildReplayReport_eq_ok.mp built
  have parent_of : ∀ child ∈ cases, child.inputCondition = "CORRECTED" →
      ∃ parent, Corrects cases child parent := by
    intro child present correction
    obtain ⟨result, -, evaluated⟩ := resultOf child present
    have named := (evaluateReplayCase_eq_ok.mp evaluated).1.parent correction
    cases given : child.correctionParentCaseId with
    | none =>
        rw [given] at named
        exact absurd rfl named
    | some parentId =>
        obtain ⟨parent, listed, same⟩ := List.mem_map.mp
          (parents child present parentId given)
        exact ⟨parent, present, listed, correction, same ▸ given⟩
  have corrections := endsAtOriginal_iff_acyclic distinct parent_of
  have spurious_iff : cases.countP (fun given => given.Spurious) = 0 ↔
      ∀ given ∈ cases, ¬given.Spurious := by
    rw [List.countP_eq_zero]
    simp only [decide_eq_true_eq]
  constructor
  · rintro ⟨matched, -, -, counted, missed, ends, -⟩
    refine ⟨?_, ?_, misses.symm.trans missed, corrections.mp ends⟩
    · intro given present condition events differs
      obtain ⟨result, listed, evaluated⟩ := resultOf given present
      obtain ⟨named, outcome, -⟩ := eq_draft_of_evaluate evaluated
      refine differs (matched result listed ?_ given present named.symm)
      rw [outcome, assess_eq_matched_iff]
      exact .inl ⟨condition, events⟩
    · exact spurious_iff.mp (counted.symm.trans falsePositives)
  · rintro ⟨duplicates, expected, missing, acyclic⟩
    have apart : ∀ given ∈ cases, given.Differs →
        given.assess.1 ≠ .matched := by
      intro given present differs same
      rcases assess_eq_matched_iff.mp same with ⟨condition, events⟩ | other
      · exact duplicates given present condition events differs
      · exact other.2 differs
    refine ⟨?_, ?_, countP_le_counts built apart,
      falsePositives.trans (spurious_iff.mpr expected).symm,
      misses.trans missing, corrections.mpr acyclic,
      fun _ => buildReplayReport_of_perm built⟩
    · intro result listed outcome given present named
      obtain ⟨other, otherPresent, evaluated⟩ := caseOf result listed
      obtain ⟨otherNamed, otherOutcome, -⟩ := eq_draft_of_evaluate evaluated
      obtain rfl := List.inj_on_of_nodup_map distinct present otherPresent
        (named.trans otherNamed)
      by_contra differs
      exact apart given present differs (otherOutcome.symm.trans outcome)
    · intro given present differs
      obtain ⟨result, listed, evaluated⟩ := resultOf given present
      obtain ⟨named, outcome, -⟩ := eq_draft_of_evaluate evaluated
      refine ⟨result, listed, named, ?_⟩
      have matched := apart given present differs
      rw [outcome]
      cases assessed : given.assess.1 with
      | matched => exact absurd assessed matched
      | _ => decide

end Built

/-! ## Two reports -/

theorem serializable_int {number : Int} (short : ShortInt number) :
    Serializable (.int number) :=
  ⟨_, if_pos short⟩

/-- The fingerprint of an output. -/
def sampleOutput (digit : Char) : String :=
  String.ofList (List.replicate 64 digit)

/-- A case with both outputs and without events. -/
def sampleCase (condition : String) (observed : Char) : HistoricalReplayCase where
  caseId := "C1"
  regime := "CALM"
  inputCondition := condition
  historicalInputFingerprint := sampleOutput 'f'
  expectedOutputFingerprint := some (sampleOutput 'a')
  observedOutputFingerprint := some (sampleOutput observed)
  detectorEventIds := []
  correctionParentCaseId := none
  caseFingerprint := ""

theorem exists_sampleReport {condition : String} (observed : Char)
    (allowed : condition ∈ inputConditions) (uncorrected : condition ≠ "CORRECTED") :
    ∃ report, buildReplayReport "R1" [sampleCase condition observed] = .ok report := by
  have small : ∀ number : Nat, number ≤ 1 →
      Serializable (.int number) := by
    intro number bounded
    rcases Nat.le_one_iff_eq_zero_or_eq_one.mp bounded with rfl | rfl
    · exact serializable_int (by decide)
    · exact serializable_int (by decide)
  have zero : Serializable (.int 0) := small 0 (Nat.zero_le 1)
  have events : (sampleCase condition observed).duplicates = 0 := rfl
  have payload :
      ∀ member ∈ (sampleCase condition observed).draftResult.payload, Serializable member.2 := by
    simp [HistoricalReplayResult.payload, HistoricalReplayCase.draftResult, events, zero]
  obtain ⟨fingerprint, hashed⟩ := exists_hash_iff.mpr ((serializable_obj _).mpr payload)
  let result : HistoricalReplayResult :=
    { (sampleCase condition observed).draftResult with
      resultFingerprint := fingerprint }
  have evaluated : evaluateReplayCase (sampleCase condition observed) =
      .ok result :=
    evaluateReplayCase_eq_ok.mpr ⟨⟨List.mem_cons_self, allowed,
      fun given => absurd given uncorrected⟩, fingerprint, hashed, rfl⟩
  have counted : ∀ property : HistoricalReplayResult → Bool,
      [result].countP property ≤ 1 :=
    fun _ => List.countP_le_length
  have written : Serializable (draftReport "R1" [result]).payload := by
    simp only [HistoricalReplayReport.payload, draftReport, serializable_obj,
      serializable_arr, List.forall_mem_cons, List.forall_mem_map,
      HistoricalReplayResult.asdict, List.forall_mem_append,
      serializable_str, true_and, List.not_mem_nil, false_implies, implies_true, and_true]
    refine ⟨payload, small _ (counted _), small _ (counted _), ?_, ?_,
      small _ (counted _), small _ (counted _), small _ (counted _), small _ (counted _)⟩
    · exact zero
    · refine small _ ?_
      simp [result, HistoricalReplayCase.draftResult, events]
  obtain ⟨reportFingerprint, reportHashed⟩ := exists_hash_iff.mpr written
  refine ⟨_, buildReplayReport_eq_ok.mpr ⟨by decide,
    ⟨List.nodup_singleton _, ?_⟩, [result], ?_, reportFingerprint,
    reportHashed, rfl⟩⟩
  · rw [List.forall_mem_singleton]
    rintro _ ⟨⟩
  · exact mapM_eq_ok.mpr (.cons evaluated .nil)

theorem metrics_sound_iff_sample :
    ∃ report, buildReplayReport "R1" [sampleCase "NORMAL" 'a'] = .ok report ∧
      MetricsSound "R1" [sampleCase "NORMAL" 'a'] report := by
  obtain ⟨report, built⟩ := @exists_sampleReport "NORMAL" 'a'
    List.mem_cons_self (by decide)
  refine ⟨report, built, (metrics_sound_iff built).mpr ⟨?_, ?_, rfl, ?_⟩⟩
  · rw [List.forall_mem_singleton]
    exact nofun
  · rw [List.forall_mem_singleton]
    exact fun spurious => nomatch spurious.2
  · intro given cycle
    obtain ⟨parent, corrects, -⟩ := Relation.TransGen.head'_iff.mp cycle
    have condition := corrects.correction
    rw [List.mem_singleton.mp corrects.childListed] at condition
    exact absurd condition (by decide)

/-- A case that is declared a duplicate is a match whatever its outputs. -/
theorem duplicate_hides_drift :
    ∃ (reportId : String) (cases : List HistoricalReplayCase)
      (report : HistoricalReplayReport),
      buildReplayReport reportId cases = .ok report ∧
        ¬MetricsSound reportId cases report := by
  obtain ⟨report, built⟩ := @exists_sampleReport "DUPLICATE" 'b'
    (by decide) (by decide)
  refine ⟨_, _, report, built, fun sound => ?_⟩
  obtain ⟨result, listed, evaluated⟩ :=
    (mem_results built).1 _ List.mem_cons_self
  obtain ⟨named, outcome, -⟩ := eq_draft_of_evaluate evaluated
  have same := sound.matched result listed outcome _ List.mem_cons_self
    named.symm
  have letters := congrArg String.toList (Option.some.inj same)
  rw [sampleOutput, sampleOutput, String.toList_ofList,
    String.toList_ofList] at letters
  exact absurd (List.replicate_right_inj (by decide) |>.mp letters) (by decide)

end SanTanHeights.Seller
