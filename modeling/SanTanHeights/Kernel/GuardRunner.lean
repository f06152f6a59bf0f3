import SanTanHeights.Foundation.Json

/-!
# The guard runner

`GuardRunner` evaluates the guards of a transition one after the other until
one of them stops it.  An implementation answers from the context and from the
world that the calls before it left.
-/

namespace SanTanHeights.Kernel.Guards

open Foundation Foundation.Outcome

/-- `GUARD_RESULTS`. -/
inductive ResultCode where
  | pass
  | fail
  | block
  | error
  | notEvaluated
  deriving DecidableEq, Repr

/-- The results after which no further guard is evaluated. -/
def ResultCode.Stops (code : ResultCode) : Prop :=
  code ∈ [ResultCode.fail, .block, .error]

instance (code : ResultCode) : Decidable code.Stops := inferInstanceAs (Decidable (_ ∈ _))

structure GuardDefinition where
  guardId : String
  implementation : String
  readOnly : Bool
  deriving DecidableEq, Repr

structure GuardResult where
  guardId : String
  result : ResultCode
  reasonCode : Option String
  safeDetails : Json

structure GuardRegistry where
  definitions : List GuardDefinition
  distinct : (definitions.map GuardDefinition.guardId).Nodup
  readOnly : ∀ definition ∈ definitions, definition.readOnly = true
  implemented : ∀ definition ∈ definitions, definition.implementation ≠ ""

/-- `GuardRegistry.get`. -/
def GuardRegistry.get (registry : GuardRegistry) (guardId : String) :
    Except String GuardDefinition :=
  orRaise (registry.definitions.find? fun definition =>
    definition.guardId = guardId) ("unknown guard: " ++ guardId)

/-- The guards of a registry. -/
def GuardRegistry.guardIds (registry : GuardRegistry) : List String :=
  registry.definitions.map GuardDefinition.guardId

/-- How a call of an implementation ends; `except Exception` does not catch
what is raised outside `Exception`. -/
inductive Behaviour where
  | returned (outcome : GuardResult)
  | returnedOther
  | raised (errorType : String)
  | interrupted (errorType : String)

section Runner

variable {κ σ : Type}

/-- A guard implementation, from a context `κ` and a world `σ`. -/
abbrev Implementation (κ σ : Type) : Type := κ → σ → Behaviour × σ

structure GuardRunner (κ σ : Type) where
  registry : GuardRegistry
  implementations : String → Option (Implementation κ σ)
  complete : ∀ definition ∈ registry.definitions, (implementations definition.implementation).isSome

/-- `self._implementations[definition.implementation](context)`. -/
def GuardRunner.call (runner : GuardRunner κ σ) (definition : GuardDefinition) (context : κ)
    (world : σ) : Behaviour × σ :=
  match runner.implementations definition.implementation with
  | none => (.raised "KeyError", world)
  | some implementation => implementation context world

/-- The result of a guard that was not evaluated. -/
def notEvaluated (guardId : String) : GuardResult :=
  ⟨guardId, .notEvaluated, some "PRIOR_GUARD_STOPPED", .obj []⟩

/-- The result of a guard that raised. -/
def executionError (guardId errorType : String) : GuardResult :=
  ⟨guardId, .error, some "GUARD_EXECUTION_ERROR", .obj [("error_type", .str errorType)]⟩

/-- What `run` makes of a call. -/
def Behaviour.outcome (guardId : String) :
    Behaviour → Except String GuardResult
  | .returned outcome =>
      if outcome.guardId = guardId then .ok outcome
      else .ok (executionError guardId "GuardRunnerError")
  | .returnedOther => .ok (executionError guardId "TypeError")
  | .raised errorType => .ok (executionError guardId errorType)
  | .interrupted errorType => .error errorType

/-- The loop of `run`, from a value of `stopped`. -/
def GuardRunner.runFrom (runner : GuardRunner κ σ) (context : κ) :
    Bool → List String → σ → Except String (List GuardResult × σ)
  | _, [], world => .ok ([], world)
  | true, guardId :: guardIds, world => do
      let _ ← runner.registry.get guardId
      let (results, after) ← runner.runFrom context true guardIds world
      return (notEvaluated guardId :: results, after)
  | false, guardId :: guardIds, world => do
      let definition ← runner.registry.get guardId
      let (behaviour, middle) := runner.call definition context world
      let outcome ← behaviour.outcome guardId
      let (results, after) ← runner.runFrom context
        (decide outcome.result.Stops) guardIds middle
      return (outcome :: results, after)

/-- `GuardRunner.run`. -/
def GuardRunner.run (runner : GuardRunner κ σ) (guardIds : List String) (context : κ)
    (world : σ) : Except String (List GuardResult × σ) :=
  runner.runFrom context false guardIds world

/-- `GuardRunner.overall_result`. -/
def overallResult (results : List GuardResult) : ResultCode :=
  let values := results.map GuardResult.result
  if .error ∈ values then .error
  else if .block ∈ values then .block
  else if .fail ∈ values then .fail
  else .pass

/-! ## What a run should do -/

/-- Guards are evaluated one after the other, with some outcomes. -/
inductive Evaluates (runner : GuardRunner κ σ) (context : κ) :
    σ → List String → List GuardResult → σ → Prop where
  | done (world : σ) : Evaluates runner context world [] [] world
  | guard {world middle after : σ} {guardId : String}
      {guardIds : List String} {definition : GuardDefinition}
      {behaviour : Behaviour} {outcome : GuardResult}
      {outcomes : List GuardResult}
      (known : runner.registry.get guardId = .ok definition)
      (called : runner.call definition context world = (behaviour, middle))
      (ended : behaviour.outcome guardId = .ok outcome)
      (rest : Evaluates runner context middle guardIds outcomes after) :
      Evaluates runner context world (guardId :: guardIds) (outcome :: outcomes) after

/-- A run evaluates the guards up to the first one that stops it, marks the
rest, and passes just where each guard was evaluated and passed. -/
structure Gated (runner : GuardRunner κ σ) (context : κ) (world : σ)
    (guardIds : List String) (results : List GuardResult) (after : σ)
    (evaluated rest : List String) (outcomes : List GuardResult) :
    Prop where
  split : guardIds = evaluated ++ rest
  evaluates : Evaluates runner context world evaluated outcomes after
  marked : results = outcomes ++ rest.map notEvaluated
  inOrder : results.map GuardResult.guardId = guardIds
  unstopped : ∀ outcome ∈ outcomes.dropLast, ¬ outcome.result.Stops
  stopped : rest ≠ [] → ∃ outcome ∈ outcomes.getLast?, outcome.result.Stops
  exact : ∀ outcome ∈ outcomes, outcome.result ≠ .notEvaluated
  passes : overallResult results = .pass ↔ rest = [] ∧ ∀ outcome ∈ outcomes, outcome.result = .pass

/-- The guards fail closed. -/
def FailsClosed (runner : GuardRunner κ σ) (context : κ) (guardIds : List String)
    (world : σ) : Prop :=
  ∃ results after, runner.run guardIds context world = .ok (results, after) ∧
    ∃ evaluated rest outcomes, Gated runner context world guardIds results
      after evaluated rest outcomes

/-- No guard that is reached answers that it was not evaluated, or is
interrupted. -/
def Candid (runner : GuardRunner κ σ) (context : κ) :
    List String → σ → Prop
  | [], _ => True
  | guardId :: guardIds, world =>
      ∀ definition, runner.registry.get guardId = .ok definition →
        match runner.call definition context world with
        | (.returned outcome, middle) =>
            outcome.guardId = guardId → outcome.result ≠ .notEvaluated ∧
              (outcome.result = .pass → Candid runner context guardIds middle)
        | (.returnedOther, _) => True
        | (.raised _, _) => True
        | (.interrupted _, _) => False

/-! ## One guard -/

theorem ResultCode.stops_or (code : ResultCode) :
    code.Stops ∨ code = .pass ∨ code = .notEvaluated := by
  cases code <;> decide

theorem ResultCode.not_stops_pass : ¬ ResultCode.pass.Stops := by decide

theorem overallResult_eq_pass {results : List GuardResult} :
    overallResult results = .pass ↔ ∀ outcome ∈ results, ¬ outcome.result.Stops := by
  have stops : (∃ outcome ∈ results, outcome.result.Stops) ↔
      .error ∈ results.map GuardResult.result ∨
        .block ∈ results.map GuardResult.result ∨ .fail ∈ results.map GuardResult.result := by
    simp only [ResultCode.Stops, List.mem_map, List.mem_cons, List.not_mem_nil, or_false]
    grind
  have closed : overallResult results = .pass ↔
      ¬ ∃ outcome ∈ results, outcome.result.Stops := by
    rw [stops]
    dsimp only [overallResult]
    split_ifs with error block fail
    · exact iff_of_false nofun fun none => none (.inl error)
    · exact iff_of_false nofun fun none => none (.inr (.inl block))
    · exact iff_of_false nofun fun none => none (.inr (.inr fail))
    · exact iff_of_true rfl (by tauto)
  rw [closed]
  push Not
  rfl

theorem Behaviour.guardId_of_outcome
    {behaviour : Behaviour} {guardId : String} {outcome : GuardResult}
    (ended : behaviour.outcome guardId = .ok outcome) :
    outcome.guardId = guardId := by
  cases behaviour with
  | returned result =>
      rw [Behaviour.outcome] at ended
      split_ifs at ended with own
      · rw [← Except.ok.inj ended, own]
      · rw [← Except.ok.inj ended, executionError]
  | returnedOther => rw [← Except.ok.inj ended, executionError]
  | raised errorType => rw [← Except.ok.inj ended, executionError]
  | interrupted errorType => cases ended

theorem GuardRegistry.exists_get {registry : GuardRegistry} {guardId : String}
    (registered : guardId ∈ registry.guardIds) :
    ∃ definition, registry.get guardId = .ok definition := by
  obtain ⟨definition, listed, own⟩ := List.mem_map.mp registered
  have found : (registry.definitions.find? fun definition =>
      definition.guardId = guardId).isSome :=
    List.find?_isSome.mpr ⟨definition, listed, decide_eq_true own⟩
  obtain ⟨result, equal⟩ := Option.isSome_iff_exists.mp found
  exact ⟨result, orRaise_eq_ok.mpr equal⟩

variable {runner : GuardRunner κ σ} {context : κ} {guardId : String}
  {guardIds : List String} {definition : GuardDefinition}
  {behaviour : Behaviour} {world middle after : σ}
  {results : List GuardResult}

theorem runFrom_stopped
    (registered : ∀ guardId ∈ guardIds, guardId ∈ runner.registry.guardIds) :
    runner.runFrom context true guardIds world = .ok (guardIds.map notEvaluated, world) := by
  induction guardIds with
  | nil => rfl
  | cons guardId guardIds ih =>
      obtain ⟨first, rest⟩ := List.forall_mem_cons.mp registered
      obtain ⟨definition, known⟩ := GuardRegistry.exists_get first
      rw [GuardRunner.runFrom, ok_bind known, ok_bind (ih rest)]
      rfl

theorem run_cons_eq_ok (known : runner.registry.get guardId = .ok definition)
    (called : runner.call definition context world = (behaviour, middle)) :
    runner.run (guardId :: guardIds) context world = .ok (results, after) ↔
      ∃ outcome others, behaviour.outcome guardId = .ok outcome ∧
        runner.runFrom context (decide outcome.result.Stops) guardIds
          middle = .ok (others, after) ∧ results = outcome :: others := by
  rw [GuardRunner.run, GuardRunner.runFrom, ok_bind known, called]
  simp only [bind_eq_ok, pure_eq_ok, Prod.exists, Prod.mk.injEq]
  constructor
  · rintro ⟨outcome, ended, others, last, ran, rfl, rfl⟩
    exact ⟨outcome, others, ended, ran, rfl⟩
  · rintro ⟨outcome, others, ended, ran, rfl⟩
    exact ⟨outcome, ended, others, after, ran, rfl, rfl⟩

/-- A guard that stops the run leaves the rest unevaluated. -/
theorem failsClosed_of_stops {outcome : GuardResult}
    (registered : ∀ guardId ∈ guardIds, guardId ∈ runner.registry.guardIds)
    (known : runner.registry.get guardId = .ok definition)
    (called : runner.call definition context world = (behaviour, middle))
    (ended : behaviour.outcome guardId = .ok outcome) (stops : outcome.result.Stops) :
    FailsClosed runner context (guardId :: guardIds) world := by
  have rest : runner.runFrom context (decide outcome.result.Stops) guardIds
      middle = .ok (guardIds.map notEvaluated, middle) := by
    rw [decide_eq_true stops]
    exact runFrom_stopped registered
  refine ⟨outcome :: guardIds.map notEvaluated, middle,
    (run_cons_eq_ok known called).mpr ⟨outcome, _, ended, rest, rfl⟩,
    [guardId], guardIds, [outcome], ?_⟩
  exact
    { split := rfl
      evaluates := .guard known called ended (.done middle)
      marked := rfl
      inOrder := by
        rw [List.map_cons, List.map_map, Behaviour.guardId_of_outcome ended]
        exact congrArg _ (List.map_id guardIds)
      unstopped := nofun
      stopped := fun _ => ⟨outcome, rfl, stops⟩
      exact := by
        rintro _ ⟨⟩ same
        · rw [same] at stops
          revert stops
          decide
        · contradiction
      passes := by
        refine iff_of_false (fun passed => ?_) fun ⟨_, passed⟩ => ?_
        · exact overallResult_eq_pass.mp passed outcome List.mem_cons_self stops
        · rw [passed outcome List.mem_cons_self] at stops
          exact ResultCode.not_stops_pass stops }

/-- The evaluation of a first guard and of the rest. -/
theorem Evaluates.cons_inv {evaluated : List String} {outcomes : List GuardResult}
    (known : runner.registry.get guardId = .ok definition)
    (called : runner.call definition context world = (behaviour, middle))
    (evaluates : Evaluates runner context world (guardId :: evaluated) outcomes after) :
    ∃ outcome others, behaviour.outcome guardId = .ok outcome ∧
      outcomes = outcome :: others ∧ Evaluates runner context middle evaluated others after := by
  cases evaluates with
  | guard otherKnown otherCalled ended rest =>
      cases known.symm.trans otherKnown
      cases called.symm.trans otherCalled
      exact ⟨_, _, ended, rfl, rest⟩

/-- A gated run evaluates its first guard. -/
theorem Gated.cons_inv {evaluated rest : List String} {outcomes : List GuardResult}
    (known : runner.registry.get guardId = .ok definition)
    (called : runner.call definition context world = (behaviour, middle))
    (gated : Gated runner context world (guardId :: guardIds) results after
      evaluated rest outcomes) :
    ∃ outcome others tail, behaviour.outcome guardId = .ok outcome ∧
      outcomes = outcome :: others ∧ evaluated = guardId :: tail ∧
        guardIds = tail ++ rest ∧ Evaluates runner context middle tail others after := by
  have evaluates := gated.evaluates
  have split := gated.split
  cases evaluated with
  | nil =>
      rw [List.nil_append] at split
      cases evaluates
      obtain ⟨_, missing, _⟩ := gated.stopped (by rw [← split]; exact List.cons_ne_nil _ _)
      cases missing
  | cons first tail =>
      obtain ⟨rfl, behind⟩ := List.cons.inj split
      obtain ⟨outcome, others, ended, outcomes, evaluates⟩ := evaluates.cons_inv known called
      exact ⟨outcome, others, tail, ended, outcomes, rfl, behind, evaluates⟩

/-- A guard that passes leaves the run to the rest. -/
theorem failsClosed_cons_iff {outcome : GuardResult}
    (known : runner.registry.get guardId = .ok definition)
    (called : runner.call definition context world = (behaviour, middle))
    (ended : behaviour.outcome guardId = .ok outcome) (passed : outcome.result = .pass) :
    FailsClosed runner context (guardId :: guardIds) world ↔
      FailsClosed runner context guardIds middle := by
  have unstopped : ¬ outcome.result.Stops := by
    rw [passed]
    exact ResultCode.not_stops_pass
  have overall : ∀ others, overallResult (outcome :: others) = .pass ↔
      overallResult others = .pass := by
    intro others
    rw [overallResult_eq_pass, overallResult_eq_pass, List.forall_mem_cons, and_iff_right unstopped]
  constructor
  · rintro ⟨results, after, ran, evaluated, rest, outcomes, gated⟩
    obtain ⟨first, others, otherEnded, restRan, rfl⟩ := (run_cons_eq_ok known called).mp ran
    cases ended.symm.trans otherEnded
    rw [decide_eq_false unstopped] at restRan
    obtain ⟨_, laterOutcomes, tail, otherEnded, rfl, rfl, split, evaluates⟩ :=
      gated.cons_inv known called
    cases ended.symm.trans otherEnded
    refine ⟨others, after, restRan, tail, rest, laterOutcomes, ?_⟩
    exact
      { split := split
        evaluates := evaluates
        marked := (List.cons.inj gated.marked).2
        inOrder := (List.cons.inj gated.inOrder).2
        unstopped := by
          intro later present
          have before := gated.unstopped
          cases laterOutcomes with
          | nil => contradiction
          | cons second more =>
              exact before later (List.mem_cons_of_mem _ present)
        stopped := by
          intro remaining
          obtain ⟨last, found, stops⟩ := gated.stopped remaining
          cases laterOutcomes with
          | nil =>
              cases found
              exact absurd stops unstopped
          | cons second more =>
              rw [List.getLast?_cons_cons] at found
              exact ⟨last, found, stops⟩
        exact := fun later present =>
          gated.exact later (List.mem_cons_of_mem _ present)
        passes := by
          rw [← overall, gated.passes, List.forall_mem_cons, and_iff_right passed] }
  · rintro ⟨others, after, restRan, tail, rest, laterOutcomes, gated⟩
    have ran : runner.runFrom context (decide outcome.result.Stops) guardIds
        middle = .ok (others, after) := by
      rw [decide_eq_false unstopped]
      exact restRan
    refine ⟨outcome :: others, after,
      (run_cons_eq_ok known called).mpr ⟨outcome, others, ended, ran, rfl⟩,
      guardId :: tail, rest, outcome :: laterOutcomes, ?_⟩
    exact
      { split := congrArg _ gated.split
        evaluates := .guard known called ended gated.evaluates
        marked := congrArg _ gated.marked
        inOrder := by
          rw [List.map_cons, gated.inOrder, Behaviour.guardId_of_outcome ended]
        unstopped := by
          intro later present
          have before := gated.unstopped
          cases laterOutcomes with
          | nil => contradiction
          | cons second more =>
              rcases List.mem_cons.mp present with rfl | present
              · exact unstopped
              · exact before later present
        stopped := by
          intro remaining
          obtain ⟨last, found, stops⟩ := gated.stopped remaining
          cases laterOutcomes with
          | nil => cases found
          | cons second more =>
              rw [← List.getLast?_cons_cons] at found
              exact ⟨last, found, stops⟩
        exact := by
          rw [List.forall_mem_cons]
          exact ⟨by rw [passed]; exact nofun, gated.exact⟩
        passes := by
          rw [overall, gated.passes, List.forall_mem_cons, and_iff_right passed] }

/-! ## The run -/

/-- A run that is interrupted at its first guard does not end. -/
theorem not_failsClosed_of_interrupted {errorType : String}
    (known : runner.registry.get guardId = .ok definition)
    (called : runner.call definition context world = (.interrupted errorType, middle)) :
    ¬ FailsClosed runner context (guardId :: guardIds) world := by
  rintro ⟨results, after, ran, _⟩
  obtain ⟨_, _, ended, _⟩ := (run_cons_eq_ok known called).mp ran
  cases ended

/-- A guard that answers that it was not evaluated is marked although it
was. -/
theorem not_failsClosed_of_notEvaluated {outcome : GuardResult}
    (known : runner.registry.get guardId = .ok definition)
    (called : runner.call definition context world = (behaviour, middle))
    (ended : behaviour.outcome guardId = .ok outcome)
    (answered : outcome.result = .notEvaluated) :
    ¬ FailsClosed runner context (guardId :: guardIds) world := by
  rintro ⟨results, after, _, evaluated, rest, outcomes, gated⟩
  obtain ⟨first, others, _, otherEnded, outcomesEq, _⟩ := gated.cons_inv known called
  cases ended.symm.trans otherEnded
  refine gated.exact outcome ?_ answered
  rw [outcomesEq]
  exact List.mem_cons_self

theorem stops_executionError (guardId errorType : String) :
    (executionError guardId errorType).result.Stops := by
  change ResultCode.error.Stops
  decide

/-- The guards fail closed just where no guard that is reached answers that
it was not evaluated, or is interrupted. -/
theorem guards_fail_closed_iff
    (registered : ∀ guardId ∈ guardIds, guardId ∈ runner.registry.guardIds) :
    FailsClosed runner context guardIds world ↔
      Candid runner context guardIds world := by
  induction guardIds generalizing world with
  | nil =>
      refine iff_of_true ⟨[], world, rfl, [], [], [], ?_⟩ trivial
      exact ⟨rfl, .done world, rfl, rfl, nofun, fun none => absurd rfl none,
        nofun, by decide⟩
  | cons guardId guardIds inductionHypothesis =>
      obtain ⟨first, rest⟩ := List.forall_mem_cons.mp registered
      obtain ⟨definition, known⟩ := GuardRegistry.exists_get first
      have candid : Candid runner context (guardId :: guardIds) world ↔
          match runner.call definition context world with
          | (.returned outcome, middle) =>
              outcome.guardId = guardId → outcome.result ≠ .notEvaluated ∧
                (outcome.result = .pass →
                  Candid runner context guardIds middle)
          | (.returnedOther, _) => True
          | (.raised _, _) => True
          | (.interrupted _, _) => False := by
        constructor
        · exact fun each => each definition known
        · intro answers other otherKnown
          cases known.symm.trans otherKnown
          exact answers
      rw [candid]
      rcases called : runner.call definition context world with
        ⟨behaviour, middle⟩
      cases behaviour with
      | returned outcome =>
          by_cases own : outcome.guardId = guardId
          · have ended : (Behaviour.returned outcome).outcome guardId =
                .ok outcome := if_pos own
            rcases outcome.result.stops_or with stops | passed | answered
            · refine iff_of_true
                (failsClosed_of_stops rest known called ended stops) ?_
              intro _
              constructor
              · intro same
                rw [same] at stops
                revert stops
                decide
              · intro same
                rw [same] at stops
                exact absurd stops ResultCode.not_stops_pass
            · rw [failsClosed_cons_iff known called ended passed,
                inductionHypothesis rest]
              refine ⟨fun continued _ => ⟨?_, fun _ => continued⟩,
                fun answers => (answers own).2 passed⟩
              rw [passed]
              exact nofun
            · exact iff_of_false
                (not_failsClosed_of_notEvaluated known called ended answered)
                fun answers => (answers own).1 answered
          · exact iff_of_true (failsClosed_of_stops rest known called
              (if_neg own) (stops_executionError _ _)) fun same =>
                absurd same own
      | returnedOther =>
          exact iff_of_true (failsClosed_of_stops rest known called rfl
            (stops_executionError _ _)) trivial
      | raised errorType =>
          exact iff_of_true (failsClosed_of_stops rest known called rfl
            (stops_executionError _ _)) trivial
      | interrupted errorType =>
          exact iff_of_false
            (not_failsClosed_of_interrupted known called) not_false

end Runner

/-! ## Samples -/

/-- Two guards of the registry. -/
def sampleRegistry : GuardRegistry where
  definitions :=
    [⟨"ENTITY_EXISTS", "entity_exists", true⟩, ⟨"CALLER_AUTHORIZED", "caller_authorized", true⟩]
  distinct := by decide
  readOnly := by decide
  implemented := by decide

/-- A runner whose first guard answers in some way, and whose second guard
passes. -/
def sampleRunner (behaviour : Behaviour) : GuardRunner Unit Unit where
  registry := sampleRegistry
  implementations := fun implementation =>
    if implementation = "entity_exists" then some fun _ _ => (behaviour, ())
    else some fun _ _ =>
      (.returned ⟨"CALLER_AUTHORIZED", .pass, none, .obj []⟩, ())
  complete := by
    intro definition _
    split_ifs <;> rfl

theorem sampleRunner_get (behaviour : Behaviour) :
    (sampleRunner behaviour).registry.get "ENTITY_EXISTS" =
      .ok ⟨"ENTITY_EXISTS", "entity_exists", true⟩ := rfl

/-- A guard that raises stops the run. -/
theorem guards_fail_closed_iff_sample :
    FailsClosed (sampleRunner (.raised "RuntimeError")) ()
      ["ENTITY_EXISTS", "CALLER_AUTHORIZED"] () := by
  refine (guards_fail_closed_iff (by decide)).mpr ?_
  intro definition known
  cases (sampleRunner_get _).symm.trans known
  trivial

/-- A guard answers that it was not evaluated, and the transition passes. -/
theorem not_evaluated_passes :
    ∃ results, (∀ guardId ∈ ["ENTITY_EXISTS", "CALLER_AUTHORIZED"],
        guardId ∈ sampleRegistry.guardIds) ∧
      (sampleRunner (.returned ⟨"ENTITY_EXISTS", .notEvaluated, none,
        .obj []⟩)).run ["ENTITY_EXISTS", "CALLER_AUTHORIZED"] () () =
          .ok (results, ()) ∧
      results.map GuardResult.result = [.notEvaluated, .pass] ∧
      overallResult results = .pass ∧
      ¬ FailsClosed (sampleRunner (.returned ⟨"ENTITY_EXISTS", .notEvaluated,
        none, .obj []⟩)) () ["ENTITY_EXISTS", "CALLER_AUTHORIZED"] () := by
  refine ⟨[⟨"ENTITY_EXISTS", .notEvaluated, none, .obj []⟩,
    ⟨"CALLER_AUTHORIZED", .pass, none, .obj []⟩], by decide, rfl, rfl, rfl,
    ?_⟩
  exact not_failsClosed_of_notEvaluated (sampleRunner_get _) rfl rfl rfl

end SanTanHeights.Kernel.Guards
