import SanTanHeights.Foundation.Json
import SanTanHeights.Foundation.Uuid
import SanTanHeights.Shared.Vocabulary

/-!
# Governed property state

The validated state that a snapshot is taken from, as
`governed_state/models.py` defines it.
-/

namespace SanTanHeights.Snapshot

open Foundation Shared

/-- `property_identity_status`. -/
inductive IdentityStatus where
  | resolved
  | blocked
  | invalid
  deriving DecidableEq, Repr

def IdentityStatus.code : IdentityStatus → String
  | .resolved => "RESOLVED"
  | .blocked => "BLOCKED"
  | .invalid => "INVALID"

/-- A dictionary over the keys `agent`, `seller` and `public` (`pub` here). -/
structure ByAudience where
  agent : Option String
  seller : Option String
  pub : Option String
  deriving DecidableEq, Repr

structure GovernedFinding where
  findingId : String
  findingType : String
  passportId : String
  passportVersion : String
  canonicalValue : Json
  confidenceCode : String
  qaStatus : QaStatus
  productionStatus : ProductionStatus
  publicationScope : PublicationScope
  approvedWording : ByAudience
  wordingVersions : ByAudience
  semanticFingerprint : String
  evidenceReferenceSetHash : String

structure GovernedDependency where
  dependencyType : String
  dependencyId : String
  semanticFingerprint : String
  recordFingerprint : String
  dependencyVersion : String
  required : Bool
  variantScope : List Variant
  deriving DecidableEq, Repr

structure GovernedPropertyState where
  propertyId : Uuid
  governedStateVersion : String
  sourceReadToken : String
  intelligenceSchemaVersion : String
  governanceSchemaVersion : String
  modelVersion : String
  propertyIdentityStatus : IdentityStatus
  qaStatus : QaStatus
  findings : List GovernedFinding
  dependencies : List GovernedDependency

end SanTanHeights.Snapshot

/-!
## Snapshot requirements

`SnapshotRequirementEngine.evaluate` decides whether a state is complete
enough for a snapshot.  A requirement selects a property field, a finding type
or a dependency type; the registry guarantees exactly one of them.
-/

namespace SanTanHeights.Snapshot

open Foundation Shared

/-- A comparison with a property field. -/
inductive FieldTest where
  | equals (expected : String)
  | nonempty
  | present
  deriving DecidableEq, Repr

/-- `satisfied_by`. -/
inductive Selector where
  | propertyField (field : String) (test : FieldTest)
  | findingType (findingType : String)
  | dependencyType (dependencyType : String)
  deriving DecidableEq, Repr

structure SnapshotRequirement where
  requirementId : String
  scope : String
  required : Bool
  satisfiedBy : Selector
  failureReasonCode : String
  deriving DecidableEq, Repr

inductive RequirementStatus where
  | satisfied
  | blocked
  | optionalMissing
  deriving DecidableEq, Repr

def RequirementStatus.code : RequirementStatus → String
  | .satisfied => "SATISFIED"
  | .blocked => "BLOCKED"
  | .optionalMissing => "OPTIONAL_MISSING"

structure RequirementResult where
  requirementId : String
  requirementScope : String
  requiredFlag : Bool
  status : RequirementStatus
  findingId : Option String
  dependencyType : Option String
  dependencyId : Option String
  reasonCode : Option String
  deriving DecidableEq, Repr

inductive Completeness where
  | invalid
  | blocked
  | partialValid
  | complete
  deriving DecidableEq, Repr

structure RequirementEvaluation where
  results : List RequirementResult
  completenessStatus : Completeness
  deriving DecidableEq, Repr

/-- `getattr(state, field, None)`, as far as `equals` can see it: texts are
kept, other values are reduced to whether they are truthy. -/
def fieldValue (state : GovernedPropertyState) (field : String) : Option (String ⊕ Bool) :=
  match field with
  | "property_id" => some (.inr true)
  | "governed_state_version" => some (.inl state.governedStateVersion)
  | "source_read_token" => some (.inl state.sourceReadToken)
  | "intelligence_schema_version" =>
      some (.inl state.intelligenceSchemaVersion)
  | "governance_schema_version" => some (.inl state.governanceSchemaVersion)
  | "model_version" => some (.inl state.modelVersion)
  | "property_identity_status" =>
      some (.inl state.propertyIdentityStatus.code)
  | "qa_status" => some (.inl state.qaStatus.code)
  | "findings" => some (.inr (!state.findings.isEmpty))
  | "dependencies" => some (.inr (!state.dependencies.isEmpty))
  | _ => none

/-- A property field passes its test. -/
def FieldTest.holds (test : FieldTest) (value : Option (String ⊕ Bool)) : Bool :=
  match test, value with
  | .equals expected, some (.inl text) => text == expected
  | .equals _, _ => false
  | .nonempty, some (.inl text) => text != ""
  | .nonempty, some (.inr truthy) => truthy
  | .nonempty, none => false
  | .present, value => value.isSome

/-- A result that names what satisfied the requirement. -/
def SnapshotRequirement.satisfied (requirement : SnapshotRequirement)
    (findingId dependencyType dependencyId : Option String) :
    RequirementResult where
  requirementId := requirement.requirementId
  requirementScope := requirement.scope
  requiredFlag := requirement.required
  status := .satisfied
  findingId := findingId
  dependencyType := dependencyType
  dependencyId := dependencyId
  reasonCode := none

/-- The result of an unsatisfied requirement. -/
def SnapshotRequirement.missing (requirement : SnapshotRequirement) : RequirementResult where
  requirementId := requirement.requirementId
  requirementScope := requirement.scope
  requiredFlag := requirement.required
  status := if requirement.required then .blocked else .optionalMissing
  findingId := none
  dependencyType := none
  dependencyId := none
  reasonCode := some requirement.failureReasonCode

/-- `_evaluate_one`. -/
def evaluateOne (requirement : SnapshotRequirement) (state : GovernedPropertyState) :
    RequirementResult :=
  match requirement.satisfiedBy with
  | .propertyField field test =>
      if test.holds (fieldValue state field) then
        requirement.satisfied none none none
      else requirement.missing
  | .findingType type =>
      match state.findings.find? fun finding =>
        finding.findingType = type ∧
          finding.productionStatus = .productionReady ∧
          finding.qaStatus = .pass with
      | some finding => requirement.satisfied (some finding.findingId) none none
      | none => requirement.missing
  | .dependencyType type =>
      match state.dependencies.find? fun dependency =>
        dependency.dependencyType = type with
      | some dependency =>
          requirement.satisfied none (some dependency.dependencyType) (some dependency.dependencyId)
      | none => requirement.missing

/-- `SnapshotRequirementEngine.evaluate`. -/
def evaluate (requirements : List SnapshotRequirement)
    (state : GovernedPropertyState) : RequirementEvaluation :=
  if state.propertyIdentityStatus = .invalid ∨ state.qaStatus = .fail then
    { results := [], completenessStatus := .invalid }
  else
    let results := requirements.map fun requirement =>
      evaluateOne requirement state
    { results := results
      completenessStatus :=
        if results.any fun result =>
          result.requiredFlag && result.status == .blocked then .blocked
        else if results.any fun result =>
          result.status == .optionalMissing then .partialValid
        else .complete }

end SanTanHeights.Snapshot
