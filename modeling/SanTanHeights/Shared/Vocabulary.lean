import Mathlib.Data.List.Basic
import Mathlib.Algebra.Order.Ring.Int

/-!
# Governed vocabulary

The closed sets of codes that governed data is validated against.
-/

namespace SanTanHeights.Shared

/-- `reference.report_variant`. -/
inductive Variant where
  | agent
  | seller
  | pub
  deriving DecidableEq, Repr

def Variant.code : Variant → String
  | .agent => "AGENT"
  | .seller => "SELLER"
  | .pub => "PUBLIC"

/-- The variants in the order the code iterates over them. -/
def variants : List Variant :=
  [.agent, .seller, .pub]

theorem Variant.code_injective : Function.Injective Variant.code := by
  intro left right equal
  cases left <;> cases right <;> first | rfl | (revert equal; decide)

/-- Publication scopes of a finding. -/
inductive PublicationScope where
  | agent
  | seller
  | pub
  | agentSeller
  | all
  | none
  deriving DecidableEq, Repr

def PublicationScope.code : PublicationScope → String
  | .agent => "AGENT"
  | .seller => "SELLER"
  | .pub => "PUBLIC"
  | .agentSeller => "AGENT_SELLER"
  | .all => "ALL"
  | .none => "NONE"

theorem PublicationScope.code_injective : Function.Injective PublicationScope.code := by
  intro left right equal
  cases left <;> cases right <;> first | rfl | (revert equal; decide)

/-- QA states. -/
inductive QaStatus where
  | pending
  | pass
  | fail
  | reviewRequired
  deriving DecidableEq, Repr

def QaStatus.code : QaStatus → String
  | .pending => "PENDING"
  | .pass => "PASS"
  | .fail => "FAIL"
  | .reviewRequired => "REVIEW_REQUIRED"

theorem QaStatus.code_injective : Function.Injective QaStatus.code := by
  intro left right equal
  cases left <;> cases right <;> first | rfl | (revert equal; decide)

/-- Production states of a finding. -/
inductive ProductionStatus where
  | productionReady
  | internalOnly
  | blocked
  | deprecated
  | superseded
  deriving DecidableEq, Repr

def ProductionStatus.code : ProductionStatus → String
  | .productionReady => "PRODUCTION_READY"
  | .internalOnly => "INTERNAL_ONLY"
  | .blocked => "BLOCKED"
  | .deprecated => "DEPRECATED"
  | .superseded => "SUPERSEDED"

theorem ProductionStatus.code_injective : Function.Injective ProductionStatus.code := by
  intro left right equal
  cases left <;> cases right <;> first | rfl | (revert equal; decide)

/-- Content states of a report or a render. -/
inductive ContentState where
  | building
  | validating
  | ready
  | blocked
  | failed
  | stale
  | invalidated
  | archived
  deriving DecidableEq, Repr

/-- Health states of a report or a render. -/
inductive HealthState where
  | clean
  | dirty
  | stale
  | blocked
  deriving DecidableEq, Repr

end SanTanHeights.Shared

/-!
## Timestamps

Timestamps count microseconds.  A statement reads the time at which its
transaction began, which is not later than the time it runs at.
-/

namespace SanTanHeights.Shared

/-- `timestamptz`, in microseconds. -/
abbrev Time := Int

/-- `count * interval '1 second'`. -/
def seconds (count : Int) : Time :=
  count * 1000000

end SanTanHeights.Shared
