import SanTanHeights.Scenario.Evidence
import SanTanHeights.Shared.PyEquality

/-!
# Comparing scenarios

The members of a comparison are put in the order of their users and compared
pair by pair on every governed dimension.  What is said of two scenarios does
not depend on the order in which they are given, nor on the side they are read
from.
-/

namespace SanTanHeights.Scenario

open Foundation Foundation.Sorting Foundation.Outcome Foundation.Keyed Shared
open Community.History (sortedSet sortedSet_congr)

/-! ## Pairs of a list -/

section Pairs

variable {α κ : Type*}

/-- Every item with every item behind it. -/
def orderedPairs : List α → List (α × α)
  | [] => []
  | item :: rest => rest.map (fun other => (item, other)) ++ orderedPairs rest

theorem mem_orderedPairs {left right : α} {items : List α} :
    (left, right) ∈ orderedPairs items ↔ List.Sublist [left, right] items := by
  induction items with
  | nil => simp [orderedPairs]
  | cons item rest ih =>
      rw [orderedPairs, List.mem_append, ih, List.mem_map]
      constructor
      · rintro (⟨other, listed, same⟩ | later)
        · cases same
          exact (List.singleton_sublist.mpr listed).cons_cons _
        · exact later.cons _
      · intro within
        cases within with
        | cons _ later => exact .inr later
        | cons_cons _ later =>
            exact .inl ⟨right, List.singleton_sublist.mp later, rfl⟩

variable [LinearOrder κ]

/-- The pairs of a sorted list with distinct keys. -/
theorem mem_orderedPairs_sortedBy {key : α → κ} {items : List α} {left right : α}
    (distinct : (items.map key).Nodup) : (left, right) ∈ orderedPairs (sortedBy key items) ↔
      left ∈ items ∧ right ∈ items ∧ key left < key right := by
  have ascending := pairwise_sortedBy key items
  have keys : ((sortedBy key items).map key).Nodup :=
    ((sortedBy_perm key items).map key).nodup_iff.mpr distinct
  rw [mem_orderedPairs]
  constructor
  · intro within
    have before := List.pairwise_iff_forall_sublist.mp ascending within
    have differ := List.pairwise_iff_forall_sublist.mp (List.pairwise_map.mp keys) within
    refine ⟨?_, ?_, lt_of_le_of_ne before differ⟩
    · exact (mem_sortedBy key items left).mp (within.subset (by simp))
    · exact (mem_sortedBy key items right).mp (within.subset (by simp))
  · rintro ⟨leftListed, rightListed, smaller⟩
    exact rel_of_key_lt ascending
      (List.pairwise_iff_forall_sublist.mpr fun within => within)
      ((mem_sortedBy key items left).mpr leftListed)
      ((mem_sortedBy key items right).mpr rightListed) smaller

omit [LinearOrder κ] in
theorem nodup_orderedPairs {items : List α} (distinct : items.Nodup) :
    (orderedPairs items).Nodup := by
  induction items with
  | nil => exact .nil
  | cons item rest ih =>
      obtain ⟨absent, rest⟩ := List.nodup_cons.mp distinct
      refine List.Nodup.append (rest.map fun _ _ equal =>
        (Prod.mk.inj equal).2) (ih rest) ?_
      intro pair first later
      obtain ⟨other, -, rfl⟩ := List.mem_map.mp first
      exact absent ((mem_orderedPairs.mp later).subset List.mem_cons_self)

end Pairs

/-! ## Relations -/

inductive Relation where
  | same
  | leftMissing
  | rightMissing
  | leftLower
  | leftHigher
  | different
  deriving DecidableEq, Repr

namespace Relation

def code : Relation → String
  | same => "SAME"
  | leftMissing => "LEFT_MISSING"
  | rightMissing => "RIGHT_MISSING"
  | leftLower => "LEFT_LOWER"
  | leftHigher => "LEFT_HIGHER"
  | different => "DIFFERENT"

/-- The relation read from the other side. -/
def mirror : Relation → Relation
  | same => same
  | leftMissing => rightMissing
  | rightMissing => leftMissing
  | leftLower => leftHigher
  | leftHigher => leftLower
  | different => different

@[simp] theorem mirror_mirror (relation : Relation) : relation.mirror.mirror = relation := by
  cases relation <;> rfl

end Relation

variable {F : Type} [PyFloat F]

/-- `_relation`. -/
def relation (left right : PyValue F) : Relation :=
  match left, right with
  | .none, .none => .same
  | .none, _ => .leftMissing
  | _, .none => .rightMissing
  | left, right =>
      if left.pyEq right then .same
      else
        match left.number, right.number with
        | some number, some other =>
            if number.lt other then .leftLower else .leftHigher
        | _, _ => .different

theorem relation_of_ne_none {left right : PyValue F} (leftKnown : left ≠ .none)
    (rightKnown : right ≠ .none) :
    relation left right =
      if left.pyEq right then .same
      else
        match left.number, right.number with
        | some number, some other =>
            if number.lt other then .leftLower else .leftHigher
        | _, _ => .different := by
  unfold relation
  split
  · exact absurd rfl leftKnown
  · exact absurd rfl leftKnown
  · exact absurd rfl rightKnown
  · rfl

theorem relation_none_left {right : PyValue F} (known : right ≠ .none) :
    relation .none right = .leftMissing := by
  cases right <;> first | rfl | exact absurd rfl known

theorem relation_none_right {left : PyValue F} (known : left ≠ .none) :
    relation left .none = .rightMissing := by
  cases left <;> first | rfl | exact absurd rfl known

section Laws

variable [ExactFloat F] {left right : PyValue F}

theorem scalar_of_number {value : PyValue F} {number : PyValue.Number F}
    (numeric : value.number = some number) :
    value.scalar = some (.number number.exact) := by
  cases value with
  | int | float =>
      obtain rfl := Option.some.inj numeric
      rfl
  | _ => cases numeric

theorem pyEq_none_iff {value : PyValue F} :
    PyValue.pyEq .none value = true ↔ value = .none := by
  rw [PyValue.pyEq_of_scalar rfl]
  cases value <;> simp [PyValue.scalar, PyValue.numeric, PyValue.number]

theorem pyEq_none_right_iff {value : PyValue F} : value.pyEq .none = true ↔ value = .none := by
  cases value with
  | list | tuple | dict => simp [PyValue.pyEq]
  | none => exact iff_of_true rfl rfl
  | _ =>
      refine iff_of_false ?_ (by simp)
      rw [PyValue.pyEq_of_scalar rfl]
      simp [PyValue.scalar]

/-- The same are the values that are equal. -/
theorem relation_eq_same_iff : relation left right = .same ↔ left.pyEq right = true := by
  by_cases leftMissing : left = .none
  · subst leftMissing
    rw [pyEq_none_iff]
    by_cases rightMissing : right = .none
    · simp [rightMissing, relation]
    · simp [relation_none_left rightMissing, rightMissing]
  · by_cases rightMissing : right = .none
    · subst rightMissing
      rw [pyEq_none_right_iff]
      simp [relation_none_right leftMissing, leftMissing]
    · rw [relation_of_ne_none leftMissing rightMissing]
      split_ifs with equal
      · exact iff_of_true rfl equal
      · refine iff_of_false ?_ equal
        split
        · split_ifs <;> simp
        · simp

/-- Lower are the numbers that are smaller. -/
theorem relation_eq_leftLower_iff :
    relation left right = .leftLower ↔
      ∃ number other, left.number = some number ∧
        right.number = some other ∧ number.exact < other.exact := by
  constructor
  · intro lower
    have leftKnown : left ≠ .none := by
      rintro rfl
      by_cases rightMissing : right = .none
      · simp [rightMissing, relation] at lower
      · simp [relation_none_left rightMissing] at lower
    have rightKnown : right ≠ .none := by
      rintro rfl
      simp [relation_none_right leftKnown] at lower
    rw [relation_of_ne_none leftKnown rightKnown] at lower
    split_ifs at lower
    split at lower
    · rename_i number other numeric otherNumeric
      split_ifs at lower with smaller
      exact ⟨number, other, numeric, otherNumeric, (PyValue.Number.lt_iff number other).mp smaller⟩
    · cases lower
  · rintro ⟨number, other, numeric, otherNumeric, smaller⟩
    have leftKnown : left ≠ .none := by
      rintro rfl
      cases numeric
    have rightKnown : right ≠ .none := by
      rintro rfl
      cases otherNumeric
    have differ : left.pyEq right ≠ true := by
      rw [ne_eq, PyValue.pyEq_of_scalar (scalar_of_number numeric),
        scalar_of_number otherNumeric, Option.some.injEq, PyValue.Scalar.number.injEq]
      exact smaller.ne'
    rw [relation_of_ne_none leftKnown rightKnown, if_neg differ, numeric, otherNumeric]
    exact if_pos ((PyValue.Number.lt_iff number other).mpr smaller)

/-- Reading a pair from the other side mirrors its relation. -/
theorem relation_mirror (leftDistinct : left.DistinctKeys)
    (rightDistinct : right.DistinctKeys) :
    relation right left = (relation left right).mirror := by
  by_cases leftMissing : left = .none
  · subst leftMissing
    by_cases rightMissing : right = .none
    · rw [rightMissing]
      rfl
    · rw [relation_none_left rightMissing, relation_none_right rightMissing]
      rfl
  by_cases rightMissing : right = .none
  · rw [rightMissing, relation_none_left leftMissing, relation_none_right leftMissing]
    rfl
  have sameEither : left.pyEq right = right.pyEq left :=
    Bool.eq_iff_iff.mpr ⟨PyValue.pyEq_symm leftDistinct rightDistinct,
      PyValue.pyEq_symm rightDistinct leftDistinct⟩
  rw [relation_of_ne_none leftMissing rightMissing,
    relation_of_ne_none rightMissing leftMissing, sameEither]
  split_ifs with equal
  · rfl
  · cases numeric : left.number with
    | none => cases right.number <;> rfl
    | some number =>
        cases otherNumeric : right.number with
        | none => rfl
        | some other =>
            have differ : other.exact ≠ number.exact := by
              intro same
              apply equal
              rw [PyValue.pyEq_of_scalar (scalar_of_number otherNumeric),
                scalar_of_number numeric, same]
            simp only [PyValue.Number.lt_iff]
            split_ifs with first second
            · exact absurd (first.trans second) (lt_irrefl _)
            · rfl
            · rfl
            · exact absurd (le_antisymm (not_lt.mp first) (not_lt.mp ‹_›)) differ.symm

end Laws

/-! ## Comparisons -/

/-- What is read of a scenario-comparison registry. -/
structure ComparisonRegistry where
  governedDimensions : List String
  distinct : governedDimensions.Nodup

/-- `m13-006g-scenario-comparison-v1.0.yaml`. -/
def comparisonRegistry : ComparisonRegistry where
  governedDimensions :=
    ["pricing_position_percent", "listing_timing_days", "buyer_depth",
      "comparable_depth", "substitution_requirement", "scarcity_context",
      "resale_competition", "new_construction_competition",
      "builder_inventory", "builder_incentive_value",
      "builder_incentive_posture", "applicable_patterns",
      "historical_evidence_count", "known_dimension_count",
      "total_dimension_count", "unknowns"]
  distinct := by decide

/-- A member of a comparison; dictionaries in Python have distinct keys. -/
structure ScenarioComparisonMember (F : Type) where
  scenarioId : String
  userOrder : Int
  scenarioContextFingerprint : String
  scenarioEvidenceFingerprint : String
  pricingTimingStateFingerprint : String
  buyerSubstitutionStateFingerprint : String
  newConstructionStateFingerprint : String
  dimensions : List (String × PyValue F)
  knownDimensionCount : Int
  totalDimensionCount : Int
  unknowns : List String
  limitations : List String
  memberFingerprint : String
  distinctKeys : ∀ entry ∈ dimensions, entry.2.DistinctKeys

/-- `dict(member.dimensions).get(dimension)`. -/
def ScenarioComparisonMember.valueOf
    (member : ScenarioComparisonMember F) (dimension : String) : PyValue F :=
  ((latest Prod.fst member.dimensions dimension).map Prod.snd).getD .none

structure ScenarioDimensionDifference (F : Type) where
  leftScenarioId : String
  rightScenarioId : String
  dimension : String
  leftValue : PyValue F
  rightValue : PyValue F
  relation : Relation
  differenceFingerprint : String

namespace ScenarioDimensionDifference

/-- What the fingerprint of a difference covers. -/
def payload (difference : ScenarioDimensionDifference F) : List (String × PyValue F) :=
  [("left_scenario_id", .str difference.leftScenarioId),
    ("right_scenario_id", .str difference.rightScenarioId),
    ("dimension", .str difference.dimension), ("left_value", difference.leftValue),
    ("right_value", difference.rightValue), ("relation", .str difference.relation.code)]

/-- `asdict(difference)`. -/
def asdict (difference : ScenarioDimensionDifference F) : PyValue F :=
  .dict (difference.payload ++ [("difference_fingerprint", .str difference.differenceFingerprint)])

/-- Which scenarios are compared on which dimension. -/
def key (difference : ScenarioDimensionDifference F) : String × String × String :=
  (difference.leftScenarioId, difference.rightScenarioId, difference.dimension)

end ScenarioDimensionDifference

/-- The difference of two members on a dimension, up to its fingerprint. -/
def draftDifference (left right : ScenarioComparisonMember F) (dimension : String) :
    ScenarioDimensionDifference F where
  leftScenarioId := left.scenarioId
  rightScenarioId := right.scenarioId
  dimension := dimension
  leftValue := left.valueOf dimension
  rightValue := right.valueOf dimension
  relation := relation (left.valueOf dimension) (right.valueOf dimension)
  differenceFingerprint := ""

/-- The difference of two members on a dimension. -/
def differenceOf (entry : (ScenarioComparisonMember F × ScenarioComparisonMember F) × String) :
    Except String (ScenarioDimensionDifference F) := do
  let difference := draftDifference entry.1.1 entry.1.2 entry.2
  let fingerprint ← (PyValue.dict difference.payload).sha256
  return { difference with differenceFingerprint := fingerprint }

structure MultiScenarioComparison (F : Type) where
  comparisonId : String
  scenarioIds : List String
  memberFingerprints : List String
  pairwiseDifferences : List (ScenarioDimensionDifference F)
  unknowns : List String
  limitations : List String
  comparisonFingerprint : String

/-- What the fingerprint of a comparison covers. -/
def MultiScenarioComparison.payload (comparison : MultiScenarioComparison F) : PyValue F :=
  .dict [("comparison_id", .str comparison.comparisonId),
      ("scenario_ids", .texts comparison.scenarioIds),
      ("member_fingerprints", .texts comparison.memberFingerprints),
      ("pairwise_differences", .tuple (comparison.pairwiseDifferences.map
        ScenarioDimensionDifference.asdict)),
      ("unknowns", .texts comparison.unknowns),
      ("limitations", .texts comparison.limitations)]

/-- What is compared: every pair of members on every dimension. -/
def comparedEntries (registry : ComparisonRegistry)
    (ordered : List (ScenarioComparisonMember F)) :
    List ((ScenarioComparisonMember F × ScenarioComparisonMember F) × String) :=
  (orderedPairs ordered).flatMap fun pair =>
    registry.governedDimensions.map fun dimension => (pair, dimension)

/-- The comparison of some members, up to its fingerprint. -/
def draftComparison (comparisonId : String) (ordered : List (ScenarioComparisonMember F))
    (differences : List (ScenarioDimensionDifference F)) :
    MultiScenarioComparison F where
  comparisonId := comparisonId
  scenarioIds := ordered.map ScenarioComparisonMember.scenarioId
  memberFingerprints := ordered.map ScenarioComparisonMember.memberFingerprint
  pairwiseDifferences := differences
  unknowns := sortedSet (ordered.flatMap ScenarioComparisonMember.unknowns)
  limitations := sortedSet
    (ordered.flatMap ScenarioComparisonMember.limitations ++
      ["Pairwise relations describe differences only and do not indicate " ++
        "preference, quality, or expected outcome."])
  comparisonFingerprint := ""

/-- `compare_scenario_members`. -/
def compareScenarioMembers (comparisonId : String)
    (members : List (ScenarioComparisonMember F)) (registry : ComparisonRegistry) :
    Except String (MultiScenarioComparison F) := do
  require (Text.isBlank comparisonId = false) "comparison_id required"
  require (2 ≤ members.length) "at least two scenarios required"
  let ordered := sortedBy ScenarioComparisonMember.userOrder members
  require ((ordered.map ScenarioComparisonMember.userOrder).Nodup)
    "unique user_order required"
  require ((ordered.map ScenarioComparisonMember.scenarioId).Nodup)
    "unique scenario ids required"
  let differences ← (comparedEntries registry ordered).mapM differenceOf
  let comparison := draftComparison comparisonId ordered differences
  let fingerprint ← comparison.payload.sha256
  return { comparison with comparisonFingerprint := fingerprint }

/-! ## What is accepted -/

variable {members : List (ScenarioComparisonMember F)}
  {registry : ComparisonRegistry} {comparisonId : String}
  {comparison : MultiScenarioComparison F}

omit [PyFloat F] in
/-- The members that can be compared. -/
structure Comparable (comparisonId : String)
    (members : List (ScenarioComparisonMember F)) : Prop where
  identified : Text.isBlank comparisonId = false
  several : 2 ≤ members.length
  orders : (members.map ScenarioComparisonMember.userOrder).Nodup
  scenarios : (members.map ScenarioComparisonMember.scenarioId).Nodup

theorem compareScenarioMembers_eq_ok :
    compareScenarioMembers comparisonId members registry = .ok comparison ↔
      Comparable comparisonId members ∧ ∃ differences fingerprint,
          (comparedEntries registry (sortedBy
            ScenarioComparisonMember.userOrder members)).mapM differenceOf = .ok differences ∧
          (draftComparison comparisonId (sortedBy ScenarioComparisonMember.userOrder members)
              differences).payload.sha256 = .ok fingerprint ∧
          { draftComparison comparisonId (sortedBy
              ScenarioComparisonMember.userOrder members) differences with
            comparisonFingerprint := fingerprint } = comparison := by
  have sorted := sortedBy_perm ScenarioComparisonMember.userOrder members
  have orders := (sorted.map ScenarioComparisonMember.userOrder).nodup_iff
  have scenarios := (sorted.map ScenarioComparisonMember.scenarioId).nodup_iff
  simp only [compareScenarioMembers, require_bind_eq_ok, orders, scenarios]
  constructor
  · rintro ⟨identified, several, orders, scenarios, compared⟩
    obtain ⟨differences, each, hashed⟩ := bind_eq_ok.mp compared
    obtain ⟨fingerprint, hashed, returned⟩ := bind_eq_ok.mp hashed
    exact ⟨⟨identified, several, orders, scenarios⟩, differences, fingerprint,
      each, hashed, Except.ok.inj returned⟩
  · rintro ⟨comparable, differences, fingerprint, each, hashed, rfl⟩
    exact ⟨comparable.identified, comparable.several, comparable.orders,
      comparable.scenarios, bind_eq_ok.mpr ⟨differences, each,
        bind_eq_ok.mpr ⟨fingerprint, hashed, rfl⟩⟩⟩

omit [PyFloat F] in
theorem mem_comparedEntries {left right : ScenarioComparisonMember F} {dimension : String}
    (orders : (members.map ScenarioComparisonMember.userOrder).Nodup) :
    ((left, right), dimension) ∈ comparedEntries registry
        (sortedBy ScenarioComparisonMember.userOrder members) ↔
      (left ∈ members ∧ right ∈ members ∧ left.userOrder < right.userOrder) ∧
        dimension ∈ registry.governedDimensions := by
  rw [← mem_orderedPairs_sortedBy orders]
  simp [comparedEntries]

/-- The differences that a comparison lists. -/
theorem mem_pairwiseDifferences
    (compared : compareScenarioMembers comparisonId members registry = .ok comparison)
    {difference : ScenarioDimensionDifference F} :
    difference ∈ comparison.pairwiseDifferences ↔
      ∃ left ∈ members, ∃ right ∈ members, ∃ dimension,
        left.userOrder < right.userOrder ∧
          dimension ∈ registry.governedDimensions ∧
            differenceOf ((left, right), dimension) = .ok difference := by
  obtain ⟨comparable, differences, _, each, _, rfl⟩ := compareScenarioMembers_eq_ok.mp compared
  refine (mem_mapM_iff each).trans ⟨?_, ?_⟩
  · rintro ⟨⟨⟨left, right⟩, dimension⟩, listed, found⟩
    obtain ⟨⟨leftListed, rightListed, smaller⟩, governed⟩ :=
      (mem_comparedEntries comparable.orders).mp listed
    exact ⟨left, leftListed, right, rightListed, dimension, smaller, governed, found⟩
  · rintro ⟨left, leftListed, right, rightListed, dimension, smaller, governed, found⟩
    exact ⟨_, (mem_comparedEntries comparable.orders).mpr
      ⟨⟨leftListed, rightListed, smaller⟩, governed⟩, found⟩

theorem differenceOf_eq_ok {left right : ScenarioComparisonMember F} {dimension : String}
    {difference : ScenarioDimensionDifference F} :
    differenceOf ((left, right), dimension) = .ok difference ↔ ∃ fingerprint,
        (PyValue.dict (draftDifference left right dimension).payload).sha256 = .ok fingerprint ∧
        { draftDifference left right dimension with
          differenceFingerprint := fingerprint } = difference := by
  simp only [differenceOf, bind_eq_ok, pure_eq_ok]

/-- Two members are compared where their values have a text. -/
theorem exists_differenceOf_iff {left right : ScenarioComparisonMember F} {dimension : String} :
    (∃ difference, differenceOf ((left, right), dimension) = .ok difference) ↔
      (left.valueOf dimension).Writable ∧ (right.valueOf dimension).Writable := by
  have written : (PyValue.dict (draftDifference left right dimension).payload).Writable ↔
        (left.valueOf dimension).Writable ∧ (right.valueOf dimension).Writable := by
    simp [draftDifference, ScenarioDimensionDifference.payload]
  rw [← written, ← PyValue.exists_sha256_iff]
  constructor
  · rintro ⟨difference, found⟩
    obtain ⟨fingerprint, hashed, -⟩ := differenceOf_eq_ok.mp found
    exact ⟨fingerprint, hashed⟩
  · rintro ⟨fingerprint, hashed⟩
    exact ⟨_, differenceOf_eq_ok.mpr ⟨fingerprint, hashed, rfl⟩⟩

omit [PyFloat F] in
/-- No member is alone. -/
theorem Comparable.exists_other (comparable : Comparable comparisonId members)
    (member : ScenarioComparisonMember F) :
    ∃ other ∈ members, other.userOrder ≠ member.userOrder := by
  obtain ⟨-, several, orders, -⟩ := comparable
  match members, several, orders with
  | first :: second :: rest, _, orders =>
      by_cases same : first.userOrder = member.userOrder
      · refine ⟨second, by simp, fun sameToo => ?_⟩
        rw [List.map_cons, List.map_cons, List.nodup_cons] at orders
        exact orders.1 (by simp [same, sameToo])
      · exact ⟨first, by simp, same⟩

/-- A difference that was made has a text. -/
theorem writable_asdict
    {entry : (ScenarioComparisonMember F × ScenarioComparisonMember F) × String}
    {difference : ScenarioDimensionDifference F} (made : differenceOf entry = .ok difference) :
    difference.asdict.Writable := by
  obtain ⟨⟨left, right⟩, dimension⟩ := entry
  obtain ⟨leftWritable, rightWritable⟩ := exists_differenceOf_iff.mp ⟨difference, made⟩
  obtain ⟨fingerprint, -, rfl⟩ := differenceOf_eq_ok.mp made
  simp [ScenarioDimensionDifference.asdict,
    ScenarioDimensionDifference.payload, draftDifference, leftWritable, rightWritable]

/-- Members are compared where all their values have a text. -/
theorem exists_compareScenarioMembers_iff :
    (∃ comparison, compareScenarioMembers comparisonId members registry = .ok comparison) ↔
      Comparable comparisonId members ∧
        ∀ member ∈ members, ∀ dimension ∈ registry.governedDimensions,
          (member.valueOf dimension).Writable := by
  constructor
  · rintro ⟨comparison, compared⟩
    obtain ⟨comparable, differences, -, each, -, -⟩ := compareScenarioMembers_eq_ok.mp compared
    refine ⟨comparable, fun member listed dimension governed => ?_⟩
    obtain ⟨other, otherListed, differ⟩ := comparable.exists_other member
    rcases lt_or_gt_of_ne differ with before | behind
    · obtain ⟨difference, -, made⟩ := exists_ok_of_mapM each
        ((mem_comparedEntries comparable.orders).mpr ⟨⟨otherListed, listed, before⟩, governed⟩)
      exact (exists_differenceOf_iff.mp ⟨difference, made⟩).2
    · obtain ⟨difference, -, made⟩ := exists_ok_of_mapM each
        ((mem_comparedEntries comparable.orders).mpr ⟨⟨listed, otherListed, behind⟩, governed⟩)
      exact (exists_differenceOf_iff.mp ⟨difference, made⟩).1
  · rintro ⟨comparable, writable⟩
    obtain ⟨differences, each⟩ : ∃ differences,
        (comparedEntries registry (sortedBy
          ScenarioComparisonMember.userOrder members)).mapM differenceOf = .ok differences :=
      exists_mapM_ok (by
        rintro ⟨⟨left, right⟩, dimension⟩ listed
        obtain ⟨⟨leftListed, rightListed, -⟩, governed⟩ :=
          (mem_comparedEntries comparable.orders).mp listed
        exact exists_differenceOf_iff.mpr ⟨writable left leftListed _ governed,
          writable right rightListed _ governed⟩)
    have written : (draftComparison comparisonId (sortedBy
        ScenarioComparisonMember.userOrder members) differences).payload.Writable := by
      have dicts : ∀ difference ∈ differences,
          difference.asdict.Writable :=
        forall_mem_of_mapM each fun entry _ difference made =>
          writable_asdict made
      simpa [MultiScenarioComparison.payload, draftComparison] using dicts
    obtain ⟨fingerprint, hashed⟩ := PyValue.exists_sha256_iff.mpr written
    exact ⟨_, compareScenarioMembers_eq_ok.mpr
      ⟨comparable, differences, fingerprint, each, hashed, rfl⟩⟩

/-! ## Neutrality -/

/-- What a comparison says of two scenarios, whichever it lists first. -/
def MultiScenarioComparison.Tells (comparison : MultiScenarioComparison F)
    (left right dimension : String) (relation : Relation) : Prop :=
  ∃ difference ∈ comparison.pairwiseDifferences,
    difference.key = (left, right, dimension) ∧ difference.relation = relation ∨
      difference.key = (right, left, dimension) ∧ difference.relation = relation.mirror

/-- Members given in any order are compared alike. -/
theorem compareScenarioMembers_of_perm {others : List (ScenarioComparisonMember F)}
    (permuted : members.Perm others) :
    compareScenarioMembers comparisonId members registry =
      compareScenarioMembers comparisonId others registry := by
  have orders := (permuted.map ScenarioComparisonMember.userOrder).nodup_iff
  have sameMembers : ∀ members : List (ScenarioComparisonMember F),
      ((sortedBy ScenarioComparisonMember.userOrder members).map
        ScenarioComparisonMember.userOrder).Nodup ↔
        (members.map ScenarioComparisonMember.userOrder).Nodup :=
    fun members => ((sortedBy_perm _ members).map _).nodup_iff
  by_cases distinct : (members.map ScenarioComparisonMember.userOrder).Nodup
  · have sorted : sortedBy ScenarioComparisonMember.userOrder members =
        sortedBy ScenarioComparisonMember.userOrder others :=
      sortedBy_eq_of_perm permuted fun _ listed _ otherListed =>
        List.inj_on_of_nodup_map distinct listed otherListed
    simp only [compareScenarioMembers, sorted, permuted.length_eq]
  · have otherwise : ¬ (others.map
        ScenarioComparisonMember.userOrder).Nodup :=
      fun also => distinct (orders.mpr also)
    simp only [compareScenarioMembers, sameMembers, distinct, otherwise,
      permuted.length_eq, require, if_false]
    rfl

variable [ExactFloat F]

omit [ExactFloat F] in
/-- Which difference is about which members. -/
theorem key_eq_iff {left right : ScenarioComparisonMember F} {dimension : String}
    {difference : ScenarioDimensionDifference F}
    (made : differenceOf ((left, right), dimension) = .ok difference) :
    difference.key = (left.scenarioId, right.scenarioId, dimension) ∧
      difference.relation = relation (left.valueOf dimension) (right.valueOf dimension) := by
  obtain ⟨fingerprint, -, rfl⟩ := differenceOf_eq_ok.mp made
  exact ⟨rfl, rfl⟩

omit [PyFloat F] [ExactFloat F] in
theorem distinctKeys_valueOf (member : ScenarioComparisonMember F) (dimension : String) :
    (member.valueOf dimension).DistinctKeys := by
  unfold ScenarioComparisonMember.valueOf
  cases found : latest Prod.fst member.dimensions dimension with
  | none => exact .none
  | some entry =>
      exact member.distinctKeys entry (mem_of_latest found).1

/-- What is said of two members is the relation of their values. -/
theorem tells_iff
    (compared : compareScenarioMembers comparisonId members registry = .ok comparison)
    {left right : ScenarioComparisonMember F} {dimension : String} {found : Relation}
    (leftListed : left ∈ members) (rightListed : right ∈ members)
    (differ : left.scenarioId ≠ right.scenarioId)
    (governed : dimension ∈ registry.governedDimensions) :
    comparison.Tells left.scenarioId right.scenarioId dimension found ↔
      relation (left.valueOf dimension) (right.valueOf dimension) = found := by
  obtain ⟨comparable, -⟩ := exists_compareScenarioMembers_iff.mp ⟨comparison, compared⟩
  have mirrored := relation_mirror (distinctKeys_valueOf left dimension)
    (distinctKeys_valueOf right dimension)
  have sameMember := List.inj_on_of_nodup_map comparable.scenarios
  constructor
  · rintro ⟨difference, listed, about⟩
    obtain ⟨first, firstListed, second, secondListed, other, -, -, made⟩ :=
      (mem_pairwiseDifferences compared).mp listed
    obtain ⟨key, related⟩ := key_eq_iff made
    rw [key, related] at about
    rcases about with ⟨same, rfl⟩ | ⟨same, mirror⟩
    · obtain ⟨sameFirst, sameSecond, rfl⟩ := by simpa using same
      rw [sameMember firstListed leftListed sameFirst,
        sameMember secondListed rightListed sameSecond]
    · obtain ⟨sameFirst, sameSecond, rfl⟩ := by simpa using same
      rw [sameMember firstListed rightListed sameFirst,
        sameMember secondListed leftListed sameSecond, mirrored] at mirror
      rw [← Relation.mirror_mirror (relation _ _), mirror, Relation.mirror_mirror]
  · rintro rfl
    obtain ⟨leftMade, rightMade⟩ : (∃ difference,
        differenceOf ((left, right), dimension) = .ok difference) ∧
          ∃ difference, differenceOf ((right, left), dimension) = .ok difference := by
      obtain ⟨-, writable⟩ := exists_compareScenarioMembers_iff.mp ⟨comparison, compared⟩
      have leftWritable := writable left leftListed dimension governed
      have rightWritable := writable right rightListed dimension governed
      exact ⟨exists_differenceOf_iff.mpr ⟨leftWritable, rightWritable⟩,
        exists_differenceOf_iff.mpr ⟨rightWritable, leftWritable⟩⟩
    have ordersDiffer : left.userOrder ≠ right.userOrder := fun same =>
      differ (congrArg _ (List.inj_on_of_nodup_map comparable.orders leftListed rightListed same))
    rcases lt_or_gt_of_ne ordersDiffer with before | behind
    · obtain ⟨difference, made⟩ := leftMade
      exact ⟨difference, (mem_pairwiseDifferences compared).mpr
        ⟨left, leftListed, right, rightListed, dimension, before, governed,
          made⟩, .inl (key_eq_iff made)⟩
    · obtain ⟨difference, made⟩ := rightMade
      refine ⟨difference, (mem_pairwiseDifferences compared).mpr
        ⟨right, rightListed, left, leftListed, dimension, behind, governed,
          made⟩, .inr ⟨(key_eq_iff made).1, ?_⟩⟩
      rw [(key_eq_iff made).2, mirrored]

omit [ExactFloat F] in
/-- No pair is compared twice on a dimension. -/
theorem nodup_keys
    (compared : compareScenarioMembers comparisonId members registry = .ok comparison) :
    (comparison.pairwiseDifferences.map ScenarioDimensionDifference.key).Nodup := by
  obtain ⟨comparable, differences, _, each, _, rfl⟩ := compareScenarioMembers_eq_ok.mp compared
  have keys : (comparedEntries registry (sortedBy
      ScenarioComparisonMember.userOrder members)).map (fun entry =>
        (entry.1.1.scenarioId, entry.1.2.scenarioId, entry.2)) =
      differences.map ScenarioDimensionDifference.key :=
    map_eq_of_mapM each fun entry difference made => (key_eq_iff made).1.symm
  change (differences.map ScenarioDimensionDifference.key).Nodup
  rw [← keys]
  have ordered : (sortedBy ScenarioComparisonMember.userOrder members).Nodup :=
    (sortedBy_perm _ members).nodup_iff.mpr comparable.orders.of_map
  refine List.Nodup.map_on ?_ ((nodup_orderedPairs ordered).product registry.distinct)
  rintro ⟨⟨left, right⟩, dimension⟩ listed ⟨⟨other, later⟩, otherDimension⟩ otherListed same
  obtain ⟨⟨leftListed, rightListed, -⟩, -⟩ := (mem_comparedEntries comparable.orders).mp listed
  obtain ⟨⟨otherMember, laterMember, -⟩, -⟩ :=
    (mem_comparedEntries comparable.orders).mp otherListed
  obtain ⟨sameLeft, sameRight, rfl⟩ := by simpa using same
  have sameMember := List.inj_on_of_nodup_map comparable.scenarios
  rw [sameMember leftListed otherMember sameLeft, sameMember rightListed laterMember sameRight]

omit [ExactFloat F] in
/-- Which side two members are listed on. -/
theorem mem_keys_iff
    (compared : compareScenarioMembers comparisonId members registry = .ok comparison)
    {left right : ScenarioComparisonMember F} {dimension : String}
    (leftListed : left ∈ members) (rightListed : right ∈ members) :
    (left.scenarioId, right.scenarioId, dimension) ∈
        comparison.pairwiseDifferences.map ScenarioDimensionDifference.key ↔
      left.userOrder < right.userOrder ∧ dimension ∈ registry.governedDimensions := by
  obtain ⟨comparable, writable⟩ := exists_compareScenarioMembers_iff.mp ⟨comparison, compared⟩
  have sameMember := List.inj_on_of_nodup_map comparable.scenarios
  rw [List.mem_map]
  constructor
  · rintro ⟨difference, listed, key⟩
    obtain ⟨first, firstListed, second, secondListed, other, smaller,
      governed, made⟩ := (mem_pairwiseDifferences compared).mp listed
    rw [(key_eq_iff made).1] at key
    obtain ⟨sameLeft, sameRight, rfl⟩ := by simpa using key
    rw [sameMember firstListed leftListed sameLeft,
      sameMember secondListed rightListed sameRight] at smaller
    exact ⟨smaller, governed⟩
  · rintro ⟨smaller, governed⟩
    obtain ⟨difference, made⟩ := exists_differenceOf_iff.mpr
      ⟨writable left leftListed dimension governed, writable right rightListed dimension governed⟩
    exact ⟨difference, (mem_pairwiseDifferences compared).mpr
      ⟨left, leftListed, right, rightListed, dimension, smaller, governed,
        made⟩, (key_eq_iff made).1⟩

omit [ExactFloat F] in
/-- Two members are compared once on every dimension. -/
theorem existsUnique_difference
    (compared : compareScenarioMembers comparisonId members registry = .ok comparison)
    {left right : ScenarioComparisonMember F} {dimension : String}
    (leftListed : left ∈ members) (rightListed : right ∈ members)
    (differ : left.scenarioId ≠ right.scenarioId)
    (governed : dimension ∈ registry.governedDimensions) :
    ∃! difference, difference ∈ comparison.pairwiseDifferences ∧
      (difference.key = (left.scenarioId, right.scenarioId, dimension) ∨
        difference.key = (right.scenarioId, left.scenarioId, dimension)) := by
  obtain ⟨comparable, -⟩ := exists_compareScenarioMembers_iff.mp ⟨comparison, compared⟩
  have ordersDiffer : left.userOrder ≠ right.userOrder := fun same =>
    differ (congrArg _ (List.inj_on_of_nodup_map comparable.orders leftListed rightListed same))
  have sameDifference := List.inj_on_of_nodup_map (nodup_keys compared)
  have forward :
      (left.scenarioId, right.scenarioId, dimension) ∈
        comparison.pairwiseDifferences.map ScenarioDimensionDifference.key ↔ _ :=
    mem_keys_iff compared leftListed rightListed
  have backward :
      (right.scenarioId, left.scenarioId, dimension) ∈
        comparison.pairwiseDifferences.map ScenarioDimensionDifference.key ↔ _ :=
    mem_keys_iff compared rightListed leftListed
  rcases lt_or_gt_of_ne ordersDiffer with before | behind
  · obtain ⟨difference, listed, key⟩ := List.mem_map.mp (forward.mpr ⟨before, governed⟩)
    refine ⟨difference, ⟨listed, .inl key⟩, ?_⟩
    rintro other ⟨otherListed, otherKey | otherKey⟩
    · exact sameDifference otherListed listed (otherKey.trans key.symm)
    · have wrong := (backward.mp (List.mem_map.mpr ⟨other, otherListed, otherKey⟩)).1
      exact absurd wrong (lt_asymm before)
  · obtain ⟨difference, listed, key⟩ := List.mem_map.mp (backward.mpr ⟨behind, governed⟩)
    refine ⟨difference, ⟨listed, .inr key⟩, ?_⟩
    rintro other ⟨otherListed, otherKey | otherKey⟩
    · have wrong := (forward.mp (List.mem_map.mpr ⟨other, otherListed, otherKey⟩)).1
      exact absurd wrong (lt_asymm behind)
    · exact sameDifference otherListed listed (otherKey.trans key.symm)

/-! ### Exchanging two members -/

omit [PyFloat F] [ExactFloat F] in
/-- A member after two members have exchanged their places; its fingerprint
may have changed with its place. -/
def ScenarioComparisonMember.exchanged (first second : ScenarioComparisonMember F)
    (fingerprint : ScenarioComparisonMember F → String)
    (member : ScenarioComparisonMember F) : ScenarioComparisonMember F :=
  { member with
    userOrder := Equiv.swap first.userOrder second.userOrder member.userOrder
    memberFingerprint := fingerprint member }

variable {first second : ScenarioComparisonMember F}
  {fingerprint : ScenarioComparisonMember F → String}

omit [PyFloat F] [ExactFloat F] in
theorem Comparable.exchanged (comparable : Comparable comparisonId members)
    (first second : ScenarioComparisonMember F)
    (fingerprint : ScenarioComparisonMember F → String) :
    Comparable comparisonId
      (members.map (ScenarioComparisonMember.exchanged first second fingerprint)) where
  identified := comparable.identified
  several := by
    rw [List.length_map]
    exact comparable.several
  orders := by
    have swapped : (members.map (ScenarioComparisonMember.exchanged first
        second fingerprint)).map ScenarioComparisonMember.userOrder =
          (members.map ScenarioComparisonMember.userOrder).map
            (Equiv.swap first.userOrder second.userOrder) := by
      rw [List.map_map, List.map_map]
      rfl
    rw [swapped]
    exact comparable.orders.map (Equiv.injective _)
  scenarios := by
    rw [List.map_map]
    exact comparable.scenarios

omit [ExactFloat F] in
/-- Members whose places were exchanged are compared too. -/
theorem exists_exchanged
    (compared : compareScenarioMembers comparisonId members registry = .ok comparison)
    (first second : ScenarioComparisonMember F)
    (fingerprint : ScenarioComparisonMember F → String) :
    ∃ other, compareScenarioMembers comparisonId
      (members.map (ScenarioComparisonMember.exchanged first second
        fingerprint)) registry = .ok other := by
  obtain ⟨comparable, writable⟩ := exists_compareScenarioMembers_iff.mp ⟨comparison, compared⟩
  refine exists_compareScenarioMembers_iff.mpr ⟨comparable.exchanged first second fingerprint, ?_⟩
  intro member listed
  obtain ⟨original, originalListed, rfl⟩ := List.mem_map.mp listed
  exact writable original originalListed

omit [ExactFloat F] in
/-- Differences of other members stay as they are. -/
theorem mem_pairwiseDifferences_exchanged {other : MultiScenarioComparison F}
    (compared : compareScenarioMembers comparisonId members registry = .ok comparison)
    (exchangedCompared : compareScenarioMembers comparisonId
      (members.map (ScenarioComparisonMember.exchanged first second
        fingerprint)) registry = .ok other)
    (firstListed : first ∈ members) (secondListed : second ∈ members)
    {difference : ScenarioDimensionDifference F}
    (leftSpared : difference.leftScenarioId ≠ first.scenarioId ∧
      difference.leftScenarioId ≠ second.scenarioId)
    (rightSpared : difference.rightScenarioId ≠ first.scenarioId ∧
      difference.rightScenarioId ≠ second.scenarioId) :
    difference ∈ other.pairwiseDifferences ↔ difference ∈ comparison.pairwiseDifferences := by
  obtain ⟨comparable, -⟩ := exists_compareScenarioMembers_iff.mp ⟨comparison, compared⟩
  have stays : ∀ member ∈ members, member.scenarioId ≠ first.scenarioId ∧
        member.scenarioId ≠ second.scenarioId →
      (ScenarioComparisonMember.exchanged first second fingerprint
        member).userOrder = member.userOrder := by
    intro member listed spared
    have otherOrder : ∀ other ∈ members, member.scenarioId ≠ other.scenarioId →
          member.userOrder ≠ other.userOrder := fun other otherListed differ
      same => differ (congrArg _ (List.inj_on_of_nodup_map comparable.orders
        listed otherListed same))
    exact Equiv.swap_apply_of_ne_of_ne (otherOrder first firstListed spared.1)
      (otherOrder second secondListed spared.2)
  rw [mem_pairwiseDifferences compared, mem_pairwiseDifferences exchangedCompared]
  constructor
  · rintro ⟨_, leftMoved, _, rightMoved, dimension, smaller, governed, made⟩
    obtain ⟨left, leftListed, rfl⟩ := List.mem_map.mp leftMoved
    obtain ⟨right, rightListed, rfl⟩ := List.mem_map.mp rightMoved
    have madeBefore : differenceOf ((left, right), dimension) = .ok difference := made
    obtain ⟨sameLeft, sameRight, -⟩ := by
      simpa [ScenarioDimensionDifference.key] using (key_eq_iff madeBefore).1
    rw [sameLeft] at leftSpared
    rw [sameRight] at rightSpared
    rw [stays left leftListed leftSpared, stays right rightListed rightSpared]
      at smaller
    exact ⟨left, leftListed, right, rightListed, dimension, smaller, governed, madeBefore⟩
  · rintro ⟨left, leftListed, right, rightListed, dimension, smaller, governed, made⟩
    obtain ⟨sameLeft, sameRight, -⟩ := by
      simpa [ScenarioDimensionDifference.key] using (key_eq_iff made).1
    rw [sameLeft] at leftSpared
    rw [sameRight] at rightSpared
    refine ⟨_, List.mem_map_of_mem leftListed, _,
      List.mem_map_of_mem rightListed, dimension, ?_, governed, made⟩
    rw [stays left leftListed leftSpared, stays right rightListed rightSpared]
    exact smaller

/-- A comparison is neutral.  It does not depend on the order in which the
members are given; it has one difference for any two of them and any governed
dimension; when two members exchange their places, what is said of any two
scenarios stays, the two are listed the other way round, and the differences
of the others are the same; and on every dimension the members that are the
same form classes, of which some are lower than others. -/
theorem comparison_neutral
    (compared : compareScenarioMembers comparisonId members registry =
      .ok comparison) :
    (∀ others, members.Perm others →
      compareScenarioMembers comparisonId others registry = .ok comparison) ∧
    ((comparison.pairwiseDifferences.map
        ScenarioDimensionDifference.key).Nodup ∧
      (∀ difference ∈ comparison.pairwiseDifferences,
        ∃ left ∈ members, ∃ right ∈ members,
          ∃ dimension ∈ registry.governedDimensions,
            left.scenarioId ≠ right.scenarioId ∧
            difference.key = (left.scenarioId, right.scenarioId, dimension)) ∧
      ∀ left ∈ members, ∀ right ∈ members,
        left.scenarioId ≠ right.scenarioId →
          ∀ dimension ∈ registry.governedDimensions,
            ∃! difference, difference ∈ comparison.pairwiseDifferences ∧
              (difference.key = (left.scenarioId, right.scenarioId, dimension) ∨
                difference.key =
                  (right.scenarioId, left.scenarioId, dimension))) ∧
    (∀ first ∈ members, ∀ second ∈ members,
      ∀ fingerprint : ScenarioComparisonMember F → String,
      ∃ other, compareScenarioMembers comparisonId
          (members.map (ScenarioComparisonMember.exchanged first second
            fingerprint)) registry = .ok other ∧
        (∀ left ∈ members, ∀ right ∈ members,
          left.scenarioId ≠ right.scenarioId →
            ∀ dimension ∈ registry.governedDimensions, ∀ found,
              other.Tells left.scenarioId right.scenarioId dimension found ↔
                comparison.Tells left.scenarioId right.scenarioId dimension
                  found) ∧
        (∀ dimension, (first.scenarioId, second.scenarioId, dimension) ∈
              other.pairwiseDifferences.map ScenarioDimensionDifference.key ↔
            (second.scenarioId, first.scenarioId, dimension) ∈
              comparison.pairwiseDifferences.map
                ScenarioDimensionDifference.key) ∧
        ∀ difference : ScenarioDimensionDifference F,
          difference.leftScenarioId ≠ first.scenarioId ∧
              difference.leftScenarioId ≠ second.scenarioId →
            difference.rightScenarioId ≠ first.scenarioId ∧
                difference.rightScenarioId ≠ second.scenarioId →
              (difference ∈ other.pairwiseDifferences ↔
                difference ∈ comparison.pairwiseDifferences)) ∧
    (∀ dimension ∈ registry.governedDimensions,
      (∀ left ∈ members, ∀ right ∈ members,
        left.scenarioId ≠ right.scenarioId → ∀ found,
          (comparison.Tells left.scenarioId right.scenarioId dimension found ↔
            relation (left.valueOf dimension) (right.valueOf dimension) =
              found)) ∧
      Equivalence (fun left right : ScenarioComparisonMember F =>
        relation (left.valueOf dimension) (right.valueOf dimension) = .same) ∧
      ∀ left middle right : ScenarioComparisonMember F,
        relation (left.valueOf dimension) (middle.valueOf dimension) =
            .leftLower →
          relation (middle.valueOf dimension) (right.valueOf dimension) =
              .leftLower →
            relation (left.valueOf dimension) (right.valueOf dimension) =
              .leftLower) := by
  refine ⟨fun others permuted => ?_, ⟨nodup_keys compared,
      fun difference listed => ?_, fun left leftListed right rightListed
        differ dimension governed => existsUnique_difference compared
          leftListed rightListed differ governed⟩,
    fun first firstListed second secondListed fingerprint => ?_,
    fun dimension governed => ⟨fun left leftListed right rightListed differ
      found => tells_iff compared leftListed rightListed differ governed,
      ?_, ?_⟩⟩
  · rw [← compareScenarioMembers_of_perm permuted]
    exact compared
  · obtain ⟨left, leftListed, right, rightListed, dimension, smaller,
      governed, made⟩ := (mem_pairwiseDifferences compared).mp listed
    refine ⟨left, leftListed, right, rightListed, dimension, governed, ?_,
      (key_eq_iff made).1⟩
    intro same
    obtain ⟨comparable, -⟩ := exists_compareScenarioMembers_iff.mp
      ⟨comparison, compared⟩
    rw [List.inj_on_of_nodup_map comparable.scenarios leftListed rightListed
      same] at smaller
    exact absurd smaller (lt_irrefl _)
  · obtain ⟨other, exchangedCompared⟩ := exists_exchanged compared first
      second fingerprint
    have moved : ∀ member ∈ members,
        ScenarioComparisonMember.exchanged first second fingerprint member ∈
          members.map (ScenarioComparisonMember.exchanged first second
            fingerprint) := fun member listed => List.mem_map_of_mem listed
    refine ⟨other, exchangedCompared, ?_, fun dimension => ?_,
      fun difference leftSpared rightSpared =>
        mem_pairwiseDifferences_exchanged compared exchangedCompared
          firstListed secondListed leftSpared rightSpared⟩
    · intro left leftListed right rightListed differ dimension governed found
      have after : _ ↔ _ = found := tells_iff exchangedCompared
        (moved left leftListed) (moved right rightListed) differ governed
      exact after.trans
        (tells_iff compared leftListed rightListed differ governed).symm
    · rw [mem_keys_iff compared secondListed firstListed]
      refine (mem_keys_iff exchangedCompared (moved first firstListed)
        (moved second secondListed)).trans ?_
      simp [ScenarioComparisonMember.exchanged]
  · refine ⟨fun member => ?_, fun {left right} same => ?_,
      fun {left middle right} first second => ?_⟩
    · exact relation_eq_same_iff.mpr
        (PyValue.pyEq_refl (distinctKeys_valueOf member dimension))
    · rw [relation_eq_same_iff] at same ⊢
      exact PyValue.pyEq_symm (distinctKeys_valueOf left dimension)
        (distinctKeys_valueOf right dimension) same
    · rw [relation_eq_same_iff] at first second ⊢
      exact PyValue.pyEq_trans first second
  · intro left middle right first second
    rw [relation_eq_leftLower_iff] at first second ⊢
    obtain ⟨number, between, numeric, betweenNumeric, smaller⟩ := first
    obtain ⟨same, other, sameNumeric, otherNumeric, smallerToo⟩ := second
    rw [betweenNumeric, Option.some.injEq] at sameNumeric
    subst sameNumeric
    exact ⟨number, other, numeric, otherNumeric, smaller.trans smallerToo⟩

/-! ## Two scenarios -/

/-- A scenario of which the depth of the buyers is known. -/
def sampleMember (scenarioId : String) (userOrder buyerDepth : Int) :
    ScenarioComparisonMember ℚ where
  scenarioId := scenarioId
  userOrder := userOrder
  scenarioContextFingerprint := ""
  scenarioEvidenceFingerprint := ""
  pricingTimingStateFingerprint := ""
  buyerSubstitutionStateFingerprint := ""
  newConstructionStateFingerprint := ""
  dimensions := [("buyer_depth", .int buyerDepth)]
  knownDimensionCount := 1
  totalDimensionCount := 13
  unknowns := []
  limitations := []
  memberFingerprint := ""
  distinctKeys := by
    simpa using PyValue.DistinctKeys.int buyerDepth

/-- The scenario with fewer buyers is lower than the other one, although it is
listed behind it. -/
theorem comparison_neutral_sample :
    ∃ comparison, compareScenarioMembers "C1"
        [sampleMember "S1" 1 3, sampleMember "S2" 0 5] comparisonRegistry =
          .ok comparison ∧
      comparison.Tells "S1" "S2" "buyer_depth" .leftLower := by
  have written : ∀ member ∈ [sampleMember "S1" 1 3, sampleMember "S2" 0 5],
      ∀ dimension ∈ comparisonRegistry.governedDimensions,
        (member.valueOf dimension).Writable := by
    intro member listed dimension _
    unfold ScenarioComparisonMember.valueOf
    cases found : latest Prod.fst member.dimensions dimension with
    | none => exact PyValue.writable_none
    | some entry =>
        have present := (mem_of_latest found).1
        simp only [List.mem_cons, List.not_mem_nil, or_false] at listed
        rcases listed with rfl | rfl
        · obtain rfl := List.mem_singleton.mp present
          exact PyValue.writable_int (by decide)
        · obtain rfl := List.mem_singleton.mp present
          exact PyValue.writable_int (by decide)
  have comparable : Comparable "C1"
      [sampleMember "S1" 1 3, sampleMember "S2" 0 5] :=
    ⟨by decide, le_refl 2, by decide, by decide⟩
  obtain ⟨comparison, compared⟩ :=
    exists_compareScenarioMembers_iff.mpr ⟨comparable, written⟩
  obtain ⟨-, -, -, each⟩ := comparison_neutral compared
  obtain ⟨tells, -, -⟩ := each "buyer_depth" (by decide)
  exact ⟨comparison, compared, (tells (sampleMember "S1" 1 3) (by simp)
    (sampleMember "S2" 0 5) (by simp) (by decide) .leftLower).mpr rfl⟩

end SanTanHeights.Scenario
