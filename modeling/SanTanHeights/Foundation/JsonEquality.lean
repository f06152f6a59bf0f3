import SanTanHeights.Foundation.Json
import SanTanHeights.Foundation.Keyed

/-!
# Python equality of JSON values

`==` on what `json.loads` returns: flags count as the numbers 0 and 1, numbers
are compared by value, lists item by item and dictionaries as maps.
-/

namespace Foundation.Json

/-- The value of a number or a flag. -/
def numeric : Json → Option ℚ
  | .bool value => some (if value then 1 else 0)
  | .int value => some value
  | .dec value => some value.toRat
  | _ => none

/-- `left == right` on values that are not containers. -/
def scalarEq (left right : Json) : Bool :=
  match left, right with
  | .null, .null => true
  | .str text, .str other => text == other
  | left, right =>
      match numeric left, numeric right with
      | some number, some other => number == other
      | _, _ => false

mutual

/-- `left == right`. -/
def pyEq : Json → Json → Bool
  | .arr items, right =>
      match right with
      | .arr others => pyEqItems items others
      | _ => false
  | .obj members, right =>
      match right with
      | .obj others =>
          members.length == others.length && pyEqMembers members others
      | _ => false
  | .null, right => scalarEq .null right
  | .bool value, right => scalarEq (.bool value) right
  | .int value, right => scalarEq (.int value) right
  | .dec value, right => scalarEq (.dec value) right
  | .str value, right => scalarEq (.str value) right

def pyEqItems : List Json → List Json → Bool
  | [], others => others.isEmpty
  | item :: items, others =>
      match others with
      | [] => false
      | other :: others => pyEq item other && pyEqItems items others

def pyEqMembers : List (String × Json) → List (String × Json) → Bool
  | [], _ => true
  | (key, value) :: members, others =>
      (match others.lookup key with
        | some other => pyEq value other
        | none => false) && pyEqMembers members others

end

/-! ## Equality, part by part -/

theorem pyEq_str (left right : String) :
    pyEq (.str left) (.str right) = true ↔ left = right := by
  simp [pyEq, scalarEq]

theorem pyEq_arr {items others : List Json} :
    pyEq (.arr items) (.arr others) = true ↔
      List.Forall₂ (fun item other => pyEq item other = true) items others := by
  change pyEqItems items others = true ↔ _
  induction items generalizing others with
  | nil => cases others <;> simp [pyEqItems]
  | cons item items ih =>
      cases others with
      | nil => simp [pyEqItems]
      | cons other others =>
          simp [pyEqItems, ih]

variable {members others : List (String × Json)}

/-- Looking up the keys of a dictionary in one with the same keys. -/
theorem pyEqMembers_of_sameKeys {front : List (String × Json)}
    (sameKeys : members.map Prod.fst = others.map Prod.fst)
    (distinct : ((front ++ others).map Prod.fst).Nodup) :
    pyEqMembers members (front ++ others) = true ↔
      List.Forall₂ (fun member other => pyEq member.2 other.2 = true) members others := by
  induction members generalizing others front with
  | nil =>
      cases others with
      | nil => simp [pyEqMembers]
      | cons other others => cases sameKeys
  | cons member members ih =>
      cases others with
      | nil => cases sameKeys
      | cons other others =>
          rw [List.map_cons, List.map_cons, List.cons.injEq] at sameKeys
          obtain ⟨sameKey, laterKeys⟩ := sameKeys
          have found : (front ++ other :: others).lookup member.1 =
              some other.2 := by
            rw [sameKey]
            exact Keyed.lookup_append_cons distinct
          have moved : front ++ other :: others =
              (front ++ [other]) ++ others := by
            simp
          rw [List.forall₂_cons, pyEqMembers, found, Bool.and_eq_true, moved,
            ih laterKeys (moved ▸ distinct)]

/-- Dictionaries with the same keys in the same order, key by key. -/
theorem pyEq_obj (sameKeys : members.map Prod.fst = others.map Prod.fst)
    (distinct : (members.map Prod.fst).Nodup) :
    pyEq (.obj members) (.obj others) = true ↔
      List.Forall₂ (fun member other => pyEq member.2 other.2 = true) members others := by
  have lengths : members.length = others.length := by
    simpa using congrArg List.length sameKeys
  change (members.length == others.length && pyEqMembers members ([] ++ others)) = true ↔ _
  rw [lengths, beq_self_eq_true, Bool.true_and,
    pyEqMembers_of_sameKeys sameKeys (by rwa [List.nil_append, ← sameKeys])]

/-- A value equals itself. -/
theorem pyEq_refl {value : Json} (distinct : value.DistinctKeys) : pyEq value value = true := by
  induction value with
  | null => rfl
  | bool flag => simp [pyEq, scalarEq, numeric]
  | int number => simp [pyEq, scalarEq, numeric]
  | dec number => simp [pyEq, scalarEq, numeric]
  | str text => simp [pyEq, scalarEq]
  | arr items ih =>
      rw [pyEq_arr, List.forall₂_same]
      exact fun item present => ih item present (((all_arr _ _).mp distinct).2 item present)
  | obj members ih =>
      obtain ⟨keys, nested⟩ := (all_obj _ _).mp distinct
      rw [pyEq_obj rfl keys, List.forall₂_same]
      exact fun member present =>
        ih member present (nested member present)

/-! ## Symmetry -/

theorem scalarEq_comm (left right : Json) : scalarEq left right = scalarEq right left := by
  cases left <;> cases right <;> simp [scalarEq, numeric, eq_comm]

theorem pyEqMembers_eq_true :
    pyEqMembers members others = true ↔ ∀ member ∈ members, ∃ other,
        others.lookup member.1 = some other ∧ pyEq member.2 other = true := by
  induction members with
  | nil => simp [pyEqMembers]
  | cons member members ih =>
      rw [pyEqMembers, Bool.and_eq_true, ih, List.forall_mem_cons]
      apply and_congr_left'
      cases others.lookup member.1 <;> simp

/-- A dictionary with as many distinct keys as another, all found in it with
equal values, has the values of the other too. -/
theorem pyEqMembers_symm
    (symmetric : ∀ member ∈ members, ∀ other ∈ others,
      pyEq member.2 other.2 = true → pyEq other.2 member.2 = true)
    (distinct : (members.map Prod.fst).Nodup) (othersDistinct : (others.map Prod.fst).Nodup)
    (sameLength : members.length = others.length) (equal : pyEqMembers members others = true) :
    pyEqMembers others members = true := by
  rw [pyEqMembers_eq_true] at equal ⊢
  have subset : members.map Prod.fst ⊆ others.map Prod.fst := by
    intro key present
    obtain ⟨member, memberPresent, rfl⟩ := List.mem_map.mp present
    obtain ⟨other, found, _⟩ := equal member memberPresent
    obtain ⟨front, later, rfl, _⟩ := List.lookup_eq_some_iff.mp found
    simp
  have permuted := (List.subperm_of_subset distinct subset).perm_of_length_le (by simp [sameLength])
  intro other present
  obtain ⟨member, memberPresent, sameKey⟩ := List.mem_map.mp
    (permuted.symm.subset (List.mem_map_of_mem present))
  obtain ⟨value, found, valueEqual⟩ := equal member memberPresent
  rw [sameKey, Keyed.lookup_of_mem othersDistinct present] at found
  obtain rfl := Option.some.inj found
  refine ⟨member.2, ?_, symmetric member memberPresent other present valueEqual⟩
  rw [← sameKey]
  exact Keyed.lookup_of_mem distinct memberPresent

theorem pyEq_symm {left right : Json} (leftDistinct : left.DistinctKeys)
    (rightDistinct : right.DistinctKeys) (equal : pyEq left right = true) :
    pyEq right left = true := by
  induction left generalizing right with
  | arr items ih =>
      cases right with
      | arr others =>
          rw [pyEq_arr] at equal ⊢
          have nested := ((all_arr _ _).mp leftDistinct).2
          have othersNested := ((all_arr _ _).mp rightDistinct).2
          rw [List.forall₂_iff_get] at equal ⊢
          refine ⟨equal.1.symm, fun position bound otherBound => ?_⟩
          exact ih _ (List.get_mem items ⟨_, otherBound⟩)
            (nested _ (List.get_mem _ _)) (othersNested _ (List.get_mem _ _))
            (equal.2 position otherBound bound)
      | _ => cases equal
  | obj members ih =>
      cases right with
      | obj others =>
          obtain ⟨keys, nested⟩ := (all_obj _ _).mp leftDistinct
          obtain ⟨otherKeys, othersNested⟩ := (all_obj _ _).mp rightDistinct
          have both : (members.length == others.length &&
              pyEqMembers members others) = true := equal
          rw [Bool.and_eq_true, beq_iff_eq] at both
          change (others.length == members.length && pyEqMembers others members) = true
          rw [Bool.and_eq_true, beq_iff_eq]
          refine ⟨both.1.symm, pyEqMembers_symm ?_ keys otherKeys both.1 both.2⟩
          exact fun member present other otherPresent =>
            ih member present (nested member present) (othersNested other otherPresent)
      | _ => cases equal
  | _ =>
      cases right with
      | arr | obj => simp [pyEq, scalarEq, numeric] at equal
      | _ =>
          simp only [pyEq] at equal ⊢
          rwa [scalarEq_comm]

theorem pyEq_comm {left right : Json} (leftDistinct : left.DistinctKeys)
    (rightDistinct : right.DistinctKeys) :
    pyEq left right = pyEq right left :=
  Bool.eq_iff_iff.mpr ⟨pyEq_symm leftDistinct rightDistinct, pyEq_symm rightDistinct leftDistinct⟩

/-! ## Identity or equality -/

mutual

/-- `left is right`, where the same value counts as the same object. -/
def identical : Json → Json → Bool
  | .arr items, right =>
      match right with
      | .arr others => identicalItems items others
      | _ => false
  | .obj members, right =>
      match right with
      | .obj others => identicalMembers members others
      | _ => false
  | .null, right =>
      match right with
      | .null => true
      | _ => false
  | .bool value, right =>
      match right with
      | .bool other => value == other
      | _ => false
  | .int value, right =>
      match right with
      | .int other => value == other
      | _ => false
  | .dec value, right =>
      match right with
      | .dec other => decide (value = other)
      | _ => false
  | .str value, right =>
      match right with
      | .str other => value == other
      | _ => false

def identicalItems : List Json → List Json → Bool
  | [], others => others.isEmpty
  | item :: items, others =>
      match others with
      | [] => false
      | other :: others => identical item other && identicalItems items others

def identicalMembers : List (String × Json) → List (String × Json) → Bool
  | [], others => others.isEmpty
  | (key, value) :: members, others =>
      match others with
      | [] => false
      | (otherKey, other) :: others =>
          key == otherKey && (identical value other && identicalMembers members others)

end

/-- `left is right or left == right`, which tuples ask of their items. -/
def same (left right : Json) : Bool :=
  identical left right || pyEq left right

theorem identical_refl (value : Json) : identical value value = true := by
  induction value with
  | arr items ih =>
      change identicalItems items items = true
      induction items with
      | nil => rfl
      | cons item items later =>
          rw [List.forall_mem_cons] at ih
          rw [identicalItems, ih.1, later ih.2, Bool.and_true]
  | obj members ih =>
      change identicalMembers members members = true
      induction members with
      | nil => rfl
      | cons member members later =>
          rw [List.forall_mem_cons] at ih
          rw [identicalMembers, ih.1, later ih.2, beq_self_eq_true, Bool.and_true, Bool.and_true]
  | null => rfl
  | dec value => exact decide_eq_true rfl
  | bool value => exact beq_self_eq_true value
  | int value => exact beq_self_eq_true value
  | str value => exact beq_self_eq_true value

/-- Every value is the same as itself. -/
@[simp] theorem same_refl (value : Json) : same value value = true := by
  rw [same, identical_refl, Bool.true_or]

end Foundation.Json
