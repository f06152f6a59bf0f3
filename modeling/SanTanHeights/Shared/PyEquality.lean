import SanTanHeights.Foundation.Keyed
import SanTanHeights.Shared.PyValue

/-!
# Equality of Python values

Where floats stand for exact numbers, `==` is an equivalence of values.  Only
dictionaries with a key twice, which Python does not have, would be different
from themselves.
-/

namespace SanTanHeights.Shared

open Foundation

/-! ## Exact numbers -/

/-- Floats that stand for exact numbers and are compared by them. -/
class ExactFloat (F : Type) [PyFloat F] where
  value : F → ℚ
  eq_iff : ∀ left right : F, PyFloat.eq left right = true ↔ value left = value right
  lt_iff : ∀ left right : F, PyFloat.lt left right = true ↔ value left < value right
  eqInt_iff : ∀ (left : F) (number : Int), PyFloat.eqInt left number = true ↔ value left = number
  ltInt_iff : ∀ (left : F) (number : Int), PyFloat.ltInt left number = true ↔ value left < number
  intLt_iff : ∀ (number : Int) (right : F), PyFloat.intLt number right = true ↔ number < value right

instance : ExactFloat ℚ where
  value := id
  eq_iff left right := by simp [PyFloat.eq]
  lt_iff left right := by simp [PyFloat.lt]
  eqInt_iff left number := by simp [PyFloat.eqInt]
  ltInt_iff left number := by simp [PyFloat.ltInt]
  intLt_iff number right := by simp [PyFloat.intLt]

namespace PyValue

variable {F : Type}

/-- Induction over values, with the hypothesis for every item of a list or a
tuple and every member of a dictionary. -/
@[induction_eliminator]
theorem induct {motive : PyValue F → Prop} (none : motive .none)
    (bool : ∀ value, motive (.bool value)) (int : ∀ value, motive (.int value))
    (float : ∀ value, motive (.float value)) (str : ∀ value, motive (.str value))
    (list : ∀ items, (∀ item ∈ items, motive item) → motive (.list items))
    (tuple : ∀ items, (∀ item ∈ items, motive item) → motive (.tuple items))
    (dict : ∀ members, (∀ member ∈ members, motive member.2) → motive (.dict members))
    (value : PyValue F) :
    motive value := by
  refine @PyValue.rec F motive (fun items => ∀ item ∈ items, motive item)
    (fun members => ∀ member ∈ members, motive member.2)
    (fun member => motive member.2)
    none bool int float str list tuple dict ?_ ?_ ?_ ?_ ?_ value
  · intro item absent
    cases absent
  · intro head tail headHolds tailHolds item present
    rcases List.mem_cons.mp present with rfl | later
    · exact headHolds
    · exact tailHolds item later
  · intro member absent
    cases absent
  · intro head tail headHolds tailHolds member present
    rcases List.mem_cons.mp present with rfl | later
    · exact headHolds
    · exact tailHolds member later
  · intro key value holds
    exact holds

/-- No dictionary in the value has a key twice. -/
inductive DistinctKeys : PyValue F → Prop where
  | none : DistinctKeys .none
  | bool (value : Bool) : DistinctKeys (.bool value)
  | int (value : Int) : DistinctKeys (.int value)
  | float (value : F) : DistinctKeys (.float value)
  | str (value : String) : DistinctKeys (.str value)
  | list {items : List (PyValue F)}
      (nested : ∀ item ∈ items, DistinctKeys item) :
      DistinctKeys (.list items)
  | tuple {items : List (PyValue F)}
      (nested : ∀ item ∈ items, DistinctKeys item) :
      DistinctKeys (.tuple items)
  | dict {members : List (String × PyValue F)}
      (keys : (members.map Prod.fst).Nodup)
      (nested : ∀ member ∈ members, DistinctKeys member.2) :
      DistinctKeys (.dict members)

variable [PyFloat F]

/-! ## Equality, part by part -/

theorem pyEqItems_eq_true {items others : List (PyValue F)} :
    pyEqItems items others = true ↔
      List.Forall₂ (fun item other => pyEq item other = true) items others := by
  induction items generalizing others with
  | nil => cases others <;> simp [pyEqItems]
  | cons item items ih =>
      cases others with
      | nil => simp [pyEqItems]
      | cons other others => simp [pyEqItems, ih]

theorem pyEq_list {items others : List (PyValue F)} :
    pyEq (.list items) (.list others) = true ↔
      List.Forall₂ (fun item other => pyEq item other = true) items others := by
  rw [← pyEqItems_eq_true, pyEq]

theorem pyEq_tuple {items others : List (PyValue F)} :
    pyEq (.tuple items) (.tuple others) = true ↔
      List.Forall₂ (fun item other => pyEq item other = true) items others := by
  rw [← pyEqItems_eq_true, pyEq]

theorem pyEqMembers_eq_true {members others : List (String × PyValue F)} :
    pyEqMembers members others = true ↔ ∀ member ∈ members, ∃ other,
        others.lookup member.1 = some other ∧ pyEq member.2 other = true := by
  induction members with
  | nil => simp [pyEqMembers]
  | cons member members ih =>
      rw [pyEqMembers, Bool.and_eq_true, ih, List.forall_mem_cons]
      apply and_congr_left'
      cases others.lookup member.1 <;> simp

theorem pyEq_dict {members others : List (String × PyValue F)} :
    pyEq (.dict members) (.dict others) = true ↔
      members.length = others.length ∧ ∀ member ∈ members, ∃ other,
          others.lookup member.1 = some other ∧ pyEq member.2 other = true := by
  rw [← pyEqMembers_eq_true, pyEq, Bool.and_eq_true, beq_iff_eq]

/-! ## Scalars -/

/-- What a value that is no container stands for. -/
inductive Scalar where
  | none
  | text (value : String)
  | number (value : ℚ)

variable [ExactFloat F]

namespace Number

/-- The number that is meant. -/
def exact : Number F → ℚ
  | int value => value
  | float value => ExactFloat.value value

theorem eq_iff (left right : Number F) : left.eq right = true ↔ left.exact = right.exact := by
  cases left with
  | int number =>
      cases right with
      | int other => simp [eq, exact]
      | float other => rw [eq, ExactFloat.eqInt_iff, exact, exact, eq_comm]
  | float number =>
      cases right with
      | int other => rw [eq, ExactFloat.eqInt_iff, exact, exact]
      | float other => rw [eq, ExactFloat.eq_iff, exact, exact]

theorem lt_iff (left right : Number F) : left.lt right = true ↔ left.exact < right.exact := by
  cases left with
  | int number =>
      cases right with
      | int other => simp [lt, exact]
      | float other => rw [lt, ExactFloat.intLt_iff, exact, exact]
  | float number =>
      cases right with
      | int other => rw [lt, ExactFloat.ltInt_iff, exact, exact]
      | float other => rw [lt, ExactFloat.lt_iff, exact, exact]

end Number

/-- What a value stands for, unless it is a container. -/
def scalar : PyValue F → Option Scalar
  | .none => some .none
  | .str text => some (.text text)
  | .list _ => Option.none
  | .tuple _ => Option.none
  | .dict _ => Option.none
  | value => value.numeric.map fun number => .number number.exact

theorem scalarEq_iff {left right : PyValue F} {meaning : Scalar}
    (known : left.scalar = some meaning) :
    scalarEq left right = true ↔ right.scalar = some meaning := by
  cases left with
  | list | tuple | dict => cases known
  | none =>
      obtain rfl := Option.some.inj known
      cases right <;> simp [scalarEq, scalar, numeric, number]
  | str text =>
      obtain rfl := Option.some.inj known
      cases right with
      | str other =>
          simp only [scalarEq, scalar, beq_iff_eq, Option.some.injEq, Scalar.text.injEq]
          exact eq_comm
      | _ => simp [scalarEq, scalar, numeric, number]
  | bool | int | float =>
      obtain rfl := Option.some.inj known
      cases right with
      | bool | int | float =>
          simp only [scalarEq, scalar, numeric, number, Number.eq_iff,
            Option.map_some, Option.some.injEq, Scalar.number.injEq]
          exact eq_comm
      | _ => simp [scalarEq, scalar, numeric, number]

/-- Equality with a value that is no container. -/
theorem pyEq_of_scalar {left right : PyValue F} {meaning : Scalar}
    (known : left.scalar = some meaning) :
    pyEq left right = true ↔ right.scalar = some meaning := by
  rw [← scalarEq_iff known]
  cases left <;> first | (cases known; done) | rw [pyEq]

/-! ## The equivalence -/

/-- A value equals itself. -/
theorem pyEq_refl {value : PyValue F} (distinct : value.DistinctKeys) :
    pyEq value value = true := by
  induction value with
  | list items ih =>
      cases distinct with
      | list nested =>
          rw [pyEq_list, List.forall₂_same]
          exact fun item listed =>
            ih item listed (nested item listed)
  | tuple items ih =>
      cases distinct with
      | tuple nested =>
          rw [pyEq_tuple, List.forall₂_same]
          exact fun item listed =>
            ih item listed (nested item listed)
  | dict members ih =>
      cases distinct with
      | dict keys nested =>
          rw [pyEq_dict]
          exact ⟨rfl, fun member listed => ⟨member.2, Keyed.lookup_of_mem keys listed,
            ih member listed (nested member listed)⟩⟩
  | _ => exact (pyEq_of_scalar rfl).mpr rfl

omit [ExactFloat F] in
/-- Items that are equal one by one are so the other way round. -/
theorem forall₂_pyEq_symm {items others : List (PyValue F)}
    (symmetric : ∀ item ∈ items, ∀ other ∈ others, pyEq item other = true → pyEq other item = true)
    (equal : List.Forall₂ (fun item other => pyEq item other = true) items others) :
    List.Forall₂ (fun item other => pyEq item other = true) others items := by
  induction equal with
  | nil => exact .nil
  | cons first _ ih =>
      refine .cons (symmetric _ List.mem_cons_self _ List.mem_cons_self first)
        (ih fun item listed other otherListed => ?_)
      exact symmetric item (List.mem_cons_of_mem _ listed) other
        (List.mem_cons_of_mem _ otherListed)

omit [ExactFloat F] in
/-- Equal dictionaries have the same keys. -/
theorem perm_keys {members others : List (String × PyValue F)}
    (keys : (members.map Prod.fst).Nodup)
    (equal : members.length = others.length ∧ ∀ member ∈ members, ∃ other,
        others.lookup member.1 = some other ∧ pyEq member.2 other = true) :
    (members.map Prod.fst).Perm (others.map Prod.fst) := by
  have subset : members.map Prod.fst ⊆ others.map Prod.fst := by
    intro key present
    obtain ⟨member, memberPresent, rfl⟩ := List.mem_map.mp present
    obtain ⟨other, found, _⟩ := equal.2 member memberPresent
    obtain ⟨front, later, rfl, _⟩ := List.lookup_eq_some_iff.mp found
    simp
  exact (List.subperm_of_subset keys subset).perm_of_length_le (by simp [equal.1])

theorem pyEq_symm {left right : PyValue F} (leftDistinct : left.DistinctKeys)
    (rightDistinct : right.DistinctKeys) (equal : pyEq left right = true) :
    pyEq right left = true := by
  induction left generalizing right with
  | list items ih =>
      cases right with
      | list others =>
          cases leftDistinct with
          | list nested =>
          cases rightDistinct with
          | list othersNested =>
          rw [pyEq_list] at equal ⊢
          exact forall₂_pyEq_symm (fun item listed other otherListed =>
            ih item listed (nested item listed) (othersNested other otherListed)) equal
      | _ => simp [pyEq] at equal
  | tuple items ih =>
      cases right with
      | tuple others =>
          cases leftDistinct with
          | tuple nested =>
          cases rightDistinct with
          | tuple othersNested =>
          rw [pyEq_tuple] at equal ⊢
          exact forall₂_pyEq_symm (fun item listed other otherListed =>
            ih item listed (nested item listed) (othersNested other otherListed)) equal
      | _ => simp [pyEq] at equal
  | dict members ih =>
      cases right with
      | dict others =>
          cases leftDistinct with
          | dict keys nested =>
          cases rightDistinct with
          | dict otherKeys othersNested =>
          rw [pyEq_dict] at equal ⊢
          refine ⟨equal.1.symm, fun other listed => ?_⟩
          obtain ⟨member, memberListed, sameKey⟩ := List.mem_map.mp
            ((perm_keys keys equal).symm.subset (List.mem_map_of_mem listed))
          obtain ⟨value, found, sameValue⟩ := equal.2 member memberListed
          rw [sameKey, Keyed.lookup_of_mem otherKeys listed] at found
          obtain rfl := Option.some.inj found
          refine ⟨member.2, ?_, ih member memberListed
            (nested member memberListed) (othersNested other listed) sameValue⟩
          rw [← sameKey]
          exact Keyed.lookup_of_mem keys memberListed
      | _ => simp [pyEq] at equal
  | _ =>
      have meaning := (pyEq_of_scalar rfl).mp equal
      exact (pyEq_of_scalar meaning).mpr rfl

omit [ExactFloat F] in
theorem forall₂_pyEq_trans {items others laterItems : List (PyValue F)}
    (transitive : ∀ item ∈ items, ∀ other later,
      pyEq item other = true → pyEq other later = true → pyEq item later = true)
    (earlier : List.Forall₂ (fun item other => pyEq item other = true) items others)
    (later : List.Forall₂ (fun item other => pyEq item other = true) others laterItems) :
    List.Forall₂ (fun item other => pyEq item other = true) items laterItems := by
  induction earlier generalizing laterItems with
  | nil => exact later
  | cons first _ ih =>
      cases later with
      | cons second rest =>
          refine .cons (transitive _ List.mem_cons_self _ _ first second)
            (ih (fun item listed => ?_) rest)
          exact transitive item (List.mem_cons_of_mem _ listed)

theorem pyEq_trans {first second third : PyValue F} (earlier : pyEq first second = true)
    (later : pyEq second third = true) :
    pyEq first third = true := by
  induction first generalizing second third with
  | list items ih =>
      cases second with
      | list others =>
          cases third with
          | list laterItems =>
              rw [pyEq_list] at earlier later ⊢
              exact forall₂_pyEq_trans (fun item listed other later =>
                ih item listed) earlier later
          | _ => simp [pyEq] at later
      | _ => simp [pyEq] at earlier
  | tuple items ih =>
      cases second with
      | tuple others =>
          cases third with
          | tuple laterItems =>
              rw [pyEq_tuple] at earlier later ⊢
              exact forall₂_pyEq_trans (fun item listed other later =>
                ih item listed) earlier later
          | _ => simp [pyEq] at later
      | _ => simp [pyEq] at earlier
  | dict members ih =>
      cases second with
      | dict others =>
          cases third with
          | dict laterMembers =>
              rw [pyEq_dict] at earlier later ⊢
              refine ⟨earlier.1.trans later.1, fun member listed => ?_⟩
              obtain ⟨value, found, same⟩ := earlier.2 member listed
              obtain ⟨front, rest, rfl, _⟩ := List.lookup_eq_some_iff.mp found
              obtain ⟨laterValue, laterFound, laterSame⟩ := later.2 (member.1, value) (by simp)
              exact ⟨laterValue, laterFound, ih member listed same laterSame⟩
          | _ => simp [pyEq] at later
      | _ => simp [pyEq] at earlier
  | _ =>
      have meaning := (pyEq_of_scalar rfl).mp earlier
      exact (pyEq_of_scalar rfl).mpr ((pyEq_of_scalar meaning).mp later)

/-! ## Identity or equality -/

section Same

variable {F : Type} [PyFloat F] [DecidableEq F]

mutual

/-- `left is right`, where the same value counts as the same object. -/
def identical : PyValue F → PyValue F → Bool
  | list items, right =>
      match right with
      | list others => identicalItems items others
      | _ => false
  | tuple items, right =>
      match right with
      | tuple others => identicalItems items others
      | _ => false
  | dict members, right =>
      match right with
      | dict others => identicalMembers members others
      | _ => false
  | none, right =>
      match right with
      | none => true
      | _ => false
  | bool value, right =>
      match right with
      | bool other => value == other
      | _ => false
  | int value, right =>
      match right with
      | int other => value == other
      | _ => false
  | float value, right =>
      match right with
      | float other => decide (value = other)
      | _ => false
  | str value, right =>
      match right with
      | str other => value == other
      | _ => false

def identicalItems : List (PyValue F) → List (PyValue F) → Bool
  | [], others => others.isEmpty
  | item :: items, others =>
      match others with
      | [] => false
      | other :: others => identical item other && identicalItems items others

def identicalMembers :
    List (String × PyValue F) → List (String × PyValue F) → Bool
  | [], others => others.isEmpty
  | (key, value) :: members, others =>
      match others with
      | [] => false
      | (otherKey, other) :: others =>
          key == otherKey && (identical value other && identicalMembers members others)

end

/-- `left is right or left == right`, which tuples ask of their items. -/
def same (left right : PyValue F) : Bool :=
  left.identical right || left.pyEq right

omit [PyFloat F] in
theorem identicalItems_refl {items : List (PyValue F)}
    (each : ∀ item ∈ items, identical item item = true) :
    identicalItems items items = true := by
  induction items with
  | nil => rfl
  | cons item items ih =>
      rw [List.forall_mem_cons] at each
      rw [identicalItems, each.1, ih each.2, Bool.and_true]

omit [PyFloat F] in
theorem identicalMembers_refl {members : List (String × PyValue F)}
    (each : ∀ member ∈ members, identical member.2 member.2 = true) :
    identicalMembers members members = true := by
  induction members with
  | nil => rfl
  | cons member members ih =>
      rw [List.forall_mem_cons] at each
      rw [identicalMembers, each.1, ih each.2, beq_self_eq_true, Bool.and_true, Bool.and_true]

omit [PyFloat F] in
theorem identical_refl (value : PyValue F) : identical value value = true := by
  induction value with
  | list items ih =>
      exact identicalItems_refl ih
  | tuple items ih =>
      exact identicalItems_refl ih
  | dict members ih =>
      exact identicalMembers_refl ih
  | none => rfl
  | float value => exact decide_eq_true rfl
  | bool value => exact beq_self_eq_true value
  | int value => exact beq_self_eq_true value
  | str value => exact beq_self_eq_true value

/-- Every value is the same as itself. -/
@[simp] theorem same_refl (value : PyValue F) : same value value = true := by
  rw [same, identical_refl, Bool.true_or]

end Same

end PyValue
end SanTanHeights.Shared
