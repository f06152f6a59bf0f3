import Mathlib.Data.List.Perm.Basic
import SanTanHeights.Foundation.Traverse

/-!
# Computations that may raise

`Except` computations with a message, read backwards from their success.
-/

namespace Foundation.Outcome

open Sorting

universe u

variable {ε α β : Type*}

theorem bind_eq_ok {α β : Type u} {first : Except ε α} {next : α → Except ε β} {result : β} :
    first >>= next = .ok result ↔
      ∃ value, first = .ok value ∧ next value = .ok result := by
  cases first with
  | error message => simp [bind, Except.bind]
  | ok value => simp [bind, Except.bind]

/-- A value that is known is passed on. -/
theorem ok_bind {α β : Type u} {first : Except ε α} {next : α → Except ε β} {value : α}
    (known : first = .ok value) : (first >>= next) = next value := by
  rw [known]
  rfl

theorem map_eq_ok {first : Except ε α} {convert : α → β} {result : β} :
    first.map convert = .ok result ↔
      ∃ value, first = .ok value ∧ convert value = result := by
  cases first with
  | error message => simp [Except.map]
  | ok value => simp [Except.map]

@[simp] theorem toOption_eq_some {outcome : Except ε α} {value : α} :
    outcome.toOption = some value ↔ outcome = .ok value := by
  cases outcome <;> simp [Except.toOption]

/-- Raise unless a condition holds. -/
def require (condition : Prop) [Decidable condition] (message : ε) : Except ε Unit :=
  if condition then .ok () else .error message

@[simp] theorem require_eq_ok
    {condition : Prop} [Decidable condition] {message : ε} {result : Unit} :
    require condition message = .ok result ↔ condition := by
  unfold require
  split_ifs with holds
  · simp [holds]
  · simp [holds]

/-- Steps that all raise in the end raise. -/
theorem exists_error_of_bind {α β : Type u} {first : Except ε α} {next : α → Except ε β}
    (raises : ∀ value, ∃ message, next value = .error message) :
    ∃ message, first >>= next = .error message := by
  cases first with
  | error message => exact ⟨message, rfl⟩
  | ok value => exact raises value

/-- A requirement before other steps. -/
@[simp] theorem require_bind_eq_ok
    {α : Type} {condition : Prop} [Decidable condition] {message : ε}
    {next : Unit → Except ε α} {result : α} :
    require condition message >>= next = .ok result ↔
      condition ∧ next () = .ok result := by
  rw [bind_eq_ok]
  constructor
  · rintro ⟨⟨⟩, holds, continued⟩
    exact ⟨require_eq_ok.mp holds, continued⟩
  · rintro ⟨holds, continued⟩
    exact ⟨(), require_eq_ok.mpr holds, continued⟩

@[simp] theorem pure_eq_ok {α : Type u} {value result : α} :
    (pure value : Except ε α) = .ok result ↔ value = result := by
  simp [pure, Except.pure]

/-- The value of an option, or an exception. -/
def orRaise (value : Option α) (message : ε) : Except ε α :=
  match value with
  | some found => .ok found
  | none => .error message

@[simp] theorem orRaise_eq_ok {value : Option α} {message : ε} {result : α} :
    orRaise value message = .ok result ↔ value = some result := by
  cases value with
  | none => simp [orRaise]
  | some found => simp [orRaise]

section Traversal

variable {β : Type u} {f : α → Except ε β} {items : List α}
  {results : List β}

/-- A traversal succeeds with the list of the individual results. -/
theorem mapM_eq_ok :
    items.mapM f = .ok results ↔
      List.Forall₂ (fun item result => f item = .ok result) items results := by
  induction items generalizing results with
  | nil => simp [pure, Except.pure, eq_comm]
  | cons item items ih =>
      rw [List.mapM_cons, bind_eq_ok, List.forall₂_cons_left_iff]
      constructor
      · rintro ⟨result, first, continued⟩
        obtain ⟨others, later, rest⟩ := bind_eq_ok.mp continued
        cases rest
        exact ⟨result, others, first, ih.mp later, rfl⟩
      · rintro ⟨result, others, first, later, rfl⟩
        exact ⟨result, first, bind_eq_ok.mpr ⟨others, ih.mpr later, rfl⟩⟩

/-- A traversal of the same items in another order has the same results. -/
theorem exists_mapM_of_perm {others : List α} (permuted : items.Perm others)
    (traversed : items.mapM f = .ok results) :
    ∃ otherResults, others.mapM f = .ok otherResults ∧ results.Perm otherResults := by
  obtain ⟨otherResults, related, same⟩ :=
    List.perm_comp_forall₂ permuted.symm (mapM_eq_ok.mp traversed)
  exact ⟨otherResults, mapM_eq_ok.mpr related, same.symm⟩

/-- A traversal whose steps succeed under a condition, with a known result. -/
theorem mapM_eq_ok_map {condition : α → Prop} {value : α → β}
    (each : ∀ item result, f item = .ok result ↔ condition item ∧ value item = result) :
    items.mapM f = .ok results ↔ (∀ item ∈ items, condition item) ∧ items.map value = results := by
  rw [mapM_eq_ok]
  constructor
  · intro related
    induction related with
    | nil => simp
    | cons head _ ih =>
        obtain ⟨holds, result⟩ := (each _ _).mp head
        rw [List.forall_mem_cons, List.map_cons, result, ih.2]
        exact ⟨⟨holds, ih.1⟩, rfl⟩
  · rintro ⟨holds, rfl⟩
    rw [List.forall₂_map_right_iff, List.forall₂_same]
    exact fun item present => (each _ _).mpr ⟨holds item present, rfl⟩

/-- A check of every item passes just where every item passes it. -/
theorem forM_eq_ok {check : α → Except ε Unit} :
    items.forM check = .ok () ↔ ∀ item ∈ items, check item = .ok () := by
  induction items with
  | nil => exact iff_of_true rfl (fun _ => nofun)
  | cons item items ih =>
      change (check item >>= fun _ => items.forM check) = .ok () ↔ _
      rw [bind_eq_ok, List.forall_mem_cons, ← ih]
      exact ⟨fun ⟨_, first, rest⟩ => ⟨first, rest⟩, fun ⟨first, rest⟩ => ⟨(), first, rest⟩⟩

/-- Every item of a successful traversal succeeded. -/
theorem exists_ok_of_mapM {item : α} (traversed : items.mapM f = .ok results)
    (present : item ∈ items) :
    ∃ result ∈ results, f item = .ok result :=
  Traverse.exists_related_of_mem_left (mapM_eq_ok.mp traversed) present

/-- A traversal succeeds when every item does. -/
theorem exists_mapM_ok (each : ∀ item ∈ items, ∃ result, f item = .ok result) :
    ∃ results, items.mapM f = .ok results := by
  induction items with
  | nil => exact ⟨[], rfl⟩
  | cons item items ih =>
      rw [List.forall_mem_cons] at each
      obtain ⟨result, first⟩ := each.1
      obtain ⟨results, others⟩ := ih each.2
      rw [List.mapM_cons]
      exact ⟨_, bind_eq_ok.mpr ⟨result, first, bind_eq_ok.mpr ⟨results, others, rfl⟩⟩⟩

/-- A traversal whose steps are known on the right agrees with a map. -/
theorem map_eq_of_mapM {γ : Type*} {left : α → γ} {right : β → γ}
    (traversed : items.mapM f = .ok results)
    (each : ∀ item result, f item = .ok result → left item = right result) :
    items.map left = results.map right := by
  have related := mapM_eq_ok.mp traversed
  clear traversed
  induction related with
  | nil => rfl
  | cons head _ ih =>
      rw [List.map_cons, List.map_cons, each _ _ head, ih]

/-- What holds of the result of every item holds of the results. -/
theorem forall_mem_of_mapM {property : β → Prop} (traversed : items.mapM f = .ok results)
    (each : ∀ item ∈ items, ∀ result, f item = .ok result → property result) :
    ∀ result ∈ results, property result := by
  intro result found
  obtain ⟨item, present, succeeded⟩ :=
    Traverse.exists_related_of_mem_right (mapM_eq_ok.mp traversed) found
  exact each item present result succeeded

/-- The results of a traversal are those of its items. -/
theorem mem_mapM_iff {result : β} (traversed : items.mapM f = .ok results) :
    result ∈ results ↔ ∃ item ∈ items, f item = .ok result := by
  constructor
  · exact Traverse.exists_related_of_mem_right (mapM_eq_ok.mp traversed)
  · rintro ⟨item, present, succeeded⟩
    obtain ⟨other, found, same⟩ := exists_ok_of_mapM traversed present
    rw [succeeded] at same
    rwa [Except.ok.inj same]

/-- Two traversals of items with the same selected results select them in the
same order, if that is the order of a key that tells the results apart. -/
theorem sortedBy_filter_eq_of_mapM {κ ι : Type*} [LinearOrder κ]
    {others : List α} {otherResults : List β} (traversed : items.mapM f = .ok results)
    (otherTraversed : others.mapM f = .ok otherResults)
    {itemId : α → ι} {resultId : β → ι} {key : β → κ} {keep : β → Bool}
    (ids : ∀ item result, f item = .ok result → itemId item = resultId result)
    (keyed : ∀ left right, key left = key right → resultId left = resultId right)
    (distinct : (items.map itemId).Nodup) (otherDistinct : (others.map itemId).Nodup)
    (same : ∀ item result, f item = .ok result → keep result = true →
      (item ∈ items ↔ item ∈ others)) :
    sortedBy key (results.filter keep) = sortedBy key (otherResults.filter keep) := by
  have resultIds : (results.map resultId).Nodup := by
    rw [← map_eq_of_mapM traversed ids]
    exact distinct
  have otherIds : (otherResults.map resultId).Nodup := by
    rw [← map_eq_of_mapM otherTraversed ids]
    exact otherDistinct
  have permuted : (results.filter keep).Perm (otherResults.filter keep) := by
    rw [List.perm_ext_iff_of_nodup (resultIds.of_map.filter _) (otherIds.of_map.filter _)]
    intro result
    rw [List.mem_filter, List.mem_filter, mem_mapM_iff traversed, mem_mapM_iff otherTraversed]
    constructor
    · rintro ⟨⟨item, present, succeeded⟩, kept⟩
      exact ⟨⟨item, (same item result succeeded kept).mp present, succeeded⟩, kept⟩
    · rintro ⟨⟨item, present, succeeded⟩, kept⟩
      exact ⟨⟨item, (same item result succeeded kept).mpr present, succeeded⟩, kept⟩
  refine sortedBy_eq_of_perm permuted ?_
  intro left leftListed right rightListed equal
  exact List.inj_on_of_nodup_map resultIds (List.mem_filter.mp leftListed).1
    (List.mem_filter.mp rightListed).1 (keyed left right equal)

end Traversal

/-- An invariant of the steps of a loop holds after the loop. -/
theorem foldlM_invariant {σ : Type u} {f : σ → α → Except ε σ} (invariant : σ → Prop)
    (preserves : ∀ state item next, invariant state → f state item = .ok next → invariant next)
    {items : List α} {state final : σ} (holds : invariant state)
    (result : items.foldlM f state = .ok final) :
    invariant final := by
  induction items generalizing state with
  | nil =>
      rw [List.foldlM_nil, pure_eq_ok] at result
      exact result ▸ holds
  | cons item items ih =>
      rw [List.foldlM_cons] at result
      obtain ⟨next, step, rest⟩ := bind_eq_ok.mp result
      exact ih (preserves state item next holds step) rest

/-- A loop whose steps put items into the state puts them all there. -/
theorem foldlM_collect {σ : Type u} {f : σ → α → Except ε σ}
    (put : σ → List β → σ) (added : α → Option β) (putNothing : ∀ state, put state [] = state)
    (putTwice : ∀ state first second, put (put state first) second = put state (first ++ second))
    (step : ∀ state item next, f state item = .ok next → next = put state (added item).toList)
    {items : List α} {state final : σ} (result : items.foldlM f state = .ok final) :
    final = put state (items.filterMap added) := by
  induction items generalizing state with
  | nil =>
      rw [List.foldlM_nil, pure_eq_ok] at result
      rw [List.filterMap_nil, putNothing, result]
  | cons item items ih =>
      rw [List.foldlM_cons] at result
      obtain ⟨next, taken, rest⟩ := bind_eq_ok.mp result
      rw [ih rest, step state item next taken, putTwice]
      cases outcome : added item <;> simp [outcome]

end Foundation.Outcome
