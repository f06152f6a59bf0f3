import Mathlib.Data.List.Forall2
import SanTanHeights.Foundation.Sorting

/-!
# Lists of fallible results

`List.mapM` in `Option`, described by the pairs of inputs and results, and its
interplay with composition and stable sorting.
-/

namespace Foundation.Traverse

open Sorting

variable {α β γ : Type*}

variable {f : α → Option β} {items : List α} {results : List β}
  {relation : α → β → Prop}

/-- A traversal succeeds with the list of the individual results. -/
theorem mapM_eq_some_iff :
    items.mapM f = some results ↔
      List.Forall₂ (fun item result => f item = some result) items results := by
  induction items generalizing results with
  | nil => simp [eq_comm]
  | cons item items ih =>
      simp only [List.mapM_cons, Option.bind_eq_bind, Option.pure_def,
        Option.bind_eq_some_iff, Option.some.injEq, List.forall₂_cons_left_iff]
      constructor
      · rintro ⟨result, first, others, later, rfl⟩
        exact ⟨result, others, first, ih.mp later, rfl⟩
      · rintro ⟨result, others, first, later, rfl⟩
        exact ⟨result, first, others, ih.mpr later, rfl⟩

theorem mapM_eq_some_map {g : α → β} (succeeds : ∀ item ∈ items, f item = some (g item)) :
    items.mapM f = some (items.map g) := by
  rw [mapM_eq_some_iff, List.forall₂_map_right_iff, List.forall₂_same]
  exact succeeds

/-- The results of a traversal, with any value for the failures that do not
occur. -/
theorem eq_map_getD_of_mapM (fallback : β) (succeeded : items.mapM f = some results) :
    (∀ item ∈ items, f item = some ((f item).getD fallback)) ∧
      results = items.map fun item => (f item).getD fallback := by
  have related := mapM_eq_some_iff.mp succeeded
  clear succeeded
  induction related with
  | nil => simp
  | cons head _ ih =>
      obtain ⟨each, rfl⟩ := ih
      refine ⟨?_, by rw [List.map_cons, head, Option.getD_some]⟩
      intro item present
      rcases List.mem_cons.mp present with rfl | later
      · rw [head, Option.getD_some]
      · exact each item later

/-- A traversal fails when one of its items does. -/
theorem mapM_eq_none_iff : items.mapM f = none ↔ ∃ item ∈ items, f item = none := by
  induction items with
  | nil => simp
  | cons item items ih =>
      rw [List.mapM_cons]
      cases first : f item with
      | none => simp [first]
      | some result =>
          cases later : items.mapM f with
          | none => simp [first, ← ih, later]
          | some results =>
              have := ih.not.mp (by simp [later])
              simpa [first] using this

/-- Two traversals in sequence are one traversal. -/
theorem mapM_bind_mapM (f : α → Option β) (g : β → Option γ) (items : List α) :
    (items.mapM f).bind (List.mapM g) = items.mapM fun item => (f item).bind g := by
  induction items with
  | nil => rfl
  | cons item items ih =>
      rw [List.mapM_cons, List.mapM_cons, ← ih]
      cases f item with
      | none => rfl
      | some result =>
          cases items.mapM f with
          | none => simp
          | some results => simp

theorem mapM_map_result (f : α → Option β) (g : β → γ) (items : List α) :
    (items.mapM fun item => (f item).map g) = (items.mapM f).map (List.map g) := by
  have single : ∀ results : List β,
      results.mapM (fun result => some (g result)) = some (results.map g) :=
    fun results => mapM_eq_some_map fun _ _ => rfl
  have composed := mapM_bind_mapM f (fun result => some (g result)) items
  simp only [Option.map_eq_bind, Function.comp_def]
  rw [← composed]
  simp only [single]

/-- Traversals that agree on every item are equal. -/
theorem mapM_congr {m : Type* → Type*} [Monad m] [LawfulMonad m] {δ : Type _} {f g : α → m δ}
    (agree : ∀ item ∈ items, f item = g item) :
    items.mapM f = items.mapM g := by
  induction items with
  | nil => rfl
  | cons item items ih =>
      rw [List.forall_mem_cons] at agree
      rw [List.mapM_cons, List.mapM_cons, agree.1, ih agree.2]

/-! ## Related elements -/

theorem exists_related_of_mem_left (related : List.Forall₂ relation items results)
    {item : α} (listed : item ∈ items) :
    ∃ result ∈ results, relation item result := by
  induction related with
  | nil => cases listed
  | cons head _ ih =>
      rcases List.mem_cons.mp listed with rfl | later
      · exact ⟨_, List.mem_cons_self, head⟩
      · obtain ⟨result, present, found⟩ := ih later
        exact ⟨result, List.mem_cons_of_mem _ present, found⟩

theorem exists_related_of_mem_right (related : List.Forall₂ relation items results)
    {result : β} (listed : result ∈ results) :
    ∃ item ∈ items, relation item result :=
  exists_related_of_mem_left related.flip listed

/-! ## Sorting -/

variable {κ : Type*} [LinearOrder κ]

theorem forall₂_sortedBy {keyOfItem : α → κ} {keyOfResult : β → κ}
    (keeps : ∀ item result, relation item result → keyOfResult result = keyOfItem item)
    (related : List.Forall₂ relation items results) :
    List.Forall₂ relation (sortedBy keyOfItem items) (sortedBy keyOfResult results) := by
  have insert : ∀ {item : α} {result : β} {items : List α} {results : List β},
      relation item result → List.Forall₂ relation items results →
      List.Forall₂ relation (items.orderedInsert (fun left right =>
          keyOfItem left ≤ keyOfItem right) item)
        (results.orderedInsert (fun left right =>
          keyOfResult left ≤ keyOfResult right) result) := by
    intro item result items results head tail
    induction tail with
    | nil => exact .cons head .nil
    | cons first later ih =>
        simp only [List.orderedInsert_cons, keeps _ _ head, keeps _ _ first]
        split_ifs
        · exact .cons head (.cons first later)
        · exact .cons first ih
  induction related with
  | nil => exact .nil
  | cons head _ ih => exact insert head ih

/-- Sorting before or after a traversal that keeps the keys is the same. -/
theorem mapM_sortedBy {keyOfItem : α → κ} {keyOfResult : β → κ}
    (keeps : ∀ item result, f item = some result → keyOfResult result = keyOfItem item)
    (items : List α) :
    (sortedBy keyOfItem items).mapM f = (items.mapM f).map (sortedBy keyOfResult) := by
  cases outcome : items.mapM f with
  | none =>
      obtain ⟨item, present, fails⟩ := mapM_eq_none_iff.mp outcome
      exact mapM_eq_none_iff.mpr ⟨item, (mem_sortedBy keyOfItem items item).mpr present, fails⟩
  | some results =>
      exact mapM_eq_some_iff.mpr (forall₂_sortedBy keeps (mapM_eq_some_iff.mp outcome))

end Foundation.Traverse
