import Mathlib.Data.List.Dedup
import SanTanHeights.Foundation.Outcome

/-!
# Merging two keyed lists

Two lists whose items have distinct keys are compared key by key, in the order
of the keys.
-/

namespace Foundation.Merging

open Sorting

variable {α β γ δ ε κ σ : Type*} [LinearOrder κ]

/-! ## Indexing -/

/-- Build a dictionary from rows, one row at a time; a repeated key is an
error. -/
def index (key : α → κ) (describe : κ → ε) :
    List α → List α → Except ε (List α)
  | out, [] => .ok out
  | out, row :: rows =>
      if key row ∈ out.map key then .error (describe (key row))
      else index key describe (out ++ [row]) rows

variable {rows : List α} {sought : κ} {row : α}

/-- Rows with distinct keys are all kept. -/
theorem index_eq_ok {key : α → κ} {out : List α} (describe : κ → ε)
    (distinct : ((out ++ rows).map key).Nodup) :
    index key describe out rows = .ok (out ++ rows) := by
  induction rows generalizing out with
  | nil => rw [index, List.append_nil]
  | cons row rows ih =>
      have moved : out ++ row :: rows = (out ++ [row]) ++ rows := by simp
      have fresh : key row ∉ out.map key := by
        intro taken
        rw [List.map_append, List.nodup_append] at distinct
        exact distinct.2.2 _ taken _ (by simp) rfl
      rw [index, if_neg fresh, moved]
      apply ih
      rwa [← moved]

/-- The row under a key. -/
def get (key : α → κ) (rows : List α) (sought : κ) : Option α :=
  rows.find? fun row => key row = sought

theorem get_eq_some_iff {key : α → κ} (distinct : (rows.map key).Nodup) :
    get key rows sought = some row ↔ row ∈ rows ∧ key row = sought := by
  unfold get
  constructor
  · intro found
    exact ⟨List.mem_of_find?_eq_some found,
      by simpa using List.find?_some found⟩
  · rintro ⟨present, rfl⟩
    cases found : rows.find? fun other => key other = key row with
    | none =>
        have absent := List.find?_eq_none.mp found row present
        simp at absent
    | some other =>
        have same : key other = key row := by
          simpa using List.find?_some found
        rw [List.inj_on_of_nodup_map distinct (List.mem_of_find?_eq_some found) present same]

/-- The row under a key has that key. -/
theorem key_of_get {key : α → κ} (found : get key rows sought = some row) :
    key row = sought := by
  simpa using List.find?_some found

theorem mem_of_get {key : α → κ} (found : get key rows sought = some row) : row ∈ rows :=
  List.mem_of_find?_eq_some found

theorem get_eq_none_iff {key : α → κ} : get key rows sought = none ↔ sought ∉ rows.map key := by
  simp [get]

/-! ## Keys -/

/-- `sorted(set(old) | set(new))`. -/
def unionKeys (old new : List κ) : List κ :=
  sortedBy id (old ++ new).dedup

@[simp] theorem mem_unionKeys {old new : List κ} {key : κ} :
    key ∈ unionKeys old new ↔ key ∈ old ∨ key ∈ new := by
  simp [unionKeys]

theorem nodup_unionKeys (old new : List κ) : (unionKeys old new).Nodup :=
  (Sorting.sortedBy_perm id _).nodup_iff.mpr (List.nodup_dedup _)

theorem unionKeys_comm (old new : List κ) : unionKeys new old = unionKeys old new :=
  Sorting.sortedBy_eq_of_perm (List.perm_append_comm.dedup) fun _ _ _ _ same => same

/-! ## Comparing -/

/-- What a comparison lists for each key of either side. -/
def merge (key : α → κ) (compare : κ → Option α → Option α → List γ)
    (old new : List α) : List γ :=
  (unionKeys (old.map key) (new.map key)).flatMap fun sought =>
    compare sought (get key old sought) (get key new sought)

variable {key : α → κ} {compare : κ → Option α → Option α → List γ}
  {old new : List α}

theorem mem_merge {change : γ} :
    change ∈ merge key compare old new ↔
      ∃ sought, (sought ∈ old.map key ∨ sought ∈ new.map key) ∧
        change ∈ compare sought (get key old sought) (get key new sought) := by
  simp only [merge, List.mem_flatMap, mem_unionKeys]

/-- A key of either side is one under which there is a row. -/
theorem listed_iff : (sought ∈ old.map key ∨ sought ∈ new.map key) ↔
      ((get key old sought).isSome ∨ (get key new sought).isSome) := by
  simp only [Option.isSome_iff_ne_none, ne_eq, get_eq_none_iff, not_not]

theorem map_merge (convert : γ → δ) : (merge key compare old new).map convert =
      merge key (fun sought left right =>
        (compare sought left right).map convert) old new :=
  List.map_flatMap ..

/-- Exchanging the sides exchanges what is listed for each key. -/
theorem merge_swap {swap : γ → γ}
    (swaps : ∀ sought, ((get key old sought).isSome ∨ (get key new sought).isSome) →
        compare sought (get key new sought) (get key old sought) =
          (compare sought (get key old sought) (get key new sought)).map swap) :
    merge key compare new old = (merge key compare old new).map swap := by
  unfold merge
  rw [unionKeys_comm, List.map_flatMap]
  apply List.flatMap_congr
  exact fun sought present => swaps sought (listed_iff.mp (mem_unionKeys.mp present))

/-- A comparison that passes over a key just when both sides have the same
value there passes over everything just when the values are the same. -/
theorem forall_merge_iff {keep : γ → Prop} {project : α → σ}
    (compared : ∀ sought left right, (left.isSome ∨ right.isSome) →
      ((∀ change ∈ compare sought left right, keep change) ↔
        left.map project = right.map project)) :
    (∀ change ∈ merge key compare old new, keep change) ↔
      ∀ sought, (get key old sought).map project = (get key new sought).map project := by
  constructor
  · intro kept sought
    by_cases present : sought ∈ old.map key ∨ sought ∈ new.map key
    · rw [← compared sought _ _ (listed_iff.mp present)]
      exact fun change member => kept change (mem_merge.mpr ⟨sought, present, member⟩)
    · rw [not_or, ← get_eq_none_iff, ← get_eq_none_iff] at present
      rw [present.1, present.2]
  · intro same change member
    obtain ⟨sought, present, compares⟩ := mem_merge.mp member
    exact (compared sought _ _ (listed_iff.mp present)).mpr (same sought) change compares

/-- Keyed lists agree at every key just when they hold the same entries, where
an entry is made of a key and a value. -/
theorem same_get_iff_perm {project : α → σ} {entry : α → β}
    (oldDistinct : (old.map key).Nodup) (newDistinct : (new.map key).Nodup)
    (entryEq : ∀ left right, entry left = entry right ↔
      key left = key right ∧ project left = project right) :
    (∀ sought, (get key old sought).map project = (get key new sought).map project) ↔
      (old.map entry).Perm (new.map entry) := by
  have distinctEntries : ∀ rows : List α, (rows.map key).Nodup →
      (rows.map entry).Nodup := by
    intro rows distinct
    refine List.Nodup.map_on (fun left present right other same => ?_) distinct.of_map
    exact List.inj_on_of_nodup_map distinct present other ((entryEq left right).mp same).1
  have agrees : ∀ {rows others : List α}, (others.map key).Nodup →
      (∀ sought, (get key rows sought).map project =
        (get key others sought).map project) → (rows.map key).Nodup →
      ∀ value ∈ rows.map entry, value ∈ others.map entry := by
    intro rows others othersDistinct same distinct value listed
    obtain ⟨row, present, rfl⟩ := List.mem_map.mp listed
    have found := (get_eq_some_iff distinct).mpr ⟨present, rfl⟩
    have there := same (key row)
    rw [found, Option.map_some] at there
    obtain ⟨other, otherFound, projected⟩ := Option.map_eq_some_iff.mp there.symm
    obtain ⟨otherPresent, sameKey⟩ := (get_eq_some_iff othersDistinct).mp otherFound
    exact List.mem_map.mpr ⟨other, otherPresent, (entryEq _ _).mpr ⟨sameKey, projected⟩⟩
  constructor
  · intro same
    rw [List.perm_ext_iff_of_nodup (distinctEntries old oldDistinct)
      (distinctEntries new newDistinct)]
    exact fun value => ⟨agrees newDistinct same oldDistinct value,
      agrees oldDistinct (fun sought => (same sought).symm) newDistinct value⟩
  · intro permuted sought
    have projected : ∀ {rows others : List α}, (rows.map key).Nodup →
        (others.map key).Nodup →
        (rows.map entry).Perm (others.map entry) →
        ∀ row, get key rows sought = some row →
          (get key others sought).map project = some (project row) := by
      intro rows others distinct othersDistinct permuted row found
      obtain ⟨present, rfl⟩ := (get_eq_some_iff distinct).mp found
      obtain ⟨other, otherPresent, sameEntry⟩ := List.mem_map.mp
        (permuted.subset (List.mem_map_of_mem present))
      obtain ⟨sameKey, sameValue⟩ := (entryEq _ _).mp sameEntry
      rw [(get_eq_some_iff othersDistinct).mpr ⟨otherPresent, sameKey⟩, Option.map_some, sameValue]
    cases oldFound : get key old sought with
    | some row =>
        rw [projected oldDistinct newDistinct permuted row oldFound, Option.map_some]
    | none =>
        cases newFound : get key new sought with
        | none => rfl
        | some row =>
            have there := projected newDistinct oldDistinct permuted.symm row newFound
            rw [oldFound] at there
            cases there

end Foundation.Merging
