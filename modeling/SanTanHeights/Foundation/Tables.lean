import Mathlib.Data.List.Induction
import Mathlib.Data.List.Nodup

/-!
# Tables with a primary key

A table keeps its rows in insertion order and under distinct keys.  A row is
inserted under a new key, and an update changes the rows that meet its guard
and leaves their keys.  What a statement does is read off the row found under
each key.
-/

namespace Foundation

variable {ρ κ : Type*}

/-- Rows under distinct keys. -/
structure Table (key : ρ → κ) where
  rows : List ρ
  distinct : (rows.map key).Nodup

namespace Table

variable {key : ρ → κ}

@[ext] theorem ext {table other : Table key} (rows : table.rows = other.rows) :
    table = other := by
  cases table
  cases other
  congr

/-- No rows. -/
def empty (key : ρ → κ) : Table key :=
  ⟨[], List.nodup_nil⟩

/-- Change the rows that meet a guard. -/
def update (table : Table key) (guard : ρ → Prop) [DecidablePred guard]
    (change : ρ → ρ) (keeps : ∀ row, key (change row) = key row) :
    Table key where
  rows := table.rows.map fun row => if guard row then change row else row
  distinct := by
    have same : (key ∘ fun row => if guard row then change row else row) =
        key := by
      funext row
      rw [Function.comp_apply, apply_ite key, keeps, ite_self]
    rw [List.map_map, same]
    exact table.distinct

variable {guard property : ρ → Prop} {change : ρ → ρ}

/-- A field that the change leaves stays as it is in all rows. -/
theorem map_rows_update {ν : Type*} {field : ρ → ν} {table : Table key} [DecidablePred guard]
    (same : ∀ row, field (change row) = field row) (keeps : ∀ row, key (change row) = key row) :
    (table.update guard change keeps).rows.map field = table.rows.map field := by
  unfold update
  rw [List.map_map]
  congr 1
  funext row
  rw [Function.comp_apply, apply_ite field, same, ite_self]

/-- What holds of every row, and is kept by an update, holds afterwards. -/
theorem forall_update {table : Table key} [DecidablePred guard]
    (holds : ∀ row ∈ table.rows, property row)
    (kept : ∀ row ∈ table.rows, guard row → property (change row))
    (keeps : ∀ row, key (change row) = key row) :
    ∀ row ∈ (table.update guard change keeps).rows, property row := by
  intro row present
  obtain ⟨prior, priorPresent, rfl⟩ := List.mem_map.mp present
  split_ifs with met
  · exact kept prior priorPresent met
  · exact holds prior priorPresent

/-- Of the rows under distinct keys, at most one has a property that
determines its key. -/
theorem countP_eq_ite {table : Table key} [DecidablePred property] {identifier : κ}
    (own : ∀ row, property row → key row = identifier) :
    table.rows.countP property =
      if ∃ row ∈ table.rows, property row then 1 else 0 := by
  have distinct := table.distinct
  generalize table.rows = rows at distinct ⊢
  induction rows with
  | nil => rfl
  | cons row rows ih =>
      rw [List.map_cons, List.nodup_cons] at distinct
      rw [List.countP_cons, ih distinct.2]
      by_cases holds : property row
      · have alone : ∀ other ∈ rows, ¬property other := by
          intro other present otherHolds
          apply distinct.1
          rw [own row holds, ← own other otherHolds]
          exact List.mem_map_of_mem present
        simpa [holds] using alone
      · simp [holds]

section Lookup

variable [DecidableEq κ]

/-- The row under a key. -/
def find (table : Table key) (identifier : κ) : Option ρ :=
  table.rows.find? fun row => key row = identifier

/-- Insert a row, unless its key is taken. -/
def insert (table : Table key) (row : ρ) : Option (Table key) :=
  if absent : ∀ prior ∈ table.rows, key prior ≠ key row then
    some
      { rows := table.rows ++ [row]
        distinct := by
          rw [List.map_append, List.nodup_append]
          refine ⟨table.distinct, List.nodup_singleton _, ?_⟩
          intro old present new added
          obtain ⟨prior, priorPresent, rfl⟩ := List.mem_map.mp present
          rw [List.map_singleton, List.mem_singleton] at added
          rw [added]
          exact absent prior priorPresent }
  else none

variable {table next : Table key} {row : ρ} {identifier : κ}

/-- The row under a key is the row of the table that has it. -/
theorem find_eq_some_iff :
    table.find identifier = some row ↔ row ∈ table.rows ∧ key row = identifier := by
  constructor
  · intro found
    exact ⟨List.mem_of_find?_eq_some found,
      by simpa using List.find?_some found⟩
  · rintro ⟨present, rfl⟩
    cases found : table.find (key row) with
    | none =>
        have absent := List.find?_eq_none.mp found row present
        simp at absent
    | some other =>
        have same : key other = key row := by
          simpa using List.find?_some found
        have shared := List.inj_on_of_nodup_map table.distinct
          (List.mem_of_find?_eq_some found) present same
        rw [shared]

theorem find_of_mem (present : row ∈ table.rows) : table.find (key row) = some row :=
  find_eq_some_iff.mpr ⟨present, rfl⟩

theorem key_of_find (found : table.find identifier = some row) : key row = identifier :=
  (find_eq_some_iff.mp found).2

/-- An update changes the row under a key in place. -/
theorem find_update [DecidablePred guard] {keeps : ∀ row, key (change row) = key row} :
    (table.update guard change keeps).find identifier =
      (table.find identifier).map fun row =>
        if guard row then change row else row := by
  have same : ∀ row, key (if guard row then change row else row) =
      key row := by
    intro row
    rw [apply_ite key, keeps, ite_self]
  unfold find update
  rw [List.find?_map]
  simp only [Function.comp_def, same]

/-- An insertion adds a row under a new key. -/
theorem insert_eq_some_iff :
    table.insert row = some next ↔
      table.find (key row) = none ∧ next.rows = table.rows ++ [row] := by
  have absent : table.find (key row) = none ↔
      ∀ prior ∈ table.rows, key prior ≠ key row := by
    simp [find]
  unfold insert
  split_ifs with free
  · rw [Option.some.injEq, Table.ext_iff, absent, eq_comm]
    exact (and_iff_right free).symm
  · rw [absent]
    simp [free]

/-- A row under a new key is inserted. -/
theorem exists_insert (absent : table.find (key row) = none) :
    ∃ next, table.insert row = some next := by
  have free : ∀ prior ∈ table.rows, key prior ≠ key row := by
    simpa [find] using absent
  unfold insert
  rw [dif_pos free]
  exact ⟨_, rfl⟩

theorem forall_insert (inserted : table.insert row = some next)
    (holds : ∀ row ∈ table.rows, property row) (new : property row) :
    ∀ row ∈ next.rows, property row := by
  intro other present
  rw [(insert_eq_some_iff.mp inserted).2, List.mem_append, List.mem_singleton] at present
  rcases present with present | rfl
  · exact holds other present
  · exact new

theorem find_insert (inserted : table.insert row = some next) :
    next.find identifier =
      if key row = identifier then some row else table.find identifier := by
  obtain ⟨absent, rows⟩ := insert_eq_some_iff.mp inserted
  unfold find
  rw [rows, List.find?_append]
  split_ifs with own
  · subst own
    change (table.find (key row)).or _ = _
    rw [absent]
    simp
  · simp [own]

/-- An insertion leaves the rows that are there. -/
theorem find_insert_of_find {prior : ρ} (inserted : table.insert row = some next)
    (found : table.find identifier = some prior) :
    next.find identifier = some prior := by
  rw [find_insert inserted, if_neg, found]
  intro own
  have absent := (insert_eq_some_iff.mp inserted).1
  rw [own, found] at absent
  cases absent

/-- What is found under a key is found there afterwards. -/
def Extends (table next : Table key) : Prop :=
  ∀ identifier row, table.find identifier = some row → next.find identifier = some row

theorem Extends.refl (table : Table key) : table.Extends table := fun _ _ found => found

theorem Extends.trans {last : Table key} (earlier : table.Extends next)
    (later : next.Extends last) : table.Extends last := by
  intro identifier row found
  exact later identifier row (earlier identifier row found)

theorem extends_of_insert (inserted : table.insert row = some next) : table.Extends next :=
  fun _ _ found => find_insert_of_find inserted found

/-- The inserted row is found under its key. -/
theorem find_self_of_insert (inserted : table.insert row = some next) :
    next.find (key row) = some row := by
  rw [find_insert inserted, if_pos rfl]

/-! ### Rows in place of others -/

/-- Put a row in the place of the row under its key, or at the end. -/
def put (table : Table key) (row : ρ) : Table key where
  rows :=
    if key row ∈ table.rows.map key then
      table.rows.map fun prior => if key prior = key row then row else prior
    else table.rows ++ [row]
  distinct := by
    split_ifs with present
    · have same : (table.rows.map fun prior =>
          if key prior = key row then row else prior).map key =
            table.rows.map key := by
        rw [List.map_map]
        refine List.map_congr_left fun prior _ => ?_
        rw [Function.comp_apply]
        split_ifs with own
        · exact own.symm
        · rfl
      rw [same]
      exact table.distinct
    · rw [List.map_append, List.map_singleton]
      refine List.nodup_append.mpr ⟨table.distinct, List.nodup_singleton _, ?_⟩
      intro taken listed other single same
      rw [List.mem_singleton.mp single] at same
      exact present (same ▸ listed)

/-- Remove the row under a key. -/
def remove (table : Table key) (identifier : κ) : Table key where
  rows := table.rows.filter fun row => key row ≠ identifier
  distinct := table.distinct.sublist (List.filter_sublist.map key)

/-- The table of rows of which later ones take the place of earlier ones. -/
def ofRows (key : ρ → κ) (rows : List ρ) : Table key :=
  rows.foldl put (empty key)

theorem mem_rows_put {other : ρ} :
    other ∈ (table.put row).rows ↔ other = row ∨ other ∈ table.rows ∧ key other ≠ key row := by
  unfold put
  dsimp only
  split_ifs with present
  · obtain ⟨prior, listed, same⟩ := List.mem_map.mp present
    simp only [List.mem_map]
    constructor
    · rintro ⟨item, itemListed, rfl⟩
      split_ifs with own
      · exact .inl rfl
      · exact .inr ⟨itemListed, own⟩
    · rintro (rfl | ⟨itemListed, differs⟩)
      · exact ⟨prior, listed, if_pos same⟩
      · exact ⟨other, itemListed, if_neg differs⟩
  · rw [List.mem_append, List.mem_singleton, or_comm]
    refine or_congr_right (iff_self_and.mpr fun listed same => ?_)
    exact present (same ▸ List.mem_map_of_mem listed)

theorem find_put : (table.put row).find = Function.update table.find (key row) (some row) := by
  funext sought
  ext other
  rw [Function.update_apply, find_eq_some_iff, mem_rows_put]
  split_ifs with own
  · subst own
    rw [Option.some.injEq]
    constructor
    · rintro ⟨rfl | ⟨-, differs⟩, same⟩
      · rfl
      · exact absurd same differs
    · rintro rfl
      exact ⟨.inl rfl, rfl⟩
  · rw [find_eq_some_iff]
    constructor
    · rintro ⟨rfl | ⟨listed, -⟩, same⟩
      · exact absurd same.symm own
      · exact ⟨listed, same⟩
    · rintro ⟨listed, rfl⟩
      exact ⟨.inr ⟨listed, own⟩, rfl⟩

theorem find_remove : (table.remove identifier).find =
      Function.update table.find identifier none := by
  funext sought
  ext other
  rw [Function.update_apply, find_eq_some_iff, remove, List.mem_filter,
    decide_eq_true_eq, and_assoc]
  split_ifs with own
  · subst own
    simp
  · rw [find_eq_some_iff]
    refine and_congr_right fun _ => and_iff_right_of_imp ?_
    rintro rfl
    exact own

/-- Rows under distinct keys are a table already. -/
theorem ofRows_eq {rows : List ρ} (distinct : (rows.map key).Nodup) :
    ofRows key rows = ⟨rows, distinct⟩ := by
  induction rows using List.reverseRecOn with
  | nil => rfl
  | append_singleton rows row ih =>
      have parts := distinct
      rw [List.map_append, List.nodup_append] at parts
      have absent : key row ∉ rows.map key := fun listed =>
        parts.2.2 _ listed _ (List.mem_singleton_self _) rfl
      rw [ofRows, List.foldl_append, List.foldl_cons, List.foldl_nil]
      change put (ofRows key rows) row = _
      rw [ih parts.1]
      exact Table.ext (if_neg absent)

/-- Tables that find the same have the same rows. -/
theorem perm_of_find_eq (same : table.find = next.find) : table.rows.Perm next.rows := by
  refine (List.perm_ext_iff_of_nodup (.of_map key table.distinct)
    (.of_map key next.distinct)).mpr fun row => ?_
  have found : ∀ either : Table key,
      row ∈ either.rows ↔ either.find (key row) = some row := by
    intro either
    rw [find_eq_some_iff, and_iff_left rfl]
  rw [found, found, same]

end Lookup

end Table
end Foundation
