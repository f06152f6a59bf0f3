import Mathlib.Data.List.Basic
import Mathlib.Logic.Function.Basic
import SanTanHeights.Foundation.Outcome

/-!
# Overwriting registers

A table of registers is overwritten by a list of writes, the later of which
count.  Writes that agree with one target reach it where they write, and leave
the rest.
-/

namespace Foundation.Registers

variable {κ ν : Type*} [DecidableEq κ]

/-- The table after some writes. -/
def overwrite (table : κ → ν) (writes : List (κ × ν)) : κ → ν :=
  writes.foldl (fun table write => Function.update table write.1 write.2) table

variable {table target : κ → ν} {writes : List (κ × ν)}

theorem overwrite_apply (agree : ∀ write ∈ writes, write.2 = target write.1) (register : κ) :
    overwrite table writes register =
      if register ∈ writes.map Prod.fst then target register
      else table register := by
  induction writes generalizing table with
  | nil => rfl
  | cons write writes ih =>
      have rest := @ih (Function.update table write.1 write.2)
        fun later present => agree later (List.mem_cons_of_mem _ present)
      change overwrite (Function.update table write.1 write.2) writes register = _
      rw [rest]
      simp only [List.map_cons, List.mem_cons]
      by_cases later : register ∈ writes.map Prod.fst
      · simp [later]
      · by_cases same : register = write.1
        · subst same
          simp [later, agree write List.mem_cons_self]
        · simp [later, same]

/-- The target is reached just when it agrees with the table wherever nothing
is written. -/
theorem overwrite_eq_iff (agree : ∀ write ∈ writes, write.2 = target write.1) :
    overwrite table writes = target ↔
      ∀ register, register ∉ writes.map Prod.fst → table register = target register := by
  constructor
  · intro reached register absent
    have value := @overwrite_apply _ _ _ table _ _ agree register
    rw [if_neg absent, reached] at value
    exact value.symm
  · intro kept
    funext register
    rw [overwrite_apply agree]
    split_ifs with written
    · rfl
    · exact kept register written

/-- A register that is not written keeps its value. -/
theorem overwrite_of_notMem {register : κ} (absent : register ∉ writes.map Prod.fst) :
    overwrite table writes register = table register := by
  induction writes generalizing table with
  | nil => rfl
  | cons write writes ih =>
      rw [List.map_cons, List.mem_cons, not_or] at absent
      exact (ih absent.2).trans (Function.update_of_ne absent.1 _ _)

/-- A register that is written once has the value that is written. -/
theorem overwrite_of_mem {register : κ} {value : ν}
    (distinct : (writes.map Prod.fst).Nodup) (written : (register, value) ∈ writes) :
    overwrite table writes register = value := by
  induction writes generalizing table with
  | nil => cases written
  | cons write writes ih =>
      rw [List.map_cons, List.nodup_cons] at distinct
      rcases List.mem_cons.mp written with rfl | later
      · exact (overwrite_of_notMem distinct.1).trans (Function.update_self _ _ _)
      · exact ih distinct.2 later

/-! ## Guarded writes -/

section Guarded

open Outcome

universe u

variable {ε : Type*} {σ μ : Type u}
  {step : σ → μ → Except ε σ} {items : List μ} {first last : σ}
  (look : σ → κ → ν) (keyOf : μ → κ) (value : μ → ν)
  (passes : ν → μ → Prop)

/-- Steps that write one register each overwrite the registers. -/
theorem look_foldlM
    (writes : ∀ state item next, step state item = .ok next →
      look next = Function.update (look state) (keyOf item) (value item))
    (ran : items.foldlM step first = .ok last) :
    look last = overwrite (look first) (items.map fun item => (keyOf item, value item)) := by
  induction items generalizing first with
  | nil =>
      rw [List.foldlM_nil, pure_eq_ok] at ran
      rw [← ran]
      rfl
  | cons item items ih =>
      rw [List.foldlM_cons] at ran
      obtain ⟨next, taken, rest⟩ := bind_eq_ok.mp ran
      rw [ih rest, writes _ _ _ taken]
      rfl

/-- Steps that check and write distinct registers all find their register as
it was at first. -/
theorem exists_foldlM_iff
    (writes : ∀ state item next, step state item = .ok next →
      look next = Function.update (look state) (keyOf item) (value item))
    (checked : ∀ state item, (∃ next, step state item = .ok next) ↔
      passes (look state (keyOf item)) item)
    (distinct : (items.map keyOf).Nodup) : (∃ last, items.foldlM step first = .ok last) ↔
      ∀ item ∈ items, passes (look first (keyOf item)) item := by
  induction items generalizing first with
  | nil => simp [List.foldlM_nil, pure, Except.pure]
  | cons item items ih =>
      rw [List.map_cons, List.nodup_cons] at distinct
      have kept : ∀ next, step first item = .ok next →
          ∀ later ∈ items, look next (keyOf later) = look first (keyOf later) := by
        intro next taken later listed
        rw [writes _ _ _ taken, Function.update_of_ne]
        exact fun same => distinct.1 (same ▸ List.mem_map_of_mem listed)
      rw [List.forall_mem_cons, ← checked, List.foldlM_cons]
      simp only [bind_eq_ok]
      constructor
      · rintro ⟨last, next, taken, rest⟩
        refine ⟨⟨next, taken⟩, fun later listed => ?_⟩
        rw [← kept next taken later listed]
        exact (ih distinct.2).mp ⟨last, rest⟩ later listed
      · rintro ⟨⟨next, taken⟩, remaining⟩
        obtain ⟨last, rest⟩ := (ih distinct.2).mpr
          fun later listed => by
            rw [kept next taken later listed]
            exact remaining later listed
        exact ⟨last, next, taken, rest⟩

end Guarded

end Foundation.Registers
