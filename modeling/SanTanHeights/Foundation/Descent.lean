import Mathlib.Data.Fintype.Card
import Mathlib.Data.Set.Finite.List
import Mathlib.Logic.Relation

/-!
# Relations that end

Among finitely many items, following a relation ends from every item unless
the relation leads from some item back to it.
-/

namespace Foundation.Descent

variable {α : Type*} {next : α → α → Prop} {items : List α}

/-- A relation among listed items that has no cycle ends. -/
theorem acc_of_acyclic (inside : ∀ item other, next item other → other ∈ items)
    (acyclic : ∀ item, ¬Relation.TransGen next item item) :
    ∀ item ∈ items, Acc (flip next) item := by
  let below := fun first second : { item // item ∈ items } =>
    Relation.TransGen next second.1 first.1
  have finite : Finite { item // item ∈ items } := (List.finite_toSet items).to_subtype
  have transitive : IsTrans _ below := ⟨fun _ _ _ later earlier => earlier.trans later⟩
  have irreflexive : Std.Irrefl below := ⟨fun item => acyclic item.1⟩
  have wellFounded : WellFounded below := Finite.wellFounded_of_trans_of_irrefl below
  intro item present
  have descent : ∀ start : { item // item ∈ items },
      Acc (flip next) start.1 := by
    intro start
    induction start using wellFounded.induction with
    | _ start ih =>
        refine Acc.intro _ fun other step => ?_
        exact ih ⟨other, inside _ _ step⟩ (.single step)
  exact descent ⟨item, present⟩

/-- An item from which a relation ends does not lead back to itself. -/
theorem not_transGen_of_acc {item : α} (ends : Acc (flip next) item) :
    ¬Relation.TransGen next item item := by
  induction ends with
  | intro item _ ih =>
      intro cycle
      obtain ⟨other, step, rest⟩ := Relation.TransGen.head'_iff.mp cycle
      exact ih other step (Relation.TransGen.tail' rest step)

end Foundation.Descent
