import SanTanHeights.Foundation.Sorting

/-!
# The leader of a list

The one item that ranks above all others, found by sorting downwards and
comparing the first two items.
-/

namespace Foundation.Leader

open Sorting

variable {α ρ κ : Type*} [LinearOrder ρ] [LinearOrder κ]

/-- Descending stable sort by a projected key. -/
def sortedDown (key : α → κ) (items : List α) : List α :=
  (sortedBy key items.reverse).reverse

theorem sortedDown_perm (key : α → κ) (items : List α) : (sortedDown key items).Perm items :=
  (List.reverse_perm _).trans ((sortedBy_perm key items.reverse).trans (List.reverse_perm items))

theorem pairwise_sortedDown (key : α → κ) (items : List α) :
    (sortedDown key items).Pairwise fun left right =>
      key right ≤ key left :=
  List.pairwise_reverse.mpr (pairwise_sortedBy key items.reverse)

/-- An item that ranks above all others of a list. -/
def Leads (rank : α → ρ) (items : List α) (leader : α) : Prop :=
  ∃ others, items.Perm (leader :: others) ∧ ∀ other ∈ others, rank other < rank leader

namespace Leads

variable {rank : α → ρ} {items others : List α} {leader : α}

theorem mem (leads : Leads rank items leader) : leader ∈ items := by
  obtain ⟨_, permuted, _⟩ := leads
  exact permuted.mem_iff.mpr List.mem_cons_self

theorem rank_le (leads : Leads rank items leader) :
    ∀ item ∈ items, rank item ≤ rank leader := by
  obtain ⟨_, permuted, below⟩ := leads
  intro item listed
  rcases List.mem_cons.mp (permuted.mem_iff.mp listed) with rfl | other
  · exact le_rfl
  · exact (below item other).le

theorem perm (permuted : items.Perm others)
    (leads : Leads rank items leader) : Leads rank others leader := by
  obtain ⟨rest, split, below⟩ := leads
  exact ⟨rest, permuted.symm.trans split, below⟩

end Leads

/-- The leader, nothing of an empty list, or a message where the first two
items have one rank. -/
def leader? (rank : α → ρ) (key : α → κ) (ambiguous : String) (items : List α) :
    Except String (Option α) :=
  match sortedDown key items with
  | [] => .ok none
  | [item] => .ok (some item)
  | first :: second :: _ =>
      if rank first = rank second then .error ambiguous
      else .ok (some first)

variable {rank : α → ρ} {key : α → κ} {ambiguous : String}
  {items others : List α} {leader : α}

theorem leader?_eq_none : leader? rank key ambiguous items = .ok none ↔ items = [] := by
  have permuted := sortedDown_perm key items
  unfold leader?
  split
  · rename_i empty
    rw [empty] at permuted
    exact iff_of_true rfl (List.nil_perm.mp permuted)
  · rename_i item sorted
    rw [sorted] at permuted
    refine iff_of_false nofun fun empty => ?_
    rw [empty] at permuted
    exact List.cons_ne_nil _ _ (List.perm_nil.mp permuted)
  · rename_i first second rest sorted
    rw [sorted] at permuted
    refine iff_of_false ?_ fun empty => ?_
    · split_ifs <;> exact nofun
    · rw [empty] at permuted
      exact List.cons_ne_nil _ _ (List.perm_nil.mp permuted)

/-- Where the key refines the rank, the first item of a sorted list leads it
just where the second ranks lower. -/
theorem leader?_eq_some
    (refines : ∀ left right, key left ≤ key right → rank left ≤ rank right) :
    leader? rank key ambiguous items = .ok (some leader) ↔ Leads rank items leader := by
  have permuted := sortedDown_perm key items
  have ordered := pairwise_sortedDown key items
  unfold leader?
  split
  · rename_i empty
    rw [empty] at permuted
    refine iff_of_false nofun fun leads => ?_
    have listed := leads.mem
    rw [List.nil_perm.mp permuted] at listed
    cases listed
  · rename_i item sorted
    rw [sorted] at permuted
    constructor
    · rintro ⟨⟩
      exact ⟨[], permuted.symm, nofun⟩
    · intro leads
      have listed := permuted.mem_iff.mpr leads.mem
      rw [List.mem_singleton.mp listed]
  · rename_i first second rest sorted
    rw [sorted] at permuted ordered
    have below : ∀ other ∈ second :: rest, rank other ≤ rank second := by
      rw [List.forall_mem_cons]
      refine ⟨le_rfl, fun other listed => refines _ _ ?_⟩
      exact (List.pairwise_cons.mp ordered.of_cons).1 other listed
    have secondBelow : rank second ≤ rank first := refines _ _
      ((List.pairwise_cons.mp ordered).1 second List.mem_cons_self)
    split_ifs with tied
    · refine iff_of_false nofun fun leads => ?_
      obtain ⟨others, split, lower⟩ := leads
      have both := (permuted.trans split).symm
      have firstRank : rank leader ≤ rank first := by
        have listed := both.mem_iff.mp List.mem_cons_self
        rcases List.mem_cons.mp listed with rfl | later
        · exact le_rfl
        · exact (below leader later).trans secondBelow
      have firstLeads : first = leader := by
        rcases List.mem_cons.mp (both.mem_iff.mpr List.mem_cons_self) with
          same | other
        · exact same
        · exact absurd (lower first other) (not_lt_of_ge firstRank)
      rw [firstLeads] at both
      have listed := (List.Perm.cons_inv both).mem_iff.mpr
        (List.mem_cons_self (a := second) (l := rest))
      have lowerSecond := lower second listed
      rw [← tied, firstLeads] at lowerSecond
      exact lt_irrefl _ lowerSecond
    · have lower : ∀ other ∈ second :: rest, rank other < rank first :=
        fun other listed => (below other listed).trans_lt
          (lt_of_le_of_ne secondBelow (Ne.symm tied))
      constructor
      · rintro ⟨⟩
        exact ⟨second :: rest, permuted.symm, lower⟩
      · rintro ⟨others, split, otherLower⟩
        have both := permuted.trans split
        rcases List.mem_cons.mp (both.mem_iff.mp List.mem_cons_self) with
          same | other
        · rw [same]
        · have listed := both.mem_iff.mpr List.mem_cons_self
          rcases List.mem_cons.mp listed with same | later
          · rw [same]
          · exact absurd ((otherLower first other).trans (lower leader later)) (lt_irrefl _)

/-- The order of the items does not matter. -/
theorem leader?_perm (refines : ∀ left right, key left ≤ key right → rank left ≤ rank right)
    (permuted : items.Perm others) :
    leader? rank key ambiguous items = leader? rank key ambiguous others := by
  have known : ∀ {items others : List α}, items.Perm others →
      ∀ result, leader? rank key ambiguous items = .ok result →
        leader? rank key ambiguous others = .ok result := by
    intro items others permuted result found
    cases result with
    | none =>
        rw [leader?_eq_none] at found ⊢
        rw [found] at permuted
        exact List.nil_perm.mp permuted
    | some leader =>
        rw [leader?_eq_some refines] at found ⊢
        exact found.perm permuted
  have message : ∀ (items : List α) text,
      leader? rank key ambiguous items = .error text → text = ambiguous := by
    intro items text failed
    unfold leader? at failed
    split at failed
    · cases failed
    · cases failed
    · split_ifs at failed
      exact (Except.error.inj failed).symm
  cases found : leader? rank key ambiguous items with
  | ok result => exact (known permuted result found).symm
  | error text =>
      cases other : leader? rank key ambiguous others with
      | ok result =>
          rw [known permuted.symm result other] at found
          cases found
      | error otherText =>
          rw [message items text found, message others otherText other]

end Foundation.Leader
