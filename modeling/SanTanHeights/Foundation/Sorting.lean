import Mathlib.Data.List.Sort
import Mathlib.Data.Prod.Lex

/-!
# Stable sorting by a key

`sortedBy key items` is a stable ascending sort.  Its result depends on the
order of the input only through items that share a key.
-/

namespace Foundation.Sorting

variable {α β κ : Type*} [LinearOrder κ]

/-- Ascending stable sort by a projected key. -/
def sortedBy (key : α → κ) (items : List α) : List α :=
  items.insertionSort fun left right => key left ≤ key right

theorem sortedBy_perm (key : α → κ) (items : List α) : (sortedBy key items).Perm items :=
  List.perm_insertionSort _ items

@[simp] theorem sortedBy_nil (key : α → κ) : sortedBy key ([] : List α) = [] := rfl

@[simp] theorem mem_sortedBy (key : α → κ) (items : List α) (item : α) :
    item ∈ sortedBy key items ↔ item ∈ items :=
  (sortedBy_perm key items).mem_iff

@[simp] theorem length_sortedBy (key : α → κ) (items : List α) :
    (sortedBy key items).length = items.length :=
  (sortedBy_perm key items).length_eq

/-- The keys of a sorted list ascend. -/
theorem pairwise_sortedBy (key : α → κ) (items : List α) :
    (sortedBy key items).Pairwise fun left right => key left ≤ key right := by
  have total : Std.Total fun left right : α => key left ≤ key right :=
    ⟨fun left right => le_total (key left) (key right)⟩
  have trans : IsTrans α fun left right => key left ≤ key right :=
    ⟨fun _ _ _ first second => le_trans first second⟩
  exact List.pairwise_insertionSort _ items

variable {key : α → κ} {items : List α}

/-- A relation along an ascending list holds wherever the key grows. -/
theorem rel_of_key_lt {relation : α → α → Prop}
    (ascending : items.Pairwise fun left right => key left ≤ key right)
    (related : items.Pairwise relation) {left right : α}
    (leftListed : left ∈ items) (rightListed : right ∈ items) (earlier : key left < key right) :
    relation left right := by
  let wherever := fun first second =>
    key first < key second → relation first second
  have both := ascending.and related
  have forward : items.Pairwise wherever :=
    both.imp fun pair _ => pair.2
  have backward : items.Pairwise (flip wherever) :=
    both.imp fun pair smaller => absurd smaller (not_lt_of_ge pair.1)
  exact List.Pairwise.forall_of_forall_of_flip
    (fun _ _ smaller => absurd smaller (lt_irrefl _)) forward backward
    leftListed rightListed earlier

/-- Sorting an ascending list changes nothing. -/
theorem sortedBy_eq_self (ascending : items.Pairwise fun left right => key left ≤ key right) :
    sortedBy key items = items :=
  List.Pairwise.insertionSort_eq ascending

/-- Sorting forgets the order of items whose keys tell them apart. -/
theorem sortedBy_eq_of_perm {others : List α} (permuted : items.Perm others)
    (distinct : ∀ left ∈ items, ∀ right ∈ items, key left = key right → left = right) :
    sortedBy key items = sortedBy key others := by
  refine List.Perm.eq_of_pairwise ?_ (pairwise_sortedBy key items)
    (pairwise_sortedBy key others)
    (((sortedBy_perm key items).trans permuted).trans (sortedBy_perm key others).symm)
  intro left right leftMember rightMember below above
  apply distinct left (by simpa using leftMember) right
  · exact permuted.mem_iff.mpr (by simpa using rightMember)
  · exact le_antisymm below above

/-- Equal sorted lists come from permutations of one another. -/
theorem perm_of_sortedBy_eq {others : List α}
    (equal : sortedBy key items = sortedBy key others) :
    items.Perm others :=
  ((sortedBy_perm key items).symm.trans (equal ▸ .refl _)).trans (sortedBy_perm key others)

/-- Sorting commutes with a projection that the key factors through. -/
theorem map_sortedBy (project : α → β) (key : β → κ) (items : List α) :
    (sortedBy (key ∘ project) items).map project = sortedBy key (items.map project) :=
  List.map_insertionSort _ _ project items fun _ _ _ _ => Iff.rfl

/-- One item more is inserted between two parts of the sorted list. -/
theorem exists_sortedBy_cons (key : α → κ) (item : α) (items : List α) :
    ∃ before after, sortedBy key items = before ++ after ∧
      sortedBy key (item :: items) = before ++ item :: after :=
  ⟨_, _, List.takeWhile_append_dropWhile.symm, List.orderedInsert_eq_take_drop _ _ _⟩

omit [LinearOrder κ] in
/-- Permuted lists of entries under the same distinct keys are equal. -/
theorem eq_of_perm_of_map_fst_eq {entries others : List (κ × α)}
    (permuted : entries.Perm others) (sameKeys : entries.map Prod.fst = others.map Prod.fst)
    (distinct : (entries.map Prod.fst).Nodup) :
    entries = others := by
  induction entries generalizing others with
  | nil => exact (List.nil_perm.mp permuted).symm
  | cons entry entries ih =>
      cases others with
      | nil => cases sameKeys
      | cons other others =>
          simp only [List.map_cons, List.cons.injEq] at sameKeys
          simp only [List.map_cons, List.nodup_cons] at distinct
          have present := permuted.subset List.mem_cons_self
          rcases List.mem_cons.mp present with rfl | later
          · rw [ih permuted.cons_inv sameKeys.2 distinct.2]
          · exact absurd (sameKeys.2 ▸ List.mem_map_of_mem later) distinct.1

end Foundation.Sorting
