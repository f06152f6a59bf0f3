import Mathlib.Algebra.GroupWithZero.Nat
import Mathlib.Data.List.Nodup

/-!
# Lists with distinct keys

`insertUnique` adds an item to a list under its key, unless a different item
is there already.
-/

namespace Foundation.Keyed

variable {α β κ : Type*} [DecidableEq α] [DecidableEq β] [DecidableEq κ]

/-- Add an item unless its key is taken; `none` when a different item has
it. -/
def insertUnique (key : α → κ) (items : List α) (item : α) : Option (List α) :=
  match items.find? fun prior => key prior = key item with
  | some prior => if prior = item then some items else none
  | none => some (items ++ [item])

variable {key : α → κ} {items result : List α} {item : α}

theorem insertUnique_eq_some (inserted : insertUnique key items item = some result) :
    result = items ∨ result = items ++ [item] ∧ ∀ prior ∈ items, key prior ≠ key item := by
  unfold insertUnique at inserted
  split at inserted
  · split_ifs at inserted
    exact .inl (Option.some.inj inserted).symm
  · rename_i absent
    refine .inr ⟨(Option.some.inj inserted).symm, fun prior present => ?_⟩
    simpa using List.find?_eq_none.mp absent prior present

/-- The item is there afterwards. -/
theorem mem_of_insertUnique (inserted : insertUnique key items item = some result) :
    item ∈ result := by
  unfold insertUnique at inserted
  split at inserted
  · rename_i prior found
    split_ifs at inserted with same
    rw [← Option.some.inj inserted, ← same]
    exact List.mem_of_find?_eq_some found
  · rw [← Option.some.inj inserted]
    exact List.mem_append_right _ (List.mem_singleton_self _)

/-- An item is added if no different item has its key. -/
theorem exists_insertUnique
    (consistent : ∀ prior ∈ items, key prior = key item → prior = item) :
    ∃ result, insertUnique key items item = some result := by
  unfold insertUnique
  split
  · rename_i prior found
    have same := List.find?_some found
    rw [decide_eq_true_eq] at same
    rw [if_pos (consistent prior (List.mem_of_find?_eq_some found) same)]
    exact ⟨_, rfl⟩
  · exact ⟨_, rfl⟩

/-- An item with a new key is added at the end. -/
theorem insertUnique_of_absent (absent : ∀ prior ∈ items, key prior ≠ key item) :
    insertUnique key items item = some (items ++ [item]) := by
  have missing : (items.find? fun prior => key prior = key item) = none := by
    simpa using absent
  rw [insertUnique, missing]

/-- Keys stay distinct. -/
theorem nodup_insertUnique (distinct : (items.map key).Nodup)
    (inserted : insertUnique key items item = some result) : (result.map key).Nodup := by
  rcases insertUnique_eq_some inserted with rfl | ⟨rfl, absent⟩
  · exact distinct
  · rw [List.map_append, List.nodup_append]
    refine ⟨distinct, List.nodup_singleton _, ?_⟩
    intro old present new added
    obtain ⟨prior, priorPresent, rfl⟩ := List.mem_map.mp present
    rw [List.map_singleton, List.mem_singleton] at added
    rw [added]
    exact absent prior priorPresent

/-- Every item of the result was there or was added. -/
theorem mem_insertUnique (inserted : insertUnique key items item = some result)
    {other : α} (present : other ∈ result) :
    other ∈ items ∨ other = item := by
  rcases insertUnique_eq_some inserted with rfl | ⟨rfl, _⟩
  · exact .inl present
  · simpa using present

/-- Insertion commutes with a change of the items that keeps keys and does not
identify an item with the added one. -/
theorem insertUnique_map {convert : α → β} {convertedKey : β → κ}
    (keeps : ∀ item, convertedKey (convert item) = key item)
    (injective : ∀ prior ∈ items, convert prior = convert item → prior = item) :
    insertUnique convertedKey (items.map convert) (convert item) =
      (insertUnique key items item).map (List.map convert) := by
  unfold insertUnique
  rw [List.find?_map]
  simp only [Function.comp_def, keeps]
  cases found : items.find? fun prior => decide (key prior = key item) with
  | none => simp
  | some prior =>
      have same : convert prior = convert item ↔ prior = item :=
        ⟨injective prior (List.mem_of_find?_eq_some found), congrArg convert⟩
      by_cases equal : prior = item
      · simp [equal]
      · simp [same, equal]

/-! ## Dictionaries by key -/

section Latest

variable {β : Type*}

/-- The item under a key of `{key(item): item for item in items}`. -/
def latest (key : β → κ) (items : List β) (sought : κ) : Option β :=
  items.reverse.find? fun item => key item = sought

theorem mem_of_latest {key : β → κ} {items : List β} {sought : κ} {item : β}
    (found : latest key items sought = some item) :
    item ∈ items ∧ key item = sought := by
  have holds := List.find?_some found
  have listed := List.mem_of_find?_eq_some found
  exact ⟨List.mem_reverse.mp listed, of_decide_eq_true holds⟩

theorem latest_eq_none_iff {key : β → κ} {items : List β} {sought : κ} :
    latest key items sought = none ↔ sought ∉ items.map key := by
  simp [latest]

theorem exists_latest_iff {key : β → κ} {items : List β} {sought : κ} :
    (∃ item, latest key items sought = some item) ↔ sought ∈ items.map key := by
  rw [← Option.ne_none_iff_exists', ne_eq, latest_eq_none_iff, not_not]

/-- Keys that tell the items apart find each of them. -/
theorem latest_eq_some_iff {key : β → κ} {items : List β} {sought : κ} {item : β}
    (distinct : (items.map key).Nodup) :
    latest key items sought = some item ↔ item ∈ items ∧ key item = sought := by
  constructor
  · exact mem_of_latest
  · rintro ⟨listed, rfl⟩
    have present : key item ∈ items.map key := List.mem_map_of_mem listed
    obtain ⟨other, found⟩ := exists_latest_iff.mpr present
    obtain ⟨otherListed, same⟩ := mem_of_latest found
    rw [found, List.inj_on_of_nodup_map distinct otherListed listed same]

end Latest

/-! ## Association lists -/

section Lookup

variable {ν : Type*}

/-- Looking up a key that occurs once. -/
theorem lookup_append_cons {front later : List (κ × ν)} {entry : κ × ν}
    (distinct : ((front ++ entry :: later).map Prod.fst).Nodup) :
    (front ++ entry :: later).lookup entry.1 = some entry.2 := by
  rw [List.lookup_eq_some_iff]
  refine ⟨front, later, rfl, fun other present => ?_⟩
  rw [List.map_append, List.nodup_append] at distinct
  have differs := distinct.2.2 other.1 (List.mem_map_of_mem present) entry.1 (by simp)
  simpa using differs.symm

theorem lookup_of_mem {entries : List (κ × ν)} {entry : κ × ν}
    (distinct : (entries.map Prod.fst).Nodup) (present : entry ∈ entries) :
    entries.lookup entry.1 = some entry.2 := by
  obtain ⟨front, later, rfl⟩ := List.append_of_mem present
  exact lookup_append_cons distinct

theorem mem_of_lookup {entries : List (κ × ν)} {sought : κ} {value : ν}
    (found : entries.lookup sought = some value) : (sought, value) ∈ entries := by
  obtain ⟨_, _, split, _⟩ := List.lookup_eq_some_iff.mp found
  rw [split]
  exact List.mem_append_right _ List.mem_cons_self

theorem lookup_eq_none_iff_notMem {entries : List (κ × ν)} {sought : κ} :
    entries.lookup sought = none ↔ sought ∉ entries.map Prod.fst := by
  rw [List.lookup_eq_none_iff, List.mem_map, not_exists]
  apply forall_congr'
  intro entry
  rw [not_and, bne_iff_ne, ne_comm]

/-- Lists with the same keys in the same order, compared under each key. -/
theorem forall₂_iff_lookup {μ : Type*} {related : κ → ν → μ → Prop}
    {entries : List (κ × ν)} {others : List (κ × μ)}
    (sameKeys : entries.map Prod.fst = others.map Prod.fst)
    (distinct : (entries.map Prod.fst).Nodup) :
    List.Forall₂ (fun entry other => related entry.1 entry.2 other.2)
        entries others ↔
      ∀ key, Option.Rel (related key) (entries.lookup key) (others.lookup key) := by
  induction entries generalizing others with
  | nil =>
      cases others with
      | nil => exact ⟨fun _ _ => Option.Rel.none, fun _ => .nil⟩
      | cons other others => cases sameKeys
  | cons entry entries ih =>
      cases others with
      | nil => cases sameKeys
      | cons other others =>
          obtain ⟨key, value⟩ := entry
          obtain ⟨otherKey, otherValue⟩ := other
          rw [List.map_cons, List.map_cons, List.cons.injEq] at sameKeys
          obtain ⟨rfl, laterKeys⟩ := sameKeys
          rw [List.map_cons, List.nodup_cons] at distinct
          obtain ⟨fresh, later⟩ := distinct
          rw [List.forall₂_cons, ih laterKeys later]
          constructor
          · rintro ⟨head, rest⟩ sought
            by_cases same : sought = key
            · simpa [same, List.lookup_cons] using Option.Rel.some head
            · have differs : (sought == key) = false := by simpa using same
              simpa [List.lookup_cons, differs] using rest sought
          · intro each
            refine ⟨?_, fun sought => ?_⟩
            · simpa [List.lookup_cons] using each key
            · by_cases same : sought = key
              · rw [lookup_eq_none_iff_notMem.mpr (same ▸ fresh),
                  lookup_eq_none_iff_notMem.mpr (laterKeys ▸ same ▸ fresh)]
                exact Option.Rel.none
              · have differs : (sought == key) = false := by simpa using same
                simpa [List.lookup_cons, differs] using each sought

/-- The counts of keys, without those that are zero. -/
def tally (keys : List κ) (count : κ → Nat) : List (κ × Nat) :=
  (keys.map fun key => (key, count key)).filter fun entry => entry.2 ≠ 0

omit [DecidableEq κ] in
theorem tally_cons (first : κ) (keys : List κ) (count : κ → Nat) :
    tally (first :: keys) count =
      if count first = 0 then tally keys count
      else (first, count first) :: tally keys count := by
  unfold tally
  rw [List.map_cons, List.filter_cons]
  by_cases zero : count first = 0 <;> simp [zero]

/-- A count that is left out is read as zero. -/
theorem getD_lookup_tally (keys : List κ) (count : κ → Nat) (sought : κ) :
    ((tally keys count).lookup sought).getD 0 =
      if sought ∈ keys then count sought else 0 := by
  induction keys with
  | nil => rfl
  | cons first keys ih =>
      rw [tally_cons]
      simp only [List.mem_cons]
      by_cases same : sought = first
      · subst same
        by_cases zero : count sought = 0
        · rw [if_pos zero, ih, zero, ite_self, ite_self]
        · simp [zero]
      · have differs : (sought == first) = false := by simpa using same
        by_cases zero : count first = 0
        · simp [zero, same, ih]
        · simp [zero, same, differs, List.lookup_cons, ih]

omit [DecidableEq κ] in
theorem sum_tally (keys : List κ) (count : κ → Nat) :
    ((tally keys count).map Prod.snd).sum = (keys.map count).sum := by
  induction keys with
  | nil => rfl
  | cons first keys ih =>
      rw [tally_cons, List.map_cons, List.sum_cons]
      split_ifs with zero
      · rw [ih, zero, Nat.zero_add]
      · rw [List.map_cons, List.sum_cons, ih]

end Lookup

end Foundation.Keyed

/-!
## Dictionaries

Association lists in insertion order, as Python's dictionaries list their
items.
-/

namespace Foundation.Dictionary

variable {κ ν : Type*} [DecidableEq κ]

/-- `items[key] = value`. -/
def assign (key : κ) (value : ν) : List (κ × ν) → List (κ × ν)
  | [] => [(key, value)]
  | item :: items =>
      if item.1 = key then (key, value) :: items
      else item :: assign key value items

/-- Assign pairs from left to right. -/
def update (items pairs : List (κ × ν)) : List (κ × ν) :=
  pairs.foldl (fun items pair => assign pair.1 pair.2 items) items

/-- `dict(pairs)`. -/
def ofPairs (pairs : List (κ × ν)) : List (κ × ν) :=
  update [] pairs

variable {items : List (κ × ν)} {key : κ} {value : ν}

/-- Assigning a new key adds its item at the end. -/
theorem assign_of_absent (absent : key ∉ items.map Prod.fst) :
    assign key value items = items ++ [(key, value)] := by
  induction items with
  | nil => rfl
  | cons item items ih =>
      rw [List.map_cons, List.mem_cons, not_or] at absent
      rw [assign, if_neg (Ne.symm absent.1), ih absent.2, List.cons_append]

/-- Assigning the value that a key has changes nothing. -/
theorem assign_of_mem (distinct : (items.map Prod.fst).Nodup) (present : (key, value) ∈ items) :
    assign key value items = items := by
  induction items with
  | nil => cases present
  | cons item items ih =>
      rw [List.map_cons, List.nodup_cons] at distinct
      rcases List.mem_cons.mp present with rfl | later
      · rw [assign, if_pos rfl]
      · have differs : item.1 ≠ key := by
          rintro rfl
          exact distinct.1 (List.mem_map.mpr ⟨_, later, rfl⟩)
        rw [assign, if_neg differs, ih distinct.2 later]

/-- Pairs with distinct keys are a dictionary already. -/
theorem ofPairs_eq_self {pairs : List (κ × ν)} (distinct : (pairs.map Prod.fst).Nodup) :
    ofPairs pairs = pairs := by
  suffices general : ∀ items : List (κ × ν),
      ((items ++ pairs).map Prod.fst).Nodup → update items pairs = items ++ pairs by
    exact general [] distinct
  clear distinct
  induction pairs with
  | nil =>
      intro items _
      rw [List.append_nil]
      rfl
  | cons pair pairs ih =>
      intro items distinct
      have absent : pair.1 ∉ items.map Prod.fst := by
        rw [List.map_append, List.map_cons] at distinct
        intro present
        exact (List.nodup_append'.mp distinct).2.2 present List.mem_cons_self
      have added : update items (pair :: pairs) =
          update (items ++ [pair]) pairs := by
        rw [update, List.foldl_cons, assign_of_absent absent]
        rfl
      have regrouped : items ++ pair :: pairs = (items ++ [pair]) ++ pairs :=
        by simp
      rw [regrouped] at distinct ⊢
      rw [added]
      exact ih _ distinct

end Foundation.Dictionary
