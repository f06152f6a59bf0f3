import SanTanHeights.Shared.Hash
import SanTanHeights.Shared.Lossless

/-!
# Values without numbers

Most projections that the system hashes hold texts and flags only.  Such a
value always has a canonical text, and the text determines it.
-/

namespace SanTanHeights.Shared

open Foundation Foundation.Json Foundation.Sorting

/-! ## Textual values -/

/-- No number, and no dictionary with a repeated key or with the number tag
as its only key. -/
def PlainHere : Json → Prop
  | .int _ | .dec _ => False
  | .obj members => (members.map Prod.fst).Nodup ∧ ¬ IsTagged members
  | _ => True

/-- A value made of texts, flags and nulls. -/
def Textual (value : Json) : Prop :=
  All PlainHere value

@[simp] theorem textual_null : Textual .null := trivial

@[simp] theorem textual_bool (flag : Bool) : Textual (.bool flag) := trivial

@[simp] theorem textual_str (text : String) : Textual (.str text) := trivial

@[simp] theorem textual_ofOptional (text : Option String) : Textual (.ofOptional text) := by
  cases text <;> trivial

@[simp] theorem textual_arr (items : List Json) :
    Textual (.arr items) ↔ ∀ item ∈ items, Textual item := by
  simp [Textual, all_arr, PlainHere]

theorem textual_obj (members : List (String × Json)) :
    Textual (.obj members) ↔ (members.map Prod.fst).Nodup ∧ ¬ IsTagged members ∧
        ∀ member ∈ members, Textual member.2 := by
  simp [Textual, all_obj, PlainHere, and_assoc]

variable {value : Json}

/-- A condition that holds of every plain value holds at every level. -/
theorem Textual.all {condition : Json → Prop} (textual : Textual value)
    (implied : ∀ value, PlainHere value → condition value) :
    All condition value := by
  induction value with
  | null => exact implied _ textual
  | bool flag => exact implied _ textual
  | int number => exact implied _ textual
  | dec number => exact implied _ textual
  | str text => exact implied _ textual
  | arr items ih =>
      rw [all_arr]
      exact ⟨implied _ textual.self, fun item present =>
        ih item present (((all_arr _ _).mp textual).2 item present)⟩
  | obj members ih =>
      rw [all_obj]
      exact ⟨implied _ textual.self, fun member present =>
        ih member present (((all_obj _ _).mp textual).2 member present)⟩

theorem Textual.distinctKeys (textual : Textual value) : value.DistinctKeys := by
  refine textual.all fun value plain => ?_
  cases value with
  | obj members => exact plain.1
  | _ => trivial

theorem Textual.preserved (textual : Textual value) : Preserved value := by
  constructor
  · refine textual.all fun value plain => ?_
    cases value with
    | obj members => exact plain.2
    | _ => trivial
  · refine textual.all fun value plain => ?_
    cases value with
    | int number => exact plain.elim
    | dec number => exact plain.elim
    | _ => trivial

/-- A textual value can be hashed. -/
theorem Textual.exists_canonicalJson (textual : Textual value) :
    ∃ text, canonicalJson value = some text := by
  obtain ⟨chars, written⟩ :=
    Option.ne_none_iff_exists'.mp (canonicalText_ne_none textual.preserved)
  exact ⟨_, by rw [canonicalJson, written, Option.map_some]⟩

theorem Textual.exists_sha256Canonical (textual : Textual value) :
    ∃ fingerprint, sha256Canonical value = .ok fingerprint ∧ Sha256.isHex64 fingerprint = true := by
  obtain ⟨text, written⟩ := textual.exists_canonicalJson
  exact ⟨_, sha256Canonical_eq_ok.mpr ⟨text, written, rfl⟩, Sha256.isHex64_hexdigest text⟩

/-- Textual values with the same canonical text are the same. -/
theorem Textual.same_of_canonicalJson_eq {left right : Json}
    (leftTextual : Textual left) (rightTextual : Textual right)
    (equal : canonicalJson left = canonicalJson right) :
    Same left right :=
  Shared.same_of_canonicalJson_eq
    (lossless_of_preserved leftTextual.distinctKeys leftTextual.preserved)
    (lossless_of_preserved rightTextual.distinctKeys rightTextual.preserved)
    equal

/-! ## Hashed values -/

/-- Without collisions, textual values with the same fingerprint are the
same. -/
theorem Textual.same_of_sha256Canonical_eq
    {texts : Set String} {left right : Json} {fingerprint : String}
    (leftTextual : Textual left) (rightTextual : Textual right)
    (leftHashed : sha256Canonical left = .ok fingerprint)
    (rightHashed : sha256Canonical right = .ok fingerprint)
    (collisionFree : Sha256.CollisionFree texts)
    (leftMember : ∀ text, canonicalJson left = some text → text ∈ texts)
    (rightMember : ∀ text, canonicalJson right = some text → text ∈ texts) :
    Same left right := by
  obtain ⟨leftText, leftWritten, leftHash⟩ := sha256Canonical_eq_ok.mp leftHashed
  obtain ⟨rightText, rightWritten, rightHash⟩ := sha256Canonical_eq_ok.mp rightHashed
  obtain rfl := collisionFree.eq (leftMember leftText leftWritten)
    (rightMember rightText rightWritten) (leftHash.trans rightHash.symm)
  exact leftTextual.same_of_canonicalJson_eq rightTextual (leftWritten.trans rightWritten.symm)

/-! ## Same values, part by part -/

theorem same_str {left right : String} : Same (.str left) (.str right) ↔ left = right := by
  simp [Same, meaning]

theorem same_ofOptional {left right : Option String} :
    Same (.ofOptional left) (.ofOptional right) ↔ left = right := by
  cases left <;> cases right <;> simp [Same, meaning, ofOptional]

theorem same_arr {items others : List Json} :
    Same (.arr items) (.arr others) ↔ List.Forall₂ Same items others := by
  rw [Same, meaning_arr, meaning_arr, Meaning.arr.injEq,
    ← List.forall₂_eq_eq_eq, List.forall₂_map_left_iff, List.forall₂_map_right_iff]
  rfl

/-- Dictionaries with the same keys in the same order, key by key. -/
theorem forall₂_of_same_obj {members others : List (String × Json)}
    (same : Same (.obj members) (.obj others))
    (sameKeys : members.map Prod.fst = others.map Prod.fst)
    (distinct : (members.map Prod.fst).Nodup) :
    List.Forall₂ (fun member other => Same member.2 other.2) members others := by
  have keys : ∀ members : List (String × Json),
      (members.map fun member => (member.1, meaning member.2)).map Prod.fst =
        members.map Prod.fst := by
    intro members
    rw [List.map_map]
    rfl
  have equal := eq_of_perm_of_map_fst_eq (members_perm_of_same same)
    (by rw [keys, keys, sameKeys]) (by rwa [keys])
  rw [← List.forall₂_eq_eq_eq, List.forall₂_map_left_iff, List.forall₂_map_right_iff] at equal
  exact equal.imp fun _ _ pair => (Prod.mk.inj pair).2

/-- A list of equal items, read back through an injective writer. -/
theorem eq_of_same_arr {α : Type*} {write : α → Json}
    (injective : ∀ left right, Same (write left) (write right) → left = right)
    {items others : List α} (same : Same (.arr (items.map write)) (.arr (others.map write))) :
    items = others := by
  rw [same_arr, List.forall₂_map_left_iff, List.forall₂_map_right_iff] at same
  rw [← List.forall₂_eq_eq_eq]
  exact same.imp injective

end SanTanHeights.Shared
