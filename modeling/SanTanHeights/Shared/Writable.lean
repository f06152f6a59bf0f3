import SanTanHeights.Shared.Dumps

/-!
# Values that can be written

`json.dumps` raises on a decimal, and on an integer whose text is too long to
convert; every other value has a text.
-/

namespace SanTanHeights.Shared

open Foundation Foundation.Json

instance (number : Int) : Decidable (ShortInt number) := inferInstanceAs (Decidable (_ ≤ _))

/-- No decimal and no long integer. -/
def WritableHere : Json → Prop
  | .int number => ShortInt number
  | .dec _ => False
  | _ => True

/-- A value that `json.dumps` can write. -/
def Writable (value : Json) : Prop :=
  All WritableHere value

@[simp] theorem writable_bool (flag : Bool) : Writable (.bool flag) := trivial

@[simp] theorem writable_str (text : String) : Writable (.str text) := trivial

@[simp] theorem writable_int (number : Int) : Writable (.int number) ↔ ShortInt number := Iff.rfl

@[simp] theorem writable_arr (items : List Json) :
    Writable (.arr items) ↔ ∀ item ∈ items, Writable item := by
  simp [Writable, all_arr, WritableHere]

@[simp] theorem writable_obj (members : List (String × Json)) :
    Writable (.obj members) ↔ ∀ member ∈ members, Writable member.2 := by
  simp [Writable, all_obj, WritableHere]

theorem Writable.exists_dumps {value : Json} (writable : Writable value) :
    ∃ text, dumps value = some text := by
  induction value with
  | null => exact ⟨_, rfl⟩
  | bool flag => cases flag <;> exact ⟨_, rfl⟩
  | int number => exact ⟨_, if_pos writable⟩
  | dec number => exact writable.elim
  | str string => exact ⟨_, rfl⟩
  | arr items ih =>
      rw [writable_arr] at writable
      have written : ∀ item ∈ items, dumps item = some (dumpsOf item) := by
        intro item present
        obtain ⟨text, found⟩ := ih item present (writable item present)
        rw [dumpsOf, found, Option.getD_some]
      rw [dumps_arr, Traverse.mapM_eq_some_map written]
      exact ⟨_, rfl⟩
  | obj members ih =>
      rw [writable_obj] at writable
      have written : ∀ member ∈ members,
          dumpsMember member = some (member.1, dumpsOf member.2) := by
        intro member present
        obtain ⟨text, found⟩ := ih member present (writable member present)
        rw [dumpsMember, dumpsOf, found, Option.map_some, Option.getD_some]
      rw [dumps_obj, Traverse.mapM_eq_some_map written]
      exact ⟨_, rfl⟩

theorem Writable.exists_sha256Dumps {value : Json} (writable : Writable value) :
    ∃ fingerprint, sha256Dumps value = .ok fingerprint := by
  obtain ⟨text, written⟩ := writable.exists_dumps
  exact ⟨_, sha256Dumps_eq_ok.mpr ⟨text, written, rfl⟩⟩

/-!
## Values with a JSON text

`json.dumps` writes a value just where it writes every part of it.
-/

/-- `json.dumps` writes the value. -/
def Serializable (value : Json) : Prop :=
  ∃ text, dumps value = some text

@[simp] theorem serializable_null : Serializable .null := ⟨_, rfl⟩

@[simp] theorem serializable_bool (flag : Bool) : Serializable (.bool flag) := by
  cases flag <;> exact ⟨_, rfl⟩

@[simp] theorem serializable_str (text : String) : Serializable (.str text) := ⟨_, rfl⟩

@[simp] theorem serializable_ofOptional (text : Option String) :
    Serializable (.ofOptional text) := by
  cases text
  · exact serializable_null
  · exact serializable_str _

@[simp] theorem serializable_arr (items : List Json) :
    Serializable (.arr items) ↔ ∀ item ∈ items, Serializable item := by
  constructor
  · rintro ⟨text, written⟩ item listed
    exact ⟨_, (dumps_arr_eq written).1 item listed⟩
  · intro each
    have written : ∀ item ∈ items, dumps item = some (dumpsOf item) := by
      intro item listed
      obtain ⟨text, found⟩ := each item listed
      rw [dumpsOf, found, Option.getD_some]
    rw [Serializable, dumps_arr, Traverse.mapM_eq_some_map written]
    exact ⟨_, rfl⟩

@[simp] theorem serializable_obj (members : List (String × Json)) :
    Serializable (.obj members) ↔ ∀ member ∈ members, Serializable member.2 := by
  constructor
  · rintro ⟨text, written⟩ member listed
    exact ⟨_, (dumps_obj_eq written).1 member listed⟩
  · intro each
    have written : ∀ member ∈ members,
        dumpsMember member = some (member.1, dumpsOf member.2) := by
      intro member listed
      obtain ⟨text, found⟩ := each member listed
      rw [dumpsMember, dumpsOf, found, Option.map_some, Option.getD_some]
    rw [Serializable, dumps_obj, Traverse.mapM_eq_some_map written]
    exact ⟨_, rfl⟩

/-- A value has a hash just where it has a text. -/
theorem exists_sha256Dumps_iff {value : Json} :
    (∃ fingerprint, sha256Dumps value = .ok fingerprint) ↔ Serializable value := by
  constructor
  · rintro ⟨fingerprint, hashed⟩
    obtain ⟨text, written, _⟩ := sha256Dumps_eq_ok.mp hashed
    exact ⟨text, written⟩
  · rintro ⟨text, written⟩
    exact ⟨_, sha256Dumps_eq_ok.mpr ⟨text, written, rfl⟩⟩

end SanTanHeights.Shared
