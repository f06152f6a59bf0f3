import SanTanHeights.Shared.NumberText

/-!
# When canonical JSON is lossless

A value survives `json.loads(canonical_json(value))` exactly when no dictionary
in it has the number tag as its only key and every number in it fits: decimals
keep nothing but zeros beyond the 28 digits of the default context, and
integers stay within the length limit of integer texts.  Necessity of the
first condition is an argument by weight, since the text of a tagged
dictionary may contain arbitrary JSON.
-/

namespace SanTanHeights.Shared

open Foundation Foundation.Json Foundation.Sorting

/-- A JSON value: its dictionaries have distinct keys. -/
def JsonValue : Type :=
  { value : Json // value.DistinctKeys }

/-- `json.loads(canonical_json(value), parse_float=Decimal, parse_int=int)` is
defined and equals `value`. -/
def Lossless (value : Json) : Prop :=
  ∃ text found, canonicalJson value = some text ∧ loads text.toList = some found ∧ Same found value

/-- The number tag is not the only key of a dictionary. -/
def Untagged : Json → Prop
  | .obj members => ¬ IsTagged members
  | _ => True

/-- A number survives being written and read. -/
def NumberFits : Json → Prop
  | .int value => ShortInt value
  | .dec value => DecimalFits value
  | _ => True

/-! ## Reading canonical text -/

mutual

/-- What is read back from the canonical text of an untagged value. -/
def reread : Json → Option Json
  | .null => some .null
  | .bool value => some (.bool value)
  | .str value => some (.str value)
  | .int value => rereadInt value
  | .dec value => rereadDecimal value
  | .arr items => (rereadItems items).map .arr
  | .obj members =>
      (rereadMembers members).map fun found =>
        .obj (sortedBy Prod.fst found)

def rereadItems : List Json → Option (List Json)
  | [] => some []
  | item :: items =>
      (reread item).bind fun first =>
        (rereadItems items).map fun others => first :: others

def rereadMembers : List (String × Json) → Option (List (String × Json))
  | [] => some []
  | (key, value) :: members =>
      (reread value).bind fun first =>
        (rereadMembers members).map fun others => (key, first) :: others

end

theorem reread_arr (items : List Json) :
    reread (.arr items) = (items.mapM reread).map .arr := by
  have nested : rereadItems items = items.mapM reread := by
    induction items with
    | nil => rfl
    | cons item items ih =>
        simp [rereadItems, ih, Option.map_eq_bind]
  rw [reread, nested]

theorem reread_obj (members : List (String × Json)) :
    reread (.obj members) = (members.mapM (memberValue reread)).map fun found =>
        .obj (sortedBy Prod.fst found) := by
  have nested : rereadMembers members = members.mapM (memberValue reread) := by
    induction members with
    | nil => rfl
    | cons member members ih =>
        simp [rereadMembers, ih, memberValue, Option.map_eq_bind, Option.bind_assoc]
  rw [reread, nested]

variable {value : Json} {text : List Char}

/-- The scanner reads the canonical text of an untagged value. -/
theorem reads_canonicalText (distinct : value.DistinctKeys)
    (untagged : All Untagged value) (written : canonicalText value = some text) :
    Reads text (reread value) := by
  induction value generalizing text with
  | null =>
      cases written
      exact reads_null
  | bool flag =>
      cases flag with
      | true =>
          cases written
          exact reads_true
      | false =>
          cases written
          exact reads_false
  | str string =>
      cases written
      exact reads_quote string
  | int number =>
      rw [canonicalText_int] at written
      exact reads_strInt written
  | dec number =>
      rw [canonicalText_dec] at written
      exact reads_normalizeDecimal written
  | arr items ih =>
      obtain ⟨itemText, rfl⟩ := canonicalText_arr_eq written
      rw [reread_arr]
      refine reads_arr items fun item present => ?_
      exact ih item present
        (((all_arr _ _).mp distinct).2 item present)
        (((all_arr _ _).mp untagged).2 item present) (itemText item present)
  | obj members ih =>
      obtain ⟨here, nested⟩ := (all_obj _ _).mp untagged
      obtain ⟨keys, nestedKeys⟩ := (all_obj _ _).mp distinct
      obtain ⟨memberTexts, rfl⟩ := canonicalText_obj_eq here written
      have reads := reads_obj (sortedBy Prod.fst members) fun member present =>
          have original := (mem_sortedBy Prod.fst members member).mp present
          ih member original (nestedKeys member original)
            (nested member original) (memberTexts member original)
      rw [mapM_memberValue_sortedBy] at reads
      rw [reread_obj]
      cases outcome : members.mapM (memberValue reread) with
      | none => simpa [outcome] using reads
      | some found =>
          have foundKeys := map_fst_of_mapM_memberValue outcome
          have permuted := (sortedBy_perm Prod.fst found).map Prod.fst
          have distinctFound :
              ((sortedBy Prod.fst found).map Prod.fst).Nodup := by
            rw [permuted.nodup_iff, foundKeys]
            exact keys
          simpa [outcome, dictOf_eq_self distinctFound] using reads

/-! ## Numbers decide what is read back -/

/-- Reading back succeeds with the same value exactly when every number
fits. -/
theorem numbersFit_iff (distinct : value.DistinctKeys) :
    All NumberFits value ↔ ∃ found, reread value = some found ∧ Same found value := by
  induction value with
  | null => exact ⟨fun _ => ⟨_, rfl, rfl⟩, fun _ => trivial⟩
  | bool flag => exact ⟨fun _ => ⟨_, rfl, rfl⟩, fun _ => trivial⟩
  | str string => exact ⟨fun _ => ⟨_, rfl, rfl⟩, fun _ => trivial⟩
  | int number =>
      change ShortInt number ↔ ∃ found, rereadInt number = some found ∧ _
      unfold ShortInt rereadInt
      split_ifs with short
      · simp [short, Same]
      · simp [short]
  | dec number => exact decimalFits_iff number
  | arr items ih =>
      have nested := ((all_arr _ _).mp distinct).2
      rw [all_arr, reread_arr]
      constructor
      · rintro ⟨_, fits⟩
        have each : ∀ item ∈ items,
            reread item = some ((reread item).getD .null) ∧
              ((reread item).getD .null).meaning = item.meaning := by
          intro item present
          obtain ⟨found, result, same⟩ :=
            (ih item present (nested item present)).mp (fits item present)
          rw [result]
          exact ⟨rfl, same⟩
        refine ⟨_, by
          rw [Traverse.mapM_eq_some_map fun item present =>
            (each item present).1]
          rfl, ?_⟩
        rw [Same, meaning_arr, meaning_arr, List.map_map]
        congr 1
        exact List.map_congr_left fun item present => (each item present).2
      · rintro ⟨found, result, same⟩
        obtain ⟨results, traversed, rfl⟩ := Option.map_eq_some_iff.mp result
        obtain ⟨each, rfl⟩ := Traverse.eq_map_getD_of_mapM .null traversed
        rw [Same, meaning_arr, meaning_arr, List.map_map] at same
        have pointwise := List.map_inj_left.mp (Meaning.arr.inj same)
        exact ⟨trivial, fun item present =>
          (ih item present (nested item present)).mpr
            ⟨_, each item present, pointwise item present⟩⟩
  | obj members ih =>
      obtain ⟨keys, nested⟩ :
          (members.map Prod.fst).Nodup ∧ ∀ member ∈ members, member.2.DistinctKeys :=
        (all_obj _ _).mp distinct
      rw [all_obj, reread_obj]
      constructor
      · rintro ⟨_, fits⟩
        have each : ∀ member ∈ members, memberValue reread member =
                some (member.1, (reread member.2).getD .null) ∧
              ((reread member.2).getD .null).meaning = member.2.meaning := by
          intro member present
          obtain ⟨found, result, same⟩ :=
            (ih member present (nested member present)).mp (fits member present)
          rw [memberValue, result]
          exact ⟨rfl, same⟩
        refine ⟨_, by
          rw [Traverse.mapM_eq_some_map fun member present =>
            (each member present).1]
          rfl, ?_⟩
        rw [Same, meaning_obj_sortedBy, meaning_obj, meaning_obj, List.map_map]
        congr 2
        refine List.map_congr_left fun member present => ?_
        exact congrArg (Prod.mk member.1) (each member present).2
      · rintro ⟨found, result, same⟩
        obtain ⟨results, traversed, rfl⟩ := Option.map_eq_some_iff.mp result
        have sameKeys := map_fst_of_mapM_memberValue traversed
        rw [Same, meaning_obj_sortedBy] at same
        have equal := eq_of_perm_of_map_fst_eq (members_perm_of_same same)
          (by simpa [Function.comp_def] using sameKeys)
          (by simpa [Function.comp_def, sameKeys] using keys)
        obtain ⟨each, rfl⟩ := Traverse.eq_map_getD_of_mapM ("", .null) traversed
        rw [List.map_map] at equal
        have pointwise := List.map_inj_left.mp equal
        refine ⟨trivial, fun member present => ?_⟩
        obtain ⟨value, read, pair⟩ := Option.map_eq_some_iff.mp (each member present)
        refine (ih member present (nested member present)).mpr ⟨value, read, ?_⟩
        have here := pointwise member present
        simp only [Function.comp_apply, ← pair] at here
        exact (Prod.mk.inj here).2

/-! ## Tagged dictionaries lose weight -/

theorem weight_strInt {value : Int} (written : strInt value = some text) : weight text = 0 := by
  unfold strInt at written
  split_ifs at written
  cases written
  exact weight_positional (fun _ present =>
      Nat.isDigit_of_mem_toDigits (by decide) (by decide) present)
    (by simp)

theorem weight_normalizeDecimal {value : Decimal}
    (written : normalizeDecimal value = some text) :
    weight text = 0 := by
  by_cases zero : value.coefficient = 0
  · rw [normalizeDecimal, if_pos zero] at written
    cases written
    rfl
  · cases result : value.normalize with
    | none =>
        rw [normalizeDecimal_eq_none zero result] at written
        cases written
    | some normalized =>
        rw [normalizeDecimal_of_normalize zero result] at written
        cases written
        exact weight_positional
          (fun _ present => Decimal.isDigit_of_mem_wholePart present)
          (fun _ present => Decimal.isDigit_of_mem_fractionPart present)

/-- A text never outweighs its value, and is lighter when the value holds a
tagged dictionary. -/
theorem weight_canonicalText (written : canonicalText value = some text) :
    weight text ≤ cost value ∧ (¬ All Untagged value → weight text < cost value) := by
  induction value generalizing text with
  | null =>
      cases written
      exact ⟨le_of_eq (by decide), fun tagged => absurd trivial tagged⟩
  | bool flag =>
      refine ⟨?_, fun tagged => absurd trivial tagged⟩
      cases flag with
      | true =>
          cases written
          exact le_of_eq (by decide)
      | false =>
          cases written
          exact le_of_eq (by decide)
  | str string =>
      cases written
      exact ⟨le_rfl, fun tagged => absurd trivial tagged⟩
  | int number =>
      rw [canonicalText_int] at written
      rw [weight_strInt written]
      exact ⟨Nat.zero_le _, fun tagged => absurd trivial tagged⟩
  | dec number =>
      rw [canonicalText_dec] at written
      rw [weight_normalizeDecimal written]
      exact ⟨Nat.zero_le _, fun tagged => absurd trivial tagged⟩
  | arr items ih =>
      obtain ⟨itemText, rfl⟩ := canonicalText_arr_eq written
      have opening : weight ['['] = 1 := by decide
      have closing : weight [']'] = 1 := by decide
      have total : weight ('[' :: (joinComma (items.map textOf) ++ [']'])) =
          2 + (items.map fun item => weight (textOf item)).sum := by
        rw [weight_cons, weight_append, weight_joinComma, opening, closing,
          List.map_map, Function.comp_def]
        omega
      have each := fun item present =>
        ih item present (itemText item present)
      rw [total, cost_arr]
      constructor
      · exact Nat.add_le_add_left (List.sum_le_sum fun item present => (each item present).1) 2
      · intro tagged
        rw [all_arr] at tagged
        simp only [Untagged, true_and, not_forall] at tagged
        obtain ⟨item, present, itemTagged⟩ := tagged
        exact Nat.add_lt_add_left (List.sum_lt_sum _ _
          (fun item present => (each item present).1)
          ⟨item, present, (each item present).2 itemTagged⟩) 2
  | obj members ih =>
      by_cases tagged : IsTagged members
      · obtain ⟨value, rfl⟩ := (isTagged_iff_exists members).mp tagged
        rw [canonicalText_tagged] at written
        have lighter : weight text <
            cost (.obj [(canonicalNumber, value)]) := by
          split at written
          · rename_i string
            cases written
            have escaped := weight_le_flatMap_escapeChar string.toList
            simp only [cost_obj, memberCost, cost_str, weight_quote,
              List.map_cons, List.map_nil, List.sum_cons, List.sum_nil]
            omega
          · cases written
        exact ⟨lighter.le, fun _ => lighter⟩
      · obtain ⟨memberTexts, rfl⟩ := canonicalText_obj_eq tagged written
        have opening : weight ['{'] = 1 := by decide
        have closing : weight ['}'] = 1 := by decide
        have colon : weight [':'] = 0 := by decide
        have memberWeight : ∀ member : String × Json,
            weight (memberText textOf member) =
              weight (quote member.1.toList) + weight (textOf member.2) := by
          intro member
          rw [memberText, weight_append, weight_cons ':', colon]
          omega
        have total : weight ('{' :: (joinComma
            ((sortedBy Prod.fst members).map (memberText textOf)) ++ ['}'])) =
            2 + (members.map fun member =>
              weight (quote member.1.toList) + weight (textOf member.2)).sum := by
          rw [weight_cons, weight_append, weight_joinComma, opening, closing, List.map_map,
            ((sortedBy_perm Prod.fst members).map _).sum_eq]
          simp only [Function.comp_def, memberWeight]
          omega
        have each := fun member present =>
          ih member present (memberTexts member present)
        have bounded : ∀ member ∈ members,
            weight (quote member.1.toList) + weight (textOf member.2) ≤ memberCost member :=
          fun member present =>
            Nat.add_le_add_left (each member present).1 _
        rw [total, cost_obj]
        constructor
        · exact Nat.add_le_add_left (List.sum_le_sum bounded) 2
        · intro nestedTag
          rw [all_obj] at nestedTag
          have nestedTag := not_and.mp nestedTag tagged
          simp only [not_forall] at nestedTag
          obtain ⟨member, present, memberTagged⟩ := nestedTag
          exact Nat.add_lt_add_left (List.sum_lt_sum _ _ bounded
            ⟨member, present, Nat.add_lt_add_left ((each member present).2 memberTagged) _⟩) 2

/-! ## Losslessness -/

/-- Values that canonical JSON preserves. -/
def Preserved (value : Json) : Prop :=
  All Untagged value ∧ All NumberFits value

theorem lossless_iff_exists (value : Json) :
    Lossless value ↔ ∃ text found, canonicalText value = some text ∧
      loads text = some found ∧ Same found value := by
  constructor
  · rintro ⟨string, found, written, loaded, same⟩
    obtain ⟨text, chars, rfl⟩ := Option.map_eq_some_iff.mp written
    rw [String.toList_ofList] at loaded
    exact ⟨text, found, chars, loaded, same⟩
  · rintro ⟨text, found, written, loaded, same⟩
    refine ⟨String.ofList text, found, ?_, ?_, same⟩
    · rw [canonicalJson, written, Option.map_some]
    · rwa [String.toList_ofList]

theorem untagged_of_lossless (lossless : Lossless value) : All Untagged value := by
  obtain ⟨text, found, written, loaded, same⟩ := (lossless_iff_exists value).mp lossless
  by_contra tagged
  have lighter := (weight_canonicalText written).2 tagged
  have heavy := cost_le_weight_of_loads loaded
  rw [cost_eq_of_same same] at heavy
  omega

theorem preserved_of_lossless (distinct : value.DistinctKeys) (lossless : Lossless value) :
    Preserved value := by
  have untagged := untagged_of_lossless lossless
  obtain ⟨text, found, written, loaded, same⟩ := (lossless_iff_exists value).mp lossless
  have reads := reads_canonicalText distinct untagged written
  rw [loads_of_reads reads] at loaded
  exact ⟨untagged, (numbersFit_iff distinct).mpr ⟨found, loaded, same⟩⟩

/-- Values whose numbers fit have a canonical text. -/
theorem canonicalText_ne_none (preserved : Preserved value) : canonicalText value ≠ none := by
  obtain ⟨untagged, fits⟩ := preserved
  induction value with
  | null => simp
  | bool flag => cases flag <;> simp
  | str string => simp
  | int number =>
      have short : Decimal.numDigits number.natAbs ≤ maxStrDigits := fits
      rw [canonicalText_int, strInt, if_pos short]
      simp
  | dec number =>
      rw [canonicalText_dec]
      rcases (fits : DecimalFits number) with zero | ⟨divides, short⟩
      · simp [normalizeDecimal, zero]
      · by_cases zero : number.coefficient = 0
        · simp [normalizeDecimal, zero]
        · obtain ⟨normalized, result⟩ := Option.ne_none_iff_exists'.mp
            (normalize_ne_none_of_fits zero divides short)
          simp [normalizeDecimal_of_normalize zero result]
  | arr items ih =>
      rw [canonicalText_arr, Ne, Option.map_eq_none_iff, Traverse.mapM_eq_none_iff]
      rintro ⟨item, present, fails⟩
      exact ih item present
        (((all_arr _ _).mp untagged).2 item present)
        (((all_arr _ _).mp fits).2 item present) fails
  | obj members ih =>
      obtain ⟨here, nested⟩ := (all_obj _ _).mp untagged
      rw [canonicalText_obj here, Ne, Option.map_eq_none_iff, Traverse.mapM_eq_none_iff]
      rintro ⟨member, present, fails⟩
      have original := (mem_sortedBy Prod.fst members member).mp present
      exact ih member original (nested member original)
        (((all_obj _ _).mp fits).2 member original)
        (Option.map_eq_none_iff.mp fails)

theorem lossless_of_preserved (distinct : value.DistinctKeys) (preserved : Preserved value) :
    Lossless value := by
  obtain ⟨text, written⟩ := Option.ne_none_iff_exists'.mp (canonicalText_ne_none preserved)
  obtain ⟨found, result, same⟩ := (numbersFit_iff distinct).mp preserved.2
  have reads := reads_canonicalText distinct preserved.1 written
  rw [lossless_iff_exists]
  exact ⟨text, found, written, (loads_of_reads reads).trans result, same⟩

/-- Lossless values that share a canonical text are the same. -/
theorem same_of_canonicalJson_eq {left right : Json} (leftLossless : Lossless left)
    (rightLossless : Lossless right) (equal : canonicalJson left = canonicalJson right) :
    Same left right := by
  obtain ⟨text, found, written, loaded, same⟩ := leftLossless
  obtain ⟨otherText, other, otherWritten, otherLoaded, otherSame⟩ := rightLossless
  obtain rfl : text = otherText :=
    Option.some.inj (written.symm.trans (equal.trans otherWritten))
  obtain rfl : found = other := Option.some.inj (loaded.symm.trans otherLoaded)
  exact same.symm.trans otherSame

/-- Canonical JSON is lossless exactly on the preserved values, which it
therefore keeps apart. -/
theorem canonicalJson_lossless_iff (value other : JsonValue) :
    (Lossless value.1 ↔ Preserved value.1) ∧
      (Preserved value.1 → Preserved other.1 →
        canonicalJson value.1 = canonicalJson other.1 →
          Same value.1 other.1) := by
  constructor
  · exact ⟨preserved_of_lossless value.2, lossless_of_preserved value.2⟩
  · intro preserved otherPreserved equal
    exact same_of_canonicalJson_eq (lossless_of_preserved value.2 preserved)
      (lossless_of_preserved other.2 otherPreserved) equal

/-- A dictionary that looks like the tag of a number. -/
def taggedFive : JsonValue :=
  ⟨.obj [(canonicalNumber, .str "5")], by decide⟩

/-- A decimal with 29 significant digits. -/
def longDecimal : JsonValue :=
  ⟨.dec { negative := false, coefficient := 10 ^ 28 + 1, exponent := -28 },
    by decide⟩

/-- A tagged dictionary is written like the number it names, and a long
decimal like its rounded value. -/
theorem canonicalJson_lossy :
    ¬ Lossless taggedFive.1 ∧
      canonicalJson taggedFive.1 = canonicalJson (.int 5) ∧
      ¬ Lossless longDecimal.1 ∧
      canonicalJson longDecimal.1 = canonicalJson (.int 1) := by
  refine ⟨?_, by decide +kernel, ?_, by decide +kernel⟩
  · intro lossless
    have untagged := (untagged_of_lossless lossless).self
    exact untagged rfl
  · intro lossless
    have fits := (preserved_of_lossless longDecimal.2 lossless).2
    rcases (fits : DecimalFits _) with zero | ⟨divides, _⟩
    · revert zero
      decide +kernel
    · revert divides
      decide +kernel

end SanTanHeights.Shared
