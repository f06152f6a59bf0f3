import SanTanHeights.Shared.Dumps

/-!
# Texts of concrete values

To the kernel a string literal is its list of characters, but reading the list
back from a string decodes bytes.  Here the text of a value is built from the
lists that its literals stand for.
-/

namespace SanTanHeights.Shared

open Foundation Foundation.Json Foundation.Sorting

/-- The order of keys, by the codes of their characters. -/
def precedes : List Char → List Char → Bool
  | [], _ => true
  | _ :: _, [] => false
  | left :: lefts, right :: rights =>
      Nat.blt left.toNat right.toNat || (Nat.beq left.toNat right.toNat && precedes lefts rights)

/-- A dictionary, of its keys and the texts of its values. -/
def objectText (texts : List (List Char × List Char)) : List Char :=
  '{' :: (joinComma ((texts.insertionSort fun left right =>
    precedes left.1 right.1 = true).map fun text =>
      quote text.1 ++ ':' :: text.2) ++ ['}'])

mutual

/-- A value with its text.  A dictionary with one key may be a tag. -/
inductive Spelled : Json → List Char → Prop
  | null : Spelled .null ['n', 'u', 'l', 'l']
  | yes : Spelled (.bool true) ['t', 'r', 'u', 'e']
  | no : Spelled (.bool false) ['f', 'a', 'l', 's', 'e']
  | int {value : Int} {text : List Char} : strInt value = some text → Spelled (.int value) text
  | str (chars : List Char) : Spelled (.str (String.ofList chars)) (quote chars)
  | arr {items : List Json} {texts : List (List Char)} :
      SpelledItems items texts → Spelled (.arr items) ('[' :: (joinComma texts ++ [']']))
  | obj {members : List (String × Json)}
      {texts : List (List Char × List Char)} :
      SpelledMembers members texts → (texts.length == 1) = false →
        Spelled (.obj members) (objectText texts)

inductive SpelledItems : List Json → List (List Char) → Prop
  | nil : SpelledItems [] []
  | cons {item : Json} {items : List Json} {text : List Char}
      {texts : List (List Char)} :
      Spelled item text → SpelledItems items texts → SpelledItems (item :: items) (text :: texts)

inductive SpelledMembers :
    List (String × Json) → List (List Char × List Char) → Prop
  | nil : SpelledMembers [] []
  | cons (key : List Char) {value : Json}
      {members : List (String × Json)} {text : List Char}
      {texts : List (List Char × List Char)} :
      Spelled value text → SpelledMembers members texts →
        SpelledMembers ((String.ofList key, value) :: members) ((key, text) :: texts)

end

theorem precedes_iff_not_lt (left right : List Char) :
    precedes left right = true ↔ ¬ right < left := by
  induction left generalizing right with
  | nil => simp [precedes]
  | cons first lefts ih =>
      cases right with
      | nil => simp [precedes]
      | cons other rights =>
          simp only [precedes, List.cons_lt_cons_iff, Bool.or_eq_true,
            Bool.and_eq_true, ih, Nat.blt_eq, Nat.beq_eq]
          rw [not_or, not_and]
          have codes : first.toNat = other.toNat ↔ first = other := Char.toNat_inj
          constructor
          · rintro (less | ⟨same, later⟩)
            · refine ⟨lt_asymm less, ?_⟩
              rintro rfl
              exact absurd less (lt_irrefl _)
            · exact ⟨(codes.mp same).not_gt, fun _ => later⟩
          · rintro ⟨below, later⟩
            rcases (not_lt.mp below).lt_or_eq with less | same
            · exact .inl less
            · exact .inr ⟨codes.mpr same, later same.symm⟩

/-- Keys are put in order by their characters. -/
theorem sortedBy_eq_insertionSort {α : Type*} (texts : List (List Char × α)) :
    sortedBy Prod.fst (texts.map fun text => (String.ofList text.1, text.2)) =
      (texts.insertionSort fun left right =>
        precedes left.1 right.1 = true).map fun text =>
          (String.ofList text.1, text.2) := by
  refine (List.map_insertionSort _ _ _ texts ?_).symm
  intro left _ right _
  rw [precedes_iff_not_lt, not_lt, String.le_iff_toList_le,
    String.toList_ofList, String.toList_ofList]

/-- The members of a dictionary with their texts, in the order of the keys. -/
theorem map_memberText_sortedBy (texts : List (List Char × List Char)) :
    (sortedBy Prod.fst (texts.map fun text =>
      (String.ofList text.1, text.2))).map (memberText id) =
      (texts.insertionSort fun left right =>
        precedes left.1 right.1 = true).map fun text =>
          quote text.1 ++ ':' :: text.2 := by
  rw [sortedBy_eq_insertionSort, List.map_map]
  refine List.map_congr_left fun text _ => ?_
  simp [memberText]

/-- A member with its value written, by either way of writing. -/
def writtenPair (write : Json → Option (List Char)) (member : String × Json) :
    Option (String × List Char) :=
  (write member.2).map fun text => (member.1, text)

theorem mapM_writtenMember_sortedBy
    (write : Json → Option (List Char)) (members : List (String × Json)) :
    (sortedBy Prod.fst members).mapM (writtenMember write) =
      (members.mapM (writtenPair write)).map fun written =>
        (sortedBy Prod.fst written).map (memberText id) := by
  have single : writtenMember write = fun member =>
      (writtenPair write member).map (memberText id) := by
    funext member
    simp [writtenMember, writtenPair, Option.map_map, Function.comp_def, memberText]
  have sorted : (sortedBy Prod.fst members).mapM (writtenPair write) =
      (members.mapM (writtenPair write)).map (sortedBy Prod.fst) := by
    refine Traverse.mapM_sortedBy ?_ members
    intro member pair written
    obtain ⟨text, _, rfl⟩ := Option.map_eq_some_iff.mp written
    rfl
  rw [single, Traverse.mapM_map_result, sorted, Option.map_map]
  rfl

theorem SpelledMembers.length_eq
    {members : List (String × Json)} {texts : List (List Char × List Char)}
    (spelled : SpelledMembers members texts) :
    members.length = texts.length := by
  match spelled with
  | .nil => rfl
  | .cons key value members => simp [members.length_eq]

/-- A way of writing values: their parts stand between brackets, the members
of a dictionary in the order of their keys. -/
structure Writes (write : Json → Option (List Char)) : Prop where
  null : write .null = some ['n', 'u', 'l', 'l']
  yes : write (.bool true) = some ['t', 'r', 'u', 'e']
  no : write (.bool false) = some ['f', 'a', 'l', 's', 'e']
  int : ∀ value, write (.int value) = strInt value
  str : ∀ value, write (.str value) = some (quote value.toList)
  arr : ∀ items, write (.arr items) = (items.mapM write).map fun texts =>
    '[' :: (joinComma texts ++ [']'])
  obj : ∀ members, members.length ≠ 1 →
    write (.obj members) = (members.mapM (writtenPair write)).map
      fun written => '{' :: (joinComma
        ((sortedBy Prod.fst written).map (memberText id)) ++ ['}'])

theorem writes_canonicalText : Writes canonicalText where
  null := rfl
  yes := rfl
  no := rfl
  int := canonicalText_int
  str := canonicalText_str
  arr := canonicalText_arr
  obj := by
    intro members several
    rw [canonicalText_obj, mapM_writtenMember_sortedBy, Option.map_map]
    · rfl
    · intro tagged
      apply several
      rw [← List.length_map Prod.fst, tagged]
      rfl

theorem writes_dumps : Writes dumps where
  null := rfl
  yes := rfl
  no := rfl
  int := fun value => by rw [dumps]
  str := fun value => by rw [dumps]
  arr := dumps_arr
  obj := fun members _ => dumps_obj members

mutual

/-- Every way of writing gives a value its spelled text. -/
theorem Writes.of_spelled {write : Json → Option (List Char)} (writes : Writes write)
    {value : Json} {text : List Char} (spelled : Spelled value text) :
    write value = some text := by
  match spelled with
  | .null => exact writes.null
  | .yes => exact writes.yes
  | .no => exact writes.no
  | .int written => rw [writes.int, written]
  | .str chars => rw [writes.str, String.toList_ofList]
  | .arr items =>
      rw [writes.arr, writes.of_spelledItems items]
      rfl
  | .obj members several =>
      rw [writes.obj _ (members.length_eq ▸ ne_of_beq_false several),
        writes.of_spelledMembers members, Option.map_some, map_memberText_sortedBy]
      rfl

theorem Writes.of_spelledItems {write : Json → Option (List Char)} (writes : Writes write)
    {items : List Json} {texts : List (List Char)} (spelled : SpelledItems items texts) :
    items.mapM write = some texts := by
  match spelled with
  | .nil => rfl
  | .cons item items =>
      rw [List.mapM_cons, writes.of_spelled item, writes.of_spelledItems items]
      rfl

theorem Writes.of_spelledMembers {write : Json → Option (List Char)} (writes : Writes write)
    {members : List (String × Json)} {texts : List (List Char × List Char)}
    (spelled : SpelledMembers members texts) :
    members.mapM (writtenPair write) =
      some (texts.map fun text => (String.ofList text.1, text.2)) := by
  match spelled with
  | .nil => rfl
  | .cons key value members =>
      rw [List.mapM_cons, writtenPair, writes.of_spelled value, writes.of_spelledMembers members]
      rfl

end

/-! ## Digests of spelled texts -/

theorem sha256Canonical_of_spelled
    {value : Json} {text digest : List Char} (spelled : Spelled value text)
    (hashed : Sha256.Unrolled.hexdigestChars text = digest) :
    sha256Canonical value = .ok (String.ofList digest) := by
  have written := writes_canonicalText.of_spelled spelled
  refine sha256Canonical_eq_ok.mpr ⟨String.ofList text, ?_, ?_⟩
  · rw [canonicalJson, written, Option.map_some]
  · rw [Sha256.hexdigest, String.toList_ofList, Sha256.hexdigestChars_eq_unrolled, hashed]

theorem exists_sha256Canonical_of_spelled
    {value : Json} {text : List Char} (spelled : Spelled value text) :
    ∃ fingerprint, sha256Canonical value = .ok fingerprint :=
  ⟨_, sha256Canonical_of_spelled spelled rfl⟩

theorem sha256Canonical_ne_of_spelled
    {left right : Json} {leftFingerprint rightFingerprint : String}
    {leftText rightText : List Char} (leftHashed : sha256Canonical left = .ok leftFingerprint)
    (rightHashed : sha256Canonical right = .ok rightFingerprint)
    (leftSpelled : Spelled left leftText) (rightSpelled : Spelled right rightText)
    (differ : Sha256.Unrolled.hexdigestChars leftText ≠ Sha256.Unrolled.hexdigestChars rightText) :
    leftFingerprint ≠ rightFingerprint := by
  apply sha256Canonical_ne leftHashed rightHashed
  rw [writes_canonicalText.of_spelled leftSpelled, writes_canonicalText.of_spelled rightSpelled]
  simpa using differ

theorem map_digest_of_spelled {values : List Json} {texts : List (List Char)}
    (spelled : SpelledItems values texts) :
    (values.map fun value =>
      (canonicalText value).map Sha256.Unrolled.hexdigestChars) =
      (texts.map Sha256.Unrolled.hexdigestChars).map some := by
  match spelled with
  | .nil => rfl
  | .cons item items =>
      rw [List.map_cons, writes_canonicalText.of_spelled item, map_digest_of_spelled items]
      rfl

/-- The spelled texts of finitely many values are free of collisions when
their digests differ. -/
theorem collisionFree_of_spelled
    {hashed : Set String} {values : List Json} {texts : List (List Char)}
    (spelled : SpelledItems values texts)
    (distinct : (texts.map Sha256.Unrolled.hexdigestChars).Nodup)
    (covered : ∀ text ∈ hashed, ∃ value ∈ values, canonicalJson value = some text) :
    Sha256.CollisionFree hashed := by
  refine collisionFree_of_nodup values covered ?_
  rw [map_digest_of_spelled spelled]
  exact distinct.map (Option.some_injective _)

end SanTanHeights.Shared
