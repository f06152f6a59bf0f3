import SanTanHeights.Shared.Textual

/-!
# JSON text with sorted keys

`json.dumps(value, sort_keys=True, separators=(",", ":"),
ensure_ascii=False)`, and the hash of that text.  A `none` is a raised
exception; a `Decimal` raises one, and floats are not modelled.
-/

namespace SanTanHeights.Shared

open Foundation Foundation.Json Foundation.Sorting

/-! ## The text -/

mutual

/-- The characters of `json.dumps(value, sort_keys=True, ...)`. -/
def dumps : Json → Option (List Char)
  | .null => some ['n', 'u', 'l', 'l']
  | .bool true => some ['t', 'r', 'u', 'e']
  | .bool false => some ['f', 'a', 'l', 's', 'e']
  | .str value => some (quote value.toList)
  | .int value => strInt value
  | .dec _ => none
  | .arr items =>
      (dumpsItems items).map fun texts => '[' :: (joinComma texts ++ [']'])
  | .obj members =>
      (dumpsMembers members).map fun written =>
        '{' :: (joinComma ((sortedBy Prod.fst written).map (memberText id)) ++ ['}'])

def dumpsItems : List Json → Option (List (List Char))
  | [] => some []
  | item :: items =>
      (dumps item).bind fun first =>
        (dumpsItems items).map fun others => first :: others

def dumpsMembers :
    List (String × Json) → Option (List (String × List Char))
  | [] => some []
  | (key, value) :: members =>
      (dumps value).bind fun first =>
        (dumpsMembers members).map fun others => (key, first) :: others

end

mutual

/-- The dictionaries of a value, listed by key. -/
def sortKeys : Json → Json
  | .arr items => .arr (sortKeysItems items)
  | .obj members => .obj (sortedBy Prod.fst (sortKeysMembers members))
  | value => value

def sortKeysItems : List Json → List Json
  | [] => []
  | item :: items => sortKeys item :: sortKeysItems items

def sortKeysMembers : List (String × Json) → List (String × Json)
  | [] => []
  | (key, value) :: members => (key, sortKeys value) :: sortKeysMembers members

end

/-! ## Equations -/

/-- A member with its value written. -/
def dumpsMember (member : String × Json) : Option (String × List Char) :=
  (dumps member.2).map fun text => (member.1, text)

/-- A member with the keys of its value sorted. -/
def sortKeysMember (member : String × Json) : String × Json :=
  (member.1, sortKeys member.2)

theorem dumps_arr (items : List Json) :
    dumps (.arr items) = (items.mapM dumps).map fun texts =>
      '[' :: (joinComma texts ++ [']']) := by
  have nested : dumpsItems items = items.mapM dumps := by
    induction items with
    | nil => rfl
    | cons item items ih =>
        simp [dumpsItems, ih, Option.map_eq_bind]
  rw [dumps, nested]

theorem dumps_obj (members : List (String × Json)) :
    dumps (.obj members) = (members.mapM dumpsMember).map fun written =>
      '{' :: (joinComma ((sortedBy Prod.fst written).map (memberText id)) ++
        ['}']) := by
  have nested : dumpsMembers members = members.mapM dumpsMember := by
    induction members with
    | nil => rfl
    | cons member members ih =>
        simp [dumpsMembers, ih, dumpsMember, Option.map_eq_bind, Option.bind_assoc]
  rw [dumps, nested]

@[simp] theorem sortKeys_arr (items : List Json) :
    sortKeys (.arr items) = .arr (items.map sortKeys) := by
  have nested : sortKeysItems items = items.map sortKeys := by
    induction items with
    | nil => rfl
    | cons item items ih =>
        simp [sortKeysItems, ih]
  rw [sortKeys, nested]

@[simp] theorem sortKeys_obj (members : List (String × Json)) :
    sortKeys (.obj members) = .obj (sortedBy Prod.fst (members.map sortKeysMember)) := by
  have nested : sortKeysMembers members = members.map sortKeysMember := by
    induction members with
    | nil => rfl
    | cons member members ih =>
        simp [sortKeysMembers, ih, sortKeysMember]
  rw [sortKeys, nested]

@[simp] theorem sortKeys_str (value : String) : sortKeys (.str value) = .str value := rfl

@[simp] theorem sortKeys_ofOptional (value : Option String) :
    sortKeys (ofOptional value) = ofOptional value := by
  cases value <;> rfl

/-- Sorting the members of a dictionary before or after their values. -/
theorem sortedBy_map_sortKeysMember (members : List (String × Json)) :
    sortedBy Prod.fst (members.map sortKeysMember) =
      (sortedBy Prod.fst members).map sortKeysMember :=
  (map_sortedBy sortKeysMember Prod.fst members).symm

/-! ## The text depends on the sorted value -/

theorem mapM_dumpsMember_sortedBy (members : List (String × Json)) :
    (sortedBy Prod.fst members).mapM dumpsMember =
      (members.mapM dumpsMember).map (sortedBy Prod.fst) := by
  refine Traverse.mapM_sortedBy ?_ members
  intro member result written
  obtain ⟨text, _, rfl⟩ := Option.map_eq_some_iff.mp written
  rfl

@[simp] theorem dumps_sortKeys (value : Json) : dumps (sortKeys value) = dumps value := by
  induction value with
  | null => rfl
  | bool flag => rfl
  | int number => rfl
  | dec number => rfl
  | str text => rfl
  | arr items ih =>
      rw [sortKeys_arr, dumps_arr, dumps_arr, List.mapM_map]
      congr 1
      exact Traverse.mapM_congr ih
  | obj members ih =>
      have written : (members.map sortKeysMember).mapM dumpsMember =
          members.mapM dumpsMember := by
        rw [List.mapM_map]
        refine Traverse.mapM_congr fun member present => ?_
        change (dumps (sortKeys member.2)).map _ = (dumps member.2).map _
        rw [ih member present]
        rfl
      rw [sortKeys_obj, dumps_obj, dumps_obj, mapM_dumpsMember_sortedBy, written, Option.map_map]
      congr 1
      funext written
      simp only [Function.comp_apply, sortedBy_eq_self (pairwise_sortedBy Prod.fst written)]

variable {left right value : Json} {text : List Char}
  {members : List (String × Json)} {values : Set Json}

/-- Values that differ in the order of their keys have one text. -/
theorem dumps_congr (same : sortKeys left = sortKeys right) : dumps left = dumps right := by
  rw [← dumps_sortKeys left, same, dumps_sortKeys]

/-! ## The sorted value is read back -/

/-- Text of a value that has one. -/
def dumpsOf (value : Json) : List Char :=
  (dumps value).getD []

/-- The text of a list, item by item. -/
theorem dumps_arr_eq {items : List Json} (written : dumps (.arr items) = some text) :
    (∀ item ∈ items, dumps item = some (dumpsOf item)) ∧
      text = '[' :: (joinComma (items.map dumpsOf) ++ [']']) := by
  rw [dumps_arr] at written
  obtain ⟨texts, itemTexts, rfl⟩ := Option.map_eq_some_iff.mp written
  obtain ⟨each, rfl⟩ := Traverse.eq_map_getD_of_mapM [] itemTexts
  exact ⟨each, rfl⟩

/-- The text of a dictionary, member by member in key order. -/
theorem dumps_obj_eq (written : dumps (.obj members) = some text) :
    (∀ member ∈ members, dumps member.2 = some (dumpsOf member.2)) ∧
      text = '{' :: (joinComma
        ((sortedBy Prod.fst members).map (memberText dumpsOf)) ++ ['}']) := by
  rw [dumps_obj] at written
  obtain ⟨pairs, memberTexts, rfl⟩ := Option.map_eq_some_iff.mp written
  obtain ⟨each, rfl⟩ := Traverse.eq_map_getD_of_mapM ("", []) memberTexts
  have valueText : ∀ member ∈ members,
      dumps member.2 = some (dumpsOf member.2) := by
    intro member present
    obtain ⟨value, found, _⟩ := Option.map_eq_some_iff.mp (each member present)
    rw [dumpsOf, found, Option.getD_some]
  refine ⟨valueText, ?_⟩
  have pair : members.map (fun member =>
      (dumpsMember member).getD ("", [])) =
        members.map fun member => (member.1, dumpsOf member.2) := by
    refine List.map_congr_left fun member present => ?_
    rw [dumpsMember, valueText member present]
    rfl
  have sorted := map_sortedBy
    (fun member : String × Json => (member.1, dumpsOf member.2))
    (Prod.fst : String × List Char → String) members
  rw [pair, ← sorted, List.map_map]
  rfl

/-- The scanner reads the text of a value as its sorted value. -/
theorem reads_dumps (distinct : value.DistinctKeys) (written : dumps value = some text) :
    Reads text (some (sortKeys value)) := by
  induction value generalizing text with
  | null =>
      cases written
      exact reads_null
  | bool flag =>
      cases flag with
      | true =>
          cases written
          exact reads_true
      | false =>
          cases written
          exact reads_false
  | str string =>
      cases written
      exact reads_quote string
  | int number =>
      have reads := reads_strInt written
      rw [dumps, strInt] at written
      split_ifs at written with short
      rwa [rereadInt, if_pos short] at reads
  | dec number => cases written
  | arr items ih =>
      obtain ⟨itemText, rfl⟩ := dumps_arr_eq written
      have reads := reads_arr items fun item present =>
        ih item present (((all_arr _ _).mp distinct).2 item present) (itemText item present)
      have found : items.mapM (fun item => some (sortKeys item)) =
          some (items.map sortKeys) :=
        Traverse.mapM_eq_some_map fun _ _ => rfl
      rw [found] at reads
      rwa [sortKeys_arr]
  | obj members ih =>
      obtain ⟨keys, nestedKeys⟩ := (all_obj _ _).mp distinct
      obtain ⟨memberTexts, rfl⟩ := dumps_obj_eq written
      have reads := @reads_obj Json dumpsOf
        (fun value => some (sortKeys value)) (sortedBy Prod.fst members)
        fun member present =>
          have original := (mem_sortedBy Prod.fst members member).mp present
          ih member original (nestedKeys member original) (memberTexts member original)
      have found : (sortedBy Prod.fst members).mapM
          (memberValue fun value => some (sortKeys value)) =
            some ((sortedBy Prod.fst members).map sortKeysMember) :=
        Traverse.mapM_eq_some_map fun _ _ => rfl
      have permuted := (sortedBy_perm Prod.fst members).map Prod.fst
      have distinctFound : (((sortedBy Prod.fst members).map
          sortKeysMember).map Prod.fst).Nodup := by
        rw [List.map_map]
        exact permuted.nodup_iff.mpr keys
      rw [found, Option.map_some, dictOf_eq_self distinctFound] at reads
      rwa [sortKeys_obj, sortedBy_map_sortKeysMember]

/-- Values with one text differ at most in the order of their keys. -/
theorem sortKeys_eq_of_dumps_eq (leftDistinct : left.DistinctKeys)
    (rightDistinct : right.DistinctKeys) (leftWritten : dumps left = some text)
    (rightWritten : dumps right = some text) :
    sortKeys left = sortKeys right := by
  have leftRead := loads_of_reads (reads_dumps leftDistinct leftWritten)
  have rightRead := loads_of_reads (reads_dumps rightDistinct rightWritten)
  exact Option.some.inj (leftRead.symm.trans rightRead)

/-! ## Hashes -/

/-- `hashlib.sha256(json.dumps(value, ...).encode("utf-8")).hexdigest()`. -/
def sha256Dumps (value : Json) : Except String String :=
  (Outcome.orRaise (dumps value) "value is not JSON serializable").map
    fun text => Sha256.hexdigest (String.ofList text)

theorem sha256Dumps_eq_ok {fingerprint : String} :
    sha256Dumps value = .ok fingerprint ↔ ∃ text, dumps value = some text ∧
        Sha256.hexdigest (String.ofList text) = fingerprint := by
  simp [sha256Dumps, Outcome.map_eq_ok]

theorem sha256Dumps_congr (same : sortKeys left = sortKeys right) :
    sha256Dumps left = sha256Dumps right := by
  rw [sha256Dumps, dumps_congr same, sha256Dumps]

/-- A textual value can be written. -/
theorem Textual.exists_dumps (textual : Textual value) : ∃ text, dumps value = some text := by
  induction value with
  | null => exact ⟨_, rfl⟩
  | bool flag => cases flag <;> exact ⟨_, rfl⟩
  | int number => exact textual.elim
  | dec number => exact textual.elim
  | str string => exact ⟨_, rfl⟩
  | arr items ih =>
      rw [textual_arr] at textual
      have written : ∀ item ∈ items, dumps item = some (dumpsOf item) := by
        intro item present
        obtain ⟨text, found⟩ := ih item present (textual item present)
        rw [dumpsOf, found, Option.getD_some]
      rw [dumps_arr, Traverse.mapM_eq_some_map written]
      exact ⟨_, rfl⟩
  | obj members ih =>
      have nested := ((textual_obj members).mp textual).2.2
      have written : ∀ member ∈ members,
          dumpsMember member = some (member.1, dumpsOf member.2) := by
        intro member present
        obtain ⟨text, found⟩ := ih member present (nested member present)
        rw [dumpsMember, dumpsOf, found, Option.map_some, Option.getD_some]
      rw [dumps_obj, Traverse.mapM_eq_some_map written]
      exact ⟨_, rfl⟩

theorem Textual.exists_sha256Dumps (textual : Textual value) :
    ∃ fingerprint, sha256Dumps value = .ok fingerprint ∧ Sha256.isHex64 fingerprint = true := by
  obtain ⟨text, written⟩ := textual.exists_dumps
  exact ⟨_, sha256Dumps_eq_ok.mpr ⟨text, written, rfl⟩, Sha256.isHex64_hexdigest _⟩

/-- The texts of some values. -/
def textsOf (values : Set Json) : Set String :=
  {text | ∃ value ∈ values, ∃ chars, dumps value = some chars ∧
    text = String.ofList chars}

/-- One value alone has no collisions. -/
theorem collisionFree_textsOf (single : values.Subsingleton) :
    Sha256.CollisionFree (textsOf values) := by
  rintro left ⟨_, leftMember, leftChars, leftWritten, rfl⟩ right
    ⟨_, rightMember, rightChars, rightWritten, rfl⟩ _
  rw [single leftMember rightMember, rightWritten] at leftWritten
  rw [Option.some.inj leftWritten]

/-- Without collisions, values with one fingerprint differ at most in the
order of their keys. -/
theorem sortKeys_eq_of_sha256Dumps_eq {fingerprint : String}
    (collisionFree : Sha256.CollisionFree (textsOf values)) (leftMember : left ∈ values)
    (rightMember : right ∈ values) (leftDistinct : left.DistinctKeys)
    (rightDistinct : right.DistinctKeys) (leftHashed : sha256Dumps left = .ok fingerprint)
    (rightHashed : sha256Dumps right = .ok fingerprint) :
    sortKeys left = sortKeys right := by
  obtain ⟨leftText, leftWritten, leftHash⟩ := sha256Dumps_eq_ok.mp leftHashed
  obtain ⟨rightText, rightWritten, rightHash⟩ := sha256Dumps_eq_ok.mp rightHashed
  have equal := collisionFree.eq ⟨left, leftMember, leftText, leftWritten, rfl⟩
    ⟨right, rightMember, rightText, rightWritten, rfl⟩
    (leftHash.trans rightHash.symm)
  rw [String.ofList_inj] at equal
  exact sortKeys_eq_of_dumps_eq leftDistinct rightDistinct leftWritten (equal ▸ rightWritten)

/-- Without collisions, items with one fingerprint agree in whatever their
payloads determine. -/
theorem content_eq_of_sha256Dumps_eq {α β : Type*} {payload : α → Json} {content : α → β}
    (distinct : ∀ item, (payload item).DistinctKeys)
    (determines : ∀ left right,
      sortKeys (payload left) = sortKeys (payload right) → content left = content right)
    {left right : α} {fingerprint : String}
    (collisionFree : Sha256.CollisionFree (textsOf {payload left, payload right}))
    (leftHashed : sha256Dumps (payload left) = .ok fingerprint)
    (rightHashed : sha256Dumps (payload right) = .ok fingerprint) :
    content left = content right :=
  determines left right (sortKeys_eq_of_sha256Dumps_eq collisionFree
    (.inl rfl) (.inr rfl) (distinct left) (distinct right) leftHashed rightHashed)

/-- Without collisions, items that carry the fingerprints of their payloads are
the same where their fingerprints are. -/
theorem eq_of_fingerprints_eq {α : Type*} {payload : α → Json} {fingerprint : α → String}
    (distinct : ∀ item, (payload item).DistinctKeys)
    (determines : ∀ left right, sortKeys (payload left) = sortKeys (payload right) →
        fingerprint left = fingerprint right → left = right) {left right : α}
    (collisionFree : Sha256.CollisionFree (textsOf values))
    (leftListed : payload left ∈ values) (rightListed : payload right ∈ values)
    (leftHashed : sha256Dumps (payload left) = .ok (fingerprint left))
    (rightHashed : sha256Dumps (payload right) = .ok (fingerprint right))
    (same : fingerprint left = fingerprint right) :
    left = right := by
  rw [same] at leftHashed
  exact determines left right (sortKeys_eq_of_sha256Dumps_eq collisionFree
    leftListed rightListed (distinct left) (distinct right) leftHashed rightHashed) same

/-! ## Reading parts of equal values -/

/-- Dictionaries with the same distinct keys in the same order that differ
at most in the order of keys do so value by value. -/
theorem map_sortKeysMember_eq {others : List (String × Json)}
    (same : sortKeys (.obj members) = sortKeys (.obj others))
    (sameKeys : members.map Prod.fst = others.map Prod.fst)
    (distinct : (members.map Prod.fst).Nodup) :
    members.map sortKeysMember = others.map sortKeysMember := by
  have keys : ∀ members : List (String × Json),
      (members.map sortKeysMember).map Prod.fst = members.map Prod.fst := by
    intro members
    rw [List.map_map]
    rfl
  rw [sortKeys_obj, sortKeys_obj, Json.obj.injEq] at same
  exact eq_of_perm_of_map_fst_eq (perm_of_sortedBy_eq same)
    (by rw [keys, keys, sameKeys]) (by rwa [keys])

theorem forall₂_of_sortKeys_obj_eq {others : List (String × Json)}
    (same : sortKeys (.obj members) = sortKeys (.obj others))
    (sameKeys : members.map Prod.fst = others.map Prod.fst)
    (distinct : (members.map Prod.fst).Nodup) :
    List.Forall₂ (fun member other => sortKeys member.2 = sortKeys other.2) members others := by
  have equal := map_sortKeysMember_eq same sameKeys distinct
  rw [← List.forall₂_eq_eq_eq, List.forall₂_map_left_iff, List.forall₂_map_right_iff] at equal
  exact equal.imp fun _ _ pair => (Prod.mk.inj pair).2

theorem forall₂_of_sortKeys_arr_eq {items others : List Json}
    (same : sortKeys (.arr items) = sortKeys (.arr others)) :
    List.Forall₂ (fun item other => sortKeys item = sortKeys other) items others := by
  rwa [sortKeys_arr, sortKeys_arr, Json.arr.injEq, ← List.forall₂_eq_eq_eq,
    List.forall₂_map_left_iff, List.forall₂_map_right_iff] at same

end SanTanHeights.Shared
