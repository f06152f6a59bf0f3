import SanTanHeights.Report.Diff

/-!
# What a semantic diff tells

The walk goes down the keys that two dictionaries share and compares other
values by type and by Python equality.  Its paths are those of the outermost
positions at which the canonical texts differ exactly when this comparison and
the texts agree on the values that it meets.
-/

namespace SanTanHeights.Report

open Foundation Foundation.Json Foundation.Sorting Foundation.Outcome Shared

/-! ## Positions -/

/-- The value at a position that is reached through dictionaries. -/
def valueAt (value : Json) : List String → Option Json
  | [] => some value
  | key :: position =>
      match value with
      | .obj members =>
          (members.lookup key).bind fun nested => valueAt nested position
      | _ => none

/-- The path of a position. -/
def pathText (position : List String) : String :=
  position.foldr (fun key text => "/" ++ key ++ text) ""

def BothDicts (left right : Json) : Prop :=
  kind left = .dict ∧ kind right = .dict

instance (left right : Json) : Decidable (BothDicts left right) :=
  inferInstanceAs (Decidable (_ ∧ _))

/-- The comparison of values other than two dictionaries. -/
def LeafEqual (left right : Json) : Prop :=
  kind left = kind right ∧ pyEq left right = true

instance (left right : Json) : Decidable (LeafEqual left right) :=
  inferInstanceAs (Decidable (_ ∧ _))

def leafPositions (left right : Json) : List (List String) :=
  if LeafEqual left right then [] else [[]]

/-- The keys of two dictionaries. -/
def keysOf (members others : List (String × Json)) : List String :=
  sortedBy id (members.map Prod.fst ++ others.map Prod.fst).dedup

mutual

/-- The positions at which `walk` appends its paths. -/
def walkPositions : Json → Json → List (List String)
  | .obj members, right =>
      match right with
      | .obj others =>
          (keysOf members others).flatMap fun key =>
            (((memberPositions members others).lookup key).getD [[]]).map (key :: ·)
      | _ => [[]]
  | .arr items, right => leafPositions (.arr items) right
  | .null, right => leafPositions .null right
  | .bool value, right => leafPositions (.bool value) right
  | .int value, right => leafPositions (.int value) right
  | .dec value, right => leafPositions (.dec value) right
  | .str value, right => leafPositions (.str value) right

def memberPositions :
    List (String × Json) → List (String × Json) → List (String × List (List String))
  | [], _ => []
  | (key, value) :: members, others =>
      match others.lookup key with
      | some other =>
          (key, walkPositions value other) :: memberPositions members others
      | none => memberPositions members others

end

/-- Down the keys that two dictionaries share. -/
theorem pairInduction {motive : Json → Json → Prop}
    (leaf : ∀ left right, ¬BothDicts left right → motive left right)
    (dicts : ∀ members others, (∀ key value other,
      members.lookup key = some value → others.lookup key = some other →
        motive value other) → motive (.obj members) (.obj others))
    (left right : Json) : motive left right := by
  induction left generalizing right with
  | obj members ih =>
      by_cases both : kind right = .dict
      · cases right with
        | obj others =>
            exact dicts members others fun key value other found _ =>
              ih (key, value) (Keyed.mem_of_lookup found) other
        | _ => cases both
      · exact leaf _ _ fun dicts => both dicts.2
  | _ => exact leaf _ _ fun both => nomatch both.1

theorem lookup_memberPositions (members others : List (String × Json)) (key : String) :
    (memberPositions members others).lookup key =
      (members.lookup key).bind fun value =>
        (others.lookup key).map fun other => walkPositions value other := by
  induction members with
  | nil => rfl
  | cons member members ih =>
      obtain ⟨first, value⟩ := member
      rw [memberPositions]
      by_cases same : key = first
      · subst same
        cases found : others.lookup key with
        | none => simp [ih, found]
        | some other => simp
      · have differs : (key == first) = false := by simpa using same
        cases found : others.lookup first with
        | none => simp [ih, List.lookup_cons, differs]
        | some other => simp [ih, List.lookup_cons, differs]

variable {left right value other : Json} {position : List String}
  {members others : List (String × Json)} {key : String}

theorem walkPositions_leaf (noDicts : ¬BothDicts left right) :
    walkPositions left right = leafPositions left right := by
  cases left with
  | obj members =>
      cases right with
      | obj others => exact absurd ⟨rfl, rfl⟩ noDicts
      | _ => rfl
  | _ => rfl

theorem walkPositions_obj (members others : List (String × Json)) :
    walkPositions (.obj members) (.obj others) =
      (keysOf members others).flatMap fun key =>
        (((members.lookup key).bind fun value =>
          (others.lookup key).map fun other =>
            walkPositions value other).getD [[]]).map (key :: ·) := by
  rw [walkPositions]
  simp only [lookup_memberPositions]

theorem walk_obj_eq (members others : List (String × Json)) (path : String) :
    walk (.obj members) (.obj others) path =
      (keysOf members others).flatMap fun key =>
        ((members.lookup key).bind fun value =>
          (others.lookup key).map fun other =>
            walk value other (path ++ "/" ++ key)).getD [path ++ "/" ++ key] := by
  rw [walk]
  simp only [lookup_walkMembers]
  rfl

theorem walkLeaf_eq (left right : Json) (path : String) :
    walkLeaf left right path = (leafPositions left right).map fun position =>
        orRoot (path ++ pathText position) := by
  have root : path ++ pathText [] = path := String.append_empty
  unfold walkLeaf leafPositions LeafEqual
  by_cases same : kind left = kind right
  · by_cases equal : pyEq left right = true
    · simp [same, equal]
    · simp [same, equal, root]
  · simp [same, root]

theorem pathText_cons (path key : String) (position : List String) :
    path ++ pathText (key :: position) = path ++ "/" ++ key ++ pathText position := by
  change path ++ ("/" ++ key ++ pathText position) = _
  rw [String.append_assoc, String.append_assoc, String.append_assoc]

/-- A path below a key is not empty. -/
theorem orRoot_key (path key rest : String) :
    orRoot (path ++ "/" ++ key ++ rest) = path ++ "/" ++ key ++ rest := by
  unfold orRoot
  rw [if_neg]
  intro empty
  have letters := congrArg String.toList empty
  simp at letters

theorem walk_leaf (noDicts : ¬BothDicts left right) (path : String) :
    walk left right path = walkLeaf left right path := by
  cases left with
  | obj members =>
      cases right with
      | obj others => exact absurd ⟨rfl, rfl⟩ noDicts
      | _ => rfl
  | _ => rfl

/-- The paths of a walk are those of its positions. -/
theorem walk_eq_map (left right : Json) (path : String) :
    walk left right path = (walkPositions left right).map fun position =>
        orRoot (path ++ pathText position) := by
  induction left, right using pairInduction generalizing path with
  | leaf left right noDicts =>
      rw [walk_leaf noDicts, walkPositions_leaf noDicts, walkLeaf_eq]
  | dicts members others ih =>
      rw [walk_obj_eq, walkPositions_obj, List.map_flatMap]
      refine List.flatMap_congr fun key _ => ?_
      rw [List.map_map]
      have missing : [path ++ "/" ++ key] =
          [[]].map ((fun position => orRoot (path ++ pathText position)) ∘ (key :: ·)) := by
        rw [List.map_singleton, Function.comp_apply, pathText_cons, orRoot_key]
        exact congrArg (fun text => [text]) String.append_empty.symm
      cases found : members.lookup key with
      | none => exact missing
      | some value =>
          cases other : others.lookup key with
          | none => exact missing
          | some otherValue =>
              refine (ih key _ _ found other _).trans ?_
              refine List.map_congr_left fun position _ => ?_
              rw [Function.comp_apply, pathText_cons]

/-- The positions at which a walk appends a path, rule by rule. -/
inductive Reported : Json → Json → List String → Prop
  | leaf {left right : Json}
      (noDicts : ¬BothDicts left right) (differ : ¬LeafEqual left right) :
      Reported left right []
  | removed {members others : List (String × Json)} {key : String}
      {value : Json} (present : members.lookup key = some value)
      (absent : others.lookup key = none) :
      Reported (.obj members) (.obj others) [key]
  | added {members others : List (String × Json)} {key : String}
      {other : Json} (absent : members.lookup key = none)
      (present : others.lookup key = some other) :
      Reported (.obj members) (.obj others) [key]
  | nested {members others : List (String × Json)} {key : String}
      {value other : Json} {position : List String}
      (present : members.lookup key = some value)
      (otherPresent : others.lookup key = some other)
      (reported : Reported value other position) :
      Reported (.obj members) (.obj others) (key :: position)

theorem mem_leafPositions :
    position ∈ leafPositions left right ↔ ¬LeafEqual left right ∧ position = [] := by
  unfold leafPositions
  split_ifs with equal
  · simp [equal]
  · simp [equal]

theorem mem_keysOf :
    key ∈ keysOf members others ↔ members.lookup key ≠ none ∨ others.lookup key ≠ none := by
  unfold keysOf
  rw [mem_sortedBy, List.mem_dedup, List.mem_append, ne_eq, ne_eq,
    Keyed.lookup_eq_none_iff_notMem, Keyed.lookup_eq_none_iff_notMem, not_not, not_not]

theorem mem_walkPositions_obj :
    key :: position ∈ walkPositions (.obj members) (.obj others) ↔
      key ∈ keysOf members others ∧
        position ∈ ((members.lookup key).bind fun value =>
          (others.lookup key).map fun other =>
            walkPositions value other).getD [[]] := by
  rw [walkPositions_obj, List.mem_flatMap]
  constructor
  · rintro ⟨first, listed, present⟩
    obtain ⟨rest, among, same⟩ := List.mem_map.mp present
    rw [List.cons.injEq] at same
    obtain ⟨rfl, rfl⟩ := same
    exact ⟨listed, among⟩
  · rintro ⟨listed, among⟩
    exact ⟨key, listed, List.mem_map_of_mem among⟩

theorem nil_notMem_walkPositions_obj (members others : List (String × Json)) :
    [] ∉ walkPositions (.obj members) (.obj others) := by
  rw [walkPositions_obj, List.mem_flatMap]
  rintro ⟨key, -, present⟩
  obtain ⟨rest, -, same⟩ := List.mem_map.mp present
  cases same

theorem reported_leaf_iff (noDicts : ¬BothDicts left right) :
    Reported left right position ↔ ¬LeafEqual left right ∧ position = [] := by
  constructor
  · intro reported
    cases reported with
    | leaf _ differ => exact ⟨differ, rfl⟩
    | _ => exact absurd ⟨rfl, rfl⟩ noDicts
  · rintro ⟨differ, rfl⟩
    exact .leaf noDicts differ

theorem mem_walkPositions_iff (left right : Json) (position : List String) :
    position ∈ walkPositions left right ↔ Reported left right position := by
  induction left, right using pairInduction generalizing position with
  | leaf left right noDicts =>
      rw [walkPositions_leaf noDicts, mem_leafPositions, reported_leaf_iff noDicts]
  | dicts members others ih =>
      cases position with
      | nil =>
          refine iff_of_false (nil_notMem_walkPositions_obj _ _) ?_
          intro reported
          cases reported with
          | leaf noDicts => exact noDicts ⟨rfl, rfl⟩
      | cons key position =>
          rw [mem_walkPositions_obj, mem_keysOf]
          constructor
          · rintro ⟨listed, among⟩
            cases found : members.lookup key with
            | none =>
                rw [found, Option.bind_none, Option.getD_none, List.mem_singleton] at among
                subst among
                cases other : others.lookup key with
                | none => simp [found, other] at listed
                | some value => exact .added found other
            | some value =>
                cases other : others.lookup key with
                | none =>
                    rw [found, other, Option.bind_some, Option.map_none,
                      Option.getD_none, List.mem_singleton] at among
                    subst among
                    exact .removed found other
                | some otherValue =>
                    rw [found, other] at among
                    exact .nested found other ((ih key _ _ found other _).mp among)
          · intro reported
            cases reported with
            | removed present absent => simp [present, absent]
            | added absent present => simp [present, absent]
            | nested present otherPresent reported =>
                rw [present, otherPresent]
                exact ⟨.inl nofun, (ih key _ _ present otherPresent _).mpr reported⟩

/-- A walk does not append two paths at one position. -/
theorem nodup_walkPositions (left right : Json) : (walkPositions left right).Nodup := by
  induction left, right using pairInduction with
  | leaf left right noDicts =>
      rw [walkPositions_leaf noDicts, leafPositions]
      split_ifs <;> simp
  | dicts members others ih =>
      rw [walkPositions_obj, List.nodup_flatMap]
      constructor
      · intro key _
        refine List.Nodup.map (List.cons_injective) ?_
        cases found : members.lookup key with
        | none => exact List.nodup_singleton _
        | some value =>
            cases other : others.lookup key with
            | none => exact List.nodup_singleton _
            | some otherValue =>
                exact ih key _ _ found other
      · have distinct : (keysOf members others).Nodup :=
          (sortedBy_perm _ _).nodup_iff.mpr (List.nodup_dedup _)
        refine distinct.imp fun {key other} differ => ?_
        rw [Function.onFun, List.disjoint_left]
        intro position first second
        obtain ⟨_, -, rfl⟩ := List.mem_map.mp first
        obtain ⟨_, -, same⟩ := List.mem_map.mp second
        exact differ (List.cons.inj same).1.symm

/-! ## Outermost positions -/

theorem valueAt_append (value : Json) (front rest : List String) :
    valueAt value (front ++ rest) =
      (valueAt value front).bind fun nested => valueAt nested rest := by
  induction front generalizing value with
  | nil => rfl
  | cons key front ih =>
      cases value with
      | obj members =>
          change (members.lookup key).bind _ = ((members.lookup key).bind _).bind _
          rw [Option.bind_assoc]
          congr 1
          funext nested
          exact ih nested
      | _ => rfl

/-- Only dictionaries have values below them. -/
theorem dict_of_valueAt_cons {found : Json}
    (below : valueAt value (key :: position) = some found) :
    kind value = .dict := by
  cases value with
  | obj members => rfl
  | _ => cases below

/-- What both sides have at a position. -/
inductive Meets (left right : Json) (position : List String) : Prop
  | both {value other : Json}
      (here : valueAt left position = some value)
      (there : valueAt right position = some other)
      (noDicts : ¬BothDicts value other) (differ : ¬LeafEqual value other)
  | removed (here : valueAt left position ≠ none) (absent : valueAt right position = none)
  | added (absent : valueAt left position = none) (there : valueAt right position ≠ none)

theorem valueAt_obj_cons (found : members.lookup key = some value) (position : List String) :
    valueAt (.obj members) (key :: position) = valueAt value position := by
  change (members.lookup key).bind _ = _
  rw [found, Option.bind_some]

theorem valueAt_obj_none (absent : members.lookup key = none) (position : List String) :
    valueAt (.obj members) (key :: position) = none := by
  change (members.lookup key).bind _ = _
  rw [absent, Option.bind_none]

theorem Reported.meets (reported : Reported left right position) :
    Meets left right position := by
  induction reported with
  | leaf noDicts differ => exact .both rfl rfl noDicts differ
  | removed present absent =>
      refine .removed ?_ (valueAt_obj_none absent [])
      rw [valueAt_obj_cons present]
      exact nofun
  | added absent present =>
      refine .added (valueAt_obj_none absent []) ?_
      rw [valueAt_obj_cons present]
      exact nofun
  | nested present otherPresent reported ih =>
      have left := valueAt_obj_cons present
      have right := valueAt_obj_cons otherPresent
      cases ih with
      | both here there noDicts differ =>
          exact .both ((left _).trans here) ((right _).trans there) noDicts differ
      | removed here absent =>
          exact .removed (by rwa [left]) ((right _).trans absent)
      | added absent there =>
          exact .added ((left _).trans absent) (by rwa [right])

/-- A walk only goes down two dictionaries. -/
theorem Reported.dicts_above {front rest : List String}
    (reported : Reported left right (front ++ key :: rest)) :
    ∃ value other, valueAt left front = some value ∧
      valueAt right front = some other ∧ BothDicts value other := by
  induction front generalizing left right with
  | nil => cases reported <;> exact ⟨_, _, rfl, rfl, rfl, rfl⟩
  | cons first front ih =>
      rw [List.cons_append] at reported
      generalize tail : front ++ key :: rest = position at reported
      cases reported with
      | removed => simp at tail
      | added => simp at tail
      | nested present otherPresent reported =>
          subst tail
          rw [valueAt_obj_cons present, valueAt_obj_cons otherPresent]
          exact ih reported

/-- What meets at a reported position is not two dictionaries. -/
theorem Meets.not_dicts (meets : Meets left right position)
    (here : valueAt left position = some value) (there : valueAt right position = some other) :
    ¬BothDicts value other := by
  cases meets with
  | both found otherFound noDicts =>
      rw [found, Option.some.injEq] at here
      rw [otherFound, Option.some.injEq] at there
      exact here ▸ there ▸ noDicts
  | removed _ absent =>
      rw [absent] at there
      cases there
  | added absent =>
      rw [absent] at here
      cases here

/-- No position at which a walk appends a path is above another. -/
theorem Reported.eq_of_prefix {other : List String} (reported : Reported left right position)
    (otherReported : Reported left right other)
    (above : position <+: other) : position = other := by
  obtain ⟨rest, rfl⟩ := above
  cases rest with
  | nil => exact (List.append_nil _).symm
  | cons key rest =>
      obtain ⟨value, found, here, there, both⟩ := otherReported.dicts_above
      exact absurd both (reported.meets.not_dicts here there)

/-- No reported position is above one that both sides have. -/
theorem Reported.eq_of_common {front : List String}
    (reported : Reported left right front) (here : valueAt left position = some value)
    (there : valueAt right position = some other)
    (above : front <+: position) : front = position := by
  obtain ⟨rest, rfl⟩ := above
  cases rest with
  | nil => exact (List.append_nil _).symm
  | cons key rest =>
      rw [valueAt_append] at here there
      obtain ⟨nested, found, below⟩ := Option.bind_eq_some_iff.mp here
      obtain ⟨otherNested, otherFound, otherBelow⟩ := Option.bind_eq_some_iff.mp there
      exact absurd ⟨dict_of_valueAt_cons below, dict_of_valueAt_cons otherBelow⟩
          (reported.meets.not_dicts found otherFound)

/-- Values that a walk meets and does not equate are reported where they
are. -/
theorem reported_of_differ (here : valueAt left position = some value)
    (there : valueAt right position = some other)
    (noDicts : ¬BothDicts value other) (differ : ¬LeafEqual value other) :
    Reported left right position := by
  induction position generalizing left right with
  | nil =>
      cases here
      cases there
      exact .leaf noDicts differ
  | cons key position ih =>
      cases left with
      | obj members =>
          cases right with
          | obj others =>
              obtain ⟨nested, found, below⟩ := Option.bind_eq_some_iff.mp here
              obtain ⟨otherNested, otherFound, otherBelow⟩ := Option.bind_eq_some_iff.mp there
              exact .nested found otherFound (ih below otherBelow)
          | _ => cases there
      | _ => cases here

/-- What only one side has is below a reported position. -/
theorem exists_reported_above
    (oneSided : (valueAt left position).isSome ≠ (valueAt right position).isSome) :
    ∃ reported, Reported left right reported ∧ reported <+: position := by
  induction position generalizing left right with
  | nil => exact absurd rfl oneSided
  | cons key position ih =>
      by_cases both : BothDicts left right
      · obtain ⟨leftDict, rightDict⟩ := both
        cases left with
        | obj members =>
            cases right with
            | obj others =>
                cases found : members.lookup key with
                | none =>
                    cases other : others.lookup key with
                    | none =>
                        rw [valueAt_obj_none found, valueAt_obj_none other] at oneSided
                        exact absurd rfl oneSided
                    | some otherValue =>
                        exact ⟨_, .added found other, position, rfl⟩
                | some value =>
                    cases other : others.lookup key with
                    | none => exact ⟨_, .removed found other, position, rfl⟩
                    | some otherValue =>
                        rw [valueAt_obj_cons found, valueAt_obj_cons other] at oneSided
                        obtain ⟨reported, nested, above⟩ := ih oneSided
                        exact ⟨_, .nested found other nested,
                          List.cons_prefix_cons.mpr ⟨rfl, above⟩⟩
            | _ => cases rightDict
        | _ => cases leftDict
      · refine ⟨[], .leaf both fun equal => ?_, List.nil_prefix⟩
        have noDict : ∀ {value}, kind value ≠ .dict →
            valueAt value (key :: position) = none := by
          intro value other
          by_contra below
          obtain ⟨found, there⟩ := Option.ne_none_iff_exists'.mp below
          exact other (dict_of_valueAt_cons there)
        have leftOther : kind left ≠ .dict := fun dict => both ⟨dict, equal.1 ▸ dict⟩
        rw [noDict leftOther, noDict (equal.1 ▸ leftOther)] at oneSided
        exact oneSided rfl

/-! ## Canonical texts -/

/-- The texts of a dictionary's values. -/
def memberTexts (members : List (String × Json)) : List (String × Option (List Char)) :=
  members.map fun member => (member.1, canonicalText member.2)

theorem map_fst_memberTexts (members : List (String × Json)) :
    (memberTexts members).map Prod.fst = members.map Prod.fst := by
  rw [memberTexts, List.map_map]
  rfl

/-- The canonical text of an untagged dictionary is made of its members'
texts. -/
theorem canonicalText_obj_of_texts (untagged : ¬IsTagged members) :
    canonicalText (.obj members) =
      ((sortedBy Prod.fst (memberTexts members)).mapM
        fun entry : String × Option (List Char) =>
          entry.2.map fun text => quote entry.1.toList ++ ':' :: text).map
            fun texts => '{' :: (joinComma texts ++ ['}']) := by
  have sorted : (sortedBy Prod.fst members).map
      (fun member => (member.1, canonicalText member.2)) =
        sortedBy Prod.fst (memberTexts members) :=
    map_sortedBy (fun member : String × Json =>
      (member.1, canonicalText member.2)) Prod.fst members
  rw [canonicalText_obj untagged, ← sorted, List.mapM_map]
  rfl

theorem mem_memberTexts (distinct : (members.map Prod.fst).Nodup)
    {entry : String × Option (List Char)} :
    entry ∈ memberTexts members ↔ (members.lookup entry.1).map canonicalText = some entry.2 := by
  rw [memberTexts, List.mem_map, Option.map_eq_some_iff]
  constructor
  · rintro ⟨member, present, rfl⟩
    exact ⟨member.2, Keyed.lookup_of_mem distinct present, rfl⟩
  · rintro ⟨value, found, same⟩
    exact ⟨_, Keyed.mem_of_lookup found, Prod.ext rfl same⟩

/-- Dictionaries with the same keys and texts have one text, unless they are
the tag of a number. -/
theorem canonicalText_obj_congr (distinct : (members.map Prod.fst).Nodup)
    (othersDistinct : (others.map Prod.fst).Nodup)
    (untagged : ¬IsTagged members) (othersUntagged : ¬IsTagged others)
    (texts : ∀ key, (members.lookup key).map canonicalText =
      (others.lookup key).map canonicalText) :
    canonicalText (.obj members) = canonicalText (.obj others) := by
  have unique : ((memberTexts members).map Prod.fst).Nodup := by
    rwa [map_fst_memberTexts]
  have othersUnique : ((memberTexts others).map Prod.fst).Nodup := by
    rwa [map_fst_memberTexts]
  have permuted : (memberTexts members).Perm (memberTexts others) := by
    rw [List.perm_ext_iff_of_nodup (.of_map Prod.fst unique) (.of_map Prod.fst othersUnique)]
    intro entry
    rw [mem_memberTexts distinct, mem_memberTexts othersDistinct, texts]
  have sorted : sortedBy Prod.fst (memberTexts members) =
      sortedBy Prod.fst (memberTexts others) :=
    sortedBy_eq_of_perm permuted fun left leftPresent right rightPresent =>
      List.inj_on_of_nodup_map unique leftPresent rightPresent
  rw [canonicalText_obj_of_texts untagged, canonicalText_obj_of_texts othersUntagged, sorted]

/-- Keys that are found in both dictionaries or in none. -/
theorem keys_perm_of_sameData (distinct : (members.map Prod.fst).Nodup)
    (othersDistinct : (others.map Prod.fst).Nodup)
    (values : ∀ key, Option.Rel SameData (members.lookup key) (others.lookup key)) :
    (members.map Prod.fst).Perm (others.map Prod.fst) := by
  rw [List.perm_ext_iff_of_nodup distinct othersDistinct]
  intro key
  rw [← not_iff_not, ← Keyed.lookup_eq_none_iff_notMem, ← Keyed.lookup_eq_none_iff_notMem]
  cases found : members.lookup key with
  | none =>
      cases other : others.lookup key with
      | none => exact Iff.rfl
      | some otherValue =>
          have related := values key
          rw [found, other] at related
          cases related
  | some value =>
      cases other : others.lookup key with
      | none =>
          have related := values key
          rw [found, other] at related
          cases related
      | some otherValue => exact iff_of_false nofun nofun

/-- The same data under the tag has the same text. -/
theorem canonicalText_tagged_of_sameData (same : SameData value other) :
    canonicalText (.obj [(canonicalNumber, value)]) =
      canonicalText (.obj [(canonicalNumber, other)]) := by
  rw [canonicalText_tagged, canonicalText_tagged]
  cases same with
  | leaf noDict sameKind equal =>
      cases value with
      | str text =>
          cases other with
          | str otherText =>
              obtain rfl := (pyEq_str _ _).mp equal
              rfl
          | _ => cases sameKind
      | _ =>
          cases other with
          | str otherText => cases sameKind
          | _ => rfl
  | dict values => rfl

/-- Data that is the same, and each leaf of which has one text, has one
text. -/
theorem canonicalText_eq_of_sameData
    (distinct : left.DistinctKeys) (othersDistinct : right.DistinctKeys)
    (same : SameData left right)
    (leaves : ∀ position value other, valueAt left position = some value →
      valueAt right position = some other → ¬BothDicts value other →
        canonicalText value = canonicalText other) :
    canonicalText left = canonicalText right := by
  induction left, right using pairInduction with
  | leaf left right noDicts => exact leaves [] left right rfl rfl noDicts
  | dicts members others ih =>
      obtain ⟨keys, nested⟩ := (all_obj _ _).mp distinct
      obtain ⟨otherKeys, othersNested⟩ := (all_obj _ _).mp othersDistinct
      obtain ⟨_, equal, values⟩ := sameData_obj_iff.mp same
      cases equal
      have permuted := keys_perm_of_sameData keys otherKeys values
      by_cases tagged : IsTagged members
      · obtain ⟨value, rfl⟩ := (isTagged_iff_exists _).mp tagged
        obtain ⟨other, rfl⟩ := (isTagged_iff_exists _).mp (List.singleton_perm.mp permuted).symm
        have related := values canonicalNumber
        rw [List.lookup_cons_self, List.lookup_cons_self, Option.rel_some_some] at related
        exact canonicalText_tagged_of_sameData related
      · refine canonicalText_obj_congr keys otherKeys tagged ?_ ?_
        · intro othersTagged
          rw [IsTagged] at othersTagged
          rw [othersTagged, List.perm_singleton] at permuted
          exact tagged permuted
        · intro key
          have related := values key
          cases found : members.lookup key with
          | none =>
              cases other : others.lookup key with
              | none => rfl
              | some otherValue =>
                  rw [found, other] at related
                  cases related
          | some value =>
              cases other : others.lookup key with
              | none =>
                  rw [found, other] at related
                  cases related
              | some otherValue =>
                  rw [found, other, Option.rel_some_some] at related
                  rw [Option.map_some, Option.map_some, Option.some.injEq]
                  refine ih key _ _ found other
                    (nested _ (Keyed.mem_of_lookup found))
                    (othersNested _ (Keyed.mem_of_lookup other)) related ?_
                  intro position left right here there
                  exact leaves (key :: position) left right
                    ((valueAt_obj_cons found _).trans here)
                    ((valueAt_obj_cons other _).trans there)

/-! ## Exactness -/

/-- The canonical texts at a position differ, and the difference is not one
inside two dictionaries. -/
def Differs (old new : Json) (position : List String) : Prop :=
  (valueAt old position).map canonicalJson ≠
      (valueAt new position).map canonicalJson ∧
    ∀ value other, valueAt old position = some value →
      valueAt new position = some other → ¬BothDicts value other

/-- A diff of two projections is exact. -/
structure DiffExact (old new : Json) (diff : ReportSemanticDiff) : Prop where
  paths : diff.changedPaths = sortedBy id ((walkPositions old new).map pathText)
  once : (walkPositions old new).Nodup
  changed : diff.changed = false ↔ canonicalJson old = canonicalJson new
  covers : ∀ position, Differs old new position →
    ∃! reported, reported ∈ walkPositions old new ∧ reported <+: position
  differs : ∀ reported ∈ walkPositions old new,
    (valueAt old reported).map canonicalJson ≠ (valueAt new reported).map canonicalJson

/-- The comparison of a walk and the canonical text tell two values apart
alike. -/
structure ToldAlike (left right : Json) : Prop where
  /-- No `1` meets a `1.0`. -/
  kinds : canonicalJson left = canonicalJson right → kind left = kind right
  /-- No two values that differ are written alike. -/
  values : canonicalJson left = canonicalJson right → pyEq left right = true
  /-- No `[1]` meets a `[True]`. -/
  texts : kind left = kind right → pyEq left right = true → canonicalJson left = canonicalJson right

theorem toldAlike_iff :
    ToldAlike left right ↔ (LeafEqual left right ↔ canonicalJson left = canonicalJson right) := by
  constructor
  · rintro ⟨kinds, values, texts⟩
    exact ⟨fun equal => texts equal.1 equal.2, fun same => ⟨kinds same, values same⟩⟩
  · intro alike
    exact ⟨fun same => (alike.mpr same).1, fun same => (alike.mpr same).2,
      fun sameKind equal => alike.mp ⟨sameKind, equal⟩⟩

/-- Whatever a walk compares is told alike, and the text of the whole does not
hide where the data differs. -/
structure TextsAgree (old new : Json) : Prop where
  leaves : ∀ position value other, valueAt old position = some value →
    valueAt new position = some other → ¬BothDicts value other → ToldAlike value other
  whole : canonicalJson old = canonicalJson new → SameData old new

theorem canonicalJson_eq_iff :
    canonicalJson left = canonicalJson right ↔ canonicalText left = canonicalText right :=
  (Option.map_injective fun _ _ => String.ofList_injective).eq_iff

/-- A leaf is reported just when the walk tells its values apart. -/
theorem mem_walkPositions_leaf (here : valueAt left position = some value)
    (there : valueAt right position = some other) (noDicts : ¬BothDicts value other) :
    position ∈ walkPositions left right ↔ ¬LeafEqual value other := by
  rw [mem_walkPositions_iff]
  constructor
  · intro reported
    cases reported.meets with
    | both found otherFound _ differ =>
        rw [found, Option.some.injEq] at here
        rw [otherFound, Option.some.injEq] at there
        exact here ▸ there ▸ differ
    | removed _ absent =>
        rw [absent] at there
        cases there
    | added absent =>
        rw [absent] at here
        cases here
  · exact reported_of_differ here there noDicts

/-- A leaf differs just when its texts do. -/
theorem differs_leaf {old new : Json} (here : valueAt old position = some value)
    (there : valueAt new position = some other) (noDicts : ¬BothDicts value other) :
    Differs old new position ↔ canonicalJson value ≠ canonicalJson other := by
  unfold Differs
  rw [here, there, Option.map_some, Option.map_some, ne_eq, Option.some.injEq]
  refine and_iff_left ?_
  rintro left right ⟨⟩ ⟨⟩
  exact noDicts

section Walk

variable {old new : Json}

/-- A walk that is exact tells every leaf as its texts do. -/
theorem toldAlike_of_covers
    (covers : ∀ position, Differs old new position →
      ∃! reported, reported ∈ walkPositions old new ∧ reported <+: position)
    (differs : ∀ reported ∈ walkPositions old new,
      (valueAt old reported).map canonicalJson ≠ (valueAt new reported).map canonicalJson)
    (here : valueAt old position = some value) (there : valueAt new position = some other)
    (noDicts : ¬BothDicts value other) : ToldAlike value other := by
  have listed_iff := mem_walkPositions_leaf here there noDicts
  rw [toldAlike_iff, ← not_iff_not, ← listed_iff]
  constructor
  · intro listed same
    have apart := differs position listed
    rw [here, there, Option.map_some, Option.map_some, same] at apart
    exact apart rfl
  · intro apart
    obtain ⟨reported, ⟨listed, above⟩, -⟩ :=
      covers position ((differs_leaf here there noDicts).mpr apart)
    have common := ((mem_walkPositions_iff _ _ _).mp listed).eq_of_common here there above
    exact common ▸ listed

section Alike

variable (alike : ∀ position value other,
  valueAt old position = some value → valueAt new position = some other →
    ¬BothDicts value other → ToldAlike value other)
include alike

/-- What differs is below a reported position. -/
theorem exists_reported_of_differs (differ : Differs old new position) :
    ∃ reported ∈ walkPositions old new, reported <+: position := by
  by_cases oneSided : (valueAt old position).isSome =
      (valueAt new position).isSome
  · cases here : valueAt old position with
    | none =>
        cases there : valueAt new position with
        | none =>
            have apart := differ.1
            rw [here, there] at apart
            exact absurd rfl apart
        | some other =>
            rw [here, there] at oneSided
            cases oneSided
    | some value =>
        cases there : valueAt new position with
        | none =>
            rw [here, there] at oneSided
            cases oneSided
        | some other =>
            have noDicts := differ.2 value other here there
            have told := toldAlike_iff.mp (alike position value other here there noDicts)
            refine ⟨position, ?_, List.prefix_rfl⟩
            rw [mem_walkPositions_leaf here there noDicts, told]
            exact (differs_leaf here there noDicts).mp differ
  · obtain ⟨reported, listed, above⟩ := exists_reported_above oneSided
    exact ⟨reported, (mem_walkPositions_iff _ _ _).mpr listed, above⟩

/-- What is reported differs. -/
theorem texts_ne_of_reported
    {reported : List String} (listed : reported ∈ walkPositions old new) :
    (valueAt old reported).map canonicalJson ≠ (valueAt new reported).map canonicalJson := by
  cases ((mem_walkPositions_iff _ _ _).mp listed).meets with
  | both here there noDicts differ =>
      rw [here, there, Option.map_some, Option.map_some, ne_eq, Option.some.injEq]
      exact fun same => differ ((toldAlike_iff.mp (alike _ _ _ here there noDicts)).mpr same)
  | removed here absent =>
      rw [absent]
      intro same
      exact here (Option.map_eq_none_iff.mp same)
  | added absent there =>
      rw [absent]
      intro same
      exact there (Option.map_eq_none_iff.mp same.symm)

end Alike

/-- One of two reported positions above a position is the other. -/
theorem eq_of_reported_above {first second : List String}
    (firstListed : first ∈ walkPositions old new)
    (secondListed : second ∈ walkPositions old new)
    (firstAbove : first <+: position) (secondAbove : second <+: position) :
    first = second := by
  rw [mem_walkPositions_iff] at firstListed secondListed
  rcases List.prefix_or_prefix_of_prefix firstAbove secondAbove with
    above | above
  · exact firstListed.eq_of_prefix secondListed above
  · exact (secondListed.eq_of_prefix firstListed above).symm

end Walk

/-! ## Projections -/

theorem distinctKeys_obj_iff : (Json.obj members).DistinctKeys ↔ (members.map Prod.fst).Nodup ∧
        ∀ member ∈ members, member.2.DistinctKeys :=
  all_obj _ _

theorem distinctKeys_dropKeys
    (distinct : (Json.obj members).DistinctKeys) (keys : List String) :
    (Json.obj (dropKeys keys members)).DistinctKeys := by
  rw [distinctKeys_obj_iff] at distinct ⊢
  exact ⟨(List.filter_sublist.map Prod.fst).nodup distinct.1,
    fun member present => distinct.2 member (List.mem_of_mem_filter present)⟩

theorem map_fst_setItem (key : String) (value : Json) (members : List (String × Json)) :
    (setItem key value members).map Prod.fst =
      if key ∈ members.map Prod.fst then members.map Prod.fst
      else members.map Prod.fst ++ [key] := by
  induction members with
  | nil => rfl
  | cons member members ih =>
      unfold setItem
      by_cases same : member.1 = key
      · simp [same]
      · have other : ¬key = member.1 := Ne.symm same
        rw [if_neg same, List.map_cons, ih, List.map_cons]
        simp only [List.mem_cons, other, false_or]
        split_ifs <;> rfl

theorem mem_of_setItem {member : String × Json} (present : member ∈ setItem key value members) :
    member = (key, value) ∨ member ∈ members := by
  induction members with
  | nil => exact .inl (List.mem_singleton.mp present)
  | cons first members ih =>
      unfold setItem at present
      split_ifs at present with same
      · rcases List.mem_cons.mp present with here | later
        · exact .inl here
        · exact .inr (List.mem_cons_of_mem _ later)
      · rcases List.mem_cons.mp present with here | later
        · exact .inr (List.mem_cons.mpr (.inl here))
        · exact (ih later).imp_right (List.mem_cons_of_mem _)

theorem distinctKeys_setItem (distinct : (Json.obj members).DistinctKeys)
    (valueDistinct : value.DistinctKeys) (key : String) :
    (Json.obj (setItem key value members)).DistinctKeys := by
  rw [distinctKeys_obj_iff] at distinct ⊢
  refine ⟨?_, fun member present => ?_⟩
  · rw [map_fst_setItem]
    split_ifs with present
    · exact distinct.1
    · rw [List.nodup_append]
      refine ⟨distinct.1, List.nodup_singleton _, ?_⟩
      intro other listed _ new
      rw [List.mem_singleton.mp new]
      exact fun same => present (same ▸ listed)
  · rcases mem_of_setItem present with rfl | prior
    · exact valueDistinct
    · exact distinct.2 member prior

/-- Looking up a dictionary of dictionaries. -/
theorem distinctKeys_of_lookup (distinct : (Json.obj members).DistinctKeys)
    (found : members.lookup key = some value) : value.DistinctKeys :=
  (distinctKeys_obj_iff.mp distinct).2 _ (Keyed.mem_of_lookup found)

theorem distinctKeys_projectFindings {value : Option Json} {findings : Json}
    (distinct : ∀ given, value = some given → given.DistinctKeys)
    (projected : projectFindings value = .ok findings) :
    findings.DistinctKeys := by
  cases value with
  | none =>
      cases projected
      exact (all_arr _ _).mpr ⟨trivial, nofun⟩
  | some given =>
      cases given with
      | arr items =>
          obtain ⟨results, ran, rfl⟩ := Outcome.map_eq_ok.mp projected
          have related := Outcome.mapM_eq_ok.mp ran
          refine (all_arr _ _).mpr ⟨trivial, fun result present => ?_⟩
          obtain ⟨item, listed, finding⟩ := Traverse.exists_related_of_mem_right related present
          have itemDistinct := ((all_arr _ _).mp (distinct _ rfl)).2 item listed
          cases item with
          | obj members =>
              cases finding
              exact distinctKeys_dropKeys itemDistinct _
          | _ => cases finding
      | _ => cases projected

theorem distinctKeys_semanticProjection {payload : List (String × Json)}
    (distinct : (Json.obj payload).DistinctKeys)
    (projected : semanticProjection payload = .ok members) :
    (Json.obj members).DistinctKeys := by
  have kept := distinctKeys_dropKeys distinct ["lineage"]
  obtain ⟨metadata, read, continued⟩ := bind_eq_ok.mp projected
  obtain ⟨findings, found, ended⟩ := bind_eq_ok.mp continued
  cases ended
  have metadataDistinct : (Json.obj metadata).DistinctKeys := by
    unfold dictOrEmpty at read
    split at read
    · cases read
      exact (all_obj _ _).mpr ⟨List.nodup_nil, nofun⟩
    · rename_i found
      cases read
      exact distinctKeys_of_lookup kept found
    · split_ifs at read
      cases read
      exact (all_obj _ _).mpr ⟨List.nodup_nil, nofun⟩
  have described := distinctKeys_setItem kept
    (distinctKeys_dropKeys metadataDistinct metaIgnored) "metadata"
  exact distinctKeys_setItem described (distinctKeys_projectFindings
    (fun _ given => distinctKeys_of_lookup described given) found) "findings"

/-! ## The diff of two payloads -/

/-- The paths of a diff are those of the positions of its walk. -/
theorem compare_eq {oldPayload newPayload old new : List (String × Json)}
    {diff : ReportSemanticDiff} (projected : semanticProjection oldPayload = .ok old)
    (newProjected : semanticProjection newPayload = .ok new)
    (ran : compare oldPayload newPayload = .ok diff) :
    diff.changedPaths = sortedBy id
        ((walkPositions (.obj old) (.obj new)).map pathText) ∧
      (diff.changed = false ↔ SameData (.obj old) (.obj new)) := by
  have paths : walk (.obj old) (.obj new) "" =
      (walkPositions (.obj old) (.obj new)).map pathText := by
    rw [walk_eq_map]
    refine List.map_congr_left fun position listed => ?_
    cases position with
    | nil => exact absurd listed (nil_notMem_walkPositions_obj _ _)
    | cons key position =>
        have text : "" ++ pathText (key :: position) =
            pathText (key :: position) :=
          String.empty_append
        rw [pathText_cons, orRoot_key, ← pathText_cons, text]
  unfold compare at ran
  rw [projected, newProjected] at ran
  obtain ⟨_, same, continued⟩ := bind_eq_ok.mp ran
  cases same
  obtain ⟨_, same, continued⟩ := bind_eq_ok.mp continued
  cases same
  obtain ⟨hash, -, ended⟩ := bind_eq_ok.mp continued
  cases ended
  refine ⟨congrArg (sortedBy id) paths, ?_⟩
  rw [← walk_eq_nil_iff _ _ "", Bool.not_eq_false', List.isEmpty_iff]
  constructor
  · intro none
    exact List.Perm.eq_nil (none ▸ (sortedBy_perm id _).symm)
  · intro none
    rw [none, sortedBy_nil]

theorem exists_diff {oldPayload newPayload old new : List (String × Json)}
    (projected : semanticProjection oldPayload = .ok old)
    (newProjected : semanticProjection newPayload = .ok new) :
    ∃ diff, compare oldPayload newPayload = .ok diff := by
  let paths := sortedBy id (walk (.obj old) (.obj new) "")
  let found := sortedBy id (paths.map category).dedup
  have textual : Textual (.obj [("changed_paths", .arr (paths.map Json.str)),
        ("categories", .arr (found.map Json.str))]) := by
    simp [textual_obj, IsTagged]
  obtain ⟨hash, hashed, -⟩ := textual.exists_sha256Canonical
  refine ⟨⟨!paths.isEmpty, paths, found, hash, .obj
    [("changed_paths", .arr (paths.map Json.str)), ("categories", .arr (found.map Json.str))]⟩, ?_⟩
  unfold compare
  rw [projected, newProjected]
  exact bind_eq_ok.mpr ⟨old, rfl, bind_eq_ok.mpr ⟨new, rfl, bind_eq_ok.mpr ⟨hash, hashed, rfl⟩⟩⟩

theorem distinctKeys_valueAt {found : Json} (distinct : value.DistinctKeys)
    (here : valueAt value position = some found) : found.DistinctKeys := by
  induction position generalizing value with
  | nil =>
      cases here
      exact distinct
  | cons key position ih =>
      cases value with
      | obj members =>
          obtain ⟨nested, listed, below⟩ := Option.bind_eq_some_iff.mp here
          exact ih (distinctKeys_of_lookup distinct listed) below
      | _ => cases here

/-- A value agrees with itself. -/
theorem textsAgree_self (distinct : value.DistinctKeys) : TextsAgree value value := by
  refine ⟨fun position left right here there _ => ?_, fun _ => ?_⟩
  · rw [here, Option.some.injEq] at there
    subst there
    exact ⟨fun _ => rfl, fun _ => pyEq_refl (distinctKeys_valueAt distinct here), fun _ _ => rfl⟩
  · exact (walk_eq_nil_iff _ _ "").mp (walk_self distinct)

/-- A payload of a snapshot. -/
def samplePayload (snapshotId : String) : List (String × Json) :=
  [("lineage", .obj [("snapshot_id", .str snapshotId)]),
    ("metadata", .obj [("snapshot_id", .str snapshotId)]), ("cards", .arr [.int 1])]

end SanTanHeights.Report
