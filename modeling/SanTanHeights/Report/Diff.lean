import SanTanHeights.Foundation.JsonEquality
import SanTanHeights.Shared.Textual

/-!
# Semantic diffs of reports

`ReportSemanticDiffEngine.compare` drops the lineage of two payloads and lists
the paths at which the rest differs.
-/

namespace SanTanHeights.Report

open Foundation Foundation.Json Foundation.Sorting Shared

/-! ## The source -/

/-- `_META_IGNORED`. -/
def metaIgnored : List String :=
  ["snapshot_id", "verified_through", "market_data_through", "builder_data_through"]

/-- A dictionary without some keys. -/
def dropKeys (keys : List String) (members : List (String × Json)) : List (String × Json) :=
  members.filter fun member => member.1 ∉ keys

/-- `bool(value)`. -/
def truthy : Json → Bool
  | .null => false
  | .bool value => value
  | .int value => value != 0
  | .dec value => value.coefficient != 0
  | .str value => value != ""
  | .arr items => !items.isEmpty
  | .obj members => !members.isEmpty

/-- `dict(value or {})`, for a value that is falsy or a dictionary. -/
def dictOrEmpty : Option Json → Except String (List (String × Json))
  | none => .ok []
  | some (.obj members) => .ok members
  | some value => if truthy value then .error "TypeError" else .ok []

/-- A finding without its snapshot. -/
def projectFinding : Json → Except String Json
  | .obj members => .ok (.obj (dropKeys ["source_snapshot_id"] members))
  | _ => .error "TypeError"

/-- The findings of a payload, none when the key is absent. -/
def projectFindings : Option Json → Except String Json
  | none => .ok (.arr [])
  | some (.arr findings) => (findings.mapM projectFinding).map Json.arr
  | some _ => .error "TypeError"

/-- `projection` of a dictionary. -/
def semanticProjection (payload : List (String × Json)) :
    Except String (List (String × Json)) := do
  let kept := dropKeys ["lineage"] payload
  let metadata ← dictOrEmpty (kept.lookup "metadata")
  let withMetadata := setItem "metadata" (.obj (dropKeys metaIgnored metadata)) kept
  let findings ← projectFindings (withMetadata.lookup "findings")
  return setItem "findings" findings withMetadata

/-- `path or "/"`. -/
def orRoot (path : String) : String :=
  if path = "" then "/" else path

/-- `type(value)`. -/
inductive Kind where
  | none
  | bool
  | int
  | decimal
  | str
  | list
  | dict
  deriving DecidableEq, Repr

def kind : Json → Kind
  | .null => .none
  | .bool _ => .bool
  | .int _ => .int
  | .dec _ => .decimal
  | .str _ => .str
  | .arr _ => .list
  | .obj _ => .dict

/-- The comparison of values other than two dictionaries. -/
def walkLeaf (left right : Json) (path : String) : List String :=
  if kind left ≠ kind right then [orRoot path]
  else if pyEq left right then [] else [orRoot path]

mutual

/-- `_walk`: the paths it appends. -/
def walk : Json → Json → String → List String
  | .obj members, right, path =>
      match right with
      | .obj others =>
          let common := walkMembers members others path
          let keys := sortedBy id
            (members.map Prod.fst ++ others.map Prod.fst).dedup
          keys.flatMap fun key =>
            (common.lookup key).getD [path ++ "/" ++ key]
      | _ => [orRoot path]
  | .arr items, right, path => walkLeaf (.arr items) right path
  | .null, right, path => walkLeaf .null right path
  | .bool value, right, path => walkLeaf (.bool value) right path
  | .int value, right, path => walkLeaf (.int value) right path
  | .dec value, right, path => walkLeaf (.dec value) right path
  | .str value, right, path => walkLeaf (.str value) right path

/-- The paths under each key that both dictionaries have. -/
def walkMembers :
    List (String × Json) → List (String × Json) → String → List (String × List String)
  | [], _, _ => []
  | (key, value) :: members, others, path =>
      match others.lookup key with
      | some other =>
          (key, walk value other (path ++ "/" ++ key)) :: walkMembers members others path
      | none => walkMembers members others path

end

/-- The categories by the first part of a path. -/
def categories : List (String × String) :=
  [("findings", "FINDING"), ("cards", "CARD"), ("sections", "SECTION"),
    ("summary", "SUMMARY"), ("glossary", "GLOSSARY"),
    ("disclaimers", "DISCLAIMER"), ("property_identity", "PROPERTY_IDENTITY"),
    ("branding_reference", "BRANDING"), ("metadata", "CONTRACT")]

/-- The first part of `path.strip("/")`, `root` when there is none. -/
def topOf (path : String) : String :=
  let isSlash := fun char : Char => char == '/'
  let inner := path.toList.dropWhile isSlash
  let stripped := (inner.reverse.dropWhile isSlash).reverse
  if stripped.isEmpty then "root"
  else String.ofList (stripped.takeWhile fun char => !isSlash char)

/-- `_category`. -/
def category (path : String) : String :=
  (categories.lookup (topOf path)).getD "OTHER"

structure ReportSemanticDiff where
  changed : Bool
  changedPaths : List String
  categories : List String
  diffHash : String
  payload : Json

/-- `compare`. -/
def compare (oldPayload newPayload : List (String × Json)) :
    Except String ReportSemanticDiff := do
  let old ← semanticProjection oldPayload
  let new ← semanticProjection newPayload
  let paths := sortedBy id (walk (.obj old) (.obj new) "")
  let found := sortedBy id (paths.map category).dedup
  let body := Json.obj [("changed_paths", .arr (paths.map Json.str)),
      ("categories", .arr (found.map Json.str))]
  let hash ← sha256Canonical body
  return {
    changed := !paths.isEmpty
    changedPaths := paths
    categories := found
    diffHash := hash
    payload := body }

variable {right : Json} {path : String} {members : List (String × Json)}

/-! ## Where nothing changed -/

theorem walkLeaf_eq_nil {left : Json} :
    walkLeaf left right path = [] ↔ kind left = kind right ∧ pyEq left right = true := by
  unfold walkLeaf
  split_ifs with differ equal
  · simp [differ]
  · simpa [equal] using not_not.mp differ
  · simp [equal]

theorem walk_str {left right : String} :
    walk (.str left) (.str right) path = [] ↔ left = right := by
  rw [walk, walkLeaf_eq_nil, pyEq_str]
  simp [kind]

theorem walk_arr {items others : List Json} :
    walk (.arr items) (.arr others) path = [] ↔ pyEq (.arr items) (.arr others) = true := by
  rw [walk, walkLeaf_eq_nil]
  simp [kind]

/-- The paths under a key that both dictionaries have. -/
theorem lookup_walkMembers (members others : List (String × Json)) (path key : String) :
    (walkMembers members others path).lookup key =
      (members.lookup key).bind fun value =>
        (others.lookup key).map fun other =>
          walk value other (path ++ "/" ++ key) := by
  induction members with
  | nil => rfl
  | cons member members ih =>
      obtain ⟨first, value⟩ := member
      rw [walkMembers]
      by_cases same : key = first
      · subst same
        cases found : others.lookup key with
        | none => simp [ih, found]
        | some other => simp
      · have differs : (key == first) = false := by simpa using same
        cases found : others.lookup first with
        | none => simp [ih, List.lookup_cons, differs]
        | some other => simp [ih, List.lookup_cons, differs]

/-- Dictionaries do not differ just when they do not under any key. -/
theorem walk_obj_iff_lookup {others : List (String × Json)} :
    walk (.obj members) (.obj others) path = [] ↔
      ∀ key, Option.Rel (fun value other =>
        walk value other (path ++ "/" ++ key) = [])
        (members.lookup key) (others.lookup key) := by
  rw [walk, List.flatMap_eq_nil_iff]
  apply forall_congr'
  intro key
  rw [(sortedBy_perm _ _).mem_iff, List.mem_dedup, List.mem_append, lookup_walkMembers]
  have left := @Keyed.lookup_eq_none_iff_notMem _ _ _ members key
  have right := @Keyed.lookup_eq_none_iff_notMem _ _ _ others key
  cases found : members.lookup key <;>
    cases otherFound : others.lookup key <;> simp_all

/-- Dictionaries with the same keys in the same order, key by key. -/
theorem walk_obj {others : List (String × Json)}
    (sameKeys : members.map Prod.fst = others.map Prod.fst)
    (distinct : (members.map Prod.fst).Nodup) :
    walk (.obj members) (.obj others) path = [] ↔
      List.Forall₂ (fun member other =>
        walk member.2 other.2 (path ++ "/" ++ member.1) = [])
        members others := by
  rw [walk_obj_iff_lookup, ← Keyed.forall₂_iff_lookup sameKeys distinct]

/-- A value does not differ from itself. -/
theorem walk_self {value : Json} (distinct : value.DistinctKeys) :
    walk value value path = [] := by
  induction value generalizing path with
  | obj members ih =>
      obtain ⟨keys, nested⟩ := (all_obj _ _).mp distinct
      rw [walk_obj rfl keys, List.forall₂_same]
      exact fun member present =>
        ih member present (nested member present)
  | _ =>
      rw [walk, walkLeaf_eq_nil]
      exact ⟨rfl, pyEq_refl distinct⟩

/-- The same data: dictionaries key by key, other values of one kind that are
equal. -/
inductive SameData : Json → Json → Prop
  | leaf {left right : Json}
      (noDict : kind left ≠ .dict) (sameKind : kind left = kind right)
      (equal : pyEq left right = true) : SameData left right
  | dict {members others : List (String × Json)}
      (values : ∀ key, Option.Rel SameData (members.lookup key) (others.lookup key)) :
      SameData (.obj members) (.obj others)

theorem sameData_leaf_iff {left : Json} (noDict : kind left ≠ .dict) :
    SameData left right ↔ kind left = kind right ∧ pyEq left right = true := by
  constructor
  · intro same
    cases same with
    | leaf _ sameKind equal => exact ⟨sameKind, equal⟩
    | dict => exact absurd rfl noDict
  · exact fun same => .leaf noDict same.1 same.2

theorem sameData_obj_iff :
    SameData (.obj members) right ↔ ∃ others, right = .obj others ∧
        ∀ key, Option.Rel SameData (members.lookup key) (others.lookup key) := by
  constructor
  · intro same
    cases same with
    | leaf noDict => exact absurd rfl noDict
    | dict values => exact ⟨_, rfl, values⟩
  · rintro ⟨others, rfl, values⟩
    exact .dict values

/-- A diff finds no path just where the data is the same. -/
theorem walk_eq_nil_iff (left right : Json) (path : String) :
    walk left right path = [] ↔ SameData left right := by
  induction left generalizing right path with
  | obj members ih =>
      rw [sameData_obj_iff]
      cases right with
      | obj others =>
          simp only [obj.injEq, exists_eq_left', walk_obj_iff_lookup]
          apply forall_congr'
          intro key
          cases found : members.lookup key with
          | none => cases others.lookup key <;> simp
          | some value =>
              have present := Keyed.mem_of_lookup found
              cases others.lookup key with
              | none => simp
              | some other =>
                  simp only [Option.rel_some_some]
                  exact ih _ present other _
      | _ => simp [walk, orRoot]
  | _ =>
      rw [walk, walkLeaf_eq_nil, sameData_leaf_iff]
      simp [kind]

end SanTanHeights.Report
