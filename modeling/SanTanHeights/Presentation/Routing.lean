import SanTanHeights.Foundation.JsonEquality
import SanTanHeights.Foundation.Text
import SanTanHeights.Foundation.Uuid
import SanTanHeights.Shared.Textual
import SanTanHeights.Shared.Vocabulary

/-!
# Stable property routes

A route names a property and an audience.  The router writes the path of a
route and reads paths back: it cuts a path at its slashes, builds the route of
the parts and accepts the path when that route has it.
-/

namespace SanTanHeights.Presentation

open Foundation
open Foundation.Outcome
open Shared

/-! ## The registry -/

/-- `PresentationAudience`; it has the members of the variants. -/
abbrev PresentationAudience := Variant

structure PropertyRoutingRegistry where
  registryId : String
  version : String
  status : String
  basePath : String
  audienceSegments : List (String × String)
  rules : List (String × Bool)
  fingerprint : String
  deriving DecidableEq

namespace PropertyRoutingRegistry

/-- `_EXPECTED_SEGMENTS`. -/
def expectedSegments : List (String × String) :=
  [("AGENT", "agent"), ("SELLER", "seller"), ("PUBLIC", "public")]

/-- `_EXPECTED_RULES`. -/
def expectedRules : List (String × Bool) :=
  [("canonical_property_uuid_required", true), ("route_is_version_independent", true),
    ("route_is_identity_only", true), ("route_does_not_authorize_access", true),
    ("allow_address_in_route", false), ("allow_report_version_in_route", false),
    ("allow_presentation_hash_in_route", false)]

def segmentsJson : Json :=
  .obj (expectedSegments.map fun entry => (entry.1, .str entry.2))

def rulesJson : Json :=
  .obj (expectedRules.map fun entry => (entry.1, .bool entry.2))

/-- `payload`. -/
def expectedPayload : Json :=
  .obj [("property_routing_id", .str "STH-PROPERTY-ROUTING-v1.0"),
    ("version", .str "1.0.0"), ("status", .str "LOCKED"),
    ("base_path", .str "/properties"), ("audience_segments", segmentsJson),
    ("rules", rulesJson)]

/-- `raw.get(key) != expected`, negated. -/
def agrees (members : List (String × Json)) (key : String) (expected : Json) : Bool :=
  ((members.lookup key).getD .null).pyEq expected

/-- `cls(...)`. -/
def locked (fingerprint : String) : PropertyRoutingRegistry where
  registryId := "STH-PROPERTY-ROUTING-v1.0"
  version := "1.0.0"
  status := "LOCKED"
  basePath := "/properties"
  audienceSegments := expectedSegments
  rules := expectedRules
  fingerprint := fingerprint

/-- `PropertyRoutingRegistry.load`, from the value that the file holds.  Only
the text `1.0.0` is written like the expected version. -/
def load (raw : Json) : Except String PropertyRoutingRegistry :=
  match raw with
  | .obj members => do
      require (agrees members "property_routing_id"
          (.str "STH-PROPERTY-ROUTING-v1.0") = true)
        "unexpected property routing id"
      require (agrees members "version" (.str "1.0.0") = true)
        "unexpected property routing version"
      require (agrees members "status" (.str "LOCKED") = true)
        "property routing registry must be LOCKED"
      require (agrees members "base_path" (.str "/properties") = true)
        "property routing base path does not match locked contract"
      require (agrees members "audience_segments" segmentsJson = true)
        "property routing audience segments do not match locked contract"
      require (agrees members "rules" rulesJson = true)
        "property routing rules do not match locked contract"
      let fingerprint ← sha256Canonical expectedPayload
      return locked fingerprint
  | _ => .error "property routing registry must be an object"

/-- A registry that was loaded is the locked one. -/
theorem load_eq_ok {raw : Json} {registry : PropertyRoutingRegistry}
    (loaded : load raw = .ok registry) :
    registry.basePath = "/properties" ∧ registry.audienceSegments = expectedSegments := by
  cases raw with
  | obj members =>
      simp only [load, require_bind_eq_ok] at loaded
      obtain ⟨-, -, -, -, -, -, hashed⟩ := loaded
      obtain ⟨fingerprint, -, made⟩ := bind_eq_ok.mp hashed
      cases made
      exact ⟨rfl, rfl⟩
  | _ => simp [load] at loaded

end PropertyRoutingRegistry

/-! ## The router -/

structure StablePropertyRoute where
  propertyId : String
  audience : PresentationAudience
  path : String
  registryFingerprint : String
  deriving DecidableEq

structure StablePropertyRouter where
  registry : PropertyRoutingRegistry
  audienceBySegment : List (String × PresentationAudience)

namespace StablePropertyRouter

/-- `PresentationAudience[name]`. -/
def audienceNamed (name : String) : Option PresentationAudience :=
  variants.find? fun audience => audience.code = name

/-- `__init__`. -/
def init (registry : PropertyRoutingRegistry) :
    Except String StablePropertyRouter := do
  let audienceBySegment ← registry.audienceSegments.mapM fun entry => do
    let audience ← orRaise (audienceNamed entry.1) entry.1
    return (entry.2, audience)
  return ⟨registry, audienceBySegment⟩

/-- `_canonical_property_id`. -/
def canonicalPropertyId (value : String) : Except String String := do
  require (Text.isBlank value = false) "property_id is required"
  let parsed ← orRaise (Uuid.parse value) "property_id must be a canonical UUID"
  require (value = parsed.str)
    "property_id must use canonical lowercase UUID form"
  return parsed.str

/-- `build`. -/
def build (router : StablePropertyRouter) (propertyId : String)
    (audience : PresentationAudience) :
    Except String StablePropertyRoute := do
  let canonicalId ← canonicalPropertyId propertyId
  let segment ← orRaise (router.registry.audienceSegments.lookup audience.code)
    audience.code
  return {
    propertyId := canonicalId
    audience := audience
    path := router.registry.basePath ++ "/" ++ canonicalId ++ "/" ++ segment
    registryFingerprint := router.registry.fingerprint }

/-- `resolve`. -/
def resolve (router : StablePropertyRouter) (path : String) :
    Except String StablePropertyRoute := do
  let base := (router.registry.basePath ++ "/").toList
  require (base <+: path.toList)
    "path does not match stable property routing contract"
  require ('?' ∉ path.toList ∧ '#' ∉ path.toList)
    "stable property route must not contain query or fragment data"
  let parts := (path.toList.drop base.length).splitOn '/'
  require (parts.length = 2 ∧ [] ∉ parts)
    "path does not match stable property routing contract"
  let propertyId := String.ofList (parts.getD 0 [])
  let segment := String.ofList (parts.getD 1 [])
  let audience ← orRaise (router.audienceBySegment.lookup segment)
    "unknown presentation audience route segment"
  let route ← router.build propertyId audience
  require (route.path = path) "property route is not canonical"
  return route

/-! ## The locked router -/

/-- A router of a registry that was loaded. -/
structure Locked (router : StablePropertyRouter) : Prop where
  basePath : router.registry.basePath = "/properties"
  audienceSegments : router.registry.audienceSegments = PropertyRoutingRegistry.expectedSegments
  audienceBySegment : router.audienceBySegment =
    [("agent", .agent), ("seller", .seller), ("public", .pub)]

/-- What `load` returns makes a locked router. -/
theorem Locked.of_load {raw : Json} {registry : PropertyRoutingRegistry}
    {router : StablePropertyRouter} (loaded : PropertyRoutingRegistry.load raw = .ok registry)
    (made : init registry = .ok router) :
    router.Locked := by
  obtain ⟨basePath, segments⟩ := PropertyRoutingRegistry.load_eq_ok loaded
  obtain ⟨table, mapped, returned⟩ := bind_eq_ok.mp made
  cases returned
  refine ⟨basePath, segments, ?_⟩
  rw [segments] at mapped
  exact (Except.ok.inj mapped).symm

/-- The last part of the paths for an audience. -/
def segmentOf : PresentationAudience → String
  | .agent => "agent"
  | .seller => "seller"
  | .pub => "public"

/-- The path of a property for an audience. -/
def pathOf (uuid : Uuid) (audience : PresentationAudience) : String :=
  "/properties" ++ "/" ++ uuid.str ++ "/" ++ segmentOf audience

theorem lookup_segmentOf (audience : PresentationAudience) :
    PropertyRoutingRegistry.expectedSegments.lookup audience.code = some (segmentOf audience) := by
  cases audience <;> rfl

theorem isBlank_str (uuid : Uuid) : Text.isBlank uuid.str = false := by
  have hyphen : '-' ∈ uuid.str.toList := by
    rw [Uuid.str, String.toList_ofList]
    simp [Uuid.strChars]
  rw [Text.isBlank, List.all_eq_false]
  exact ⟨'-', hyphen, by decide⟩

/-- The identities that are canonical. -/
theorem canonicalPropertyId_eq_ok {value canonical : String} :
    canonicalPropertyId value = .ok canonical ↔
      canonical = value ∧ ∃ uuid : Uuid, value = uuid.str := by
  simp only [canonicalPropertyId, require_bind_eq_ok]
  constructor
  · rintro ⟨-, read⟩
    obtain ⟨parsed, -, same⟩ := bind_eq_ok.mp read
    obtain ⟨written, returned⟩ := require_bind_eq_ok.mp same
    cases returned
    exact ⟨written.symm, parsed, written⟩
  · rintro ⟨rfl, uuid, rfl⟩
    refine ⟨isBlank_str uuid, bind_eq_ok.mpr ⟨uuid, ?_, ?_⟩⟩
    · rw [orRaise_eq_ok, Uuid.parse_str]
    · exact require_bind_eq_ok.mpr ⟨rfl, rfl⟩

/-- The route of a property for an audience. -/
def routeOf (router : StablePropertyRouter) (uuid : Uuid) (audience : PresentationAudience) :
    StablePropertyRoute where
  propertyId := uuid.str
  audience := audience
  path := pathOf uuid audience
  registryFingerprint := router.registry.fingerprint

variable {router : StablePropertyRouter}

theorem Locked.build_eq_ok (locked : router.Locked)
    {propertyId : String} {audience : PresentationAudience} {route : StablePropertyRoute} :
    router.build propertyId audience = .ok route ↔
      ∃ uuid : Uuid, propertyId = uuid.str ∧ route = router.routeOf uuid audience := by
  have segment : orRaise
      (router.registry.audienceSegments.lookup audience.code) audience.code =
      .ok (segmentOf audience) := by
    rw [locked.audienceSegments, orRaise_eq_ok, lookup_segmentOf]
  simp only [build, bind_eq_ok, canonicalPropertyId_eq_ok, segment,
    Except.ok.injEq, locked.basePath]
  constructor
  · rintro ⟨canonical, ⟨rfl, uuid, rfl⟩, found, rfl, returned⟩
    cases returned
    exact ⟨uuid, rfl, rfl⟩
  · rintro ⟨uuid, rfl, rfl⟩
    exact ⟨uuid.str, ⟨rfl, uuid, rfl⟩, segmentOf audience, rfl, rfl⟩

theorem slash_not_mem_strChars (uuid : Uuid) : '/' ∉ uuid.strChars := by
  intro present
  rcases Uuid.mem_strChars present with hyphen | digit
  · revert hyphen
    decide
  · revert digit
    decide

/-- The characters of a path, cut after the base path. -/
theorem toList_pathOf (uuid : Uuid) (audience : PresentationAudience) :
    (pathOf uuid audience).toList = "/properties/".toList ++
      (uuid.strChars ++ '/' :: (segmentOf audience).toList) := by
  simp [pathOf, Uuid.str, String.toList_append]

theorem splitOn_pathOf (uuid : Uuid) (audience : PresentationAudience) :
    (uuid.strChars ++ '/' :: (segmentOf audience).toList).splitOn '/' =
      [uuid.strChars, (segmentOf audience).toList] := by
  rw [List.splitOn_append_cons_self_of_not_mem (slash_not_mem_strChars uuid),
    List.splitOn_eq_singleton]
  cases audience <;> decide

/-- The segments of a path. -/
theorem splitOn_toList_pathOf (uuid : Uuid) (audience : PresentationAudience) :
    (pathOf uuid audience).toList.splitOn '/' =
      [[], "properties".toList, uuid.str.toList, (segmentOf audience).toList] := by
  have cut : (pathOf uuid audience).toList = [] ++ '/' ::
      ("properties".toList ++ '/' :: (uuid.strChars ++ '/' :: (segmentOf audience).toList)) :=
    toList_pathOf uuid audience
  have written : uuid.str.toList = uuid.strChars := String.toList_ofList
  rw [cut, List.splitOn_append_cons_self_of_not_mem List.not_mem_nil,
    List.splitOn_append_cons_self_of_not_mem (by decide), splitOn_pathOf,
    written]

/-- No path has a mark of a query or of a fragment. -/
theorem no_marks_pathOf (uuid : Uuid) (audience : PresentationAudience) :
    '?' ∉ (pathOf uuid audience).toList ∧ '#' ∉ (pathOf uuid audience).toList := by
  have plain : ∀ char ∈ uuid.strChars, char ≠ '?' ∧ char ≠ '#' := by
    intro char present
    rcases Uuid.mem_strChars present with rfl | digit
    · decide
    · constructor <;> rintro rfl <;> revert digit <;> decide
  simp only [toList_pathOf, List.mem_append, List.mem_cons, not_or]
  exact ⟨⟨by decide, fun present => (plain _ present).1 rfl, by decide,
      by cases audience <;> decide⟩,
    ⟨by decide, fun present => (plain _ present).2 rfl, by decide,
      by cases audience <;> decide⟩⟩

/-- The paths that are accepted are the paths of routes. -/
theorem Locked.resolve_eq_ok (locked : router.Locked)
    {path : String} {route : StablePropertyRoute} :
    router.resolve path = .ok route ↔
      ∃ uuid audience, path = pathOf uuid audience ∧ route = router.routeOf uuid audience := by
  simp only [resolve, require_bind_eq_ok, locked.basePath]
  constructor
  · rintro ⟨-, -, -, read⟩
    obtain ⟨audience, -, built⟩ := bind_eq_ok.mp read
    obtain ⟨found, made, same⟩ := bind_eq_ok.mp built
    obtain ⟨samePath, returned⟩ := require_bind_eq_ok.mp same
    cases returned
    obtain ⟨uuid, -, rfl⟩ := locked.build_eq_ok.mp made
    exact ⟨uuid, audience, samePath.symm, rfl⟩
  · rintro ⟨uuid, audience, rfl, rfl⟩
    have base : ("/properties" ++ "/").toList = "/properties/".toList := rfl
    have marks := no_marks_pathOf uuid audience
    rw [toList_pathOf] at marks
    rw [base, toList_pathOf, List.drop_left, splitOn_pathOf]
    have filled : [] ∉ [uuid.strChars, (segmentOf audience).toList] := by
      simp only [List.mem_cons, List.not_mem_nil, or_false, not_or]
      exact ⟨by simp [Uuid.strChars], by cases audience <;> decide⟩
    refine ⟨List.prefix_append _ _, marks, ⟨rfl, filled⟩, ?_⟩
    refine bind_eq_ok.mpr ⟨audience, ?_, bind_eq_ok.mpr ⟨router.routeOf uuid audience, ?_, ?_⟩⟩
    · rw [locked.audienceBySegment, orRaise_eq_ok]
      cases audience <;> rfl
    · exact locked.build_eq_ok.mpr ⟨uuid, rfl, rfl⟩
    · exact require_bind_eq_ok.mpr ⟨rfl, rfl⟩

theorem slash_not_mem_segmentOf (audience : PresentationAudience) :
    '/' ∉ (segmentOf audience).toList := by
  cases audience <;> decide

theorem segmentOf_injective : Function.Injective segmentOf := by
  intro left right equal
  cases left <;> cases right <;> first | rfl | (revert equal; decide)

/-- What stands before the last slash and after it. -/
theorem append_slash_inj {first second tail otherTail : List Char}
    (noSlash : '/' ∉ tail) (noOtherSlash : '/' ∉ otherTail)
    (equal : first ++ '/' :: tail = second ++ '/' :: otherTail) :
    first = second ∧ tail = otherTail := by
  have reversed := congrArg List.reverse equal
  simp only [List.reverse_append, List.reverse_cons, List.append_assoc,
    List.singleton_append] at reversed
  have parts := congrArg (List.splitOn '/') reversed
  rw [List.splitOn_append_cons_self_of_not_mem (by simpa using noSlash),
    List.splitOn_append_cons_self_of_not_mem (by simpa using noOtherSlash)]
    at parts
  obtain ⟨sameTail, sameParts⟩ := List.cons.inj parts
  have sameFirst := congrArg (List.intercalate ['/']) sameParts
  rw [List.intercalate_splitOn, List.intercalate_splitOn] at sameFirst
  exact ⟨List.reverse_injective sameFirst, List.reverse_injective sameTail⟩

/-- A path tells its property and its audience. -/
theorem pathOf_inj {left right : Uuid} {leftAudience rightAudience : PresentationAudience}
    (equal : pathOf left leftAudience = pathOf right rightAudience) :
    left = right ∧ leftAudience = rightAudience := by
  have chars := congrArg String.toList equal
  rw [toList_pathOf, toList_pathOf, List.append_cancel_left_eq] at chars
  obtain ⟨sameId, sameSegment⟩ := append_slash_inj
    (slash_not_mem_segmentOf _) (slash_not_mem_segmentOf _) chars
  exact ⟨Uuid.str_injective (congrArg String.ofList sameId),
    segmentOf_injective (String.toList_inj.mp sameSegment)⟩

theorem lowercase_of_all
    {chars : List Char} (plain : (chars.all fun char => !char.isUpper) = true) :
    ∀ char ∈ chars, char.isUpper = false := by
  simpa using plain

/-- No letter of a path is upper-case. -/
theorem lowercase_pathOf (uuid : Uuid) (audience : PresentationAudience) :
    ∀ char ∈ (pathOf uuid audience).toList, char.isUpper = false := by
  have plain : ∀ char ∈ uuid.strChars, char.isUpper = false := by
    intro char present
    rcases Uuid.mem_strChars present with rfl | digit
    · rfl
    · exact lowercase_of_all (by decide) char (List.contains_iff_mem.mp digit)
  intro char present
  rw [toList_pathOf, List.mem_append, List.mem_append, List.mem_cons] at present
  rcases present with base | uuid | rfl | segment
  · exact lowercase_of_all (by decide) char base
  · exact plain char uuid
  · rfl
  · exact lowercase_of_all (by cases audience <;> decide) char segment

/-- Routes and paths are in bijection: `build` succeeds on the canonical
identities, `resolve` undoes it, and it accepts the paths of the routes only,
each of which is the path of one property and one audience.  What is accepted
has no query, no fragment, no other segment and no upper-case letter, and no
other spelling of a UUID stands in it. -/
theorem stable_routes_round_trip {raw : Json} {registry : PropertyRoutingRegistry}
    {router : StablePropertyRouter} (loaded : PropertyRoutingRegistry.load raw = .ok registry)
    (made : init registry = .ok router) :
    (∀ propertyId audience,
      (∃ route, router.build propertyId audience = .ok route) ↔
        ∃ uuid : Uuid, propertyId = uuid.str) ∧
    (∀ propertyId audience route, router.build propertyId audience = .ok route →
        router.resolve route.path = .ok route) ∧
    (∀ path, (∃ route, router.resolve path = .ok route) ↔
      ∃! identity : String × PresentationAudience,
        ∃ route, router.build identity.1 identity.2 = .ok route ∧
          route.path = path) ∧
    (∀ path other route otherRoute, router.resolve path = .ok route →
        router.resolve other = .ok otherRoute →
          route.propertyId = otherRoute.propertyId →
            route.audience = otherRoute.audience → path = other) ∧
    (∀ path route, router.resolve path = .ok route →
      '?' ∉ path.toList ∧ '#' ∉ path.toList ∧
        (∀ char ∈ path.toList, char.isUpper = false) ∧
        path.toList.splitOn '/' = [[], "properties".toList,
          route.propertyId.toList, (segmentOf route.audience).toList]) ∧
    (∀ propertyId (uuid : Uuid) audience,
      Uuid.parse propertyId = some uuid → propertyId ≠ uuid.str →
        ∀ route, router.resolve ("/properties/" ++ propertyId ++ "/" ++
          segmentOf audience) ≠ .ok route) := by
  have locked := Locked.of_load loaded made
  refine ⟨fun propertyId audience => ?_, fun propertyId audience route built =>
      ?_, fun path => ?_, fun path other route otherRoute found otherFound
      sameId sameAudience => ?_, fun path route found => ?_,
    fun propertyId uuid audience read spelled route found => ?_⟩
  · constructor
    · rintro ⟨route, built⟩
      obtain ⟨uuid, same, -⟩ := locked.build_eq_ok.mp built
      exact ⟨uuid, same⟩
    · rintro ⟨uuid, rfl⟩
      exact ⟨_, locked.build_eq_ok.mpr ⟨uuid, rfl, rfl⟩⟩
  · obtain ⟨uuid, -, rfl⟩ := locked.build_eq_ok.mp built
    exact locked.resolve_eq_ok.mpr ⟨uuid, audience, rfl, rfl⟩
  · constructor
    · rintro ⟨route, found⟩
      obtain ⟨uuid, audience, rfl, rfl⟩ := locked.resolve_eq_ok.mp found
      refine ⟨(uuid.str, audience), ⟨_, locked.build_eq_ok.mpr
        ⟨uuid, rfl, rfl⟩, rfl⟩, ?_⟩
      rintro ⟨propertyId, other⟩ ⟨route, built, samePath⟩
      obtain ⟨otherUuid, same, rfl⟩ := locked.build_eq_ok.mp built
      obtain ⟨rfl, rfl⟩ := pathOf_inj samePath
      exact Prod.ext same rfl
    · rintro ⟨⟨propertyId, audience⟩, ⟨route, built, rfl⟩, -⟩
      obtain ⟨uuid, -, rfl⟩ := locked.build_eq_ok.mp built
      exact ⟨_, locked.resolve_eq_ok.mpr ⟨uuid, audience, rfl, rfl⟩⟩
  · obtain ⟨uuid, audience, rfl, rfl⟩ := locked.resolve_eq_ok.mp found
    obtain ⟨otherUuid, otherAudience, rfl, rfl⟩ :=
      locked.resolve_eq_ok.mp otherFound
    rw [Uuid.str_injective sameId, show audience = otherAudience from
      sameAudience]
  · obtain ⟨uuid, audience, rfl, rfl⟩ := locked.resolve_eq_ok.mp found
    obtain ⟨noQuery, noFragment⟩ := no_marks_pathOf uuid audience
    refine ⟨noQuery, noFragment, lowercase_pathOf uuid audience, ?_⟩
    exact splitOn_toList_pathOf uuid audience
  · obtain ⟨other, otherAudience, same, -⟩ := locked.resolve_eq_ok.mp found
    have chars := congrArg String.toList same
    have written : ("/properties/" ++ propertyId ++ "/" ++
        segmentOf audience).toList = "/properties/".toList ++
          (propertyId.toList ++ '/' :: (segmentOf audience).toList) := by
      simp [String.toList_append]
    rw [written, toList_pathOf, List.append_cancel_left_eq] at chars
    obtain ⟨sameId, -⟩ := append_slash_inj
      (slash_not_mem_segmentOf _) (slash_not_mem_segmentOf _) chars
    have canonical : propertyId = other.str := by
      rw [← String.toList_inj, sameId, Uuid.str, String.toList_ofList]
    rw [canonical, Uuid.parse_str] at read
    exact spelled (canonical.trans (congrArg Uuid.str (Option.some.inj read)))

/-- The locked registry is loaded. -/
theorem exists_load_expectedPayload :
    ∃ fingerprint, PropertyRoutingRegistry.load
      PropertyRoutingRegistry.expectedPayload =
        .ok (PropertyRoutingRegistry.locked fingerprint) := by
  have textual : Textual PropertyRoutingRegistry.expectedPayload := by
    simp [PropertyRoutingRegistry.expectedPayload, PropertyRoutingRegistry.segmentsJson,
      PropertyRoutingRegistry.expectedSegments,
      PropertyRoutingRegistry.rulesJson, PropertyRoutingRegistry.expectedRules,
      textual_obj, IsTagged]
  obtain ⟨fingerprint, hashed, -⟩ := textual.exists_sha256Canonical
  refine ⟨fingerprint, ?_⟩
  simp only [PropertyRoutingRegistry.load,
    PropertyRoutingRegistry.expectedPayload, require_bind_eq_ok]
  refine ⟨by decide, by decide, by decide, by decide, by decide, by decide,
    bind_eq_ok.mpr ⟨fingerprint, hashed, rfl⟩⟩

/-- The route of a property for the public. -/
theorem stable_routes_round_trip_public :
    ∃ registry router route,
      PropertyRoutingRegistry.load PropertyRoutingRegistry.expectedPayload =
        .ok registry ∧
      init registry = .ok router ∧
      router.build (Uuid.str ⟨0xaaaaaaaa111111111111111111111111,
        by decide⟩) .pub = .ok route ∧
      router.resolve route.path = .ok route := by
  obtain ⟨fingerprint, loaded⟩ := exists_load_expectedPayload
  have made : init (.locked fingerprint) = .ok ⟨.locked fingerprint,
      [("agent", .agent), ("seller", .seller), ("public", .pub)]⟩ := rfl
  obtain ⟨builds, resolves, -⟩ := stable_routes_round_trip loaded made
  obtain ⟨route, built⟩ := (builds _ .pub).mpr ⟨_, rfl⟩
  exact ⟨_, _, route, loaded, made, built, resolves _ _ _ built⟩

end StablePropertyRouter
end SanTanHeights.Presentation
