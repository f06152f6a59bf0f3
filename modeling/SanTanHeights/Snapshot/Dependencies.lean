import SanTanHeights.Foundation.Keyed
import SanTanHeights.Snapshot.GovernedState

/-!
# Dependency manifests

`DependencyManifestBuilder.build` normalizes the variant scopes of a state's
dependencies and lists them by type and identifier, without duplicates.
-/

namespace SanTanHeights.Snapshot

open Foundation Foundation.Sorting Foundation.Outcome Shared

/-- `registries/dependency-types.yaml`. -/
def dependencyTypes : List String :=
  ["PROPERTY_IDENTITY", "PARCEL_IDENTITY", "PARCEL_GEOMETRY",
    "CANONICAL_PHASE", "BUILDER_IDENTITY", "FLOOR_PLAN_IDENTITY",
    "LOT_IDENTITY", "LOT_GEOMETRY", "STREET_CONTEXT", "STREET_SIDE",
    "ROAD_ADJACENCY", "TRACT_ADJACENCY", "REAR_ADJACENCY", "CORNER_STATUS",
    "CUL_DE_SAC_STATUS", "OPEN_SPACE_RELATIONSHIP", "VIEW_CLASSIFICATION",
    "POOL_STATUS", "GARAGE_CLASSIFICATION", "SOURCE_DATASET",
    "PRODUCTION_FINDING", "PASSPORT", "WORDING_POLICY", "PUBLICATION_POLICY",
    "MODEL_VERSION", "TEST_DEP"]

/-- `tuple(sorted(set(variant_scope)))`; the codes of the variants are in
this alphabetic order. -/
def sortedScope (scope : List Variant) : List Variant :=
  [Variant.agent, .pub, .seller].filter fun variant => variant ∈ scope

/-- `replace(dep, variant_scope=...)`. -/
def GovernedDependency.normalized (dependency : GovernedDependency) : GovernedDependency :=
  { dependency with variantScope := sortedScope dependency.variantScope }

/-- The key of a dependency in the manifest. -/
def GovernedDependency.key (dependency : GovernedDependency) : String ×ₗ String :=
  toLex (dependency.dependencyType, dependency.dependencyId)

/-- `by_key[key] = normalized`, unless a different dependency is there. -/
def addDependency (byKey : List GovernedDependency) (dependency : GovernedDependency) :
    Except String (List GovernedDependency) :=
  orRaise (Keyed.insertUnique GovernedDependency.key byKey dependency)
    ("conflicting duplicate dependency: " ++ dependency.dependencyType ++
      ":" ++ dependency.dependencyId)

/-- The body of the loop of `build`. -/
def addGoverned (allowed : List String)
    (byKey : List GovernedDependency) (dependency : GovernedDependency) :
    Except String (List GovernedDependency) := do
  require (dependency.dependencyType ∈ allowed)
    ("unknown dependency type: " ++ dependency.dependencyType)
  addDependency byKey dependency.normalized

/-- `DependencyManifestBuilder.build`. -/
def buildDependencies (allowed : List String) (dependencies : List GovernedDependency) :
    Except String (List GovernedDependency) :=
  (dependencies.foldlM (addGoverned allowed) []).map (sortedBy GovernedDependency.key)

/-! ## What is built -/

theorem mem_sortedScope (scope : List Variant) (variant : Variant) :
    variant ∈ sortedScope scope ↔ variant ∈ scope := by
  cases variant <;> simp [sortedScope]

/-- A sorted scope is determined by its members. -/
theorem sortedScope_eq_of_mem_iff {left right : List Variant}
    (same : ∀ variant, variant ∈ left ↔ variant ∈ right) :
    sortedScope left = sortedScope right := by
  unfold sortedScope
  exact List.filter_congr fun variant _ => by simp [same variant]

/-- A manifest names each dependency once, with a sorted scope. -/
def WellFormedManifest (dependencies : List GovernedDependency) : Prop :=
  (dependencies.map GovernedDependency.key).Nodup ∧ ∀ dependency ∈ dependencies,
      sortedScope dependency.variantScope = dependency.variantScope

theorem addGoverned_wellFormed {allowed : List String} {byKey next : List GovernedDependency}
    {dependency : GovernedDependency} (wellFormed : WellFormedManifest byKey)
    (added : addGoverned allowed byKey dependency = .ok next) :
    WellFormedManifest next := by
  simp only [addGoverned, require_bind_eq_ok, addDependency, orRaise_eq_ok]
    at added
  obtain ⟨_, inserted⟩ := added
  refine ⟨Keyed.nodup_insertUnique wellFormed.1 inserted, ?_⟩
  intro other present
  rcases Keyed.mem_insertUnique inserted present with old | rfl
  · exact wellFormed.2 other old
  · exact sortedScope_eq_of_mem_iff (mem_sortedScope dependency.variantScope)

/-- What `build` returns. -/
theorem buildDependencies_wellFormed {allowed : List String}
    {dependencies manifest : List GovernedDependency}
    (built : buildDependencies allowed dependencies = .ok manifest) :
    WellFormedManifest manifest := by
  obtain ⟨byKey, loop, rfl⟩ := Outcome.map_eq_ok.mp built
  have wellFormed := foldlM_invariant WellFormedManifest
    (fun _ _ _ holds step => addGoverned_wellFormed holds step)
    (by simp [WellFormedManifest]) loop
  have permuted := sortedBy_perm GovernedDependency.key byKey
  exact ⟨(permuted.map _).nodup_iff.mpr wellFormed.1, fun dependency present =>
      wellFormed.2 dependency ((mem_sortedBy _ _ _).mp present)⟩

end SanTanHeights.Snapshot
