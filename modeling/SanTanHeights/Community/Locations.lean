import SanTanHeights.Community.Subjects

/-!
# Where changes are

The changes of a delta are told apart by their scope, object type, object
identifier and field path.  The identifier of a manifest entry is a text made
of its type and its own identifier, which two entries may share.
-/

namespace SanTanHeights.Community

open Foundation

/-! ## Locations -/

theorem Subject.location_eq_iff {left right : Subject} :
    left.location = right.location ↔
      left.scope.code = right.scope.code ∧
        left.objectType = right.objectType ∧
          left.objectId = right.objectId ∧ left.fieldPath = right.fieldPath := by
  simp [Subject.location]

theorem Scope.code_injective : Function.Injective Scope.code := by
  intro left right equal
  cases left <;> cases right <;> simp_all [Scope.code]

theorem CommunityField.path_injective : Function.Injective CommunityField.path := by
  intro left right equal
  cases left <;> cases right <;> simp_all [CommunityField.path]

theorem PropertyField.path_injective : Function.Injective PropertyField.path := by
  intro left right equal
  cases left <;> cases right <;> simp_all [PropertyField.path]

theorem Kind.objectType_injective : Function.Injective Kind.objectType := by
  intro left right equal
  cases left <;> cases right <;>
    simp_all [Kind.objectType, Kind.domain, Domain.code]

/-- Where a change of a manifest entry is. -/
def entryLocation (kind : Kind) (identity : String ×ₗ String) :
    String ×ₗ String ×ₗ String ×ₗ String :=
  toLex (Scope.manifest.code, toLex (kind.objectType,
    toLex (identityText identity, "manifest_entry")))

@[simp] theorem entryLocation_eq_iff {kind other : Kind} {left right : String ×ₗ String} :
    entryLocation kind left = entryLocation other right ↔
      kind = other ∧ identityText left = identityText right := by
  simp [entryLocation, Kind.objectType_injective.eq_iff]

/-! ## The locations of the three groups -/

section Groups

variable {fromisoformat : FromIsoformat}
  {before after : CommunityStateSnapshot}

theorem nodup_communityLocations :
    ((communityFields.map (communitySubject before after)).map Subject.location).Nodup := by
  rw [List.map_map]
  apply List.Nodup.map
  · intro left right equal
    exact CommunityField.path_injective (Subject.location_eq_iff.mp equal).2.2.2
  · decide

theorem mem_propertySubjects
    {propertyId : String} {old new : Option PropertyStateProjection} {subject : Subject}
    (member : subject ∈ propertySubjects propertyId old new) :
    subject.scope = .property ∧ subject.objectId = propertyId := by
  rcases old with _ | old <;> rcases new with _ | new
  · cases member
  · rw [List.mem_singleton.mp member]
    exact ⟨rfl, rfl⟩
  · rw [List.mem_singleton.mp member]
    exact ⟨rfl, rfl⟩
  · obtain ⟨field, _, rfl⟩ := List.mem_map.mp member
    exact ⟨rfl, rfl⟩

theorem nodup_propertySubjectLocations
    (propertyId : String) (old new : Option PropertyStateProjection) :
    ((propertySubjects propertyId old new).map Subject.location).Nodup := by
  rcases old with _ | old <;> rcases new with _ | new
  · exact List.nodup_nil
  · exact List.nodup_singleton _
  · exact List.nodup_singleton _
  · rw [propertySubjects, List.map_map]
    apply List.Nodup.map
    · intro left right equal
      exact PropertyField.path_injective (Subject.location_eq_iff.mp equal).2.2.2
    · decide

theorem nodup_propertyLocations :
    (((propertyKeys before after).flatMap fun propertyId =>
      propertySubjects propertyId (before.property? propertyId)
        (after.property? propertyId)).map Subject.location).Nodup := by
  rw [List.map_flatMap, List.nodup_flatMap]
  constructor
  · intro propertyId _
    exact nodup_propertySubjectLocations _ _ _
  · apply (Merging.nodup_unionKeys _ _).pairwise_of_forall_ne
    intro left _ right _ different location leftMember rightMember
    obtain ⟨subject, listed, rfl⟩ := List.mem_map.mp leftMember
    obtain ⟨other, otherListed, same⟩ := List.mem_map.mp rightMember
    apply different
    rw [← (mem_propertySubjects listed).2, ← (mem_propertySubjects otherListed).2,
      (Subject.location_eq_iff.mp same).2.2.1]

/-- Every entry of either snapshot is the subject of one change. -/
theorem map_location_entrySubjects {kind : Kind} {identity : String ×ₗ String}
    (listed : identity ∈ entryKeys before after kind) :
    (entrySubjects fromisoformat before kind identity
        (before.entry? kind identity) (after.entry? kind identity)).map Subject.location =
      [entryLocation kind identity] := by
  rw [mem_entryKeys] at listed
  cases old : before.entry? kind identity with
  | none =>
      cases new : after.entry? kind identity with
      | none => simp [old, new] at listed
      | some added => rfl
  | some removed =>
      cases new : after.entry? kind identity with
      | none => rfl
      | some kept => rfl

theorem map_location_manifestSubjects :
    ((kinds.flatMap fun kind =>
      (entryKeys before after kind).flatMap fun identity =>
        entrySubjects fromisoformat before kind identity
          (before.entry? kind identity)
          (after.entry? kind identity)).map Subject.location) =
      kinds.flatMap fun kind =>
        (entryKeys before after kind).map (entryLocation kind) := by
  rw [List.map_flatMap]
  apply List.flatMap_congr
  intro kind _
  rw [List.map_flatMap, ← List.flatMap_singleton' (List.map _ _), List.flatMap_map]
  apply List.flatMap_congr
  exact fun identity listed => map_location_entrySubjects listed

/-! ## Distinct locations -/

/-- The text of an entry's identity determines it, among the entries of one
manifest of either snapshot. -/
def DistinctTexts (before after : CommunityStateSnapshot) : Prop :=
  ∀ kind, ∀ left ∈ before.manifest kind ++ after.manifest kind,
    ∀ right ∈ before.manifest kind ++ after.manifest kind,
      identityText left.identity = identityText right.identity → left.identity = right.identity

theorem mem_entryKeys_iff {kind : Kind} {identity : String ×ₗ String} :
    identity ∈ entryKeys before after kind ↔
      ∃ entry ∈ before.manifest kind ++ after.manifest kind, entry.identity = identity := by
  rw [entryKeys, Merging.mem_unionKeys, List.map_reverse, List.map_reverse,
    List.mem_reverse, List.mem_reverse, ← List.mem_append, ← List.map_append, List.mem_map]

theorem nodup_entryLocations_iff :
    (kinds.flatMap fun kind =>
      (entryKeys before after kind).map (entryLocation kind)).Nodup ↔
        DistinctTexts before after := by
  rw [List.nodup_flatMap]
  have apart : kinds.Pairwise (Function.onFun List.Disjoint fun kind =>
      (entryKeys before after kind).map (entryLocation kind)) := by
    apply List.Nodup.pairwise_of_forall_ne (by decide)
    intro kind _ other _ different location listed otherListed
    obtain ⟨left, _, rfl⟩ := List.mem_map.mp listed
    obtain ⟨right, _, same⟩ := List.mem_map.mp otherListed
    exact different (entryLocation_eq_iff.mp same).1.symm
  have keysNodup : ∀ kind, (entryKeys before after kind).Nodup := fun kind =>
    Merging.nodup_unionKeys _ _
  simp only [apart, and_true, DistinctTexts]
  constructor
  · intro distinct kind left leftMember right rightMember sameText
    have injective := (List.nodup_map_iff_inj_on (keysNodup kind)).mp
      (distinct kind (mem_kinds kind))
    exact injective _ (mem_entryKeys_iff.mpr ⟨left, leftMember, rfl⟩) _
      (mem_entryKeys_iff.mpr ⟨right, rightMember, rfl⟩)
      (entryLocation_eq_iff.mpr ⟨rfl, sameText⟩)
  · intro distinct kind _
    rw [List.nodup_map_iff_inj_on (keysNodup kind)]
    intro left leftListed right rightListed same
    obtain ⟨leftEntry, leftMember, rfl⟩ := mem_entryKeys_iff.mp leftListed
    obtain ⟨rightEntry, rightMember, rfl⟩ := mem_entryKeys_iff.mp rightListed
    exact distinct kind _ leftMember _ rightMember (entryLocation_eq_iff.mp same).2

/-- The first part of a location is the code of a scope. -/
def Within (scope : Scope) (locations : List (String ×ₗ String ×ₗ String ×ₗ String)) : Prop :=
  ∀ location ∈ locations, (ofLex location).1 = scope.code

theorem Within.disjoint {scope other : Scope}
    {locations others : List (String ×ₗ String ×ₗ String ×ₗ String)}
    (within : Within scope locations) (othersWithin : Within other others)
    (different : scope ≠ other) :
    locations.Disjoint others := by
  intro location member otherMember
  apply different
  apply Scope.code_injective
  rw [← within location member, othersWithin location otherMember]

theorem within_community :
    Within .community ((communityFields.map
      (communitySubject before after)).map Subject.location) := by
  intro location member
  rw [List.map_map] at member
  obtain ⟨field, _, rfl⟩ := List.mem_map.mp member
  rfl

theorem within_property :
    Within .property (((propertyKeys before after).flatMap fun propertyId =>
      propertySubjects propertyId (before.property? propertyId)
        (after.property? propertyId)).map Subject.location) := by
  intro location member
  obtain ⟨subject, listed, rfl⟩ := List.mem_map.mp member
  obtain ⟨propertyId, _, listed⟩ := List.mem_flatMap.mp listed
  exact congrArg Scope.code (mem_propertySubjects listed).1

theorem within_manifest :
    Within .manifest (kinds.flatMap fun kind =>
      (entryKeys before after kind).map (entryLocation kind)) := by
  intro location member
  obtain ⟨kind, _, listed⟩ := List.mem_flatMap.mp member
  obtain ⟨identity, _, rfl⟩ := List.mem_map.mp listed
  rfl

/-- No two changes of a delta share a location just when no two entries share
a text. -/
theorem nodup_locations_iff :
    ((subjects fromisoformat before after).map Subject.location).Nodup ↔
      DistinctTexts before after := by
  unfold subjects
  rw [List.map_append, List.map_append, List.nodup_append',
    List.nodup_append', List.disjoint_append_right,
    map_location_manifestSubjects, nodup_entryLocations_iff]
  constructor
  · exact fun distinct => distinct.2.1.2.1
  · intro distinct
    exact ⟨nodup_communityLocations, ⟨nodup_propertyLocations, distinct,
        within_property.disjoint within_manifest (by decide)⟩,
      within_community.disjoint within_property (by decide),
      within_community.disjoint within_manifest (by decide)⟩

end Groups

end SanTanHeights.Community
