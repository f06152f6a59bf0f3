import SanTanHeights.Community.Delta

/-!
# What a delta compares

The subjects of the changes of a delta are determined by the two snapshots
alone; costs, texts and identifiers come on top.  A snapshot is read through
the dictionaries that `build_community_delta` makes of its rows.
-/

namespace SanTanHeights.Community

open Foundation Foundation.Sorting Foundation.Outcome

/-! ## Dictionaries -/

namespace CommunityStateSnapshot

/-- The projection under an identifier: the last one, as in a dictionary. -/
def property? (snapshot : CommunityStateSnapshot) (propertyId : String) :
    Option PropertyStateProjection :=
  Merging.get PropertyStateProjection.propertyId snapshot.propertyStates.reverse propertyId

/-- The manifest entry under an identity. -/
def entry? (snapshot : CommunityStateSnapshot) (kind : Kind)
    (identity : String ×ₗ String) : Option TemporalManifestEntry :=
  Merging.get TemporalManifestEntry.identity (snapshot.manifest kind).reverse identity

end CommunityStateSnapshot

/-! ## Subjects -/

section Subjects

variable (fromisoformat : FromIsoformat)
  (before after : CommunityStateSnapshot)

/-- The subjects about one property. -/
def propertySubjects (propertyId : String) :
    Option PropertyStateProjection → Option PropertyStateProjection → List Subject
  | none, none => []
  | none, some new =>
      [wholePropertySubject propertyId .none (.property new) .added]
  | some old, none =>
      [wholePropertySubject propertyId (.property old) .none .removed]
  | some old, some new =>
      propertyFields.map (propertySubject propertyId old new)

/-- The subjects about one manifest entry. -/
def entrySubjects (kind : Kind) (identity : String ×ₗ String) :
    Option TemporalManifestEntry → Option TemporalManifestEntry → List Subject
  | none, none => []
  | none, some new =>
      [entrySubject kind identity .none (.entry new)
        (if newlyObserved fromisoformat before kind new then .becameKnown
        else .added)]
  | some old, none =>
      [entrySubject kind identity (.entry old) .none .removed]
  | some old, some new =>
      [entrySubject kind identity (.entry old) (.entry new)
        (if old = new then .unchanged else .modified)]

/-- The identifiers of all properties of two snapshots, sorted. -/
def propertyKeys : List String :=
  Merging.unionKeys
    (before.propertyStates.reverse.map PropertyStateProjection.propertyId)
    (after.propertyStates.reverse.map PropertyStateProjection.propertyId)

/-- The identities of all entries of a manifest of two snapshots, sorted. -/
def entryKeys (kind : Kind) : List (String ×ₗ String) :=
  Merging.unionKeys
    ((before.manifest kind).reverse.map TemporalManifestEntry.identity)
    ((after.manifest kind).reverse.map TemporalManifestEntry.identity)

/-- The subjects of all changes, in the order of the source. -/
def subjects : List Subject :=
  communityFields.map (communitySubject before after) ++
    ((propertyKeys before after).flatMap (fun propertyId =>
      propertySubjects propertyId (before.property? propertyId) (after.property? propertyId)) ++
    kinds.flatMap fun kind =>
      (entryKeys before after kind).flatMap fun identity =>
        entrySubjects fromisoformat before kind identity
          (before.entry? kind identity) (after.entry? kind identity))

end Subjects

variable {propertyId : String} {kind : Kind} {identity : String ×ₗ String}
  {subject : Subject} {arguments : DeltaArguments}

section Membership

variable {fromisoformat : FromIsoformat}
  {before after : CommunityStateSnapshot}

theorem mem_propertyKeys :
    propertyId ∈ propertyKeys before after ↔
      (before.property? propertyId).isSome ∨ (after.property? propertyId).isSome :=
  Merging.mem_unionKeys.trans Merging.listed_iff

theorem mem_entryKeys :
    identity ∈ entryKeys before after kind ↔
      (before.entry? kind identity).isSome ∨ (after.entry? kind identity).isSome :=
  Merging.mem_unionKeys.trans Merging.listed_iff

theorem mem_kinds (kind : Kind) : kind ∈ kinds := by
  cases kind <;> decide

theorem mem_communityFields (field : CommunityField) : field ∈ communityFields := by
  cases field <;> decide

theorem mem_propertyFields (field : PropertyField) : field ∈ propertyFields := by
  cases field <;> decide

theorem mem_propertySubjects_keys
    (listed : subject ∈ propertySubjects propertyId
      (before.property? propertyId) (after.property? propertyId)) :
    propertyId ∈ propertyKeys before after := by
  rw [mem_propertyKeys]
  by_contra absent
  rw [not_or, Option.not_isSome_iff_eq_none, Option.not_isSome_iff_eq_none] at absent
  rw [absent.1, absent.2] at listed
  cases listed

theorem mem_entrySubjects_keys
    (listed : subject ∈ entrySubjects fromisoformat before kind identity
      (before.entry? kind identity) (after.entry? kind identity)) :
    identity ∈ entryKeys before after kind := by
  rw [mem_entryKeys]
  by_contra absent
  rw [not_or, Option.not_isSome_iff_eq_none, Option.not_isSome_iff_eq_none] at absent
  rw [absent.1, absent.2] at listed
  cases listed

/-- The subjects, by what the two snapshots hold. -/
inductive Listed (fromisoformat : FromIsoformat)
    (before after : CommunityStateSnapshot) : Subject → Prop
  | community (field : CommunityField) :
      Listed fromisoformat before after (communitySubject before after field)
  | added {propertyId : String} {new : PropertyStateProjection} :
      before.property? propertyId = none →
      after.property? propertyId = some new →
      Listed fromisoformat before after
        (wholePropertySubject propertyId .none (.property new) .added)
  | removed {propertyId : String} {old : PropertyStateProjection} :
      before.property? propertyId = some old →
      after.property? propertyId = none →
      Listed fromisoformat before after
        (wholePropertySubject propertyId (.property old) .none .removed)
  | compared {propertyId : String} {old new : PropertyStateProjection}
      (field : PropertyField) :
      before.property? propertyId = some old →
      after.property? propertyId = some new →
      Listed fromisoformat before after (propertySubject propertyId old new field)
  | entryAdded {kind : Kind} {identity : String ×ₗ String}
      {new : TemporalManifestEntry} :
      before.entry? kind identity = none →
      after.entry? kind identity = some new →
      Listed fromisoformat before after
        (entrySubject kind identity .none (.entry new)
          (if newlyObserved fromisoformat before kind new then .becameKnown
          else .added))
  | entryRemoved {kind : Kind} {identity : String ×ₗ String}
      {old : TemporalManifestEntry} :
      before.entry? kind identity = some old →
      after.entry? kind identity = none →
      Listed fromisoformat before after (entrySubject kind identity (.entry old) .none .removed)
  | entryCompared {kind : Kind} {identity : String ×ₗ String}
      {old new : TemporalManifestEntry} :
      before.entry? kind identity = some old →
      after.entry? kind identity = some new →
      Listed fromisoformat before after
        (entrySubject kind identity (.entry old) (.entry new)
          (if old = new then .unchanged else .modified))

theorem listed_of_propertySubjects
    (member : subject ∈ propertySubjects propertyId
      (before.property? propertyId) (after.property? propertyId)) :
    Listed fromisoformat before after subject := by
  cases old : before.property? propertyId with
  | none =>
      cases new : after.property? propertyId with
      | none => simp [old, new, propertySubjects] at member
      | some added =>
          rw [old, new, propertySubjects, List.mem_singleton] at member
          exact member ▸ .added old new
  | some removed =>
      cases new : after.property? propertyId with
      | none =>
          rw [old, new, propertySubjects, List.mem_singleton] at member
          exact member ▸ .removed old new
      | some kept =>
          rw [old, new, propertySubjects, List.mem_map] at member
          obtain ⟨field, _, rfl⟩ := member
          exact .compared field old new

theorem listed_of_entrySubjects
    (member : subject ∈ entrySubjects fromisoformat before kind identity
      (before.entry? kind identity) (after.entry? kind identity)) :
    Listed fromisoformat before after subject := by
  cases old : before.entry? kind identity with
  | none =>
      cases new : after.entry? kind identity with
      | none => simp [old, new, entrySubjects] at member
      | some added =>
          rw [old, new, entrySubjects, List.mem_singleton] at member
          exact member ▸ .entryAdded old new
  | some removed =>
      cases new : after.entry? kind identity with
      | none =>
          rw [old, new, entrySubjects, List.mem_singleton] at member
          exact member ▸ .entryRemoved old new
      | some kept =>
          rw [old, new, entrySubjects, List.mem_singleton] at member
          exact member ▸ .entryCompared old new

/-- A subject is about a field of the snapshot, a property or a manifest
entry. -/
theorem mem_subjects :
    subject ∈ subjects fromisoformat before after ↔ Listed fromisoformat before after subject := by
  unfold subjects
  rw [List.mem_append, List.mem_append, List.mem_map, List.mem_flatMap, List.mem_flatMap]
  constructor
  · rintro (⟨field, _, rfl⟩ | ⟨propertyId, _, member⟩ | ⟨kind, _, member⟩)
    · exact .community field
    · exact listed_of_propertySubjects member
    · obtain ⟨identity, _, member⟩ := List.mem_flatMap.mp member
      exact listed_of_entrySubjects member
  · have property : ∀ {propertyId : String}, subject ∈
        propertySubjects propertyId (before.property? propertyId) (after.property? propertyId) →
        ∃ propertyId ∈ propertyKeys before after, subject ∈
          propertySubjects propertyId (before.property? propertyId)
            (after.property? propertyId) := fun member =>
      ⟨_, mem_propertySubjects_keys member, member⟩
    have entry : ∀ {kind : Kind} {identity : String ×ₗ String}, subject ∈
        entrySubjects fromisoformat before kind identity
          (before.entry? kind identity) (after.entry? kind identity) →
        ∃ kind ∈ kinds, subject ∈ (entryKeys before after kind).flatMap
          fun identity => entrySubjects fromisoformat before kind identity
            (before.entry? kind identity) (after.entry? kind identity) :=
      fun member => ⟨_, mem_kinds _, List.mem_flatMap.mpr
        ⟨_, mem_entrySubjects_keys member, member⟩⟩
    intro listed
    cases listed with
    | community field => exact .inl ⟨field, mem_communityFields field, rfl⟩
    | @added propertyId new absent found =>
        refine .inr (.inl (@property propertyId ?_))
        rw [absent, found, propertySubjects, List.mem_singleton]
    | @removed propertyId old found absent =>
        refine .inr (.inl (@property propertyId ?_))
        rw [absent, found, propertySubjects, List.mem_singleton]
    | @compared propertyId old new field oldFound newFound =>
        refine .inr (.inl (@property propertyId ?_))
        rw [oldFound, newFound, propertySubjects]
        exact List.mem_map_of_mem (mem_propertyFields field)
    | @entryAdded kind identity new absent found =>
        refine .inr (.inr (@entry kind identity ?_))
        rw [absent, found, entrySubjects, List.mem_singleton]
    | @entryRemoved kind identity old found absent =>
        refine .inr (.inr (@entry kind identity ?_))
        rw [absent, found, entrySubjects, List.mem_singleton]
    | @entryCompared kind identity old new oldFound newFound =>
        refine .inr (.inr (@entry kind identity ?_))
        rw [oldFound, newFound, entrySubjects, List.mem_singleton]

end Membership

theorem map_subject_propertyDrafts (registry : DeltaRegistry) (arguments : DeltaArguments)
    (propertyId : String) (old new : Option PropertyStateProjection) :
    (propertyDrafts registry arguments propertyId old new).map
        Draft.subject = propertySubjects propertyId old new := by
  rcases old with _ | old <;> rcases new with _ | new <;> rfl

theorem map_subject_manifestDrafts (fromisoformat : FromIsoformat) (registry : DeltaRegistry)
    (arguments : DeltaArguments) (kind : Kind) (identity : String ×ₗ String)
    (old new : Option TemporalManifestEntry) :
    (manifestDrafts fromisoformat registry arguments kind identity old new).map Draft.subject =
      entrySubjects fromisoformat arguments.before kind identity old new := by
  rcases old with _ | old <;> rcases new with _ | new <;> rfl

theorem map_subject_drafts (fromisoformat : FromIsoformat) (registry : DeltaRegistry)
    (arguments : DeltaArguments) : (drafts fromisoformat registry arguments).map Draft.subject =
      subjects fromisoformat arguments.before arguments.after := by
  unfold drafts subjects
  rw [List.map_append, List.map_append, List.map_map, Merging.map_merge, List.map_flatMap]
  simp only [Merging.map_merge, map_subject_propertyDrafts, map_subject_manifestDrafts]
  rfl

/-! ## What a delta lists -/

theorem toSubject_of_makeChange
    {fromisoformat : FromIsoformat} {registry : DeltaRegistry} {ordinal : Nat}
    {draft : Draft} {change : FieldChange}
    (made : makeChange fromisoformat registry arguments ordinal draft = .ok change) :
    change.toSubject = draft.subject := by
  obtain ⟨_, _, _, _, _, _, _, _, _, rfl⟩ := makeChange_eq_ok_iff.mp made
  rfl

theorem map_toSubject_of_madeChanges {fromisoformat : FromIsoformat} {registry : DeltaRegistry}
    {changes : List FieldChange}
    (made : madeChanges fromisoformat registry arguments = .ok changes) :
    changes.map FieldChange.toSubject =
      subjects fromisoformat arguments.before arguments.after := by
  have agree : (drafts fromisoformat registry arguments).zipIdx.map
      (fun numbered => numbered.1.subject) = changes.map FieldChange.toSubject :=
    map_eq_of_mapM made fun _ _ made => (toSubject_of_makeChange made).symm
  have first := List.zipIdx_map_fst 0 (drafts fromisoformat registry arguments)
  rw [← agree, ← map_subject_drafts fromisoformat registry arguments]
  conv_rhs => rw [← first, List.map_map]
  rfl

/-- What is known of two snapshots and of the delta that was built of
them. -/
structure Compared (fromisoformat : FromIsoformat) (before after : CommunityStateSnapshot)
    (delta : CommunityDelta) : Prop where
  subjects : (delta.changes.map FieldChange.toSubject).Perm (subjects fromisoformat before after)
  communityId : delta.communityId = before.communityId
  sameCommunity : before.communityId = after.communityId
  beforeHash : delta.beforeSnapshotSemanticHash = before.semanticHash
  afterHash : delta.afterSnapshotSemanticHash = after.semanticHash
  beforeReplays : validateSnapshotReplay before = .ok true
  afterReplays : validateSnapshotReplay after = .ok true

theorem compared_of_build {fromisoformat : FromIsoformat} {snapshotRegistry : SnapshotRegistry}
    {deltaRegistry : DeltaRegistry} {delta : CommunityDelta}
    (built : buildCommunityDelta fromisoformat snapshotRegistry deltaRegistry
      arguments = .ok delta) :
    Compared fromisoformat arguments.before arguments.after delta := by
  obtain ⟨comparable, made, changes, _, _, _, _, _, _, rfl⟩ :=
    buildCommunityDelta_eq_ok_iff.mp built
  exact
    { subjects := by
        rw [← map_toSubject_of_madeChanges changes]
        exact (sortedBy_perm _ made).map FieldChange.toSubject
      communityId := rfl
      sameCommunity := comparable.community
      beforeHash := rfl
      afterHash := rfl
      beforeReplays := validateSnapshotReplay_of_eligible comparable.beforeEligible
      afterReplays :=
        validateSnapshotReplay_of_eligible comparable.afterEligible }

end SanTanHeights.Community
