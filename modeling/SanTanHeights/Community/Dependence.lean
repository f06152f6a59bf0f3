import SanTanHeights.Community.Completeness
import SanTanHeights.Community.Refresh

/-!
# What a record depends on

By the table of the registry a derived record depends on some objects of a
snapshot, each in one domain.  A plan preserves a record just when the two
snapshots of its delta agree on all of them, and agreement is transitive, so
records that are preserved through a chain of deltas would be preserved by a
direct comparison.
-/

namespace SanTanHeights.Community


/-! ## Dependencies -/

/-- An object of a snapshot in one of its domains. -/
inductive Dependency where
  | community (field : CommunityField)
  | presence (propertyId : String)
  | fieldOf (propertyId : String) (field : PropertyField)
  | entry (kind : Kind) (identity : String ×ₗ String)
  deriving DecidableEq

namespace Dependency

def domain : Dependency → Domain
  | community field => field.domain
  | presence _ => .property
  | fieldOf _ field => field.domain
  | entry kind _ => kind.domain

/-- A record about a property depends on that property only. -/
def Within (record : DerivedIntelligenceRecord) : Dependency → Prop
  | community _ => True
  | presence propertyId =>
      record.scope = "PROPERTY" ∧ record.scopeId = propertyId
  | fieldOf propertyId _ =>
      record.scope = "PROPERTY" ∧ record.scopeId = propertyId
  | entry _ _ => True

/-- What a snapshot holds. -/
def read (snapshot : CommunityStateSnapshot) : Dependency → Option Value
  | community field => some (field.value snapshot)
  | presence propertyId =>
      (snapshot.property? propertyId).map fun _ => .none
  | fieldOf propertyId field =>
      (snapshot.property? propertyId).map fun projection =>
        field.value projection
  | entry kind identity => (snapshot.entry? kind identity).map Value.entry

end Dependency

/-- The dependencies of a record by the rules. -/
def DependsOn (registry : RefreshRegistry) (record : DerivedIntelligenceRecord)
    (dependency : Dependency) : Prop :=
  record.artifactType ∈ registry.dependencyRules dependency.domain ∧ dependency.Within record

/-- Two snapshots hold the same for a record. -/
def AgreesOn (registry : RefreshRegistry) (record : DerivedIntelligenceRecord)
    (before after : CommunityStateSnapshot) : Prop :=
  ∀ dependency, DependsOn registry record dependency →
    dependency.read before = dependency.read after

section Agreement

variable {registry : RefreshRegistry} {record : DerivedIntelligenceRecord}
  {first second third : CommunityStateSnapshot}

theorem AgreesOn.trans (agrees : AgreesOn registry record first second)
    (continues : AgreesOn registry record second third) :
    AgreesOn registry record first third :=
  fun dependency depends =>
    (agrees dependency depends).trans (continues dependency depends)

end Agreement

/-! ## Changes and dependencies -/

/-- A registry by which every change of a dependency is noticed: all
classifications of a change require a refresh, and what depends on a field of
a property depends on the property. -/
structure RefreshRegistry.Covering (registry : RefreshRegistry) : Prop where
  required : ∀ classification : Classification,
    classification ∈ registry.refreshRequiredClassifications ↔
      classification ≠ .unchanged ∧ classification ≠ .notComparable
  presence : ∀ (field : PropertyField) (artifactType : String),
    artifactType ∈ registry.dependencyRules field.domain →
      artifactType ∈ registry.dependencyRules .property

theorem refreshRegistry_covering : refreshRegistry.Covering where
  required := by
    intro classification
    cases classification <;> decide
  presence := by
    intro field artifactType member
    have listed : ∀ domain, frozenDependencyRules domain ⊆ artifactTypes := by
      intro domain
      cases domain <;> decide
    exact listed field.domain member

/-- A change about a subject targets a record. -/
def Targets (registry : RefreshRegistry) (subject : Subject)
    (record : DerivedIntelligenceRecord) : Prop :=
  record.artifactType ∈ registry.dependencyRules subject.domain ∧
    (subject.scope = .property → record.scope = "PROPERTY" ∧ record.scopeId = subject.objectId)

theorem changeTargetsArtifact_iff {registry : RefreshRegistry} {change : FieldChange}
    {record : DerivedIntelligenceRecord} :
    changeTargetsArtifact registry change record = true ↔
      Targets registry change.toSubject record := by
  unfold changeTargetsArtifact Targets
  split_ifs with depends
  · cases scope : change.scope <;> simp [depends]
  · simp [depends]

section Plans

variable {fromisoformat : FromIsoformat} {registry : RefreshRegistry}
  {before after : CommunityStateSnapshot} {delta : CommunityDelta}
  {record : DerivedIntelligenceRecord}

/-- No change of a delta makes a record stale just when all subjects that
target it are unchanged. -/
theorem matching_eq_nil_iff (covering : registry.Covering)
    (compared : Compared fromisoformat before after delta) :
    matching registry delta record = [] ↔
      ∀ subject, Listed fromisoformat before after subject →
        Targets registry subject record → subject.classification = .unchanged := by
  have every : (∀ subject, Listed fromisoformat before after subject →
      Targets registry subject record → subject.classification = .unchanged) ↔
      ∀ change ∈ delta.changes, Targets registry change.toSubject record →
        change.classification = .unchanged := by
    constructor
    · intro unchanged change member
      exact unchanged _ (mem_subjects.mp (compared.subjects.subset (List.mem_map_of_mem member)))
    · intro unchanged subject listed
      obtain ⟨change, member, rfl⟩ := List.mem_map.mp
        (compared.subjects.symm.subset (mem_subjects.mpr listed))
      exact unchanged change member
  rw [every, matching, List.filter_filter, List.filter_eq_nil_iff]
  apply forall₂_congr
  intro change member
  have comparable := classification_ne_notComparable (mem_subjects.mp
    (compared.subjects.subset (List.mem_map_of_mem member)))
  rw [Bool.and_eq_true, changeTargetsArtifact_iff, changed,
    decide_eq_true_eq, covering.required, not_and]
  apply imp_congr_right
  intro _
  exact ⟨fun unchanged => by_contra fun different =>
    unchanged ⟨different, comparable⟩, fun unchanged moved =>
      moved.1 unchanged⟩

theorem agreesOn_of_unchanged (covering : registry.Covering)
    (unchanged : ∀ subject, Listed fromisoformat before after subject →
      Targets registry subject record → subject.classification = .unchanged) :
    AgreesOn registry record before after := by
  have present : ∀ propertyId, record.artifactType ∈
      registry.dependencyRules .property →
      record.scope = "PROPERTY" ∧ record.scopeId = propertyId →
        ((before.property? propertyId).isSome ↔ (after.property? propertyId).isSome) := by
    intro propertyId depends within
    cases old : before.property? propertyId with
    | none =>
        cases new : after.property? propertyId with
        | none => rfl
        | some added =>
            cases unchanged _ (.added old new) ⟨depends, fun _ => within⟩
    | some removed =>
        cases new : after.property? propertyId with
        | none =>
            cases unchanged _ (.removed old new) ⟨depends, fun _ => within⟩
        | some kept => exact Iff.rfl
  rintro dependency ⟨depends, within⟩
  cases dependency with
  | community field =>
      exact congrArg some (classifyValue_eq_unchanged_iff.mp
        (unchanged _ (.community field) ⟨depends, by rintro ⟨⟩⟩))
  | presence propertyId =>
      have same := present propertyId depends within
      cases old : before.property? propertyId <;>
        cases new : after.property? propertyId <;> simp_all [Dependency.read]
  | fieldOf propertyId field =>
      have same := present propertyId (covering.presence field _ depends) within
      cases old : before.property? propertyId with
      | none =>
          cases new : after.property? propertyId with
          | none => rw [Dependency.read, Dependency.read, old, new]
          | some added => simp [old, new] at same
      | some removed =>
          cases new : after.property? propertyId with
          | none => simp [old, new] at same
          | some kept =>
              rw [Dependency.read, Dependency.read, old, new]
              exact congrArg some (classifyValue_eq_unchanged_iff.mp
                (unchanged _ (.compared field old new) ⟨depends, fun _ => within⟩))
  | entry kind identity =>
      cases old : before.entry? kind identity with
      | none =>
          cases new : after.entry? kind identity with
          | none => rw [Dependency.read, Dependency.read, old, new]
          | some added =>
              have same := unchanged _ (.entryAdded old new) ⟨depends, by rintro ⟨⟩⟩
              rw [entrySubject] at same
              dsimp only at same
              split_ifs at same
      | some removed =>
          cases new : after.entry? kind identity with
          | none =>
              cases unchanged _ (.entryRemoved old new) ⟨depends, by rintro ⟨⟩⟩
          | some kept =>
              have same := unchanged _ (.entryCompared old new) ⟨depends, by rintro ⟨⟩⟩
              rw [entrySubject] at same
              dsimp only at same
              split_ifs at same with equal
              rw [Dependency.read, Dependency.read, old, new, equal]

theorem unchanged_of_agreesOn
    (agrees : AgreesOn registry record before after) {subject : Subject}
    (listed : Listed fromisoformat before after subject)
    (targets : Targets registry subject record) :
    subject.classification = .unchanged := by
  obtain ⟨depends, within⟩ := targets
  cases listed with
  | community field =>
      exact classifyValue_eq_unchanged_iff.mpr
        (Option.some.inj (agrees (.community field) ⟨depends, trivial⟩))
  | @added propertyId _ absent found =>
      have same := agrees (.presence propertyId) ⟨depends, within rfl⟩
      simp [Dependency.read, absent, found] at same
  | @removed propertyId _ found absent =>
      have same := agrees (.presence propertyId) ⟨depends, within rfl⟩
      simp [Dependency.read, absent, found] at same
  | @compared propertyId _ _ field oldFound newFound =>
      have same := agrees (.fieldOf propertyId field) ⟨depends, within rfl⟩
      rw [Dependency.read, Dependency.read, oldFound, newFound] at same
      exact classifyValue_eq_unchanged_iff.mpr (Option.some.inj same)
  | @entryAdded kind identity _ absent found =>
      have same := agrees (.entry kind identity) ⟨depends, trivial⟩
      simp [Dependency.read, absent, found] at same
  | @entryRemoved kind identity _ found absent =>
      have same := agrees (.entry kind identity) ⟨depends, trivial⟩
      simp [Dependency.read, absent, found] at same
  | @entryCompared kind identity _ _ oldFound newFound =>
      have same := agrees (.entry kind identity) ⟨depends, trivial⟩
      rw [Dependency.read, Dependency.read, oldFound, newFound] at same
      exact if_pos (Value.entry.inj (Option.some.inj same))

/-- A record is stale just when the snapshots do not agree on it. -/
theorem matching_eq_nil_iff_agreesOn (covering : registry.Covering)
    (compared : Compared fromisoformat before after delta) :
    matching registry delta record = [] ↔ AgreesOn registry record before after := by
  rw [matching_eq_nil_iff covering compared]
  constructor
  · exact agreesOn_of_unchanged covering
  · exact fun agrees _ => unchanged_of_agreesOn agrees

end Plans

end SanTanHeights.Community
