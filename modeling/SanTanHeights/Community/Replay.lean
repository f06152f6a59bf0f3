import SanTanHeights.Community.Subjects
import SanTanHeights.Foundation.Registers

/-!
# Replaying a delta

The parts of a snapshot as registers: its compared fields, every aspect of
every property and every manifest entry.  A change overwrites the registers it
is about with its value after, and a delta is replayed by overwriting the
registers of the snapshot before with all of its changes.
-/

namespace SanTanHeights.Community

open Foundation Shared

/-! ## Registers -/

/-- What a projection holds about its property. -/
inductive Aspect where
  | field (compared : PropertyField)
  | projectionFingerprint
  deriving DecidableEq, Repr

def aspects : List Aspect :=
  propertyFields.map .field ++ [.projectionFingerprint]

def Aspect.value (projection : PropertyStateProjection) :
    Aspect → Value
  | field compared => compared.value projection
  | projectionFingerprint => .text projection.projectionFingerprint

inductive Cell where
  | community (field : CommunityField)
  | property (propertyId : String) (aspect : Aspect)
  | entry (kind : Kind) (identity : String ×ₗ String)
  deriving DecidableEq

/-- The registers of a snapshot; those of a property or an entry that it does
not have are empty. -/
def contents (snapshot : CommunityStateSnapshot) : Cell → Option Value
  | .community field => some (field.value snapshot)
  | .property propertyId aspect =>
      (snapshot.property? propertyId).map aspect.value
  | .entry kind identity => (snapshot.entry? kind identity).map Value.entry

/-! ## Writes -/

/-- What a register holds for a value of a change. -/
def Value.present : Value → Option Value
  | none => Option.none
  | other => some other

/-- An aspect of the dictionary of a projection. -/
def Value.aspect (aspect : Aspect) : Value → Option Value
  | property projection => some (aspect.value projection)
  | _ => Option.none

/-- The manifest entry whose dictionary a value is. -/
def Value.entry? : Value → Option TemporalManifestEntry
  | entry given => some given
  | _ => Option.none

/-- The registers that a change is about, with their values after it. -/
def Subject.writes (subject : Subject) : List (Cell × Option Value) :=
  match subject.scope with
  | .community =>
      (communityFields.find? fun field =>
        field.path = subject.fieldPath).toList.map fun field =>
          (.community field, subject.afterValue.present)
  | .property =>
      if subject.fieldPath = "property" then
        aspects.map fun aspect =>
          (.property subject.objectId aspect, subject.afterValue.aspect aspect)
      else
        (propertyFields.find? fun field =>
          field.path = subject.fieldPath).toList.map fun field =>
            (.property subject.objectId (.field field), subject.afterValue.present)
  | .manifest =>
      (kinds.find? fun kind =>
        kind.objectType = subject.objectType).toList.flatMap fun kind =>
          (subject.afterValue.entry?.or
            subject.beforeValue.entry?).toList.map fun given =>
              (.entry kind given.identity, subject.afterValue.present)

/-- Replay the values after all changes onto a snapshot. -/
def replay (changes : List FieldChange) (before : CommunityStateSnapshot) :
    Cell → Option Value :=
  Registers.overwrite (contents before) (changes.flatMap fun change => change.toSubject.writes)

/-! ## The writes of each subject -/

theorem writes_communitySubject
    (before after : CommunityStateSnapshot) (field : CommunityField) :
    (communitySubject before after field).writes =
      [(.community field, some (field.value after))] := by
  cases field <;> rfl

theorem writes_wholePropertySubject (propertyId : String) (old new : Value)
    (classification : Classification) :
    (wholePropertySubject propertyId old new classification).writes =
      aspects.map fun aspect =>
        (.property propertyId aspect, new.aspect aspect) := rfl

theorem writes_propertySubject (propertyId : String) (old new : PropertyStateProjection)
    (field : PropertyField) : (propertySubject propertyId old new field).writes =
      [(.property propertyId (.field field), some (field.value new))] := by
  cases field <;> rfl

theorem writes_entrySubject (kind : Kind) (identity : String ×ₗ String) (old new : Value)
    (classification : Classification) :
    (entrySubject kind identity old new classification).writes =
      (new.entry?.or old.entry?).toList.map fun given =>
        (.entry kind given.identity, new.present) := by
  cases kind <;> simp [Subject.writes, entrySubject, kinds, Kind.objectType,
    Kind.domain, Domain.code]

theorem mem_aspects (aspect : Aspect) : aspect ∈ aspects := by
  rcases aspect with (_ | _ | _ | _ | _ | _ | _) | _ <;> decide

section Writes

variable {fromisoformat : FromIsoformat}
  {before after : CommunityStateSnapshot}

/-- Every change writes what the snapshot after it holds. -/
theorem writes_agree {subject : Subject} (listed : Listed fromisoformat before after subject) :
    ∀ write ∈ subject.writes, write.2 = contents after write.1 := by
  cases listed with
  | community field =>
      rw [writes_communitySubject, List.forall_mem_singleton]
      rfl
  | added absent found =>
      rw [writes_wholePropertySubject, List.forall_mem_map]
      intro aspect _
      rw [contents, found]
      rfl
  | removed found absent =>
      rw [writes_wholePropertySubject, List.forall_mem_map]
      intro aspect _
      rw [contents, absent]
      rfl
  | compared field oldFound newFound =>
      rw [writes_propertySubject, List.forall_mem_singleton, contents, newFound]
      rfl
  | entryAdded absent found =>
      simp [writes_entrySubject, Value.entry?, Value.present, contents,
        Merging.key_of_get found, found]
  | entryRemoved found absent =>
      simp [writes_entrySubject, Value.entry?, Value.present, contents,
        Merging.key_of_get found, absent]
  | entryCompared oldFound newFound =>
      simp [writes_entrySubject, Value.entry?, Value.present, contents,
        Merging.key_of_get newFound, newFound]

/-- Some change writes a register. -/
def Written (fromisoformat : FromIsoformat) (before after : CommunityStateSnapshot)
    (cell : Cell) : Prop :=
  ∃ subject, Listed fromisoformat before after subject ∧ cell ∈ subject.writes.map Prod.fst

/-- The properties of both snapshots have the same projection fingerprint. -/
def SameFingerprints (before after : CommunityStateSnapshot) : Prop :=
  ∀ propertyId old new, before.property? propertyId = some old →
    after.property? propertyId = some new → old.projectionFingerprint = new.projectionFingerprint

/-- No change writes the projection fingerprint of a property that both
snapshots have. -/
theorem not_written_projectionFingerprint
    {propertyId : String} {old new : PropertyStateProjection}
    (oldFound : before.property? propertyId = some old)
    (newFound : after.property? propertyId = some new) :
    ¬Written fromisoformat before after (.property propertyId .projectionFingerprint) := by
  rintro ⟨subject, listed, written⟩
  cases listed with
  | community field => simp [writes_communitySubject] at written
  | added absent found =>
      simp only [writes_wholePropertySubject, List.map_map, List.mem_map,
        Function.comp_apply, Cell.property.injEq] at written
      obtain ⟨_, _, rfl, _⟩ := written
      rw [oldFound] at absent
      cases absent
  | removed found absent =>
      simp only [writes_wholePropertySubject, List.map_map, List.mem_map,
        Function.comp_apply, Cell.property.injEq] at written
      obtain ⟨_, _, rfl, _⟩ := written
      rw [newFound] at absent
      cases absent
  | compared field => simp [writes_propertySubject] at written
  | entryAdded => simp [writes_entrySubject] at written
  | entryRemoved => simp [writes_entrySubject] at written
  | entryCompared => simp [writes_entrySubject] at written

/-- All aspects of a property that only one snapshot has are written. -/
theorem written_wholeProperty {propertyId : String} {old new : Value}
    {classification : Classification}
    (listed : Listed fromisoformat before after
      (wholePropertySubject propertyId old new classification))
    (aspect : Aspect) :
    Written fromisoformat before after (.property propertyId aspect) := by
  refine ⟨_, listed, ?_⟩
  rw [writes_wholePropertySubject, List.map_map]
  exact List.mem_map_of_mem (mem_aspects aspect)

/-- A register that no change writes holds the same before and after, as long
as projection fingerprints do. -/
theorem written_or_same (fromisoformat : FromIsoformat)
    (fingerprints : SameFingerprints before after) (cell : Cell) :
    Written fromisoformat before after cell ∨ contents before cell = contents after cell := by
  cases cell with
  | community field =>
      left
      exact ⟨_, .community field, by simp [writes_communitySubject]⟩
  | property propertyId aspect =>
      cases old : before.property? propertyId with
      | none =>
          cases new : after.property? propertyId with
          | none =>
              right
              rw [contents, contents, old, new]
          | some added =>
              exact .inl (written_wholeProperty (.added old new) aspect)
      | some removed =>
          cases new : after.property? propertyId with
          | none =>
              exact .inl (written_wholeProperty (.removed old new) aspect)
          | some kept =>
              cases aspect with
              | field field =>
                  left
                  exact ⟨_, .compared field old new,
                    by simp [writes_propertySubject]⟩
              | projectionFingerprint =>
                  right
                  simp only [contents, old, new, Option.map_some,
                    Aspect.value, fingerprints _ _ _ old new]
  | entry kind identity =>
      cases old : before.entry? kind identity with
      | none =>
          cases new : after.entry? kind identity with
          | none =>
              right
              rw [contents, contents, old, new]
          | some added =>
              left
              exact ⟨_, .entryAdded old new, by
                simp [writes_entrySubject, Value.entry?, Merging.key_of_get new]⟩
      | some removed =>
          left
          cases new : after.entry? kind identity with
          | none =>
              exact ⟨_, .entryRemoved old new, by
                simp [writes_entrySubject, Value.entry?, Merging.key_of_get old]⟩
          | some kept =>
              exact ⟨_, .entryCompared old new, by
                simp [writes_entrySubject, Value.entry?, Merging.key_of_get new]⟩

/-! ## Replays -/

/-- A replay reaches the snapshot after the delta just when no property that
both snapshots have changes its projection fingerprint. -/
theorem replay_eq_iff {delta : CommunityDelta}
    (compared : Compared fromisoformat before after delta) :
    replay delta.changes before = contents after ↔ SameFingerprints before after := by
  have listed : ∀ change ∈ delta.changes,
      Listed fromisoformat before after change.toSubject := fun change member =>
    mem_subjects.mp (compared.subjects.subset (List.mem_map_of_mem member))
  have written : ∀ cell, cell ∈ (delta.changes.flatMap fun change =>
      change.toSubject.writes).map Prod.fst ↔ Written fromisoformat before after cell := by
    intro cell
    rw [List.map_flatMap, List.mem_flatMap]
    constructor
    · rintro ⟨change, member, writes⟩
      exact ⟨_, listed change member, writes⟩
    · rintro ⟨subject, member, writes⟩
      obtain ⟨change, present, rfl⟩ := List.mem_map.mp
        (compared.subjects.symm.subset (mem_subjects.mpr member))
      exact ⟨change, present, writes⟩
  unfold replay
  rw [Registers.overwrite_eq_iff]
  · constructor
    · intro kept propertyId old new oldFound newFound
      have same := kept (.property propertyId .projectionFingerprint)
        (mt (written _).mp (not_written_projectionFingerprint oldFound newFound))
      simpa [contents, oldFound, newFound, Aspect.value] using same
    · intro fingerprints cell unwritten
      exact (written_or_same fromisoformat fingerprints cell).resolve_left
        (mt (written cell).mpr unwritten)
  · intro write member
    obtain ⟨change, present, writes⟩ := List.mem_flatMap.mp member
    exact writes_agree (listed change present) write writes

end Writes

end SanTanHeights.Community
