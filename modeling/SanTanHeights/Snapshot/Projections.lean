import SanTanHeights.Shared.Textual
import SanTanHeights.Snapshot.Fingerprints

/-!
# What a snapshot's fingerprints cover

The projections of the fingerprint engine hold texts only, so `calculate`
always succeeds.  Two projections are the same just when their entries are
permutations of one another.
-/

namespace SanTanHeights.Snapshot

open Foundation Foundation.Json Foundation.Sorting Foundation.Outcome Shared

/-! ## Entries -/

theorem FindingEntry.sortKey_injective : Function.Injective FindingEntry.sortKey := by
  intro left right equal
  obtain ⟨leftId, leftFingerprint⟩ := left
  obtain ⟨rightId, rightFingerprint⟩ := right
  simpa [FindingEntry.sortKey] using equal

theorem DependencyEntry.sortKey_injective : Function.Injective DependencyEntry.sortKey := by
  intro left right equal
  obtain ⟨leftType, leftId, leftFingerprint⟩ := left
  obtain ⟨rightType, rightId, rightFingerprint⟩ := right
  simpa [DependencyEntry.sortKey] using equal

/-- What an entry is about. -/
def DependencyEntry.key (entry : DependencyEntry) : String ×ₗ String :=
  toLex (entry.dependencyType, entry.dependencyId)

theorem FindingEntry.eq_of_same (left right : FindingEntry) (same : Same left.json right.json) :
    left = right := by
  have members := forall₂_of_same_obj same rfl (by simp)
  simp only [List.forall₂_cons, same_str, List.forall₂_nil_left_iff, and_true] at members
  obtain ⟨leftId, leftFingerprint⟩ := left
  obtain ⟨rightId, rightFingerprint⟩ := right
  simpa using members

theorem DependencyEntry.eq_of_same
    (left right : DependencyEntry) (same : Same left.json right.json) :
    left = right := by
  have members := forall₂_of_same_obj same rfl (by simp)
  simp only [List.forall₂_cons, same_str, List.forall₂_nil_left_iff, and_true] at members
  obtain ⟨leftType, leftId, leftFingerprint⟩ := left
  obtain ⟨rightType, rightId, rightFingerprint⟩ := right
  simpa using members

theorem textual_sortedFindings (entries : List FindingEntry) :
    Textual (sortedFindings entries) := by
  simp [sortedFindings, FindingEntry.json, textual_obj, IsTagged]

theorem textual_sortedDependencies (entries : List DependencyEntry) :
    Textual (sortedDependencies entries) := by
  simp [sortedDependencies, DependencyEntry.json, textual_obj, IsTagged]

theorem perm_of_same_sortedFindings {entries others : List FindingEntry}
    (same : Same (sortedFindings entries) (sortedFindings others)) :
    entries.Perm others :=
  perm_of_sortedBy_eq (eq_of_same_arr FindingEntry.eq_of_same same)

theorem perm_of_same_sortedDependencies {entries others : List DependencyEntry}
    (same : Same (sortedDependencies entries) (sortedDependencies others)) :
    entries.Perm others :=
  perm_of_sortedBy_eq (eq_of_same_arr DependencyEntry.eq_of_same same)

theorem sortedFindings_eq_of_perm {entries others : List FindingEntry}
    (permuted : entries.Perm others) :
    sortedFindings entries = sortedFindings others := by
  rw [sortedFindings, sortedBy_eq_of_perm permuted fun _ _ _ _ equal =>
    FindingEntry.sortKey_injective equal]
  rfl

theorem sortedDependencies_eq_of_perm {entries others : List DependencyEntry}
    (permuted : entries.Perm others) :
    sortedDependencies entries = sortedDependencies others := by
  rw [sortedDependencies, sortedBy_eq_of_perm permuted fun _ _ _ _ equal =>
    DependencyEntry.sortKey_injective equal]
  rfl

/-! ## Projections -/

namespace FingerprintInput

/-- The same property, captured under the same schema versions. -/
structure SameBase (left right : FingerprintInput) : Prop where
  propertyId : left.propertyId = right.propertyId
  intelligenceSchemaVersion : left.intelligenceSchemaVersion = right.intelligenceSchemaVersion
  governanceSchemaVersion : left.governanceSchemaVersion = right.governanceSchemaVersion

theorem SameBase.eq {left right : FingerprintInput} (same : SameBase left right) :
    left.base = right.base := by
  rw [base, base, same.propertyId, same.intelligenceSchemaVersion, same.governanceSchemaVersion]

/-- The entries that the overall fingerprint covers, in any order. -/
def SameEntries (left right : FingerprintInput) : Prop :=
  left.findingEntries.Perm right.findingEntries ∧
    left.dependencyEntries.Perm right.dependencyEntries

/-- The entries that a variant's fingerprint covers, in any order. -/
def SameVariantEntries (variant : Variant) (left right : FingerprintInput) : Prop :=
  (left.variantFindingEntries variant).Perm
      (right.variantFindingEntries variant) ∧
    (left.variantDependencyEntries variant).Perm (right.variantDependencyEntries variant)

variable {left right : FingerprintInput} {variant : Variant}

theorem textual_overall (input : FingerprintInput) : Textual input.overall := by
  simp [overall, base, textual_obj, IsTagged, textual_sortedFindings, textual_sortedDependencies]

theorem textual_variantProjection (input : FingerprintInput) (variant : Variant) :
    Textual (input.variantProjection variant) := by
  simp [variantProjection, base, textual_obj, IsTagged,
    textual_sortedFindings, textual_sortedDependencies]

theorem sameEntries_of_same_overall (same : Same left.overall right.overall) :
    SameBase left right ∧ SameEntries left right := by
  unfold overall at same
  have members := forall₂_of_same_obj same (by simp [base]) (by simp [base])
  simp only [base, List.cons_append, List.nil_append, List.forall₂_cons, same_str] at members
  obtain ⟨property, intelligence, governance, findings, dependencies, _⟩ := members
  exact ⟨⟨Uuid.str_injective property, intelligence, governance⟩,
    perm_of_same_sortedFindings findings, perm_of_same_sortedDependencies dependencies⟩

theorem overall_eq (base : SameBase left right) (entries : SameEntries left right) :
    left.overall = right.overall := by
  rw [overall, overall, base.eq, sortedFindings_eq_of_perm entries.1,
    sortedDependencies_eq_of_perm entries.2]

theorem sameEntries_of_same_variantProjection
    (same : Same (left.variantProjection variant) (right.variantProjection variant)) :
    SameBase left right ∧ SameVariantEntries variant left right := by
  unfold variantProjection at same
  have members := forall₂_of_same_obj same (by simp [base]) (by simp [base])
  simp only [base, List.cons_append, List.nil_append, List.forall₂_cons, same_str] at members
  obtain ⟨property, intelligence, governance, _, findings, dependencies, _⟩ := members
  exact ⟨⟨Uuid.str_injective property, intelligence, governance⟩,
    perm_of_same_sortedFindings findings, perm_of_same_sortedDependencies dependencies⟩

theorem variantProjection_eq (base : SameBase left right)
    (entries : SameVariantEntries variant left right) :
    left.variantProjection variant = right.variantProjection variant := by
  rw [variantProjection, variantProjection, base.eq, sortedFindings_eq_of_perm entries.1,
    sortedDependencies_eq_of_perm entries.2]

end FingerprintInput

/-! ## Fingerprints -/

theorem calculate_eq_ok {input : FingerprintInput} {fingerprints : SnapshotFingerprints} :
    calculate input = .ok fingerprints ↔ sha256Canonical input.overall =
          .ok fingerprints.semanticFingerprint ∧
        ∀ variant, sha256Canonical (input.variantProjection variant) =
          .ok (fingerprints.ofVariant variant) := by
  constructor
  · intro calculated
    obtain ⟨overall, overallHash, rest⟩ := bind_eq_ok.mp calculated
    obtain ⟨agent, agentHash, rest⟩ := bind_eq_ok.mp rest
    obtain ⟨seller, sellerHash, rest⟩ := bind_eq_ok.mp rest
    obtain ⟨pub, pubHash, rest⟩ := bind_eq_ok.mp rest
    rw [pure_eq_ok] at rest
    subst rest
    refine ⟨overallHash, fun variant => ?_⟩
    cases variant with
    | agent => exact agentHash
    | seller => exact sellerHash
    | pub => exact pubHash
  · rintro ⟨overallHash, variantHash⟩
    rw [calculate, overallHash, variantHash, variantHash, variantHash]
    rfl

/-- The engine never fails, and returns SHA-256 digests. -/
theorem exists_calculate (input : FingerprintInput) :
    ∃ fingerprints, calculate input = .ok fingerprints ∧
      Sha256.isHex64 fingerprints.semanticFingerprint = true ∧
      ∀ variant, Sha256.isHex64 (fingerprints.ofVariant variant) = true := by
  obtain ⟨overall, overallHash, overallHex⟩ := input.textual_overall.exists_sha256Canonical
  have variantHash := fun variant =>
    (input.textual_variantProjection variant).exists_sha256Canonical
  choose ofVariant variantHash variantHex using variantHash
  refine ⟨⟨overall, ofVariant .agent, ofVariant .seller, ofVariant .pub⟩,
    calculate_eq_ok.mpr ⟨overallHash, ?_⟩, overallHex, ?_⟩
  · intro variant
    rw [variantHash]
    cases variant <;> rfl
  · intro variant
    cases variant with
    | agent => exact variantHex .agent
    | seller => exact variantHex .seller
    | pub => exact variantHex .pub

/-- Without collisions, the overall fingerprints of a property are equal just
when the entries are the same. -/
theorem overallFingerprint_eq_iff {left right : FingerprintInput}
    {leftPrints rightPrints : SnapshotFingerprints} {texts : Set String}
    (base : left.SameBase right) (leftCalculated : calculate left = .ok leftPrints)
    (rightCalculated : calculate right = .ok rightPrints)
    (collisionFree : Sha256.CollisionFree texts)
    (leftHashed : ∀ text, canonicalJson left.overall = some text → text ∈ texts)
    (rightHashed : ∀ text, canonicalJson right.overall = some text → text ∈ texts) :
    leftPrints.semanticFingerprint = rightPrints.semanticFingerprint ↔ left.SameEntries right := by
  have leftHash := (calculate_eq_ok.mp leftCalculated).1
  have rightHash := (calculate_eq_ok.mp rightCalculated).1
  constructor
  · intro equal
    rw [← equal] at rightHash
    have same := left.textual_overall.same_of_sha256Canonical_eq
      right.textual_overall leftHash rightHash collisionFree leftHashed
      rightHashed
    exact (FingerprintInput.sameEntries_of_same_overall same).2
  · intro entries
    rw [FingerprintInput.overall_eq base entries, rightHash] at leftHash
    exact (Except.ok.inj leftHash).symm

end SanTanHeights.Snapshot
