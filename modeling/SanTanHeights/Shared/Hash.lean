import SanTanHeights.Foundation.Sha256
import SanTanHeights.Shared.CanonicalJson

/-!
# Canonical hashes

`sha256_canonical` hashes the canonical JSON text of a value.
-/

namespace SanTanHeights.Shared

open Foundation

/-- `sha256_canonical(value)`. -/
def sha256Canonical (value : Json) : Except String String :=
  (Outcome.orRaise (canonicalJson value) "value is not canonical JSON").map Sha256.hexdigest

theorem sha256Canonical_eq_ok {value : Json} {fingerprint : String} :
    sha256Canonical value = .ok fingerprint ↔
      ∃ text, canonicalJson value = some text ∧ Sha256.hexdigest text = fingerprint := by
  simp [sha256Canonical, Outcome.map_eq_ok]

/-- Values whose texts have different digests have different fingerprints. -/
theorem sha256Canonical_ne {left right : Json} {leftFingerprint rightFingerprint : String}
    (leftHashed : sha256Canonical left = .ok leftFingerprint)
    (rightHashed : sha256Canonical right = .ok rightFingerprint)
    (differ : (canonicalText left).map Sha256.Unrolled.hexdigestChars ≠
      (canonicalText right).map Sha256.Unrolled.hexdigestChars) :
    leftFingerprint ≠ rightFingerprint := by
  rw [← Sha256.hexdigestChars_eq_unrolled] at differ
  rintro rfl
  obtain ⟨leftText, leftWritten, leftHash⟩ := sha256Canonical_eq_ok.mp leftHashed
  obtain ⟨rightText, rightWritten, rightHash⟩ := sha256Canonical_eq_ok.mp rightHashed
  obtain ⟨leftChars, leftCanonical, rfl⟩ := Option.map_eq_some_iff.mp leftWritten
  obtain ⟨rightChars, rightCanonical, rfl⟩ := Option.map_eq_some_iff.mp rightWritten
  apply differ
  rw [leftCanonical, rightCanonical, Option.map_some, Option.map_some,
    (Sha256.hexdigest_ofList_inj _ _).mp (leftHash.trans rightHash.symm)]

/-- The texts of finitely many values are free of collisions when their digests
differ. -/
theorem collisionFree_of_nodup {texts : Set String} (values : List Json)
    (covered : ∀ text ∈ texts, ∃ value ∈ values, canonicalJson value = some text)
    (distinct : (values.map fun value =>
      (canonicalText value).map Sha256.Unrolled.hexdigestChars).Nodup) :
    Sha256.CollisionFree texts := by
  rw [← Sha256.hexdigestChars_eq_unrolled] at distinct
  intro left leftMember right rightMember equal
  obtain ⟨leftValue, leftListed, leftWritten⟩ := covered left leftMember
  obtain ⟨rightValue, rightListed, rightWritten⟩ := covered right rightMember
  obtain ⟨leftChars, leftCanonical, rfl⟩ := Option.map_eq_some_iff.mp leftWritten
  obtain ⟨rightChars, rightCanonical, rfl⟩ := Option.map_eq_some_iff.mp rightWritten
  have same := List.inj_on_of_nodup_map distinct leftListed rightListed (by
    rw [leftCanonical, rightCanonical, Option.map_some, Option.map_some,
      (Sha256.hexdigest_ofList_inj _ _).mp equal])
  rw [same, rightCanonical] at leftCanonical
  rw [Option.some.inj leftCanonical]

end SanTanHeights.Shared
