import SanTanHeights.Snapshot.Fingerprints

/-!
# What a finding's fingerprint covers

The canonical text of a finding projection determines every governed field of
the finding but its identifiers, although the canonical value in its middle may
be written like another value.  The fields before that value are read from the
left and the fields after it from the right.
-/

namespace SanTanHeights.Snapshot

open Foundation Foundation.Json Foundation.Sorting Shared

/-- The dictionary over the three audiences. -/
def audienceObject (agent seller pub : Option String) : Json :=
  .obj [("agent", .ofOptional agent), ("seller", .ofOptional seller), ("public", .ofOptional pub)]

/-- A key, quoted. -/
def key (name : String) : List Char :=
  quote name.toList

/-- Text of the dictionary over the three audiences, without its braces. -/
def audienceText (agent seller pub : Option String) : List Char :=
  key "agent" ++ ':' :: (literal agent ++ ',' :: (key "public" ++
    ':' :: (literal pub ++ ',' :: (key "seller" ++ ':' :: literal seller))))

theorem canonicalText_audienceObject (agent seller pub : Option String) :
    canonicalText (audienceObject agent seller pub) =
      some ('{' :: (audienceText agent seller pub ++ ['}'])) := by
  have sorted : sortedBy Prod.fst
      [("agent", ofOptional agent), ("seller", ofOptional seller), ("public", ofOptional pub)] =
      [("agent", ofOptional agent), ("public", ofOptional pub), ("seller", ofOptional seller)] := by
    simp [sortedBy, List.insertionSort, List.orderedInsert]
  rw [audienceObject, canonicalText_obj_of_forall (by simp [IsTagged]) (by simp), sorted]
  simp [joinComma, memberText, audienceText, key]

/-- The fields after the canonical value. -/
def laterFields (finding : FrozenFinding) (passport : PassportReference) :
    List (List Char × Option String) :=
  [(',' :: key "confidence_code", some finding.confidenceCode),
    (',' :: key "evidence_reference_set_hash", some finding.evidenceReferenceSetHash),
    (',' :: key "finding_type", some finding.findingType),
    (',' :: key "passport_semantic_fingerprint", some passport.passportSemanticFingerprint),
    (',' :: key "production_status", some finding.productionStatus.code),
    (',' :: key "publication_scope", some finding.publicationScope.code),
    (',' :: key "qa_status", some finding.qaStatus.code),
    (',' :: (key "wording_versions" ++ ':' :: '{' :: key "agent"),
      finding.agentWordingVersion),
    (',' :: key "public", finding.publicWordingVersion),
    (',' :: key "seller", finding.sellerWordingVersion)]

/-- The text of a finding projection around that of its canonical value. -/
theorem canonicalText_findingProjection
    {finding : FrozenFinding} {passport : PassportReference} {text : List Char}
    (written : canonicalText (findingProjection finding passport) = some text) :
    ∃ value, canonicalText finding.canonicalValue = some value ∧
      text = ('{' :: (key "approved_wording" ++ ':' :: '{' ::
        (audienceText finding.agentWording finding.sellerWording
          finding.publicWording ++ '}' :: ',' ::
            (key "canonical_value" ++ ':' :: value)))) ++
        fieldsText (laterFields finding passport) ++ ['}', '}'] := by
  obtain ⟨texts, rfl⟩ := canonicalText_obj_eq (by simp [IsTagged]) written
  have value := texts ("canonical_value", finding.canonicalValue) (by simp)
  have wording := canonicalText_audienceObject finding.agentWording
    finding.sellerWording finding.publicWording
  have versions := canonicalText_audienceObject finding.agentWordingVersion
    finding.sellerWordingVersion finding.publicWordingVersion
  refine ⟨_, value, ?_⟩
  unfold audienceObject at wording versions
  simp [sortedBy, List.insertionSort, List.orderedInsert, joinComma,
    memberText, textOf_of_canonicalText wording,
    textOf_of_canonicalText versions, laterFields, fieldsText, key, literal, audienceText]

/-- Two findings agree in everything that their fingerprint covers. -/
structure SameSemantics (left right : FrozenFinding)
    (leftPassport rightPassport : PassportReference) : Prop where
  findingType : left.findingType = right.findingType
  canonicalValue : canonicalText left.canonicalValue = canonicalText right.canonicalValue
  confidenceCode : left.confidenceCode = right.confidenceCode
  qaStatus : left.qaStatus = right.qaStatus
  productionStatus : left.productionStatus = right.productionStatus
  publicationScope : left.publicationScope = right.publicationScope
  agentWording : left.agentWording = right.agentWording
  sellerWording : left.sellerWording = right.sellerWording
  publicWording : left.publicWording = right.publicWording
  agentWordingVersion : left.agentWordingVersion = right.agentWordingVersion
  sellerWordingVersion : left.sellerWordingVersion = right.sellerWordingVersion
  publicWordingVersion : left.publicWordingVersion = right.publicWordingVersion
  evidenceReferenceSetHash : left.evidenceReferenceSetHash = right.evidenceReferenceSetHash
  passportSemanticFingerprint :
    leftPassport.passportSemanticFingerprint = rightPassport.passportSemanticFingerprint

/-- Equal audience texts in front of equal continuations. -/
theorem audienceText_append_inj
    {agent seller pub otherAgent otherSeller otherPub : Option String}
    {rest otherRest : List Char}
    (equal : audienceText agent seller pub ++ '}' :: rest =
      audienceText otherAgent otherSeller otherPub ++ '}' :: otherRest) :
    agent = otherAgent ∧ seller = otherSeller ∧ pub = otherPub ∧ rest = otherRest := by
  have comma : ∀ text, Delimited (',' :: text) := fun text => by
    rw [delimited_cons]
    decide
  have brace : ∀ text, Delimited ('}' :: text) := fun text => by
    rw [delimited_cons]
    decide
  simp only [audienceText, List.append_assoc, List.cons_append] at equal
  have equal := List.append_cancel_left equal
  rw [List.cons.injEq] at equal
  obtain ⟨sameAgent, equal⟩ := literal_append_inj (comma _) (comma _) equal.2
  rw [List.cons.injEq] at equal
  have equal := List.append_cancel_left equal.2
  rw [List.cons.injEq] at equal
  obtain ⟨samePub, equal⟩ := literal_append_inj (comma _) (comma _) equal.2
  rw [List.cons.injEq] at equal
  have equal := List.append_cancel_left equal.2
  rw [List.cons.injEq] at equal
  obtain ⟨sameSeller, equal⟩ := literal_append_inj (brace _) (brace _) equal.2
  rw [List.cons.injEq] at equal
  exact ⟨sameAgent, sameSeller, samePub, equal.2⟩

/-- The canonical text of a projection determines what it covers. -/
theorem sameSemantics_of_canonicalText_eq {left right : FrozenFinding}
    {leftPassport rightPassport : PassportReference} {text : List Char}
    (leftText : canonicalText (findingProjection left leftPassport) = some text)
    (rightText : canonicalText (findingProjection right rightPassport) = some text) :
    SameSemantics left right leftPassport rightPassport := by
  obtain ⟨leftValue, leftWritten, leftEqual⟩ := canonicalText_findingProjection leftText
  obtain ⟨rightValue, rightWritten, rightEqual⟩ := canonicalText_findingProjection rightText
  have equal := List.append_cancel_right (leftEqual.symm.trans rightEqual)
  obtain ⟨later, front⟩ := append_fieldsText_inj (by rfl) equal
  rw [List.cons.injEq] at front
  have front := List.append_cancel_left front.2
  rw [List.cons.injEq, List.cons.injEq] at front
  obtain ⟨agent, seller, pub, value⟩ := audienceText_append_inj front.2.2
  rw [List.cons.injEq] at value
  have value := List.append_cancel_left value.2
  rw [List.cons.injEq] at value
  simp only [laterFields, List.cons.injEq, Prod.mk.injEq, Option.some.injEq,
    true_and, and_true] at later
  obtain ⟨confidence, evidence, type, passport, production, scope, qa,
    agentVersion, publicVersion, sellerVersion⟩ := later
  exact
    { findingType := type
      canonicalValue := by rw [leftWritten, rightWritten, value.2]
      confidenceCode := confidence
      qaStatus := QaStatus.code_injective qa
      productionStatus := ProductionStatus.code_injective production
      publicationScope := PublicationScope.code_injective scope
      agentWording := agent
      sellerWording := seller
      publicWording := pub
      agentWordingVersion := agentVersion
      sellerWordingVersion := sellerVersion
      publicWordingVersion := publicVersion
      evidenceReferenceSetHash := evidence
      passportSemanticFingerprint := passport }

/-! ## Verified fingerprints -/

/-- A finding passed `verify_upstream` with a passport, and this is the text
that was hashed. -/
def VerifiedText (finding : FrozenFinding) (passport : PassportReference)
    (text : String) : Prop :=
  canonicalJson (findingProjection finding passport) = some text ∧
    Sha256.hexdigest text = finding.semanticFingerprint

theorem verifyUpstream_eq_ok {finding : FrozenFinding} {passport : PassportReference}
    {fingerprint : String} (verified : verifyUpstream finding passport = .ok fingerprint) :
    ∃ text, VerifiedText finding passport text := by
  obtain ⟨calculated, result, checked⟩ := Outcome.bind_eq_ok.mp verified
  simp only [calculateFinding, Outcome.require_bind_eq_ok] at result checked
  obtain ⟨text, written, hashed⟩ := sha256Canonical_eq_ok.mp result.2
  exact ⟨text, written, hashed.trans checked.1⟩

/-- Verified findings with equal fingerprints agree in what these cover. -/
theorem sameSemantics_of_fingerprint_eq {left right : FrozenFinding}
    {leftPassport rightPassport : PassportReference}
    {leftText rightText : String} {texts : Set String}
    (collisionFree : Sha256.CollisionFree texts)
    (leftVerified : VerifiedText left leftPassport leftText)
    (rightVerified : VerifiedText right rightPassport rightText)
    (leftHashed : leftText ∈ texts) (rightHashed : rightText ∈ texts)
    (equal : left.semanticFingerprint = right.semanticFingerprint) :
    SameSemantics left right leftPassport rightPassport := by
  obtain ⟨leftWritten, leftHash⟩ := leftVerified
  obtain ⟨rightWritten, rightHash⟩ := rightVerified
  obtain rfl := collisionFree.eq leftHashed rightHashed
    (leftHash.trans (equal.trans rightHash.symm))
  obtain ⟨leftChars, leftCanonical, leftOf⟩ := Option.map_eq_some_iff.mp leftWritten
  obtain ⟨rightChars, rightCanonical, rightOf⟩ := Option.map_eq_some_iff.mp rightWritten
  obtain rfl := String.ofList_injective (leftOf.trans rightOf.symm)
  exact sameSemantics_of_canonicalText_eq leftCanonical rightCanonical

end SanTanHeights.Snapshot
