import SanTanHeights.Report.Registries
import SanTanHeights.Snapshot.Repository

/-!
# Selecting findings and their wording

`FindingSelector.select` keeps the findings of a snapshot that a variant's
policy admits, and `ApprovedWordingResolver.resolve` gives the text that the
variant shows for each of them.
-/

namespace SanTanHeights.Report

open Foundation Foundation.Sorting Foundation.Outcome Shared Snapshot

/-! ## Selection -/

structure FindingSelection where
  finding : SnapshotFindingRecord
  sectionId : String
  classification : Classification

namespace FindingSelection

/-- `selection.finding.finding_id`. -/
def findingId (selection : FindingSelection) : String :=
  selection.finding.finding.findingId

/-- `selection.finding.finding_type`. -/
def findingType (selection : FindingSelection) : String :=
  selection.finding.finding.findingType

/-- `selection.finding.semantic_fingerprint`. -/
def semanticFingerprint (selection : FindingSelection) : String :=
  selection.finding.finding.semanticFingerprint

end FindingSelection

/-- `_SCOPE_CLASSIFICATION`. -/
def scopeClassification : PublicationScope → Classification
  | .pub => .publicData
  | .all => .publicData
  | .seller => .sellerData
  | .agentSeller => .sellerData
  | .agent => .agentInternal
  | .none => .restricted

structure FindingSelector where
  variants : VariantPolicyRegistry
  sections : ReportSectionRegistry

namespace FindingSelector

/-- `_section_for`. -/
def sectionFor (selector : FindingSelector) (findingType : String) (variant : Variant) :
    Option String :=
  ((selector.sections.forVariant variant).find? fun entry =>
    findingType ∈ entry.findingTypes).map ReportSection.sectionId

/-- The conditions under which a finding is selected, in their order. -/
def selectOne (selector : FindingSelector) (variant : Variant)
    (finding : SnapshotFindingRecord) : Option FindingSelection :=
  let policy := selector.variants variant
  let classification := scopeClassification finding.finding.publicationScope
  if finding.finding.productionStatus ≠ .productionReady ∨
      finding.finding.qaStatus ≠ .pass then none
  else if finding.finding.findingType ∈ policy.prohibitedFindingTypes then
    none
  else if !policy.allowsPublicationScope finding.finding.publicationScope then
    none
  else if !policy.allowsClassification classification then none
  else
    (selector.sectionFor finding.finding.findingType variant).map
      fun sectionId => ⟨finding, sectionId, classification⟩

/-- The loop of `select`, with the identifiers seen so far. -/
def selectLoop (selector : FindingSelector) (variant : Variant) (seen : List String) :
    List SnapshotFindingRecord → Except String (List FindingSelection)
  | [] => .ok []
  | finding :: findings => do
      require (finding.finding.findingId ∉ seen)
        ("duplicate finding_id: " ++ finding.finding.findingId)
      let selected ← selectLoop selector variant
        (finding.finding.findingId :: seen) findings
      return (selector.selectOne variant finding).toList ++ selected

/-- The order of selections. -/
def sortKey (selector : FindingSelector) (selection : FindingSelection) :
    Int ×ₗ String ×ₗ String :=
  toLex (selector.sections.order selection.sectionId,
    toLex (selection.findingType, selection.findingId))

/-- `select`. -/
def select (selector : FindingSelector) (findings : List SnapshotFindingRecord)
    (variant : Variant) : Except String (List FindingSelection) :=
  (selectLoop selector variant [] findings).map (sortedBy selector.sortKey)

end FindingSelector

/-! ## Approved wording -/

structure ResolvedWording where
  text : String
  version : String
  deriving DecidableEq, Repr

/-- `_ATTRS`: the wording of a finding for a variant. -/
def wordingAttribute (finding : FrozenFinding) : Variant → Option String
  | .agent => finding.agentWording
  | .seller => finding.sellerWording
  | .pub => finding.publicWording

/-- `_ATTRS`: the version of that wording. -/
def wordingVersionAttribute (finding : FrozenFinding) :
    Variant → Option String
  | .agent => finding.agentWordingVersion
  | .seller => finding.sellerWordingVersion
  | .pub => finding.publicWordingVersion

/-- A text that is there and not blank. -/
def present (text : Option String) : Option String :=
  text.filter fun content => !Text.isBlank content

/-- `ApprovedWordingResolver.resolve`. -/
def resolveWording (finding : SnapshotFindingRecord) (variant : Variant) :
    Except String ResolvedWording := do
  let text ← orRaise (present (wordingAttribute finding.finding variant))
    ("missing approved " ++ variant.code ++ " wording for finding " ++ finding.finding.findingId)
  let version ← orRaise
    (present (wordingVersionAttribute finding.finding variant))
    ("missing approved " ++ variant.code ++ " wording version for finding " ++
      finding.finding.findingId)
  return ⟨text, version⟩

/-- The dictionary of resolved wordings by finding. -/
abbrev WordingByFinding := List (String × ResolvedWording)

/-- The wording of every selected finding. -/
def resolveAll (selections : List FindingSelection) (variant : Variant) :
    Except String WordingByFinding :=
  selections.mapM fun selection =>
    (resolveWording selection.finding variant).map fun wording =>
      (selection.findingId, wording)

/-! ## What is selected -/

namespace FindingSelector

variable {selector : FindingSelector} {variant : Variant}

theorem selectOne_eq_some {finding : SnapshotFindingRecord} {selection : FindingSelection}
    (selected : selector.selectOne variant finding = some selection) :
    selection.finding = finding ∧ finding.finding.publicationScope ∈
        (selector.variants variant).allowedPublicationScopes ∧
      selector.sectionFor finding.finding.findingType variant = some selection.sectionId := by
  unfold selectOne at selected
  simp only at selected
  split_ifs at selected with unready prohibited unpublished unclassified
  obtain ⟨sectionId, found, rfl⟩ := Option.map_eq_some_iff.mp selected
  refine ⟨rfl, ?_, found⟩
  simpa [VariantPolicy.allowsPublicationScope] using unpublished

theorem selectLoop_eq_ok {seen : List String} {findings : List SnapshotFindingRecord}
    {out : List FindingSelection} :
    selector.selectLoop variant seen findings = .ok out ↔
      ((findings.map fun finding => finding.finding.findingId).Nodup ∧
        ∀ finding ∈ findings, finding.finding.findingId ∉ seen) ∧
      findings.filterMap (selector.selectOne variant) = out := by
  induction findings generalizing seen out with
  | nil => simp [selectLoop]
  | cons finding findings ih =>
      have kept : (finding :: findings).filterMap (selector.selectOne variant) =
            (selector.selectOne variant finding).toList ++
              findings.filterMap (selector.selectOne variant) := by
        cases outcome : selector.selectOne variant finding <;>
          simp [outcome]
      rw [selectLoop, require_bind_eq_ok, bind_eq_ok, kept]
      constructor
      · rintro ⟨fresh, others, later, rest⟩
        obtain ⟨⟨distinct, unseen⟩, rfl⟩ := ih.mp later
        rw [pure_eq_ok] at rest
        refine ⟨⟨?_, ?_⟩, rest⟩
        · rw [List.map_cons, List.nodup_cons]
          refine ⟨fun again => ?_, distinct⟩
          obtain ⟨other, present, same⟩ := List.mem_map.mp again
          exact unseen other present (by simp [same])
        · rw [List.forall_mem_cons]
          exact ⟨fresh, fun other present old =>
            unseen other present (List.mem_cons_of_mem _ old)⟩
      · rintro ⟨⟨distinct, unseen⟩, rest⟩
        rw [List.map_cons, List.nodup_cons] at distinct
        rw [List.forall_mem_cons] at unseen
        refine ⟨unseen.1, _, ih.mpr
          ⟨⟨distinct.2, fun other present again => ?_⟩, rfl⟩,
          pure_eq_ok.mpr rest⟩
        rcases List.mem_cons.mp again with same | old
        · exact distinct.1 (List.mem_map.mpr ⟨other, present, same⟩)
        · exact unseen.2 other present old

/-- `select` succeeds on distinct findings and sorts those it keeps. -/
theorem select_eq {findings : List SnapshotFindingRecord}
    (distinct : (findings.map fun finding => finding.finding.findingId).Nodup) :
    selector.select findings variant = .ok (sortedBy selector.sortKey
        (findings.filterMap (selector.selectOne variant))) := by
  rw [select, selectLoop_eq_ok.mpr ⟨⟨distinct, by simp⟩, rfl⟩]
  rfl

end FindingSelector

end SanTanHeights.Report
