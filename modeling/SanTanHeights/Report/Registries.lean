import Mathlib.Data.String.Basic
import SanTanHeights.Foundation.Outcome
import SanTanHeights.Shared.Vocabulary

/-!
# Report registries

The governed configuration that a report is built under: variant policies,
sections, friendly labels and the glossary.  The structures carry what
`from_repository` checks when it loads a registry.
-/

namespace SanTanHeights.Report

open Foundation.Sorting Foundation.Outcome Shared

/-! ## Variant policies -/

/-- Data classifications. -/
inductive Classification where
  | publicData
  | sellerData
  | agentInternal
  | operationsInternal
  | systemInternal
  | restricted
  deriving DecidableEq, Repr

structure VariantPolicy where
  policyId : String
  version : String
  allowedClassifications : List Classification
  allowedPublicationScopes : List PublicationScope
  prohibitedFindingTypes : List String
  deriving DecidableEq, Repr

def VariantPolicy.allowsClassification
    (policy : VariantPolicy) (classification : Classification) : Bool :=
  classification ∈ policy.allowedClassifications

def VariantPolicy.allowsPublicationScope
    (policy : VariantPolicy) (scope : PublicationScope) : Bool :=
  scope ∈ policy.allowedPublicationScopes

/-- A policy for every variant. -/
abbrev VariantPolicyRegistry := Variant → VariantPolicy

/-- `registries/report-variants`. -/
def variantPolicies : VariantPolicyRegistry
  | .agent =>
      { policyId := "STH-REPORT-VARIANT-AGENT-v1.0"
        version := "1.0.0"
        allowedClassifications := [.publicData, .sellerData, .agentInternal]
        allowedPublicationScopes := [.agent, .agentSeller, .all]
        prohibitedFindingTypes := [] }
  | .seller =>
      { policyId := "STH-REPORT-VARIANT-SELLER-v1.0"
        version := "1.0.0"
        allowedClassifications := [.publicData, .sellerData]
        allowedPublicationScopes := [.seller, .agentSeller, .all]
        prohibitedFindingTypes := [] }
  | .pub =>
      { policyId := "STH-REPORT-VARIANT-PUBLIC-v1.0"
        version := "1.0.0"
        allowedClassifications := [.publicData]
        allowedPublicationScopes := [.pub, .all]
        prohibitedFindingTypes := [] }

/-! ## Sections -/

/-- `FALLBACKS`. -/
inductive Fallback where
  | omitIfEmpty
  | showEmptyState
  | blockIfRequired
  deriving DecidableEq, Repr

structure ReportSection where
  sectionId : String
  order : Int
  allowedVariants : List Variant
  requiredByVariant : List Variant
  findingTypes : List String
  fallbackBehavior : Fallback
  deriving DecidableEq, Repr

/-- A section is required only where it is allowed, and then blocks. -/
def ReportSection.Consistent (entry : ReportSection) : Prop :=
  entry.requiredByVariant ⊆ entry.allowedVariants ∧
    (entry.requiredByVariant ≠ [] → entry.fallbackBehavior = .blockIfRequired)

instance (entry : ReportSection) : Decidable entry.Consistent :=
  inferInstanceAs (Decidable (_ ∧ _))

/-- Sections in ascending order, with distinct identifiers. -/
structure ReportSectionRegistry where
  registryId : String
  version : String
  sections : List ReportSection
  distinct : (sections.map ReportSection.sectionId).Nodup
  ascending : sections.Pairwise fun first second => first.order < second.order
  consistent : ∀ entry ∈ sections, entry.Consistent

namespace ReportSectionRegistry

/-- `get`. -/
def get (registry : ReportSectionRegistry) (sectionId : String) : Option ReportSection :=
  registry.sections.find? fun entry => entry.sectionId = sectionId

/-- `for_variant`. -/
def forVariant (registry : ReportSectionRegistry) (variant : Variant) : List ReportSection :=
  registry.sections.filter fun entry => variant ∈ entry.allowedVariants

/-- `get(section_id).order`; selections name registered sections only. -/
def order (registry : ReportSectionRegistry) (sectionId : String) : Int :=
  (registry.get sectionId).elim 0 ReportSection.order

end ReportSectionRegistry

/-- `registries/report-sections/sections.yaml`. -/
def reportSections : ReportSectionRegistry where
  registryId := "STH-REPORT-SECTIONS-v1.0"
  version := "1.0.0"
  sections :=
    [⟨"summary", 1, variants, variants, [], .blockIfRequired⟩,
      ⟨"property-identity", 2, variants, variants,
        ["PROPERTY_IDENTITY", "CANONICAL_PHASE", "BUILDER_IDENTITY",
          "FLOOR_PLAN_IDENTITY"], .blockIfRequired⟩,
      ⟨"lot-location", 3, variants, variants,
        ["LOT_IDENTITY", "STREET_SIDE", "REAR_ADJACENCY", "SIDE_ADJACENCY",
          "CORNER_STATUS", "CUL_DE_SAC_STATUS", "ROAD_ADJACENCY",
          "TRACT_ADJACENCY", "OPEN_SPACE_RELATIONSHIP",
          "VIEW_CLASSIFICATION"], .blockIfRequired⟩,
      ⟨"home-dna", 4, variants, variants,
        ["BUILDER_IDENTITY", "FLOOR_PLAN_IDENTITY", "POOL_STATUS",
          "GARAGE_CLASSIFICATION"], .blockIfRequired⟩,
      ⟨"market-context", 5, variants, [],
        ["MARKET_CONTEXT", "BUYER_DEPTH", "PRICING_RESPONSE",
          "CURRENT_ALTERNATIVES", "BUILDER_COMPETITION"], .omitIfEmpty⟩,
      ⟨"evidence", 6, variants, variants, [], .blockIfRequired⟩,
      ⟨"changes", 7, variants, [], [], .omitIfEmpty⟩,
      ⟨"freshness", 8, variants, variants, [], .blockIfRequired⟩,
      ⟨"glossary", 9, variants, [], [], .omitIfEmpty⟩]
  distinct := by decide
  ascending := by decide
  consistent := by decide

/-! ## Labels and glossary -/

/-- Labels of a term for the three audiences. -/
structure FriendlyLabelRegistry where
  registryId : String
  version : String
  labels : String → Option (Variant → String)

/-- `FriendlyLabelRegistry.resolve`. -/
def FriendlyLabelRegistry.resolve
    (registry : FriendlyLabelRegistry) (termId : String) (variant : Variant) :
    Except String String := do
  let label ← orRaise (registry.labels termId)
    ("missing friendly label for " ++ termId)
  return label variant

/-- What an audience reads about a term. -/
structure GlossaryView where
  label : String
  definition : String
  deriving DecidableEq, Repr

structure GlossaryTerm where
  termId : String
  relatedFindingTypes : List String
  view : Variant → GlossaryView

/-- A glossary whose terms are distinct and include the universal ones. -/
structure GlossaryResolver where
  registryId : String
  version : String
  universal : List String
  terms : List GlossaryTerm
  distinct : (terms.map GlossaryTerm.termId).Nodup
  known : universal ⊆ terms.map GlossaryTerm.termId

structure GlossaryEntry where
  termId : String
  label : String
  definition : String
  glossaryVersion : String
  deriving DecidableEq, Repr

namespace GlossaryResolver

/-- `sorted(term_ids)` for the types of findings in use. -/
def termIds (glossary : GlossaryResolver) (usedTypes : List String) : List String :=
  let related := glossary.terms.filter fun term =>
    term.relatedFindingTypes.any fun type => type ∈ usedTypes
  sortedBy id (glossary.universal ++ related.map GlossaryTerm.termId).dedup

/-- `resolve`. -/
def resolve (glossary : GlossaryResolver) (usedTypes : List String)
    (variant : Variant) : List GlossaryEntry :=
  (glossary.termIds usedTypes).filterMap fun termId =>
    (glossary.terms.find? fun term => term.termId = termId).map fun term =>
      { termId := termId
        label := (term.view variant).label
        definition := (term.view variant).definition
        glossaryVersion := glossary.version }

/-- The entries depend on the set of types in use. -/
theorem resolve_congr (glossary : GlossaryResolver) (variant : Variant)
    {usedTypes others : List String} (same : ∀ type, type ∈ usedTypes ↔ type ∈ others) :
    glossary.resolve usedTypes variant = glossary.resolve others variant := by
  have related : (glossary.terms.filter fun term =>
      term.relatedFindingTypes.any fun type => decide (type ∈ usedTypes)) =
        glossary.terms.filter fun term =>
          term.relatedFindingTypes.any fun type => decide (type ∈ others) := by
    apply List.filter_congr
    intro term _
    simp only [same]
  rw [resolve, termIds, related]
  rfl

end GlossaryResolver

end SanTanHeights.Report
