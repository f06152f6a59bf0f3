import SanTanHeights.Presentation.Routing

/-!
# What changed

The panel presents certified changes to an audience.  A change whose current
value the audience may not see is refused, a change without meaning for it is
passed over, and the value before a change is withheld unless the audience may
see that value too.
-/

namespace SanTanHeights.Presentation

open Foundation
open Foundation.Outcome
open Foundation.Sorting
open Shared

/-! ## Audience policies -/

structure AudiencePresentationPolicy where
  audience : PresentationAudience
  allowedClassifications : List String
  allowedPublicationScopes : List String
  deriving DecidableEq

namespace AudiencePresentationPolicy

/-- `allows`. -/
def Allows (policy : AudiencePresentationPolicy)
    (classification publicationScope : String) : Prop :=
  classification ∈ policy.allowedClassifications ∧
    publicationScope ∈ policy.allowedPublicationScopes

instance (policy : AudiencePresentationPolicy) (classification publicationScope : String) :
    Decidable (policy.Allows classification publicationScope) :=
  inferInstanceAs (Decidable (_ ∧ _))

/-- `require_allowed`. -/
def requireAllowed (policy : AudiencePresentationPolicy)
    (classification publicationScope : String) : Except String Unit :=
  require (policy.Allows classification publicationScope)
    ("content is not eligible for " ++ policy.audience.code ++
      ": classification=" ++ classification ++ ", publication_scope=" ++ publicationScope)

end AudiencePresentationPolicy

namespace Changes

/-! ## Changes -/

inductive ChangeType where
  | newFinding
  | findingRetired
  | valueChanged
  | stateChanged
  | confidenceChanged
  | freshnessChanged
  | evidenceChanged
  | limitationChanged
  | correction
  | conflictResolved
  | diagramChanged
  | mediaChanged
  | marketContextChanged
  | wordingOnly
  | noSemanticChange
  deriving DecidableEq, Repr

def ChangeType.value : ChangeType → String
  | .newFinding => "NEW_FINDING"
  | .findingRetired => "FINDING_RETIRED"
  | .valueChanged => "VALUE_CHANGED"
  | .stateChanged => "STATE_CHANGED"
  | .confidenceChanged => "CONFIDENCE_CHANGED"
  | .freshnessChanged => "FRESHNESS_CHANGED"
  | .evidenceChanged => "EVIDENCE_CHANGED"
  | .limitationChanged => "LIMITATION_CHANGED"
  | .correction => "CORRECTION"
  | .conflictResolved => "CONFLICT_RESOLVED"
  | .diagramChanged => "DIAGRAM_CHANGED"
  | .mediaChanged => "MEDIA_CHANGED"
  | .marketContextChanged => "MARKET_CONTEXT_CHANGED"
  | .wordingOnly => "WORDING_ONLY"
  | .noSemanticChange => "NO_SEMANTIC_CHANGE"

inductive ChangeMateriality where
  | material
  | detail
  deriving DecidableEq, Repr

def ChangeMateriality.value : ChangeMateriality → String
  | .material => "MATERIAL"
  | .detail => "DETAIL"

inductive ChangeGroupKey where
  | newlyVerified
  | updated
  | corrected
  | evidenceUpdated
  | marketContextUpdated
  deriving DecidableEq, Repr

def ChangeGroupKey.value : ChangeGroupKey → String
  | .newlyVerified => "NEWLY_VERIFIED"
  | .updated => "UPDATED"
  | .corrected => "CORRECTED"
  | .evidenceUpdated => "EVIDENCE_UPDATED"
  | .marketContextUpdated => "MARKET_CONTEXT_UPDATED"

/-- `_GROUP_TITLES`. -/
def groupTitle : ChangeGroupKey → String
  | .newlyVerified => "Newly Verified"
  | .updated => "Updated"
  | .corrected => "Corrected"
  | .evidenceUpdated => "Evidence Updated"
  | .marketContextUpdated => "Market Context Updated"

/-- `_GROUP_ORDER`. -/
def groupOrder : List ChangeGroupKey :=
  [.newlyVerified, .updated, .corrected, .evidenceUpdated, .marketContextUpdated]

/-- `_GROUP_BY_TYPE.get`. -/
def groupByType : ChangeType → Option ChangeGroupKey
  | .newFinding => some .newlyVerified
  | .findingRetired | .valueChanged | .stateChanged | .confidenceChanged
  | .freshnessChanged => some .updated
  | .correction | .conflictResolved => some .corrected
  | .evidenceChanged | .limitationChanged | .diagramChanged
  | .mediaChanged => some .evidenceUpdated
  | .marketContextChanged => some .marketContextUpdated
  | .wordingOnly | .noSemanticChange => none

/-- `_SUPPRESSED_TYPES`. -/
def suppressedTypes : List ChangeType :=
  [.wordingOnly, .noSemanticChange]

/-- The fields of a change. -/
structure ChangeRecord where
  changeId : String
  propertyId : String
  audience : PresentationAudience
  changeType : ChangeType
  findingKey : String
  label : String
  before : Option String
  after : Option String
  materiality : ChangeMateriality
  detectedAt : String
  sourceDiffHash : String
  currentClassification : String
  currentPublicationScope : String
  historicalClassification : Option String
  historicalPublicationScope : Option String
  knowledgeChangeOnly : Bool
  deriving DecidableEq

/-- `__post_init__`. -/
def ChangeRecord.postInit (change : ChangeRecord) : Except String Unit := do
  [("change_id", change.changeId), ("property_id", change.propertyId),
    ("finding_key", change.findingKey), ("label", change.label),
    ("detected_at", change.detectedAt),
    ("current_classification", change.currentClassification),
    ("current_publication_scope", change.currentPublicationScope)].forM
      fun field => require (Text.isBlank field.2 = false) (field.1 ++ " is required")
  require (Sha256.isHex64 change.sourceDiffHash = true)
    "source_diff_hash must be lowercase sha256"
  require (change.before = none ∨ change.historicalClassification.getD "" ≠ "" ∧
        change.historicalPublicationScope.getD "" ≠ "")
    "historical authorization metadata is required when before is present"

structure CertifiedChangeDTO extends ChangeRecord where
  certified : toChangeRecord.postInit = .ok ()

/-! ## The panel -/

structure WhatChangedItem where
  changeId : String
  changeType : ChangeType
  findingKey : String
  label : String
  before : Option String
  after : Option String
  historicalValueWithheld : Bool
  materiality : ChangeMateriality
  detectedAt : String
  knowledgeChangeOnly : Bool
  deriving DecidableEq

def WhatChangedItem.canonicalPayload (item : WhatChangedItem) : Json :=
  .obj [("change_id", .str item.changeId), ("change_type", .str item.changeType.value),
    ("finding_key", .str item.findingKey), ("label", .str item.label),
    ("before", .ofOptional item.before), ("after", .ofOptional item.after),
    ("historical_value_withheld", .bool item.historicalValueWithheld),
    ("materiality", .str item.materiality.value), ("detected_at", .str item.detectedAt),
    ("knowledge_change_only", .bool item.knowledgeChangeOnly)]

structure WhatChangedGroup where
  key : ChangeGroupKey
  title : String
  items : List WhatChangedItem
  deriving DecidableEq

def WhatChangedGroup.canonicalPayload (group : WhatChangedGroup) : Json :=
  .obj [("key", .str group.key.value), ("title", .str group.title),
    ("items", .arr (group.items.map (·.canonicalPayload)))]

structure WhatChangedPanel where
  audience : PresentationAudience
  propertyId : String
  title : String
  previousSemanticFingerprint : String
  currentSemanticFingerprint : String
  sourceDiffHash : String
  groups : List WhatChangedGroup
  deriving DecidableEq

def WhatChangedPanel.canonicalPayload (panel : WhatChangedPanel) : Json :=
  .obj [("audience", .str panel.audience.code),
    ("property_id", .str panel.propertyId), ("title", .str panel.title),
    ("previous_semantic_fingerprint", .str panel.previousSemanticFingerprint),
    ("current_semantic_fingerprint", .str panel.currentSemanticFingerprint),
    ("source_diff_hash", .str panel.sourceDiffHash),
    ("groups", .arr (panel.groups.map (·.canonicalPayload)))]

/-- `fingerprint`. -/
def WhatChangedPanel.fingerprint (panel : WhatChangedPanel) : Except String String :=
  sha256Canonical panel.canonicalPayload

/-- A panel holds texts and flags only, so that it has a fingerprint. -/
theorem WhatChangedPanel.exists_fingerprint (panel : WhatChangedPanel) :
    ∃ fingerprint, panel.fingerprint = .ok fingerprint := by
  have textual : Textual panel.canonicalPayload := by
    simp [WhatChangedPanel.canonicalPayload, WhatChangedGroup.canonicalPayload,
      WhatChangedItem.canonicalPayload, textual_obj, IsTagged]
  obtain ⟨fingerprint, hashed, -⟩ := textual.exists_sha256Canonical
  exact ⟨fingerprint, hashed⟩

/-! ## Building the panel -/

/-- `policy.allows` of the historical metadata. -/
def HistoryAllowed (policy : AudiencePresentationPolicy) (change : ChangeRecord) : Prop :=
  policy.Allows (change.historicalClassification.getD "None")
    (change.historicalPublicationScope.getD "None")

instance (policy : AudiencePresentationPolicy) (change : ChangeRecord) :
    Decidable (HistoryAllowed policy change) :=
  inferInstanceAs (Decidable (policy.Allows _ _))

/-- `WhatChangedItem(...)`. -/
def itemOf (policy : AudiencePresentationPolicy) (change : ChangeRecord) : WhatChangedItem :=
  let withheld : Bool := change.before ≠ none ∧ ¬HistoryAllowed policy change
  { changeId := change.changeId
    changeType := change.changeType
    findingKey := change.findingKey
    label := change.label
    before := if withheld then none else change.before
    after := change.after
    historicalValueWithheld := withheld
    materiality := change.materiality
    detectedAt := change.detectedAt
    knowledgeChangeOnly := change.knowledgeChangeOnly }

/-- A change that the panel passes over. -/
def Suppressed (audience : PresentationAudience) (change : ChangeRecord) : Prop :=
  change.changeType ∈ suppressedTypes ∨ audience ≠ .agent ∧ change.materiality = .detail

instance (audience : PresentationAudience) (change : ChangeRecord) :
    Decidable (Suppressed audience change) :=
  inferInstanceAs (Decidable (_ ∨ _))

/-- The body of the loop over the changes; nothing where it continues. -/
def visit (policy : AudiencePresentationPolicy) (audience : PresentationAudience)
    (change : ChangeRecord) :
    Except String (Option (ChangeGroupKey × WhatChangedItem)) := do
  policy.requireAllowed change.currentClassification change.currentPublicationScope
  if Suppressed audience change then return none
  else do
    let group ← orRaise (groupByType change.changeType)
      ("unsupported semantic change type: " ++ change.changeType.value)
    return some (group, itemOf policy change)

def sortKey (item : WhatChangedItem) : String ×ₗ String ×ₗ String :=
  toLex (item.label, toLex (item.findingKey, item.changeId))

/-- `items` of a group. -/
def itemsUnder (visible : List (ChangeGroupKey × WhatChangedItem))
    (key : ChangeGroupKey) : List WhatChangedItem :=
  sortedBy sortKey ((visible.filter fun entry => entry.1 = key).map Prod.snd)

/-- `grouped`. -/
def groupsOf (visible : List (ChangeGroupKey × WhatChangedItem)) : List WhatChangedGroup :=
  groupOrder.filterMap fun key =>
    if itemsUnder visible key = [] then none
    else some ⟨key, groupTitle key, itemsUnder visible key⟩

/-- `next(iter(diff_hashes))` of the only hash. -/
def sourceDiffHashOf (changes : List CertifiedChangeDTO) : Except String String :=
  match (changes.map (·.sourceDiffHash)).dedup with
  | [only] => .ok only
  | _ => .error "change history source diff mismatch"

/-- `WhatChangedUi.build`. -/
def build (audience : PresentationAudience) (policy : AudiencePresentationPolicy)
    (propertyId : String) (previousSemanticFingerprint : Option String)
    (currentSemanticFingerprint : String)
    (changes : List CertifiedChangeDTO) (hasPreviousReport : Bool) :
    Except String (Option WhatChangedPanel) := do
  require (policy.audience = audience) "audience policy mismatch"
  require (Text.isBlank propertyId = false) "property_id is required"
  require (Sha256.isHex64 currentSemanticFingerprint = true)
    "current_semantic_fingerprint must be lowercase sha256"
  if hasPreviousReport = false then return none
  else do
    let previous ← orRaise (previousSemanticFingerprint.filter Sha256.isHex64)
      "previous_semantic_fingerprint must be lowercase sha256"
    if changes.isEmpty then return none
    else do
      require (∀ change ∈ changes, change.propertyId = propertyId)
        "change history property identity mismatch"
      require (∀ change ∈ changes, change.audience = audience)
        "change history audience mismatch"
      let sourceDiffHash ← sourceDiffHashOf changes
      let entries ← changes.mapM fun change =>
        visit policy audience change.toChangeRecord
      let visible := entries.reduceOption
      if visible.isEmpty then return none
      else do
        require (previous ≠ currentSemanticFingerprint)
          "semantic change records cannot bind identical report fingerprints"
        return some {
          audience := audience
          propertyId := propertyId
          title := "What Changed"
          previousSemanticFingerprint := previous
          currentSemanticFingerprint := currentSemanticFingerprint
          sourceDiffHash := sourceDiffHash
          groups := groupsOf visible }

variable {change : ChangeRecord} {item : WhatChangedItem}
  {entries : List (ChangeGroupKey × WhatChangedItem)}

/-! ## What the loop collects -/

section Entries

variable {policy : AudiencePresentationPolicy}
  {audience : PresentationAudience}

/-- The entry of a change that the loop accepts. -/
def entry (policy : AudiencePresentationPolicy) (audience : PresentationAudience)
    (change : ChangeRecord) : Option (ChangeGroupKey × WhatChangedItem) :=
  if Suppressed audience change then none
  else (groupByType change.changeType).map fun group =>
    (group, itemOf policy change)

def visible (policy : AudiencePresentationPolicy) (audience : PresentationAudience)
    (changes : List CertifiedChangeDTO) :
    List (ChangeGroupKey × WhatChangedItem) :=
  changes.filterMap fun change => entry policy audience change.toChangeRecord

/-- Every type that is not suppressed has a group. -/
theorem exists_groupByType (shown : ¬Suppressed audience change) :
    ∃ group, groupByType change.changeType = some group := by
  cases kind : change.changeType
  case wordingOnly => exact absurd (.inl (kind ▸ by decide)) shown
  case noSemanticChange => exact absurd (.inl (kind ▸ by decide)) shown
  all_goals exact ⟨_, rfl⟩

theorem entry_eq_some {group : ChangeGroupKey} :
    entry policy audience change = some (group, item) ↔
      ¬Suppressed audience change ∧ groupByType change.changeType = some group ∧
        itemOf policy change = item := by
  unfold entry
  split
  · simp [*]
  · simp [*]

/-- The loop accepts a change that the audience may see now. -/
theorem visit_eq_ok {result : Option (ChangeGroupKey × WhatChangedItem)} :
    visit policy audience change = .ok result ↔
      policy.Allows change.currentClassification
          change.currentPublicationScope ∧
        entry policy audience change = result := by
  rw [visit, AudiencePresentationPolicy.requireAllowed, require_bind_eq_ok, entry]
  refine and_congr_right fun _ => ?_
  split
  · exact pure_eq_ok
  · next shown =>
      obtain ⟨group, found⟩ := exists_groupByType shown
      rw [found]
      exact pure_eq_ok

theorem mem_visible {changes : List CertifiedChangeDTO} {group : ChangeGroupKey} :
    (group, item) ∈ visible policy audience changes ↔
      ∃ change ∈ changes, ¬Suppressed audience change.toChangeRecord ∧
        groupByType change.changeType = some group ∧
        itemOf policy change.toChangeRecord = item := by
  simp only [visible, List.mem_filterMap, entry_eq_some]

/-- The entries have the identifiers of their changes. -/
theorem sublist_visible (changes : List CertifiedChangeDTO) :
    ((visible policy audience changes).map (·.2.changeId)).Sublist (changes.map (·.changeId)) := by
  induction changes with
  | nil => exact List.Sublist.refl _
  | cons change changes ih =>
      unfold visible at ih ⊢
      rw [List.filterMap_cons]
      cases found : entry policy audience change.toChangeRecord with
      | none => exact ih.cons _
      | some listed =>
          obtain ⟨-, -, same⟩ := entry_eq_some.mp found
          rw [List.map_cons, List.map_cons, ← same]
          exact ih.cons_cons _

end Entries

/-! ## The groups -/

/-- An item stands in the group of its entry. -/
theorem mem_groupsOf {group : WhatChangedGroup} (grouped : group ∈ groupsOf entries) :
    item ∈ group.items ↔ (group.key, item) ∈ entries := by
  obtain ⟨key, -, made⟩ := List.mem_filterMap.mp grouped
  split at made
  · cases made
  · cases made
    simp [itemsUnder]

/-- The groups have different keys. -/
theorem nodup_groupsOf (entries : List (ChangeGroupKey × WhatChangedItem)) :
    ((groupsOf entries).map (·.key)).Nodup := by
  have inOrder : ((groupsOf entries).map (·.key)).Sublist groupOrder := by
    rw [groupsOf, List.map_filterMap]
    generalize groupOrder = keys
    induction keys with
    | nil => exact List.Sublist.refl _
    | cons key keys ih =>
        rw [List.filterMap_cons]
        split
        · exact ih.cons _
        · next found =>
            split at found
            · cases found
            · cases found
              exact ih.cons_cons _
  exact inOrder.nodup (by decide)

/-- An entry has its group. -/
theorem exists_group {key : ChangeGroupKey} (present : (key, item) ∈ entries) :
    ∃ group ∈ groupsOf entries, group.key = key := by
  have listed : item ∈ itemsUnder entries key := by
    simpa [itemsUnder] using present
  exact ⟨⟨key, groupTitle key, itemsUnder entries key⟩,
    List.mem_filterMap.mpr ⟨key, by cases key <;> decide, if_neg (List.ne_nil_of_mem listed)⟩, rfl⟩

/-- The groups do not depend on the order of entries that differ in their
identifiers. -/
theorem groupsOf_eq_of_perm {others : List (ChangeGroupKey × WhatChangedItem)}
    (permuted : entries.Perm others) (distinct : (entries.map (·.2.changeId)).Nodup) :
    groupsOf entries = groupsOf others := by
  have sorted : ∀ key, itemsUnder entries key = itemsUnder others key := by
    intro key
    refine sortedBy_eq_of_perm ((permuted.filter _).map _) ?_
    intro left leftListed right rightListed same
    simp only [List.mem_map, List.mem_filter] at leftListed rightListed
    obtain ⟨leftEntry, ⟨leftPresent, -⟩, rfl⟩ := leftListed
    obtain ⟨rightEntry, ⟨rightPresent, -⟩, rfl⟩ := rightListed
    have sameId : leftEntry.2.changeId = rightEntry.2.changeId :=
      congrArg (fun key => (ofLex (ofLex key).2).2) same
    rw [List.inj_on_of_nodup_map distinct leftPresent rightPresent sameId]
  unfold groupsOf
  simp only [sorted]

/-! ## Accepted inputs -/

section Accepted

variable {audience : PresentationAudience}
  {policy : AudiencePresentationPolicy} {propertyId current : String}
  {previous : Option String} {hasPreviousReport : Bool}
  {changes : List CertifiedChangeDTO}

theorem sourceDiffHashOf_eq_ok {hash : String} (only : sourceDiffHashOf changes = .ok hash) :
    ∀ other, other ∈ changes.map (·.sourceDiffHash) ↔ other = hash := by
  unfold sourceDiffHashOf at only
  split at only
  · next single =>
      cases only
      intro other
      rw [← List.mem_dedup, single, List.mem_singleton]
  · cases only

/-- What the builder returns for inputs that it accepts. -/
theorem build_eq_ok {result : Option WhatChangedPanel}
    (built : build audience policy propertyId previous current changes
      hasPreviousReport = .ok result) :
    ((hasPreviousReport = false ∨ visible policy audience changes = []) ∧ result = none) ∨
      ∃ prior hash, hasPreviousReport = true ∧ previous = some prior ∧
        visible policy audience changes ≠ [] ∧
        (∀ other, other ∈ changes.map (·.sourceDiffHash) ↔ other = hash) ∧
        result = some ⟨audience, propertyId, "What Changed", prior, current,
          hash, groupsOf (visible policy audience changes)⟩ := by
  unfold build at built
  simp only [require_bind_eq_ok] at built
  obtain ⟨-, -, -, built⟩ := built
  split at built
  · next first =>
      exact .inl ⟨.inl first, (pure_eq_ok.mp built).symm⟩
  · next reported =>
      obtain ⟨prior, found, built⟩ := bind_eq_ok.mp built
      obtain ⟨known, -⟩ := Option.filter_eq_some_iff.mp (orRaise_eq_ok.mp found)
      split at built
      · next empty =>
          rw [List.isEmpty_iff.mp empty]
          exact .inl ⟨.inr rfl, (pure_eq_ok.mp built).symm⟩
      · simp only [require_bind_eq_ok] at built
        obtain ⟨-, -, built⟩ := built
        obtain ⟨hash, only, built⟩ := bind_eq_ok.mp built
        obtain ⟨entries, visited, built⟩ := bind_eq_ok.mp built
        obtain ⟨-, rfl⟩ := (mapM_eq_ok_map fun _ _ => visit_eq_ok).mp visited
        have collected : (changes.map fun change =>
            entry policy audience change.toChangeRecord).reduceOption =
              visible policy audience changes := by
          exact List.filterMap_map
        simp only [collected, List.isEmpty_iff] at built
        split at built
        · next nothing =>
            exact .inl ⟨.inr nothing, (pure_eq_ok.mp built).symm⟩
        · next something =>
            rw [require_bind_eq_ok] at built
            refine .inr ⟨prior, hash, ?_, known, something,
              sourceDiffHashOf_eq_ok only, (pure_eq_ok.mp built.2).symm⟩
            simpa using reported

end Accepted

/-! ## The panel leaks no history and shows every change -/

/-- Changes that agree but for a value before them that the audience may not
see. -/
structure SameButHistory (policy : AudiencePresentationPolicy)
    (left right : CertifiedChangeDTO) : Prop where
  rest : { left.toChangeRecord with before := right.before } = right.toChangeRecord
  before : left.before = right.before ∨
    left.before ≠ none ∧ right.before ≠ none ∧ ¬HistoryAllowed policy left.toChangeRecord

/-- Lists that agree up to their order and up to such values. -/
def Agree (policy : AudiencePresentationPolicy) (left right : List CertifiedChangeDTO) : Prop :=
  ∃ middle, left.Perm middle ∧ List.Forall₂ (SameButHistory policy) middle right

/-- An item shows a change: it has the fields of the change, but the value
before the change just where there is one that the audience may see. -/
structure Shows (policy : AudiencePresentationPolicy)
    (change : ChangeRecord) (item : WhatChangedItem) : Prop where
  changeId : item.changeId = change.changeId
  changeType : item.changeType = change.changeType
  findingKey : item.findingKey = change.findingKey
  label : item.label = change.label
  after : item.after = change.after
  materiality : item.materiality = change.materiality
  detectedAt : item.detectedAt = change.detectedAt
  knowledgeChangeOnly : item.knowledgeChangeOnly = change.knowledgeChangeOnly
  before : ∀ value, item.before = some value ↔
    change.before = some value ∧ HistoryAllowed policy change
  withheld : item.historicalValueWithheld = true ↔
    change.before ≠ none ∧ ¬HistoryAllowed policy change

/-- Each change that is not suppressed is shown in exactly one group, and
nothing else is shown. -/
structure Faithful (policy : AudiencePresentationPolicy)
    (audience : PresentationAudience) (changes : List CertifiedChangeDTO)
    (panel : WhatChangedPanel) : Prop where
  keys : (panel.groups.map (·.key)).Nodup
  once : ∀ change ∈ changes, ¬Suppressed audience change.toChangeRecord →
    ∃! group, group ∈ panel.groups ∧ ∃ item ∈ group.items, Shows policy change.toChangeRecord item
  hidden : ∀ change, Suppressed audience change → ∀ group ∈ panel.groups,
    ∀ item ∈ group.items, ¬Shows policy change item
  origin : ∀ group ∈ panel.groups, ∀ item ∈ group.items,
    ∃ change ∈ changes, Shows policy change.toChangeRecord item

section Panels

variable {policy : AudiencePresentationPolicy}
  {audience : PresentationAudience}

theorem shows_itemOf (change : ChangeRecord) : Shows policy change (itemOf policy change) := by
  refine ⟨rfl, rfl, rfl, rfl, rfl, rfl, rfl, rfl, fun value => ?_, decide_eq_true_iff⟩
  cases known : change.before with
  | none => simp [itemOf, known]
  | some prior => by_cases HistoryAllowed policy change <;> simp [itemOf, *]

/-- Changes that agree but for what the audience may not see have one
entry. -/
theorem entry_congr {left right : CertifiedChangeDTO}
    (same : SameButHistory policy left right) :
    entry policy audience left.toChangeRecord = entry policy audience right.toChangeRecord := by
  rw [← same.rest]
  rcases same.before with equal | ⟨leftKnown, rightKnown, withheld⟩
  · rw [← equal]
  · have item : itemOf policy left.toChangeRecord =
        itemOf policy { left.toChangeRecord with before := right.before } := by
      have still : ¬HistoryAllowed policy
          { left.toChangeRecord with before := right.before } := withheld
      simp [itemOf, leftKnown, rightKnown, withheld, still]
    unfold entry
    rw [item]
    rfl

theorem visible_perm {left right : List CertifiedChangeDTO} (agree : Agree policy left right) :
    (visible policy audience left).Perm (visible policy audience right) := by
  obtain ⟨middle, permuted, related⟩ := agree
  refine (permuted.filterMap _).trans (List.Perm.of_eq ?_)
  clear permuted
  induction related with
  | nil => rfl
  | cons same _ ih =>
      rw [List.filterMap_cons, entry_congr same, ih]
      rfl

theorem hashes_perm {left right : List CertifiedChangeDTO} (agree : Agree policy left right) :
    (left.map (·.sourceDiffHash)).Perm (right.map (·.sourceDiffHash)) := by
  obtain ⟨middle, permuted, related⟩ := agree
  refine (permuted.map _).trans (List.Perm.of_eq ?_)
  clear permuted
  induction related with
  | nil => rfl
  | cons same _ ih =>
      rw [List.map_cons, List.map_cons, ih, ← same.rest]

theorem faithful_groupsOf (changes : List CertifiedChangeDTO) {panel : WhatChangedPanel}
    (grouped : panel.groups = groupsOf (visible policy audience changes)) :
    Faithful policy audience changes panel := by
  have origin : ∀ group ∈ panel.groups, ∀ item ∈ group.items,
      ∃ change ∈ changes, ¬Suppressed audience change.toChangeRecord ∧
        groupByType change.changeType = some group.key ∧
        itemOf policy change.toChangeRecord = item := by
    intro group listed item shown
    rw [grouped] at listed
    exact mem_visible.mp ((mem_groupsOf listed).mp shown)
  constructor
  · rw [grouped]
    exact nodup_groupsOf _
  · intro change present unsuppressed
    obtain ⟨key, known⟩ := exists_groupByType unsuppressed
    have collected : (key, itemOf policy change.toChangeRecord) ∈
        visible policy audience changes :=
      mem_visible.mpr ⟨change, present, unsuppressed, known, rfl⟩
    obtain ⟨group, listed, rfl⟩ := exists_group collected
    refine ⟨group, ⟨grouped ▸ listed, _, (mem_groupsOf listed).mpr collected, shows_itemOf _⟩, ?_⟩
    -- The type of an item determines the key of its group.
    rintro other ⟨otherListed, item, shown, shows⟩
    obtain ⟨source, -, -, otherKnown, made⟩ := origin other otherListed item shown
    rw [grouped] at otherListed
    have sameType : source.changeType = change.changeType := by
      rw [← shows.changeType, ← made]
      rfl
    rw [sameType, known] at otherKnown
    exact List.inj_on_of_nodup_map (nodup_groupsOf _) otherListed listed
      (Option.some.inj otherKnown).symm
  · intro change suppressed group listed item shown shows
    obtain ⟨source, -, unsuppressed, -, made⟩ := origin group listed item shown
    apply unsuppressed
    have sameType : source.changeType = change.changeType := by
      rw [← shows.changeType, ← made]
      rfl
    have sameMateriality : source.materiality = change.materiality := by
      rw [← shows.materiality, ← made]
      rfl
    rwa [Suppressed, sameType, sameMateriality]
  · intro group listed item shown
    obtain ⟨change, present, -, -, rfl⟩ := origin group listed item shown
    exact ⟨change, present, shows_itemOf _⟩

/-- Inputs that differ only in their order and in values that the audience may
not see give the same panel and the same fingerprint, and every panel shows
just the changes that are not suppressed, each in one group. -/
theorem build_discloses_no_history
    (audience : PresentationAudience) (policy : AudiencePresentationPolicy)
    (propertyId : String) (previous : Option String) (current : String)
    (hasPreviousReport : Bool) :
    (∀ left right leftResult rightResult,
      (left.map (·.changeId)).Nodup → Agree policy left right →
      build audience policy propertyId previous current left
        hasPreviousReport = .ok leftResult →
      build audience policy propertyId previous current right
        hasPreviousReport = .ok rightResult →
      leftResult = rightResult ∧
        ∀ leftPanel ∈ leftResult, ∀ rightPanel ∈ rightResult,
          ∃ fingerprint, leftPanel.fingerprint = .ok fingerprint ∧
            rightPanel.fingerprint = .ok fingerprint) ∧
    ∀ changes panel, build audience policy propertyId previous current changes
        hasPreviousReport = .ok (some panel) →
      Faithful policy audience changes panel := by
  constructor
  · intro left right leftResult rightResult distinct agree leftBuilt rightBuilt
    have same : leftResult = rightResult := by
      have permuted :
          (visible policy audience left).Perm
            (visible policy audience right) := visible_perm agree
      rcases build_eq_ok leftBuilt with ⟨leftNothing, rfl⟩ |
        ⟨prior, hash, reported, known, something, hashes, rfl⟩
      · rcases build_eq_ok rightBuilt with ⟨-, rfl⟩ |
          ⟨_, _, reported, _, something, _, rfl⟩
        · rfl
        · rcases leftNothing with first | nothing
          · rw [reported] at first
            cases first
          · rw [nothing] at permuted
            exact absurd permuted.nil_eq.symm something
      · rcases build_eq_ok rightBuilt with ⟨rightNothing, rfl⟩ |
          ⟨otherPrior, otherHash, -, otherKnown, -, otherHashes, rfl⟩
        · rcases rightNothing with first | nothing
          · rw [reported] at first
            cases first
          · rw [nothing] at permuted
            exact absurd permuted.eq_nil something
        · have samePrior : prior = otherPrior :=
            Option.some.inj (known.symm.trans otherKnown)
          have sameHash : hash = otherHash := (otherHashes hash).mp
            ((hashes_perm agree).mem_iff.mp ((hashes hash).mpr rfl))
          rw [samePrior, sameHash, groupsOf_eq_of_perm permuted
            ((sublist_visible left).nodup distinct)]
    subst same
    refine ⟨rfl, fun leftPanel leftReturned rightPanel rightReturned => ?_⟩
    cases leftReturned.symm.trans rightReturned
    obtain ⟨fingerprint, hashed⟩ := leftPanel.exists_fingerprint
    exact ⟨fingerprint, hashed, hashed⟩
  · intro changes panel built
    rcases build_eq_ok built with ⟨-, impossible⟩ |
      ⟨prior, hash, -, -, -, -, returned⟩
    · cases impossible
    · cases returned
      exact faithful_groupsOf changes rfl

/-- A value that a seller may not see, before a change that it may. -/
def parkingRecord (before : String) : ChangeRecord where
  changeId := "change-1"
  propertyId := "property-1"
  audience := .seller
  changeType := .valueChanged
  findingKey := "parking"
  label := "Parking"
  before := some before
  after := some "Two spaces"
  materiality := .material
  detectedAt := "2026-01-01T00:00:00+00:00"
  sourceDiffHash := String.ofList (List.replicate 64 'd')
  currentClassification := "SELLER"
  currentPublicationScope := "SELLER"
  historicalClassification := some "AGENT_INTERNAL"
  historicalPublicationScope := some "AGENT"
  knowledgeChangeOnly := true

def oneSpace : CertifiedChangeDTO :=
  ⟨parkingRecord "One space", by decide +kernel⟩

def noSpace : CertifiedChangeDTO :=
  ⟨parkingRecord "No space", by decide +kernel⟩

def sellerPolicy : AudiencePresentationPolicy where
  audience := .seller
  allowedClassifications := ["PUBLIC", "SELLER"]
  allowedPublicationScopes := ["SELLER"]

/-- The panel of a seller for one of these changes. -/
def parkingPanel (change : CertifiedChangeDTO) : Except String (Option WhatChangedPanel) :=
  build .seller sellerPolicy "property-1"
    (some (String.ofList (List.replicate 64 'a')))
    (String.ofList (List.replicate 64 'b')) [change] true

theorem build_discloses_no_history_parking :
    ∃ panel, parkingPanel oneSpace = .ok (some panel) ∧
      parkingPanel noSpace = .ok (some panel) ∧
      Faithful sellerPolicy .seller [oneSpace] panel := by
  obtain ⟨same, faithful⟩ := build_discloses_no_history .seller sellerPolicy
    "property-1" (some (String.ofList (List.replicate 64 'a')))
    (String.ofList (List.replicate 64 'b')) true
  obtain ⟨panel, first⟩ : ∃ panel,
      parkingPanel oneSpace = .ok (some panel) := ⟨_, rfl⟩
  obtain ⟨other, second⟩ : ∃ panel,
      parkingPanel noSpace = .ok (some panel) := ⟨_, rfl⟩
  have agree : Agree sellerPolicy [oneSpace] [noSpace] :=
    ⟨[oneSpace], .refl _, .cons ⟨rfl, .inr (by decide)⟩ .nil⟩
  obtain ⟨equal, -⟩ := same [oneSpace] [noSpace] _ _ (by decide) agree first
    second
  exact ⟨panel, first, equal ▸ second, faithful _ _ first⟩

end Panels

end Changes
end SanTanHeights.Presentation
