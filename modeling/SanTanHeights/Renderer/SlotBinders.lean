import Mathlib.Data.String.Basic
import SanTanHeights.Foundation.Leader
import SanTanHeights.Foundation.Outcome
import SanTanHeights.Foundation.Sha256

/-!
# Slot binders

`MediaSlotBinder` and `DiagramSlotBinder` bind an approved asset to a slot.
Both take the asset whose version is the greatest text, which is the newest
one only where the order of the texts is that of the numbers.
-/

namespace SanTanHeights.Renderer

open Foundation Foundation.Outcome Foundation.Leader

/-! ## Versions -/

/-- The number of a component of a version. -/
def versionNumber (digits : List Char) : Option Nat :=
  if digits ≠ [] ∧ digits.all Char.isDigit = true then
    some (digits.foldl (fun number digit =>
      10 * number + (digit.toNat - '0'.toNat)) 0)
  else none

/-- A version as numbers between dots. -/
def dottedNumber (version : String) : Option (List Nat) :=
  (version.toList.splitOn '.').mapM versionNumber

/-- A version is newer than another one. -/
def NewerThan (version other : String) : Prop :=
  ∃ numbers ∈ dottedNumber version, ∃ otherNumbers ∈ dottedNumber other, otherNumbers < numbers

/-! ## The binders -/

structure PresentationDependency where
  dependencyType : String
  dependencyId : String
  semanticFingerprint : String
  dependencyVersion : String
  slotId : Option String
  deriving DecidableEq, Repr

structure MediaAsset where
  mediaId : String
  mediaClass : String
  propertyId : Option String
  approvalStatus : String
  rightsStatus : String
  semanticFingerprint : String
  version : String
  deriving DecidableEq, Repr

structure DiagramAsset where
  diagramId : String
  diagramType : String
  propertyId : String
  approvalStatus : String
  qaStatus : String
  semanticFingerprint : String
  version : String
  findingIds : List String
  deriving DecidableEq, Repr

/-- What a slot asks for. -/
structure MediaSlot where
  slotId : String
  slotType : String
  required : Bool

structure DiagramSlot where
  slotId : String
  diagramType : String
  required : Bool
  findingIds : List String

structure BoundMedia where
  slotId : String
  slotType : String
  mediaId : Option String
  dependency : Option PresentationDependency
  omittedReason : Option String
  deriving DecidableEq, Repr

structure BoundDiagram where
  slotId : String
  diagramType : String
  diagramId : Option String
  dependency : Option PresentationDependency
  omittedReason : Option String
  deriving DecidableEq, Repr

/-- `slot_rules` of a policy: what is allowed in a slot of a type. -/
abbrev SlotRules : Type := List (String × List String)

/-- `_hash64`. -/
def hash64 (value message : String) : Except String Unit :=
  require (Sha256.isHex64 value = true) message

/-- The newest of the eligible assets by the order of their versions and ids
as texts. -/
def newest {α : Type} (version identity : α → String) (ambiguous : String)
    (eligible : List α) : Except String (Option α) :=
  leader? version (fun asset => toLex (version asset, identity asset)) ambiguous eligible

namespace MediaSlotBinder

/-- The assets of the allowed classes that a slot admits. -/
def eligible (propertyId : String) (allowedClasses : List String)
    (assets : List MediaAsset) : List MediaAsset :=
  (allowedClasses.flatMap fun className =>
    assets.filter fun asset => asset.mediaClass = className).filter
      fun asset => asset.approvalStatus = "APPROVED" ∧
        asset.rightsStatus = "CLEARED" ∧
        ¬ (asset.mediaClass ≠ "COMMUNITY_CONTEXT" ∧ asset.propertyId ≠ some propertyId)

/-- What is bound when an asset is chosen. -/
def boundTo (slot : MediaSlot) (asset : MediaAsset) : BoundMedia where
  slotId := slot.slotId
  slotType := slot.slotType
  mediaId := some asset.mediaId
  dependency := some ⟨"MEDIA", asset.mediaId, asset.semanticFingerprint,
    asset.version, some slot.slotId⟩
  omittedReason := none

/-- What is bound when there is no asset. -/
def unbound (slot : MediaSlot) : BoundMedia where
  slotId := slot.slotId
  slotType := slot.slotType
  mediaId := none
  dependency := none
  omittedReason := some "NO_APPROVED_COMPATIBLE_MEDIA"

def bindSlot (slotRules : SlotRules) (propertyId : String) (assets : List MediaAsset)
    (slot : MediaSlot) : Except String BoundMedia := do
  let allowedClasses ← orRaise (slotRules.lookup slot.slotType)
    ("unknown media slot type: " ++ slot.slotType)
  let chosen ← newest MediaAsset.version MediaAsset.mediaId
    ("ambiguous approved media for slot " ++ slot.slotId)
    (eligible propertyId allowedClasses assets)
  match chosen with
  | none => do
      require (slot.required = false)
        ("required media slot unbound: " ++ slot.slotId)
      return unbound slot
  | some asset => return boundTo slot asset

/-- `MediaSlotBinder.bind`. -/
def bind (slotRules : SlotRules) (propertyId : String) (slots : List MediaSlot)
    (assets : List MediaAsset) : Except String (List BoundMedia) := do
  assets.forM fun asset =>
    hash64 asset.semanticFingerprint "invalid media fingerprint"
  slots.mapM (bindSlot slotRules propertyId assets)

end MediaSlotBinder

namespace DiagramSlotBinder

/-- The assets of the allowed types that a slot admits. -/
def eligible (propertyId : String) (allowedTypes : List String) (slot : DiagramSlot)
    (assets : List DiagramAsset) : List DiagramAsset :=
  assets.filter fun asset =>
    ¬ (asset.diagramType ∉ allowedTypes ∨ asset.propertyId ≠ propertyId) ∧
      ¬ (asset.approvalStatus ≠ "APPROVED" ∨ asset.qaStatus ≠ "PASS") ∧
        slot.findingIds ⊆ asset.findingIds

def boundTo (slot : DiagramSlot) (asset : DiagramAsset) : BoundDiagram where
  slotId := slot.slotId
  diagramType := slot.diagramType
  diagramId := some asset.diagramId
  dependency := some ⟨"DIAGRAM", asset.diagramId, asset.semanticFingerprint,
    asset.version, some slot.slotId⟩
  omittedReason := none

def unbound (slot : DiagramSlot) : BoundDiagram where
  slotId := slot.slotId
  diagramType := slot.diagramType
  diagramId := none
  dependency := none
  omittedReason := some "NO_APPROVED_COMPATIBLE_DIAGRAM"

def bindSlot (slotRules : SlotRules) (propertyId : String)
    (assets : List DiagramAsset) (slot : DiagramSlot) :
    Except String BoundDiagram := do
  let allowedTypes ← orRaise (slotRules.lookup slot.diagramType)
    ("unknown diagram type: " ++ slot.diagramType)
  assets.forM fun asset =>
    hash64 asset.semanticFingerprint "invalid diagram fingerprint"
  let chosen ← newest DiagramAsset.version DiagramAsset.diagramId
    ("ambiguous approved diagram for slot " ++ slot.slotId)
    (eligible propertyId allowedTypes slot assets)
  match chosen with
  | none => do
      require (slot.required = false)
        ("required diagram slot unbound: " ++ slot.slotId)
      return unbound slot
  | some asset => return boundTo slot asset

/-- `DiagramSlotBinder.bind`. -/
def bind (slotRules : SlotRules) (propertyId : String)
    (slots : List DiagramSlot) (assets : List DiagramAsset) :
    Except String (List BoundDiagram) :=
  slots.mapM (bindSlot slotRules propertyId assets)

end DiagramSlotBinder

/-! ## What is bound -/

section Newest

variable {α ς β : Type} (fits : ς → α → Prop) (version : α → String)
  (assets : List α)

/-- An asset that fits a slot and whose version is the greatest text among
those that do. -/
structure Greatest (slot : ς) (asset : α) : Prop where
  listed : asset ∈ assets
  fitting : fits slot asset
  greatest : ∀ other ∈ assets, fits slot other → version other ≤ version asset

/-- No asset that fits a slot is newer than another one. -/
def NoneNewer (slot : ς) (asset : α) : Prop :=
  ∀ other ∈ assets, fits slot other → ¬ NewerThan (version other) (version asset)

/-- The greatest version by its text is the newest one, slot by slot. -/
def TextsAgree (slots : List ς) : Prop :=
  ∀ slot ∈ slots, ∀ asset, Greatest fits version assets slot asset →
    NoneNewer fits version assets slot asset

/-- Each slot is bound to a newest asset that fits it, or to none. -/
def PicksNewest (bound : ς → α → β) (unbound : ς → β) (slots : List ς)
    (bounds : List β) : Prop :=
  List.Forall₂ (fun slot result => result ≠ unbound slot →
    ∃ asset ∈ assets, fits slot asset ∧ bound slot asset = result ∧
      NoneNewer fits version assets slot asset) slots bounds

variable {fits version assets}

/-- Where each slot is bound to the greatest text, the newest is bound just
where the texts agree. -/
theorem picksNewest_iff {bound : ς → α → β} {unbound : ς → β} {slots : List ς} {bounds : List β}
    (differs : ∀ slot asset, bound slot asset ≠ unbound slot)
    (sameVersion : ∀ slot asset other,
      bound slot asset = bound slot other → version asset = version other)
    (bind : List.Forall₂ (fun slot result =>
      (result = unbound slot ∧ ∀ asset ∈ assets, ¬ fits slot asset) ∨
        ∃ asset, Greatest fits version assets slot asset ∧
          bound slot asset = result) slots bounds) :
    PicksNewest fits version assets bound unbound slots bounds ↔
      TextsAgree fits version assets slots := by
  unfold PicksNewest TextsAgree
  induction bind with
  | nil => exact iff_of_true .nil nofun
  | cons first _ ih =>
      rename_i slot result slots bounds _
      rw [List.forall₂_cons, List.forall_mem_cons, ih]
      refine and_congr_left fun _ => ?_
      rcases first with ⟨rfl, none⟩ | ⟨asset, greatest, rfl⟩
      · refine iff_of_true (fun differ => absurd rfl differ) ?_
        exact fun asset found => absurd found.fitting (none asset found.listed)
      · constructor
        · intro picked top found other listed otherFits
          obtain ⟨chosen, _, _, same, newest⟩ := picked (differs slot asset)
          have equal : version top = version chosen := by
            rw [sameVersion slot chosen asset same]
            exact le_antisymm (greatest.greatest top found.listed found.fitting)
              (found.greatest asset greatest.listed greatest.fitting)
          rw [equal]
          exact newest other listed otherFits
        · exact fun agrees _ => ⟨asset, greatest.listed, greatest.fitting, rfl,
            agrees asset greatest⟩

end Newest

theorem newest_refines {α : Type} (version identity : α → String) (left right : α)
    (below : toLex (version left, identity left) ≤ toLex (version right, identity right)) :
    version left ≤ version right := by
  rcases Prod.Lex.toLex_le_toLex.mp below with lower | ⟨equal, _⟩
  · exact lower.le
  · exact equal.le

theorem newest_perm {α : Type} {version identity : α → String} {ambiguous : String}
    {assets others : List α} (permuted : assets.Perm others) :
    newest version identity ambiguous assets = newest version identity ambiguous others :=
  leader?_perm (newest_refines version identity) permuted

/-- The newest of the assets that fit a slot; without one no asset fits. -/
theorem greatest_of_newest {α ς : Type} {fits : ς → α → Prop} {version identity : α → String}
    {ambiguous : String} {assets eligible : List α} {slot : ς} {chosen : Option α}
    (listedIff : ∀ asset, asset ∈ eligible ↔ asset ∈ assets ∧ fits slot asset)
    (found : newest version identity ambiguous eligible = .ok chosen) :
    (chosen = none → ∀ asset ∈ assets, ¬ fits slot asset) ∧
      ∀ asset ∈ chosen, Greatest fits version assets slot asset := by
  constructor
  · rintro rfl asset listed fitting
    have present := (listedIff asset).mpr ⟨listed, fitting⟩
    rw [leader?_eq_none.mp found] at present
    cases present
  · rintro asset rfl
    have leads := (leader?_eq_some (newest_refines _ _)).mp found
    obtain ⟨listed, fitting⟩ := (listedIff asset).mp leads.mem
    exact ⟨listed, fitting, fun other otherListed otherFits =>
      leads.rank_le other ((listedIff other).mpr ⟨otherListed, otherFits⟩)⟩

namespace MediaSlotBinder

variable {slotRules : SlotRules} {propertyId : String}
  {assets others : List MediaAsset} {slots : List MediaSlot}
  {bounds : List BoundMedia}

/-- An asset is approved, cleared, and compatible with a slot and the
property. -/
structure Fits (slotRules : SlotRules) (propertyId : String) (slot : MediaSlot)
    (asset : MediaAsset) : Prop where
  approved : asset.approvalStatus = "APPROVED"
  cleared : asset.rightsStatus = "CLEARED"
  allowed : ∃ allowedClasses ∈ slotRules.lookup slot.slotType, asset.mediaClass ∈ allowedClasses
  property : asset.mediaClass = "COMMUNITY_CONTEXT" ∨ asset.propertyId = some propertyId

theorem mem_eligible {slot : MediaSlot} {allowedClasses : List String} {asset : MediaAsset}
    (known : slotRules.lookup slot.slotType = some allowedClasses) :
    asset ∈ eligible propertyId allowedClasses assets ↔
      asset ∈ assets ∧ Fits slotRules propertyId slot asset := by
  simp only [eligible, List.mem_filter, List.mem_flatMap, decide_eq_true_eq]
  constructor
  · rintro ⟨⟨className, allowed, listed, rfl⟩, approved, cleared, property⟩
    refine ⟨listed, approved, cleared, ⟨_, known, allowed⟩, ?_⟩
    by_contra neither
    rw [not_or] at neither
    exact property neither
  · rintro ⟨listed, approved, cleared, ⟨allowed, found, classes⟩, property⟩
    cases Option.mem_unique found known
    refine ⟨⟨asset.mediaClass, classes, listed, rfl⟩, approved, cleared, ?_⟩
    rintro ⟨notCommunity, otherProperty⟩
    exact property.elim notCommunity otherProperty

theorem eligible_perm {allowedClasses : List String} (permuted : assets.Perm others) :
    (eligible propertyId allowedClasses assets).Perm (eligible propertyId allowedClasses others) :=
  (List.Perm.flatMap_left _ fun _ _ => permuted.filter _).filter _

/-- A slot is bound to the greatest text, or to none. -/
theorem bindSlot_eq_ok {slot : MediaSlot} {result : BoundMedia}
    (bound : bindSlot slotRules propertyId assets slot = .ok result) :
    (result = unbound slot ∧ ∀ asset ∈ assets, ¬ Fits slotRules propertyId slot asset) ∨
    ∃ asset, Greatest (Fits slotRules propertyId) MediaAsset.version assets
      slot asset ∧ boundTo slot asset = result := by
  obtain ⟨allowedClasses, known, continued⟩ := bind_eq_ok.mp bound
  rw [orRaise_eq_ok] at known
  obtain ⟨chosen, found, continued⟩ := bind_eq_ok.mp continued
  obtain ⟨unfit, greatest⟩ := greatest_of_newest (fun asset => mem_eligible known) found
  cases chosen with
  | none =>
      obtain ⟨_, made⟩ := require_bind_eq_ok.mp continued
      exact .inl ⟨(pure_eq_ok.mp made).symm, unfit rfl⟩
  | some asset =>
      exact .inr ⟨asset, greatest asset rfl, pure_eq_ok.mp continued⟩

theorem bind_perm (permuted : assets.Perm others)
    (bound : bind slotRules propertyId slots assets = .ok bounds) :
    bind slotRules propertyId slots others = .ok bounds := by
  obtain ⟨⟨⟩, hashed, continued⟩ := bind_eq_ok.mp bound
  have same : bindSlot slotRules propertyId assets =
      bindSlot slotRules propertyId others := by
    funext slot
    unfold bindSlot
    simp only [newest_perm (eligible_perm permuted)]
  refine bind_eq_ok.mpr ⟨(), ?_, ?_⟩
  · rw [forM_eq_ok] at hashed ⊢
    exact fun asset listed => hashed asset (permuted.mem_iff.mpr listed)
  · rw [← same]
    exact continued

theorem picksNewest_iff_textsAgree
    (bound : bind slotRules propertyId slots assets = .ok bounds) :
    PicksNewest (Fits slotRules propertyId) MediaAsset.version assets boundTo
        unbound slots bounds ↔
      TextsAgree (Fits slotRules propertyId) MediaAsset.version assets slots := by
  obtain ⟨_, _, continued⟩ := bind_eq_ok.mp bound
  refine picksNewest_iff ?_ ?_
    ((mapM_eq_ok.mp continued).imp fun _ _ => bindSlot_eq_ok)
  · exact fun slot asset same => nomatch congrArg BoundMedia.mediaId same
  · intro slot asset other same
    have dependencies := congrArg BoundMedia.dependency same
    exact congrArg PresentationDependency.dependencyVersion (Option.some.inj dependencies)

end MediaSlotBinder

namespace DiagramSlotBinder

variable {slotRules : SlotRules} {propertyId : String}
  {assets others : List DiagramAsset} {slots : List DiagramSlot}
  {bounds : List BoundDiagram}

/-- An asset is approved, has passed QA, and is compatible with a slot and
the property. -/
structure Fits (slotRules : SlotRules) (propertyId : String) (slot : DiagramSlot)
    (asset : DiagramAsset) : Prop where
  approved : asset.approvalStatus = "APPROVED"
  passed : asset.qaStatus = "PASS"
  allowed : ∃ allowedTypes ∈ slotRules.lookup slot.diagramType, asset.diagramType ∈ allowedTypes
  property : asset.propertyId = propertyId
  findings : slot.findingIds ⊆ asset.findingIds

theorem mem_eligible {slot : DiagramSlot} {allowedTypes : List String} {asset : DiagramAsset}
    (known : slotRules.lookup slot.diagramType = some allowedTypes) :
    asset ∈ eligible propertyId allowedTypes slot assets ↔
      asset ∈ assets ∧ Fits slotRules propertyId slot asset := by
  simp only [eligible, List.mem_filter, decide_eq_true_eq, not_or, not_not]
  refine and_congr_right fun _ => ?_
  constructor
  · rintro ⟨⟨allowed, property⟩, ⟨approved, passed⟩, findings⟩
    exact ⟨approved, passed, ⟨_, known, allowed⟩, property, findings⟩
  · rintro ⟨approved, passed, ⟨types, found, allowed⟩, property, findings⟩
    cases Option.mem_unique found known
    exact ⟨⟨allowed, property⟩, ⟨approved, passed⟩, findings⟩

theorem bindSlot_eq_ok {slot : DiagramSlot} {result : BoundDiagram}
    (bound : bindSlot slotRules propertyId assets slot = .ok result) :
    (result = unbound slot ∧ ∀ asset ∈ assets, ¬ Fits slotRules propertyId slot asset) ∨
    ∃ asset, Greatest (Fits slotRules propertyId) DiagramAsset.version
      assets slot asset ∧ boundTo slot asset = result := by
  obtain ⟨allowedTypes, known, continued⟩ := bind_eq_ok.mp bound
  rw [orRaise_eq_ok] at known
  obtain ⟨_, _, continued⟩ := bind_eq_ok.mp continued
  obtain ⟨chosen, found, continued⟩ := bind_eq_ok.mp continued
  obtain ⟨unfit, greatest⟩ := greatest_of_newest (fun asset => mem_eligible known) found
  cases chosen with
  | none =>
      obtain ⟨_, made⟩ := require_bind_eq_ok.mp continued
      exact .inl ⟨(pure_eq_ok.mp made).symm, unfit rfl⟩
  | some asset =>
      exact .inr ⟨asset, greatest asset rfl, pure_eq_ok.mp continued⟩

theorem bindSlot_perm {slot : DiagramSlot} {result : BoundDiagram}
    (permuted : assets.Perm others)
    (bound : bindSlot slotRules propertyId assets slot = .ok result) :
    bindSlot slotRules propertyId others slot = .ok result := by
  obtain ⟨allowedTypes, known, continued⟩ := bind_eq_ok.mp bound
  obtain ⟨⟨⟩, hashed, continued⟩ := bind_eq_ok.mp continued
  refine bind_eq_ok.mpr ⟨allowedTypes, known, bind_eq_ok.mpr ⟨(), ?_, ?_⟩⟩
  · rw [forM_eq_ok] at hashed ⊢
    exact fun asset listed => hashed asset (permuted.mem_iff.mpr listed)
  · have eligiblePerm : (eligible propertyId allowedTypes slot assets).Perm
        (eligible propertyId allowedTypes slot others) := permuted.filter _
    rw [← newest_perm eligiblePerm]
    exact continued

theorem picksNewest_iff_textsAgree
    (bound : bind slotRules propertyId slots assets = .ok bounds) :
    PicksNewest (Fits slotRules propertyId) DiagramAsset.version assets
        boundTo unbound slots bounds ↔
      TextsAgree (Fits slotRules propertyId) DiagramAsset.version assets slots := by
  refine picksNewest_iff ?_ ?_
    ((mapM_eq_ok.mp bound).imp fun _ _ => bindSlot_eq_ok)
  · exact fun slot asset same => nomatch congrArg BoundDiagram.diagramId same
  · intro slot asset other same
    have dependencies := congrArg BoundDiagram.dependency same
    exact congrArg PresentationDependency.dependencyVersion (Option.some.inj dependencies)

end DiagramSlotBinder

/-- What either binder binds is approved and compatible and does not depend
on the order of the assets; it is the newest exactly where, for every slot,
the greatest version text among the assets that fit is the newest version. -/
theorem slot_binders_newest_iff {slotRules : SlotRules} {propertyId : String} :
    (∀ slots assets bounds,
      MediaSlotBinder.bind slotRules propertyId slots assets = .ok bounds →
        ((PicksNewest (MediaSlotBinder.Fits slotRules propertyId)
            MediaAsset.version assets MediaSlotBinder.boundTo
            MediaSlotBinder.unbound slots bounds ∧
          ∀ others, assets.Perm others →
            MediaSlotBinder.bind slotRules propertyId slots others =
              .ok bounds) ↔
          TextsAgree (MediaSlotBinder.Fits slotRules propertyId)
            MediaAsset.version assets slots)) ∧
    (∀ slots assets bounds,
      DiagramSlotBinder.bind slotRules propertyId slots assets = .ok bounds →
        ((PicksNewest (DiagramSlotBinder.Fits slotRules propertyId)
            DiagramAsset.version assets DiagramSlotBinder.boundTo
            DiagramSlotBinder.unbound slots bounds ∧
          ∀ others, assets.Perm others →
            DiagramSlotBinder.bind slotRules propertyId slots others =
              .ok bounds) ↔
          TextsAgree (DiagramSlotBinder.Fits slotRules propertyId)
            DiagramAsset.version assets slots)) := by
  constructor
  · intro slots assets bounds bound
    rw [MediaSlotBinder.picksNewest_iff_textsAgree bound]
    exact and_iff_left fun others permuted =>
      MediaSlotBinder.bind_perm permuted bound
  · intro slots assets bounds bound
    rw [DiagramSlotBinder.picksNewest_iff_textsAgree bound]
    refine and_iff_left fun others permuted => mapM_eq_ok.mpr ?_
    exact (mapM_eq_ok.mp bound).imp fun _ _ =>
      DiagramSlotBinder.bindSlot_perm permuted

/-! ## Samples -/

/-- An approved picture of the front. -/
def frontAsset (mediaId version : String) : MediaAsset where
  mediaId := mediaId
  mediaClass := "SUBJECT_EXTERIOR_FRONT"
  propertyId := some "p1"
  approvalStatus := "APPROVED"
  rightsStatus := "CLEARED"
  semanticFingerprint := String.ofList (List.replicate 64 'a')
  version := version

def heroSlot : MediaSlot where
  slotId := "hero"
  slotType := "HERO_EXTERIOR"
  required := false

/-- The rule of the slot in `media-policy-v1.0.yaml`. -/
def heroRules : SlotRules :=
  [("HERO_EXTERIOR", ["SUBJECT_EXTERIOR_FRONT"])]

theorem fits_frontAsset (mediaId version : String) :
    MediaSlotBinder.Fits heroRules "p1" heroSlot (frontAsset mediaId version) :=
  ⟨rfl, rfl, ⟨_, rfl, List.mem_cons_self⟩, .inr rfl⟩

/-- The greatest text is bound to the slot. -/
theorem bind_frontAssets {first second : String} (greater : second < first) :
    MediaSlotBinder.bind heroRules "p1" [heroSlot]
        [frontAsset "m1" first, frontAsset "m2" second] =
      .ok [MediaSlotBinder.boundTo heroSlot (frontAsset "m1" first)] := by
  have hashed : ∀ mediaId version,
      hash64 (frontAsset mediaId version).semanticFingerprint
        "invalid media fingerprint" = .ok () := fun mediaId version =>
    require_eq_ok.mpr (Sha256.isHex64_ofList rfl rfl)
  have all : MediaSlotBinder.eligible "p1" ["SUBJECT_EXTERIOR_FRONT"]
      [frontAsset "m1" first, frontAsset "m2" second] =
        [frontAsset "m1" first, frontAsset "m2" second] := rfl
  have found : newest MediaAsset.version MediaAsset.mediaId
      ("ambiguous approved media for slot " ++ heroSlot.slotId)
      (MediaSlotBinder.eligible "p1" ["SUBJECT_EXTERIOR_FRONT"]
        [frontAsset "m1" first, frontAsset "m2" second]) =
        .ok (some (frontAsset "m1" first)) := by
    rw [all]
    refine (leader?_eq_some (newest_refines _ _)).mpr ⟨[frontAsset "m2" second], .refl _, ?_⟩
    intro other listed
    rw [List.mem_singleton.mp listed]
    exact greater
  refine bind_eq_ok.mpr ⟨(), forM_eq_ok.mpr ?_, mapM_eq_ok.mpr
    (.cons (bind_eq_ok.mpr ⟨_, rfl, bind_eq_ok.mpr ⟨_, found, rfl⟩⟩) .nil)⟩
  intro asset listed
  rw [List.mem_cons, List.mem_singleton] at listed
  rcases listed with rfl | rfl
  · exact hashed _ _
  · exact hashed _ _

theorem slot_binders_newest_iff_sample :
    MediaSlotBinder.bind heroRules "p1" [heroSlot]
        [frontAsset "m1" "1.9.0", frontAsset "m2" "1.2.0"] =
      .ok [MediaSlotBinder.boundTo heroSlot (frontAsset "m1" "1.9.0")] ∧
    PicksNewest (MediaSlotBinder.Fits heroRules "p1") MediaAsset.version
      [frontAsset "m1" "1.9.0", frontAsset "m2" "1.2.0"]
      MediaSlotBinder.boundTo MediaSlotBinder.unbound [heroSlot]
      [MediaSlotBinder.boundTo heroSlot (frontAsset "m1" "1.9.0")] := by
  have bound := @bind_frontAssets "1.9.0" "1.2.0" (by decide)
  refine ⟨bound, ((slot_binders_newest_iff.1 _ _ _ bound).mpr ?_).1⟩
  intro slot slotListed asset greatest other listed _
  cases List.mem_singleton.mp slotListed
  have top := greatest.greatest (frontAsset "m1" "1.9.0")
    List.mem_cons_self (fits_frontAsset _ _)
  have assetListed := greatest.listed
  rw [List.mem_cons, List.mem_singleton] at assetListed listed
  rcases assetListed with rfl | rfl
  · rintro ⟨numbers, read, otherNumbers, otherRead, newer⟩
    cases Option.mem_unique otherRead (rfl : dottedNumber "1.9.0" =
      some [1, 9, 0])
    rcases listed with rfl | rfl
    · cases Option.mem_unique read otherRead
      exact lt_irrefl _ newer
    · cases Option.mem_unique read (rfl : dottedNumber "1.2.0" =
        some [1, 2, 0])
      revert newer
      decide
  · refine absurd top ?_
    decide

/-- The asset of version 1.9.0 is bound although that of version 1.10.0 fits
as well. -/
theorem newer_asset_not_bound :
    MediaSlotBinder.bind heroRules "p1" [heroSlot]
        [frontAsset "m1" "1.9.0", frontAsset "m2" "1.10.0"] =
      .ok [MediaSlotBinder.boundTo heroSlot (frontAsset "m1" "1.9.0")] ∧
    MediaSlotBinder.Fits heroRules "p1" heroSlot (frontAsset "m2" "1.10.0") ∧
    NewerThan "1.10.0" "1.9.0" ∧
    ¬ PicksNewest (MediaSlotBinder.Fits heroRules "p1") MediaAsset.version
      [frontAsset "m1" "1.9.0", frontAsset "m2" "1.10.0"]
      MediaSlotBinder.boundTo MediaSlotBinder.unbound [heroSlot]
      [MediaSlotBinder.boundTo heroSlot (frontAsset "m1" "1.9.0")] := by
  have newer : NewerThan "1.10.0" "1.9.0" :=
    ⟨[1, 10, 0], rfl, [1, 9, 0], rfl, by decide⟩
  refine ⟨@bind_frontAssets "1.9.0" "1.10.0" (by decide),
    fits_frontAsset _ _, newer, fun picks => ?_⟩
  rw [PicksNewest, List.forall₂_cons] at picks
  obtain ⟨asset, _, _, same, noneNewer⟩ := picks.1 (by decide)
  have version : asset.version = "1.9.0" :=
    congrArg PresentationDependency.dependencyVersion
      (Option.some.inj (congrArg BoundMedia.dependency same))
  refine noneNewer (frontAsset "m2" "1.10.0")
    (List.mem_cons_of_mem _ List.mem_cons_self) (fits_frontAsset _ _) ?_
  rw [version]
  exact newer

end SanTanHeights.Renderer
