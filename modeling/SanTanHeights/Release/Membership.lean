import SanTanHeights.Foundation.Keyed
import SanTanHeights.Release.Manifest
import SanTanHeights.Shared.Textual

/-!
# Membership resolution

`DeterministicMembershipResolver.resolve` checks every candidate, keeps those
in scope under their key and numbers them in the order of the keys.  What it
returns depends on the set of candidates alone.
-/

namespace SanTanHeights.Release

open Foundation Foundation.Json Foundation.Sorting Foundation.Outcome Shared

/-! ## Resolving -/

/-- What `resolve` reads of a release policy. -/
structure MembershipPolicy extends ReleasePolicy where
  allowedVariants : List String
  allowedChannels : List String
  channelOptional : Bool

namespace ReleaseCandidate

/-- `key`; a missing channel sorts as an empty one. -/
def key (candidate : ReleaseCandidate) : String ×ₗ String ×ₗ String :=
  toLex (candidate.propertyId.str, toLex (candidate.reportVariant, candidate.channel.getD ""))

/-- The text of a key in a message; its parts hold nothing that `repr`
escapes. -/
def keyText (candidate : ReleaseCandidate) : String :=
  "('" ++ candidate.propertyId.str ++ "', '" ++ candidate.reportVariant ++
    "', '" ++ candidate.channel.getD "" ++ "')"

/-- The checks on a candidate, whether or not it is in scope. -/
def validate (policy : MembershipPolicy) (candidate : ReleaseCandidate) :
    Except String Unit := do
  require (candidate.reportVariant ∈ policy.allowedVariants)
    ("variant not allowed by policy: " ++ candidate.reportVariant)
  require (candidate.channel = none → policy.channelOptional = true)
    "channel required by release policy"
  require (∀ channel ∈ candidate.channel, channel ∈ policy.allowedChannels)
    ("channel not allowed by policy: " ++ candidate.channel.getD "None")
  checkHash candidate.targetSemanticFingerprint "target_semantic_fingerprint"
  checkHash candidate.targetPresentationFingerprint "target_presentation_fingerprint"

/-- What a release covers of a property. -/
def target (candidate : ReleaseCandidate) : Uuid × String × Option String :=
  (candidate.propertyId, candidate.reportVariant, candidate.channel)

end ReleaseCandidate

/-- The scope admits a candidate. -/
def ReleaseScope.Admits (scope : ReleaseScope) (candidate : ReleaseCandidate) : Prop :=
  (∀ propertyIds ∈ scope.propertyIds, candidate.propertyId ∈ propertyIds) ∧
    (∀ variants ∈ scope.variants, candidate.reportVariant ∈ variants) ∧
    ∀ channels ∈ scope.channels, ∃ channel ∈ channels, candidate.channel = some channel

instance (scope : ReleaseScope) (candidate : ReleaseCandidate) :
    Decidable (scope.Admits candidate) :=
  inferInstanceAs (Decidable (_ ∧ _ ∧ _))

/-- One turn of the loop of `resolve`, on the values of `by_key`. -/
def resolveCandidate (policy : MembershipPolicy) (scope : ReleaseScope)
    (byKey : List ReleaseCandidate) (candidate : ReleaseCandidate) :
    Except String (List ReleaseCandidate) := do
  candidate.validate policy
  if scope.Admits candidate then
    orRaise (Keyed.insertUnique ReleaseCandidate.key byKey candidate)
      ("conflicting duplicate release candidate: " ++ candidate.keyText)
  else return byKey

/-- An entry of the `payload` that is hashed. -/
def ResolvedMember.targetJson (member : ResolvedMember) : Json :=
  .obj [("property_id", .str member.candidate.propertyId.str),
      ("report_variant", .str member.candidate.reportVariant),
      ("channel", .ofOptional member.candidate.channel)]

/-- `payload`. -/
def membershipPayload (members : List ResolvedMember) : Json :=
  .arr (members.map ResolvedMember.targetJson)

/-- `members`. -/
def numbered (ordered : List ReleaseCandidate) : List ResolvedMember :=
  ordered.mapIdx fun index candidate => ⟨index + 1, candidate⟩

/-- `DeterministicMembershipResolver.resolve`. -/
def resolve (policy : MembershipPolicy) (scope : ReleaseScope)
    (candidates : List ReleaseCandidate) :
    Except String MembershipResolution := do
  let byKey ← candidates.foldlM (resolveCandidate policy scope) []
  let members := numbered (sortedBy ReleaseCandidate.key byKey)
  let fingerprint ← sha256Canonical (membershipPayload members)
  return ⟨members, fingerprint⟩

/-! ## The loop -/

section Loop

variable {policy : MembershipPolicy} {scope : ReleaseScope}
  {candidates byKey result : List ReleaseCandidate}

/-- What the loop keeps. -/
structure Kept (policy : MembershipPolicy) (scope : ReleaseScope)
    (byKey candidates result : List ReleaseCandidate) : Prop where
  valid : ∀ candidate ∈ candidates, candidate.validate policy = .ok ()
  distinct : (result.map ReleaseCandidate.key).Nodup
  exact : ∀ candidate, candidate ∈ result ↔
    candidate ∈ byKey ∨ candidate ∈ candidates ∧ scope.Admits candidate

theorem kept_of_resolveCandidate {candidate : ReleaseCandidate}
    (distinct : (byKey.map ReleaseCandidate.key).Nodup)
    (ran : resolveCandidate policy scope byKey candidate = .ok result) :
    Kept policy scope byKey [candidate] result := by
  obtain ⟨⟨⟩, valid, continued⟩ := bind_eq_ok.mp ran
  refine ⟨List.forall_mem_singleton.mpr valid, ?_, ?_⟩
  · split_ifs at continued
    · exact Keyed.nodup_insertUnique distinct (orRaise_eq_ok.mp continued)
    · cases continued
      exact distinct
  · intro other
    rw [List.mem_singleton]
    split_ifs at continued with admitted
    · have inserted := orRaise_eq_ok.mp continued
      constructor
      · intro present
        refine (Keyed.mem_insertUnique inserted present).imp_right ?_
        rintro rfl
        exact ⟨rfl, admitted⟩
      · rintro (present | ⟨rfl, -⟩)
        · rcases Keyed.insertUnique_eq_some inserted with rfl | ⟨rfl, -⟩
          · exact present
          · exact List.mem_append_left _ present
        · exact Keyed.mem_of_insertUnique inserted
    · cases continued
      refine (or_iff_left ?_).symm
      rintro ⟨rfl, admits⟩
      exact admitted admits

theorem kept_of_foldlM (distinct : (byKey.map ReleaseCandidate.key).Nodup)
    (ran : candidates.foldlM (resolveCandidate policy scope) byKey = .ok result) :
    Kept policy scope byKey candidates result := by
  induction candidates generalizing byKey with
  | nil =>
      rw [List.foldlM_nil, pure_eq_ok] at ran
      subst ran
      exact ⟨nofun, distinct, by simp⟩
  | cons candidate candidates ih =>
      rw [List.foldlM_cons] at ran
      obtain ⟨next, taken, rest⟩ := bind_eq_ok.mp ran
      have first := kept_of_resolveCandidate distinct taken
      have later := ih first.distinct rest
      refine ⟨?_, later.distinct, fun other => ?_⟩
      · rw [List.forall_mem_cons]
        exact ⟨first.valid candidate (List.mem_singleton_self _), later.valid⟩
      · rw [later.exact, first.exact, List.mem_singleton, List.mem_cons, or_and_right, or_assoc]

/-- The loop ends if every candidate is valid and no two that it keeps are in
conflict. -/
theorem exists_foldlM_resolveCandidate
    (valid : ∀ candidate ∈ candidates, candidate.validate policy = .ok ())
    (distinct : (byKey.map ReleaseCandidate.key).Nodup)
    (consistent : ∀ first second, (first ∈ byKey ∨ first ∈ candidates ∧ scope.Admits first) →
      (second ∈ byKey ∨ second ∈ candidates ∧ scope.Admits second) →
        first.key = second.key → first = second) :
    ∃ result, candidates.foldlM (resolveCandidate policy scope) byKey = .ok result := by
  induction candidates generalizing byKey with
  | nil => exact ⟨byKey, rfl⟩
  | cons candidate candidates ih =>
      rw [List.forall_mem_cons] at valid
      have turn : ∃ next,
          resolveCandidate policy scope byKey candidate = .ok next := by
        unfold resolveCandidate
        rw [valid.1]
        by_cases admitted : scope.Admits candidate
        · obtain ⟨next, inserted⟩ := @Keyed.exists_insertUnique _ _ _ _
            ReleaseCandidate.key byKey candidate fun prior present same =>
              consistent prior candidate (.inl present) (.inr ⟨List.mem_cons_self, admitted⟩) same
          refine ⟨next, ?_⟩
          change (if scope.Admits candidate then orRaise _ _ else _) = _
          rw [if_pos admitted, orRaise_eq_ok]
          exact inserted
        · refine ⟨byKey, ?_⟩
          change (if scope.Admits candidate then orRaise _ _ else _) = _
          rw [if_neg admitted]
          rfl
      obtain ⟨next, taken⟩ := turn
      have kept := kept_of_resolveCandidate distinct taken
      have same : ∀ other,
          (other ∈ next ∨ other ∈ candidates ∧ scope.Admits other) ↔
            (other ∈ byKey ∨ other ∈ candidate :: candidates ∧ scope.Admits other) := by
        intro other
        rw [kept.exact, List.mem_singleton, List.mem_cons, or_and_right, or_assoc]
      obtain ⟨result, ran⟩ := ih valid.2 kept.distinct
        fun first second firstKept secondKept =>
          consistent first second ((same first).mp firstKept) ((same second).mp secondKept)
      refine ⟨result, ?_⟩
      rw [List.foldlM_cons]
      exact bind_eq_ok.mpr ⟨next, taken, ran⟩

end Loop

/-! ## Resolutions -/

/-- Candidates of a resolution, in order. -/
def MembershipResolution.candidates
    (resolution : MembershipResolution) : List ReleaseCandidate :=
  resolution.members.map ResolvedMember.candidate

/-- What a resolution covers. -/
def MembershipResolution.targets (resolution : MembershipResolution) :
    List (Uuid × String × Option String) :=
  resolution.candidates.map ReleaseCandidate.target

/-- The text that is hashed for a resolution. -/
def MembershipResolution.texts (resolution : MembershipResolution) : Set String :=
  {text | canonicalJson (membershipPayload resolution.members) = some text}

theorem candidates_numbered (ordered : List ReleaseCandidate) :
    (numbered ordered).map ResolvedMember.candidate = ordered := by
  apply List.ext_getElem
  · simp [numbered]
  · intro index _ _
    simp [numbered]

theorem ordinals_numbered (ordered : List ReleaseCandidate) :
    (numbered ordered).map ResolvedMember.membershipOrdinal =
      (List.range ordered.length).map fun index : Nat =>
        (index : Int) + 1 := by
  apply List.ext_getElem
  · simp [numbered]
  · intro index _ _
    simp [numbered]

theorem textual_membershipPayload (members : List ResolvedMember) :
    Textual (membershipPayload members) := by
  rw [membershipPayload, textual_arr]
  intro value written
  obtain ⟨member, -, rfl⟩ := List.mem_map.mp written
  simp [ResolvedMember.targetJson, textual_obj, IsTagged]

section Resolution

variable {policy : MembershipPolicy} {scope : ReleaseScope}
  {candidates others : List ReleaseCandidate}
  {resolution : MembershipResolution}

/-- What a resolution consists of. -/
structure Resolved (scope : ReleaseScope) (candidates : List ReleaseCandidate)
    (resolution : MembershipResolution) : Prop where
  ordinals : resolution.members.map ResolvedMember.membershipOrdinal =
    (List.range resolution.members.length).map fun index : Nat =>
      (index : Int) + 1
  distinct : resolution.targets.Nodup
  exact : ∀ candidate, candidate ∈ resolution.candidates ↔
    candidate ∈ candidates ∧ scope.Admits candidate
  sorted : resolution.candidates.Pairwise fun first second =>
    first.key < second.key

/-- How a resolution comes about. -/
theorem resolve_eq_ok :
    resolve policy scope candidates = .ok resolution ↔ ∃ byKey,
        candidates.foldlM (resolveCandidate policy scope) [] = .ok byKey ∧
        resolution.members = numbered (sortedBy ReleaseCandidate.key byKey) ∧
          sha256Canonical (membershipPayload resolution.members) =
            .ok resolution.membershipFingerprint := by
  unfold resolve
  simp only [bind_eq_ok, pure_eq_ok]
  constructor
  · rintro ⟨byKey, kept, fingerprint, hashed, rfl⟩
    exact ⟨byKey, kept, rfl, hashed⟩
  · rintro ⟨byKey, kept, members, hashed⟩
    rw [members] at hashed
    refine ⟨byKey, kept, _, hashed, ?_⟩
    rw [← members]

/-- The values of `by_key` in the order of their keys. -/
theorem sorted_of_distinct {byKey : List ReleaseCandidate}
    (distinct : (byKey.map ReleaseCandidate.key).Nodup) :
    (sortedBy ReleaseCandidate.key byKey).Pairwise fun first second =>
      first.key < second.key := by
  have ascending := pairwise_sortedBy ReleaseCandidate.key byKey
  have apart : (sortedBy ReleaseCandidate.key byKey).Pairwise
      fun first second => first.key ≠ second.key := by
    rw [← List.pairwise_map (f := ReleaseCandidate.key)]
    exact ((sortedBy_perm _ _).map _).nodup_iff.mpr distinct
  exact (ascending.and apart).imp fun both => lt_of_le_of_ne both.1 both.2

theorem resolved_of_resolve (ran : resolve policy scope candidates = .ok resolution) :
    Resolved scope candidates resolution := by
  obtain ⟨byKey, kept, members, -⟩ := resolve_eq_ok.mp ran
  obtain ⟨-, distinct, exact⟩ := @kept_of_foldlM _ _ _ [] _ List.nodup_nil kept
  have ordered : resolution.candidates =
      sortedBy ReleaseCandidate.key byKey := by
    rw [MembershipResolution.candidates, members, candidates_numbered]
  have sorted := sorted_of_distinct distinct
  refine ⟨?_, ?_, ?_, ?_⟩
  · rw [members, ordinals_numbered]
    simp [numbered]
  · rw [MembershipResolution.targets, ordered, List.Nodup, List.pairwise_map]
    refine sorted.imp fun {first second} below same => ?_
    have sameKey : first.key = second.key := by
      simp only [ReleaseCandidate.target, Prod.mk.injEq] at same
      rw [ReleaseCandidate.key, ReleaseCandidate.key, same.1, same.2.1, same.2.2]
    rw [sameKey] at below
    exact lt_irrefl _ below
  · intro candidate
    rw [ordered, mem_sortedBy, exact]
    simp
  · rw [ordered]
    exact sorted

/-- The same candidates are resolved in the same way, however often and in
which order they are listed. -/
theorem resolve_of_same (same : ∀ candidate, candidate ∈ candidates ↔ candidate ∈ others)
    (ran : resolve policy scope candidates = .ok resolution) :
    resolve policy scope others = .ok resolution := by
  obtain ⟨byKey, looped, members, hashed⟩ := resolve_eq_ok.mp ran
  have kept := @kept_of_foldlM _ _ _ [] _ List.nodup_nil looped
  have held : ∀ candidate, (candidate ∈ ([] : List ReleaseCandidate) ∨
        candidate ∈ others ∧ scope.Admits candidate) ↔ candidate ∈ byKey := by
    intro candidate
    rw [kept.exact, same]
  have apart : ∀ first ∈ byKey, ∀ second ∈ byKey,
      first.key = second.key → first = second :=
    fun first present second otherPresent =>
      List.inj_on_of_nodup_map kept.distinct present otherPresent
  obtain ⟨otherByKey, otherLooped⟩ :=
    @exists_foldlM_resolveCandidate policy scope others []
      (fun candidate present => kept.valid candidate ((same _).mpr present))
      List.nodup_nil
      (fun first second firstKept secondKept =>
        apart first ((held first).mp firstKept) second ((held second).mp secondKept))
  have otherKept := @kept_of_foldlM _ _ _ [] _ List.nodup_nil otherLooped
  have permuted : byKey.Perm otherByKey := by
    rw [List.perm_ext_iff_of_nodup kept.distinct.of_map otherKept.distinct.of_map]
    intro candidate
    rw [otherKept.exact, held]
  refine resolve_eq_ok.mpr ⟨otherByKey, otherLooped, ?_, hashed⟩
  rw [members, sortedBy_eq_of_perm permuted apart]

end Resolution

/-! ## Fingerprints -/

/-- The key that a target is sorted by. -/
def targetKey (target : Uuid × String × Option String) : String ×ₗ String ×ₗ String :=
  toLex (target.1.str, toLex (target.2.1, target.2.2.getD ""))

/-- Resolutions that cover the same list them in the same order. -/
theorem targets_eq_of_same {scope otherScope : ReleaseScope}
    {candidates otherCandidates : List ReleaseCandidate}
    {resolution other : MembershipResolution} (resolved : Resolved scope candidates resolution)
    (otherResolved : Resolved otherScope otherCandidates other)
    (same : ∀ target, target ∈ resolution.targets ↔ target ∈ other.targets) :
    resolution.targets = other.targets := by
  have ascending : ∀ {scope candidates resolution},
      Resolved scope candidates resolution →
        resolution.targets.Pairwise fun first second =>
          targetKey first < targetKey second := by
    intro scope candidates resolution resolved
    rw [MembershipResolution.targets, List.pairwise_map]
    exact resolved.sorted
  have permuted := (List.perm_ext_iff_of_nodup resolved.distinct otherResolved.distinct).mpr same
  refine permuted.eq_of_pairwise ?_ (ascending resolved) (ascending otherResolved)
  intro first second _ _ below above
  exact absurd (below.trans above) (lt_irrefl _)

theorem membershipPayload_eq (resolution : MembershipResolution) :
    membershipPayload resolution.members =
      .arr (resolution.targets.map fun target =>
        .obj [("property_id", .str target.1.str), ("report_variant", .str target.2.1),
            ("channel", .ofOptional target.2.2)]) := by
  unfold membershipPayload MembershipResolution.targets MembershipResolution.candidates
  rw [List.map_map, List.map_map]
  rfl

/-- The targets are read back from the payload that is hashed. -/
theorem targets_eq_of_same_payload {resolution other : MembershipResolution}
    (same : Same (membershipPayload resolution.members) (membershipPayload other.members)) :
    resolution.targets = other.targets := by
  rw [membershipPayload_eq, membershipPayload_eq] at same
  refine eq_of_same_arr ?_ same
  rintro ⟨property, variant, channel⟩ ⟨otherProperty, otherVariant, otherChannel⟩ equal
  dsimp only at equal
  have parts := forall₂_of_same_obj equal (by simp) (by simp)
  simp only [List.forall₂_cons, List.forall₂_nil_left_iff, same_str,
    same_ofOptional, and_true] at parts
  obtain ⟨sameProperty, rfl, rfl⟩ := parts
  rw [Uuid.str_injective sameProperty]

/-- Membership resolution is a function of the set of candidates.  What it
returns numbers the candidates in scope in the order of their keys, and two
resolutions have one fingerprint just when they cover the same. -/
theorem membership_is_set_function (policy : MembershipPolicy) (scope : ReleaseScope)
    (candidates : List ReleaseCandidate) :
    (∀ others, (∀ candidate, candidate ∈ candidates ↔ candidate ∈ others) →
      (resolve policy scope others).toOption =
        (resolve policy scope candidates).toOption) ∧
      ∀ resolution, resolve policy scope candidates = .ok resolution →
        Resolved scope candidates resolution ∧
          ∀ otherPolicy otherScope otherCandidates other,
            resolve otherPolicy otherScope otherCandidates = .ok other →
            Sha256.CollisionFree (resolution.texts ∪ other.texts) →
            (resolution.membershipFingerprint = other.membershipFingerprint ↔
              ∀ target,
                target ∈ resolution.targets ↔ target ∈ other.targets) := by
  constructor
  · intro others same
    ext resolution
    rw [toOption_eq_some, toOption_eq_some]
    exact ⟨resolve_of_same fun candidate => (same candidate).symm,
      resolve_of_same same⟩
  · intro resolution ran
    refine ⟨resolved_of_resolve ran, ?_⟩
    intro otherPolicy otherScope otherCandidates other otherRan collisionFree
    obtain ⟨-, -, -, hashed⟩ := resolve_eq_ok.mp ran
    obtain ⟨-, -, -, otherHashed⟩ := resolve_eq_ok.mp otherRan
    constructor
    · intro equal target
      rw [← equal] at otherHashed
      have same := (textual_membershipPayload _).same_of_sha256Canonical_eq
        (textual_membershipPayload _) hashed otherHashed collisionFree
        (fun _ written => .inl written) (fun _ written => .inr written)
      rw [targets_eq_of_same_payload same]
    · intro same
      have targets := targets_eq_of_same (resolved_of_resolve ran)
        (resolved_of_resolve otherRan) same
      rw [membershipPayload_eq, targets, ← membershipPayload_eq,
        otherHashed] at hashed
      exact (Except.ok.inj hashed).symm

/-- `STANDARD_FLEET`. -/
def standardFleet : MembershipPolicy where
  policyId := "STANDARD_FLEET"
  registryId := "STH-RELEASE-POLICY-v1.0"
  version := "1.0.0"
  allowedVariants := ["AGENT", "SELLER", "PUBLIC"]
  allowedChannels := ["WEB", "PDF_DOWNLOAD", "PRINT"]
  channelOptional := true

/-- A candidate without evidence of its target. -/
def sampleCandidate : ReleaseCandidate where
  propertyId := 2
  reportVariant := "PUBLIC"
  channel := some "WEB"
  targetSnapshotId := none
  targetReportId := none
  targetRenderId := none
  targetSemanticFingerprint := none
  targetPresentationFingerprint := none

/-- The candidate listed twice. -/
theorem exists_sampleMembership :
    ∃ resolution, resolve standardFleet ⟨none, none, none⟩
      [sampleCandidate, sampleCandidate] = .ok resolution := by
  have only : ∀ candidate ∈ [sampleCandidate, sampleCandidate],
      candidate = sampleCandidate := by
    simp
  have valid : sampleCandidate.validate standardFleet = .ok () := by
    refine require_bind_eq_ok.mpr ⟨by decide, require_bind_eq_ok.mpr
      ⟨nofun, require_bind_eq_ok.mpr ⟨by decide, rfl⟩⟩⟩
  obtain ⟨byKey, looped⟩ := @exists_foldlM_resolveCandidate standardFleet
    ⟨none, none, none⟩ [sampleCandidate, sampleCandidate] []
    (fun candidate present => only candidate present ▸ valid)
    List.nodup_nil (by
      rintro first second (impossible | ⟨present, -⟩)
        (impossible | ⟨otherPresent, -⟩) -
      · cases impossible
      · cases impossible
      · cases impossible
      · rw [only first present, only second otherPresent])
  obtain ⟨fingerprint, hashed, -⟩ := (textual_membershipPayload (numbered
    (sortedBy ReleaseCandidate.key byKey))).exists_sha256Canonical
  exact ⟨⟨_, fingerprint⟩, resolve_eq_ok.mpr ⟨byKey, looped, rfl, hashed⟩⟩

theorem membership_is_set_function_sample :
    ∃ resolution, resolve standardFleet ⟨none, none, none⟩
          [sampleCandidate, sampleCandidate] = .ok resolution ∧
        Resolved ⟨none, none, none⟩ [sampleCandidate, sampleCandidate]
          resolution := by
  obtain ⟨resolution, ran⟩ := exists_sampleMembership
  have all := membership_is_set_function standardFleet ⟨none, none, none⟩
    [sampleCandidate, sampleCandidate]
  exact ⟨resolution, ran, (all.2 resolution ran).1⟩

end SanTanHeights.Release
