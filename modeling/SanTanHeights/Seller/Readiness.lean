import SanTanHeights.Seller.Binding

/-!
# When a bundle is ready

A system without evidence is either absent from the dependencies or has one
with the status `MISSING`.  The cascade of `resolve_input_bundle` only looks
for the first, so a bundle is sound exactly when the second does not occur.
-/

namespace SanTanHeights.Seller

open Foundation.Sorting Foundation.Outcome

/-- How far a bundle status is from blocked. -/
def readiness (status : String) : Nat :=
  if status = "READY" then 2 else if status = "INCOMPLETE" then 1 else 0

theorem readiness_le (status : String) : readiness status ≤ 2 := by
  unfold readiness
  split_ifs <;> omega

/-- A status that is worse than another. -/
def WorseStatus (status worse : String) : Prop :=
  status = "BOUND" ∧ worse ∈ ["MISSING", "STALE"] ∨
    status ∈ ["BOUND", "MISSING", "STALE"] ∧ worse ∈ ["CONFLICTING", "INCOMPATIBLE"]

/-- Some dependency of the second list has a worse status than in the
first. -/
def Worsened (dependencies others : List DependencyArtifact) : Prop :=
  ∃ front dependency worse later, dependencies = front ++ dependency :: later ∧
      others = front ++ worse :: later ∧
      worse.systemId = dependency.systemId ∧
      WorseStatus dependency.status worse.status

/-- The status of a bundle, its missing systems and their independence of the
order, and what worse evidence does to them. -/
structure ReadinessSound (fromisoformat : FromIsoformat) (registry : BindingRegistry)
    (call : BundleCall) (bundle : GovernedInputBundle) : Prop where
  ready : bundle.bundleStatus = "READY" ↔ ∀ system ∈ registry.requiredSystems,
      ∃ dependency ∈ call.dependencies, dependency.systemId = system ∧
        dependency.status ∈ ["BOUND", "NOT_APPLICABLE"]
  missing : ∀ system, system ∈ bundle.missingSystems ↔
    system ∈ registry.requiredSystems ∧
      ∀ dependency ∈ call.dependencies, dependency.systemId = system → dependency.status = "MISSING"
  unordered : ∀ others, others.Perm call.dependencies →
    resolveInputBundle fromisoformat registry { call with dependencies := others } = .ok bundle
  monotone : ∀ others changed, Worsened call.dependencies others →
    resolveInputBundle fromisoformat registry
        { call with dependencies := others } = .ok changed →
      readiness changed.bundleStatus ≤ readiness bundle.bundleStatus

variable {status : String} {others : List DependencyArtifact}

namespace BundleCall

variable {fromisoformat : FromIsoformat} {registry : BindingRegistry}
  {call : BundleCall}

/-! ## The cascade -/

/-- A dependency has a status. -/
def Occurs (call : BundleCall) (status : String) : Prop :=
  ∃ dependency ∈ call.dependencies, dependency.status = status

/-- A required system has no dependency. -/
def Lacks (registry : BindingRegistry) (call : BundleCall) : Prop :=
  ∃ system ∈ registry.requiredSystems, system ∉ call.dependencies.map DependencyArtifact.systemId

def Blocked (call : BundleCall) : Prop :=
  call.Occurs "CONFLICTING" ∨ call.Occurs "INCOMPATIBLE"

def Incomplete (registry : BindingRegistry) (call : BundleCall) : Prop :=
  call.Lacks registry ∨ call.Occurs "STALE"

theorem systemsOf_ne_nil_iff : call.systemsOf status ≠ [] ↔ call.Occurs status := by
  rw [ne_eq, List.eq_nil_iff_forall_not_mem, not_forall_not, Occurs]
  constructor
  · rintro ⟨system, listed⟩
    rw [systemsOf, mem_sortedBy, List.mem_map] at listed
    obtain ⟨dependency, present, -⟩ := listed
    rw [List.mem_filter, mem_ordered, decide_eq_true_eq] at present
    exact ⟨dependency, present⟩
  · rintro ⟨dependency, present, same⟩
    refine ⟨dependency.systemId, ?_⟩
    rw [systemsOf, mem_sortedBy]
    apply List.mem_map_of_mem
    rw [List.mem_filter, mem_ordered, decide_eq_true_eq]
    exact ⟨present, same⟩

theorem mem_map_ordered {system : String} :
    system ∈ call.ordered.map DependencyArtifact.systemId ↔
      system ∈ call.dependencies.map DependencyArtifact.systemId :=
  ((sortedBy_perm _ call.dependencies).map _).mem_iff

theorem mem_missingSystems {system : String} :
    system ∈ (call.draftBundle registry).missingSystems ↔
      system ∈ registry.requiredSystems ∧
        system ∉ call.dependencies.map DependencyArtifact.systemId := by
  rw [draftBundle, Community.History.mem_sortedSet, List.mem_filter,
    decide_eq_true_eq, mem_map_ordered]

theorem missingSystems_ne_nil_iff :
    (call.draftBundle registry).missingSystems ≠ [] ↔ call.Lacks registry := by
  rw [ne_eq, List.eq_nil_iff_forall_not_mem, not_forall_not]
  exact exists_congr fun _ => mem_missingSystems

/-- The bundle status, case by case. -/
theorem bundleStatus_cases :
    (call.Blocked ∧ (call.draftBundle registry).bundleStatus = "BLOCKED") ∨
      (¬call.Blocked ∧ call.Incomplete registry ∧
        (call.draftBundle registry).bundleStatus = "INCOMPLETE") ∨
      (¬call.Blocked ∧ ¬call.Incomplete registry ∧
        (call.draftBundle registry).bundleStatus = "READY") := by
  have blocked : (call.systemsOf "CONFLICTING" ≠ [] ∨
      call.systemsOf "INCOMPATIBLE" ≠ []) ↔ call.Blocked :=
    or_congr systemsOf_ne_nil_iff systemsOf_ne_nil_iff
  have incomplete : ((call.draftBundle registry).missingSystems ≠ [] ∨
      call.systemsOf "STALE" ≠ []) ↔ call.Incomplete registry :=
    or_congr missingSystems_ne_nil_iff systemsOf_ne_nil_iff
  have status : (call.draftBundle registry).bundleStatus =
      if call.systemsOf "CONFLICTING" ≠ [] ∨
          call.systemsOf "INCOMPATIBLE" ≠ [] then "BLOCKED"
      else if (call.draftBundle registry).missingSystems ≠ [] ∨
          call.systemsOf "STALE" ≠ [] then "INCOMPLETE"
      else "READY" := rfl
  rw [← blocked, ← incomplete, status]
  split_ifs with first second
  · exact .inl ⟨first, rfl⟩
  · exact .inr (.inl ⟨first, second, rfl⟩)
  · exact .inr (.inr ⟨first, second, rfl⟩)

theorem ready_iff : (call.draftBundle registry).bundleStatus = "READY" ↔
      ¬call.Blocked ∧ ¬call.Incomplete registry := by
  rcases @bundleStatus_cases registry call with
    ⟨blocked, status⟩ | ⟨-, incomplete, status⟩ | ⟨open_, complete, status⟩
  · rw [status]
    exact iff_of_false (by decide) fun clear => clear.1 blocked
  · rw [status]
    exact iff_of_false (by decide) fun clear => clear.2 incomplete
  · exact iff_of_true status ⟨open_, complete⟩

/-! ## Order -/

/-- Distinct systems are put in one order. -/
theorem ordered_eq_of_perm
    (distinct : (call.dependencies.map DependencyArtifact.systemId).Nodup)
    (permuted : others.Perm call.dependencies) :
    ({ call with dependencies := others } : BundleCall).ordered = call.ordered := by
  refine sortedBy_eq_of_perm permuted ?_
  intro left leftPresent right rightPresent same
  exact List.inj_on_of_nodup_map distinct (permuted.subset leftPresent)
    (permuted.subset rightPresent) same

theorem resolve_of_perm {bundle : GovernedInputBundle}
    (resolved : resolveInputBundle fromisoformat registry call = .ok bundle)
    (permuted : others.Perm call.dependencies) :
    resolveInputBundle fromisoformat registry
      { call with dependencies := others } = .ok bundle := by
  have accepted := (resolveInputBundle_eq_ok.mp resolved).1
  have same := ordered_eq_of_perm accepted.distinct permuted
  have draft : ({ call with dependencies := others } : BundleCall).draftBundle
      registry = call.draftBundle registry := by
    unfold draftBundle systemsOf
    rw [same]
  obtain ⟨-, fingerprint, hashed, ended⟩ := resolveInputBundle_eq_ok.mp resolved
  obtain ⟨boundary, dated, admits⟩ := accepted.admitted
  rw [resolveInputBundle_eq_ok, draft]
  refine ⟨⟨accepted.identified, ⟨boundary, dated, ?_⟩, ?_⟩, fingerprint, hashed, ended⟩
  · intro dependency present
    obtain ⟨property, community, notFuture, valid⟩ :=
      admits dependency (permuted.subset present)
    exact ⟨property, community, notFuture, valid⟩
  · exact ((permuted.map _).nodup_iff).mpr accepted.distinct

/-! ## Worse evidence -/

theorem occurs_of_worsened (worsened : Worsened call.dependencies others)
    (occurs : call.Occurs status) (kept : ∀ worse, ¬WorseStatus status worse) :
    ({ call with dependencies := others } : BundleCall).Occurs status := by
  obtain ⟨front, dependency, worse, later, split, changed, -, worst⟩ := worsened
  obtain ⟨found, present, same⟩ := occurs
  subst changed
  rw [split, List.mem_append, List.mem_cons] at present
  rcases present with before | rfl | after
  · exact ⟨found, List.mem_append_left _ before, same⟩
  · exact absurd (same ▸ worst) (kept _)
  · exact ⟨found, List.mem_append_right _ (List.mem_cons_of_mem _ after), same⟩

theorem blocked_of_worsened (worsened : Worsened call.dependencies others)
    (blocked : call.Blocked) : ({ call with dependencies := others } : BundleCall).Blocked := by
  refine blocked.imp (fun occurs => ?_) fun occurs => ?_
  · exact occurs_of_worsened worsened occurs fun worse => by
      simp [WorseStatus]
  · exact occurs_of_worsened worsened occurs fun worse => by
      simp [WorseStatus]

theorem systems_of_worsened (worsened : Worsened call.dependencies others) :
    others.map DependencyArtifact.systemId = call.dependencies.map DependencyArtifact.systemId := by
  obtain ⟨front, dependency, worse, later, split, rfl, same, -⟩ := worsened
  rw [split, List.map_append, List.map_append, List.map_cons, List.map_cons, same]

/-- Worse evidence for an incomplete bundle leaves it incomplete or blocks
it. -/
theorem incomplete_of_worsened (worsened : Worsened call.dependencies others)
    (incomplete : call.Incomplete registry) :
    ({ call with dependencies := others } : BundleCall).Blocked ∨
      ({ call with dependencies := others } : BundleCall).Incomplete registry := by
  rcases incomplete with ⟨system, required, absent⟩ | stale
  · refine .inr (.inl ⟨system, required, ?_⟩)
    rwa [systems_of_worsened worsened]
  · obtain ⟨front, dependency, worse, later, split, rfl, -, worst⟩ := worsened
    obtain ⟨found, present, same⟩ := stale
    rw [split, List.mem_append, List.mem_cons] at present
    have here : worse ∈ front ++ worse :: later := List.mem_append_right _ List.mem_cons_self
    rcases present with before | rfl | after
    · exact .inr (.inr ⟨found, List.mem_append_left _ before, same⟩)
    · rw [WorseStatus, same] at worst
      simp only [String.reduceEq, false_and, false_or, List.mem_cons,
        List.not_mem_nil, or_false, or_true, true_and] at worst
      exact .inl (worst.imp (fun status => ⟨worse, here, status⟩)
        fun status => ⟨worse, here, status⟩)
    · exact .inr (.inr ⟨found, List.mem_append_right _ (List.mem_cons_of_mem _ after), same⟩)

theorem readiness_of_worsened (worsened : Worsened call.dependencies others) :
    readiness (({ call with dependencies := others } : BundleCall).draftBundle
        registry).bundleStatus ≤
      readiness (call.draftBundle registry).bundleStatus := by
  have others_cases := @bundleStatus_cases registry { call with dependencies := others }
  rcases @bundleStatus_cases registry call with
    ⟨blocked, status⟩ | ⟨-, incomplete, status⟩ | ⟨-, -, status⟩
  · have still := blocked_of_worsened worsened blocked
    rcases others_cases with ⟨-, changed⟩ | ⟨clear, -⟩ | ⟨clear, -⟩
    · rw [status, changed]
    · exact absurd still clear
    · exact absurd still clear
  · have still := incomplete_of_worsened worsened incomplete
    rcases others_cases with
      ⟨-, changed⟩ | ⟨-, -, changed⟩ | ⟨clear, complete, -⟩
    · rw [status, changed]
      decide
    · rw [status, changed]
    · exact absurd still (not_or.mpr ⟨clear, complete⟩)
  · rw [status]
    exact readiness_le _

end BundleCall

/-! ## Missing evidence -/

section Made

variable {fromisoformat : FromIsoformat} {call : BundleCall}
  (made : ∀ dependency ∈ call.dependencies, ∃ given,
    makeDependency fromisoformat bindingRegistry given = .ok dependency)
include made

theorem acceptable_of_made {dependency : DependencyArtifact}
    (present : dependency ∈ call.dependencies) :
    dependency.systemId ∈ bindingRegistry.requiredSystems ∧
      dependency.status ∈ bindingRegistry.dependencyStatuses := by
  obtain ⟨given, ran⟩ := made dependency present
  obtain ⟨acceptable, _, _, rfl⟩ := makeDependency_eq_ok.mp ran
  exact ⟨acceptable.system, acceptable.status⟩

/-- Without a missing dependency, a bundle is ready just when all systems have
evidence. -/
theorem ready_iff_of_none_missing
    (distinct : (call.dependencies.map DependencyArtifact.systemId).Nodup)
    (none : ∀ dependency ∈ call.dependencies, dependency.status ≠ "MISSING") :
    (call.draftBundle bindingRegistry).bundleStatus = "READY" ↔
      ∀ system ∈ bindingRegistry.requiredSystems,
        ∃ dependency ∈ call.dependencies, dependency.systemId = system ∧
          dependency.status ∈ ["BOUND", "NOT_APPLICABLE"] := by
  rw [BundleCall.ready_iff]
  constructor
  · rintro ⟨clear, complete⟩ system required
    have listed : system ∈
        call.dependencies.map DependencyArtifact.systemId := by
      by_contra absent
      exact complete (.inl ⟨system, required, absent⟩)
    obtain ⟨dependency, present, same⟩ := List.mem_map.mp listed
    refine ⟨dependency, present, same, ?_⟩
    have status := (acceptable_of_made made present).2
    have absent := none dependency present
    have fresh : dependency.status ≠ "STALE" := fun stale =>
      complete (.inr ⟨dependency, present, stale⟩)
    have agreed : dependency.status ≠ "CONFLICTING" := fun conflict =>
      clear (.inl ⟨dependency, present, conflict⟩)
    have compatible : dependency.status ≠ "INCOMPATIBLE" := fun other =>
      clear (.inr ⟨dependency, present, other⟩)
    simp only [bindingRegistry, List.mem_cons, List.not_mem_nil, or_false,
      absent, fresh, agreed, compatible, false_or] at status
    simpa using status
  · intro evidence
    -- The one dependency of a system is the one that is evidence for it.
    have good : ∀ dependency ∈ call.dependencies,
        dependency.status ∈ ["BOUND", "NOT_APPLICABLE"] := by
      intro dependency present
      obtain ⟨other, otherPresent, same, status⟩ :=
        evidence _ (acceptable_of_made made present).1
      rwa [List.inj_on_of_nodup_map distinct otherPresent present same]
        at status
    have never : ∀ status, status ∉ ["BOUND", "NOT_APPLICABLE"] →
        ¬call.Occurs status := by
      rintro status other ⟨dependency, present, rfl⟩
      exact other (good dependency present)
    refine ⟨?_, ?_⟩
    · rintro (conflicting | incompatible)
      · exact never _ (by decide) conflicting
      · exact never _ (by decide) incompatible
    · rintro (⟨system, required, absent⟩ | stale)
      · obtain ⟨dependency, present, rfl, -⟩ := evidence system required
        exact absent (List.mem_map_of_mem present)
      · exact never _ (by decide) stale

/-- What `resolve_input_bundle` returns is sound exactly when no dependency has
the status `MISSING`. -/
theorem readiness_sound_iff {bundle : GovernedInputBundle}
    (resolved : resolveInputBundle fromisoformat bindingRegistry call =
      .ok bundle) :
    ReadinessSound fromisoformat bindingRegistry call bundle ↔
      ∀ dependency ∈ call.dependencies, dependency.status ≠ "MISSING" := by
  have unordered : ∀ others, others.Perm call.dependencies →
      resolveInputBundle fromisoformat bindingRegistry
        { call with dependencies := others } = .ok bundle :=
    fun _ => BundleCall.resolve_of_perm resolved
  obtain ⟨accepted, fingerprint, -, rfl⟩ :=
    resolveInputBundle_eq_ok.mp resolved
  constructor
  · rintro ⟨-, missing, -, -⟩ dependency present status
    have reported := (missing dependency.systemId).mpr
      ⟨(acceptable_of_made made present).1, fun other otherPresent same => by
        rw [List.inj_on_of_nodup_map accepted.distinct otherPresent present
          same]
        exact status⟩
    exact (BundleCall.mem_missingSystems.mp reported).2
      (List.mem_map_of_mem present)
  · intro none
    refine ⟨ready_iff_of_none_missing made accepted.distinct none, ?_,
      unordered, ?_⟩
    · intro system
      refine BundleCall.mem_missingSystems.trans (and_congr_right fun _ => ?_)
      constructor
      · rintro absent dependency present rfl
        exact absurd (List.mem_map_of_mem present) absent
      · intro only listed
        obtain ⟨dependency, present, same⟩ := List.mem_map.mp listed
        exact none dependency present (only dependency present same)
    · intro others changed worsened ran
      obtain ⟨-, otherFingerprint, -, rfl⟩ := resolveInputBundle_eq_ok.mp ran
      exact BundleCall.readiness_of_worsened worsened

end Made

/-! ## Bound and missing evidence -/

theorem made_of_mapM {dependencies : List DependencyArtifact}
    (ran : bindingRegistry.requiredSystems.mapM (fun system =>
      makeDependency sampleFromisoformat bindingRegistry
        { sampleDependency system with status := status }) = .ok dependencies) :
    ∀ dependency ∈ dependencies, ∃ given,
      makeDependency sampleFromisoformat bindingRegistry given = .ok dependency :=
  forall_mem_of_mapM ran fun _ _ _ one => ⟨_, one⟩

theorem readiness_sound_iff_sample :
    ∃ call bundle, resolveInputBundle sampleFromisoformat bindingRegistry call =
        .ok bundle ∧
      ReadinessSound sampleFromisoformat bindingRegistry call bundle := by
  obtain ⟨dependencies, bundle, made, -, bound, resolved⟩ :=
    @exists_sampleBundle "BOUND" List.mem_cons_self
  refine ⟨sampleBundleCall dependencies, bundle, resolved,
    (@readiness_sound_iff _ (sampleBundleCall dependencies)
      (made_of_mapM made) _ resolved).mpr ?_⟩
  intro dependency present
  rw [bound dependency present]
  decide

/-- A bundle is ready without any evidence. -/
theorem ready_without_evidence :
    ∃ (fromisoformat : FromIsoformat) (call : BundleCall)
      (bundle : GovernedInputBundle),
      (∀ dependency ∈ call.dependencies, ∃ given,
        makeDependency fromisoformat bindingRegistry given = .ok dependency) ∧
      resolveInputBundle fromisoformat bindingRegistry call = .ok bundle ∧
      ¬ReadinessSound fromisoformat bindingRegistry call bundle := by
  obtain ⟨dependencies, bundle, made, systems, missing, resolved⟩ :=
    @exists_sampleBundle "MISSING" (by decide)
  refine ⟨sampleFromisoformat, sampleBundleCall dependencies, bundle,
    made_of_mapM made, resolved, fun sound => ?_⟩
  have never : ∀ status, status ≠ "MISSING" →
      ¬(sampleBundleCall dependencies).Occurs status := by
    rintro status other ⟨dependency, present, rfl⟩
    exact other (missing dependency present)
  have complete : ¬(sampleBundleCall dependencies).Lacks bindingRegistry := by
    rintro ⟨system, required, absent⟩
    exact absent (systems.symm ▸ required)
  have ready : ((sampleBundleCall dependencies).draftBundle
      bindingRegistry).bundleStatus = "READY" :=
    BundleCall.ready_iff.mpr
      ⟨not_or.mpr ⟨never _ (by decide), never _ (by decide)⟩,
        not_or.mpr ⟨complete, never _ (by decide)⟩⟩
  obtain ⟨-, fingerprint, -, rfl⟩ := resolveInputBundle_eq_ok.mp resolved
  obtain ⟨dependency, present, -, status⟩ :=
    sound.ready.mp ready _ List.mem_cons_self
  rw [missing dependency present] at status
  revert status
  decide

end SanTanHeights.Seller
