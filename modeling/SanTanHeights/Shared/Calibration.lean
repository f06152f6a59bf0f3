import SanTanHeights.Foundation.Keyed
import SanTanHeights.Shared.Writable

/-!
# Calibration

What the two calibration schemes share: flags under names that a candidate
reassigns, and the loop that replays a candidate over fixtures.
-/

namespace SanTanHeights.Shared

open Foundation Foundation.Outcome Foundation.Sorting

/-- A tuple of names and flags. -/
def flags (values : List (String × Bool)) : Json :=
  .arr (values.map fun value => .arr [.str value.1, .bool value.2])

section Flags

variable {values : List (String × Bool)} {field : String} {flag : Bool}

theorem writable_flags (values : List (String × Bool)) : Writable (flags values) := by
  rw [flags, writable_arr]
  intro item listed
  obtain ⟨value, -, rfl⟩ := List.mem_map.mp listed
  simp

/-- Sorting does not change which keys are distinct. -/
theorem nodup_sortedBy_toLex (distinct : (values.map Prod.fst).Nodup) :
    ((sortedBy toLex values).map Prod.fst).Nodup :=
  (((sortedBy_perm toLex values).map Prod.fst).nodup_iff).mpr distinct

/-- Assigning a flag that is set leaves the sorted flags. -/
theorem sortedBy_assign_ofPairs (distinct : (values.map Prod.fst).Nodup)
    (present : (field, flag) ∈ values) :
    sortedBy toLex (Dictionary.assign field flag (Dictionary.ofPairs (sortedBy toLex values))) =
      sortedBy toLex values := by
  rw [Dictionary.ofPairs_eq_self (nodup_sortedBy_toLex distinct),
    Dictionary.assign_of_mem (nodup_sortedBy_toLex distinct)
      ((mem_sortedBy toLex values _).mpr present)]
  exact sortedBy_eq_self (pairwise_sortedBy toLex values)

/-- Looking up a flag in the sorted flags. -/
theorem lookup_ofPairs_sortedBy (distinct : (values.map Prod.fst).Nodup)
    (present : (field, flag) ∈ values) :
    (Dictionary.ofPairs (sortedBy toLex values)).lookup field = some flag := by
  rw [Dictionary.ofPairs_eq_self (nodup_sortedBy_toLex distinct)]
  exact Keyed.lookup_of_mem (nodup_sortedBy_toLex distinct)
    ((mem_sortedBy toLex values (field, flag)).mpr present)

end Flags

/-- One assignment of a change, whose value must be a flag. -/
def assignFlag (message : String) (values : List (String × Bool))
    (change : String × Json) : Except String (List (String × Bool)) :=
  match change.2 with
  | .bool value => .ok (Dictionary.assign change.1 value values)
  | _ => .error message

variable {Fixture Comparison : Type}

/-- The loop of an evaluation over its fixtures, after some ids. -/
def replayFixtures (fixtureId : Fixture → String) (duplicate : String)
    (compare : Fixture → Except String Comparison) :
    List String → List Fixture → Except String (List Comparison)
  | _, [] => return []
  | seen, fixture :: fixtures => do
      require (fixtureId fixture ∉ seen) duplicate
      let comparison ← compare fixture
      let comparisons ← replayFixtures fixtureId duplicate compare
        (seen ++ [fixtureId fixture]) fixtures
      return comparison :: comparisons

variable {fixtureId : Fixture → String} {duplicate : String}
  {compare : Fixture → Except String Comparison}
  {seen : List String} {fixtures : List Fixture}
  {comparisons : List Comparison}

/-- A replay compares every fixture. -/
theorem mapM_of_replayFixtures
    (replayed : replayFixtures fixtureId duplicate compare seen fixtures = .ok comparisons) :
    fixtures.mapM compare = .ok comparisons := by
  induction fixtures generalizing seen comparisons with
  | nil =>
      cases replayed
      rfl
  | cons fixture fixtures ih =>
      simp only [replayFixtures, bind_eq_ok, require_eq_ok, exists_const, pure_eq_ok] at replayed
      obtain ⟨-, comparison, compared, others, rest, rfl⟩ := replayed
      rw [List.mapM_cons, bind_eq_ok]
      refine ⟨comparison, compared, bind_eq_ok.mpr ⟨others, ?_, rfl⟩⟩
      exact ih rest

/-- Where a replay counts no regression, no fixture has one. -/
theorem clean_of_replayFixtures {key : Comparison → String} {regressed : Comparison → Bool}
    (replayed : replayFixtures fixtureId duplicate compare seen fixtures = .ok comparisons)
    (clean : (sortedBy key comparisons).countP regressed = 0)
    {fixture : Fixture} (listed : fixture ∈ fixtures) :
    ∃ comparison, compare fixture = .ok comparison ∧ regressed comparison = false := by
  obtain ⟨comparison, present, compared⟩ :=
    exists_ok_of_mapM (mapM_of_replayFixtures replayed) listed
  refine ⟨comparison, compared, ?_⟩
  rw [List.countP_eq_zero] at clean
  apply Bool.eq_false_of_not_eq_true
  apply clean
  rwa [mem_sortedBy]

/-- The replay over one fixture. -/
theorem replayFixtures_singleton {fixture : Fixture} {comparison : Comparison}
    (compared : compare fixture = .ok comparison) :
    replayFixtures fixtureId duplicate compare [] [fixture] = .ok [comparison] := by
  simp only [replayFixtures, bind_eq_ok, require_eq_ok, exists_const, pure_eq_ok]
  exact ⟨List.not_mem_nil, comparison, compared, [], rfl, rfl⟩

end SanTanHeights.Shared
