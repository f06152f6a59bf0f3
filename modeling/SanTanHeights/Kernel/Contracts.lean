import Mathlib.Data.Finset.Card
import Mathlib.Data.List.Perm.Basic
import SanTanHeights.Foundation.Descent
import SanTanHeights.Foundation.Keyed

/-!
# Contract dependencies

A contract manifest names for each contract the contracts that it depends on.
Its loader walks these dependencies depth first with two marks: `temporary`
for a contract whose visit has begun, `permanent` for one whose visit ended.
The walk is followed for a given depth of calls, and the invariant of the
marks shows that a depth above the number of contracts is enough.
-/

namespace SanTanHeights.Kernel.Contracts

open Foundation Foundation.Keyed

structure ContractEntry where
  contractId : String
  version : String
  status : String
  path : String
  sha256 : String
  dependsOn : List String
  deriving DecidableEq, Repr

/-- The order in which a run iterates over the set of given texts. -/
structure SetOrder where
  items : List String → List String
  mem_items {values : List String} {value : String} : value ∈ items values ↔ value ∈ values

structure Marks where
  temporary : List String
  permanent : List String
  deriving DecidableEq, Repr

inductive Failure where
  | manifestValidationError (message : String)
  | keyError (node : String)
  deriving DecidableEq, Repr

def cycleDetected (node : String) : Failure :=
  .manifestValidationError s!"Contract dependency cycle detected at {node}"

/-- What a call leaves, or nothing where the depth of calls was not enough. -/
abbrev Outcome := Option (Except Failure Marks)

/-- `for node in nodes: visit(node)`. -/
def visitEach (visit : String → Marks → Outcome) :
    List String → Marks → Outcome
  | [], marks => some (.ok marks)
  | node :: nodes, marks =>
      match visit node marks with
      | some (.ok next) => visitEach visit nodes next
      | stopped => stopped

/-- `graph = {e.contract_id: set(e.depends_on) for e in entries}`. -/
def graph (entries : List ContractEntry) : List (String × List String) :=
  Dictionary.ofPairs (entries.map fun entry => (entry.contractId, entry.dependsOn))

/-- `visit`, followed through at most `depth` nested calls. -/
def visit (order : SetOrder) (dependencies : List (String × List String)) :
    Nat → String → Marks → Outcome
  | 0, _, _ => none
  | depth + 1, node, marks =>
      if node ∈ marks.permanent then some (.ok marks)
      else if node ∈ marks.temporary then
        some (.error (cycleDetected node))
      else
        match dependencies.lookup node with
        | none => some (.error (.keyError node))
        | some names =>
            match visitEach (visit order dependencies depth) (order.items names)
                { marks with temporary := node :: marks.temporary } with
            | some (.ok next) => some (.ok {
                temporary := next.temporary.erase node
                permanent := node :: next.permanent })
            | stopped => stopped

/-- `_assert_acyclic`. -/
def assertAcyclic (order : SetOrder) (depth : Nat) (entries : List ContractEntry) : Outcome :=
  visitEach (visit order (graph entries) depth) ((graph entries).map Prod.fst) ⟨[], []⟩

/-! ## Enough depth -/

section Depth

variable {marks : Marks} {outcome : Except Failure Marks}

theorem visitEach_mono {visit deeper : String → Marks → Outcome}
    (agree : ∀ node marks outcome,
      visit node marks = some outcome → deeper node marks = some outcome)
    {nodes : List String} (result : visitEach visit nodes marks = some outcome) :
    visitEach deeper nodes marks = some outcome := by
  induction nodes generalizing marks with
  | nil => exact result
  | cons node nodes ih =>
      rw [visitEach] at result ⊢
      cases first : visit node marks with
      | none =>
          rw [first] at result
          cases result
      | some reached =>
          rw [first] at result
          rw [agree node marks reached first]
          cases reached with
          | error failure => exact result
          | ok next => exact ih result

variable {order : SetOrder} {dependencies : List (String × List String)}

/-- A call that ends within some depth ends alike within a greater one. -/
theorem visit_succ {depth : Nat} {node : String}
    (result : visit order dependencies depth node marks = some outcome) :
    visit order dependencies (depth + 1) node marks = some outcome := by
  induction depth generalizing node marks outcome with
  | zero => cases result
  | succ depth ih =>
      rw [visit] at result ⊢
      split at result
      · rwa [if_pos ‹_›]
      · rw [if_neg ‹_›]
        split at result
        · rwa [if_pos ‹_›]
        · rw [if_neg ‹_›]
          cases known : dependencies.lookup node with
          | none => rwa [known] at result
          | some names =>
              rw [known] at result
              dsimp only at result ⊢
              cases inner : visitEach (visit order dependencies depth)
                  (order.items names)
                  { marks with temporary := node :: marks.temporary } with
              | none =>
                  rw [inner] at result
                  cases result
              | some reached =>
                  rw [inner] at result
                  rw [visitEach_mono (fun _ _ _ => ih) inner]
                  exact result

theorem visit_mono {depth deeper : Nat} (atLeast : depth ≤ deeper) {node : String}
    (result : visit order dependencies depth node marks = some outcome) :
    visit order dependencies deeper node marks = some outcome := by
  induction atLeast with
  | refl => exact result
  | step _ ih => exact visit_succ ih

end Depth

/-! ## The marks -/

section Search

variable {order : SetOrder} {dependencies : List (String × List String)}

/-- A node of the graph depends on another. -/
def Edge (dependencies : List (String × List String)) (node other : String) : Prop :=
  ∃ names, dependencies.lookup node = some names ∧ other ∈ names

/-- What the marks say when the visit of a node is about to begin: the nodes
marked as temporary lead to it, and no cycle is reached from a permanent one. -/
structure Invariant (dependencies : List (String × List String))
    (node : String) (marks : Marks) : Prop where
  distinct : marks.temporary.Nodup
  inside : marks.temporary ⊆ dependencies.map Prod.fst
  leads : ∀ earlier ∈ marks.temporary, Relation.TransGen (Edge dependencies) earlier node
  settled : ∀ done ∈ marks.permanent, Acc (flip (Edge dependencies)) done

/-- What a visit leaves: a failure names a node of a cycle; else the nodes
are permanent, and the nodes whose visit goes on are those of before. -/
def Left (dependencies : List (String × List String)) (nodes : List String)
    (marks : Marks) : Except Failure Marks → Prop
  | .error failure => ∃ node, failure = cycleDetected node ∧
      Relation.TransGen (Edge dependencies) node node
  | .ok next => next.temporary = marks.temporary ∧
      marks.permanent ⊆ next.permanent ∧ nodes ⊆ next.permanent ∧
      ∀ done ∈ next.permanent, Acc (flip (Edge dependencies)) done

/-- A loop of visits, each of which leaves what it should. -/
theorem exists_visitEach {visit : String → Marks → Outcome} {temporary : List String}
    (nodes : List String)
    (each : ∀ node ∈ nodes, ∀ marks, marks.temporary = temporary →
      (∀ done ∈ marks.permanent, Acc (flip (Edge dependencies)) done) →
      ∃ outcome, visit node marks = some outcome ∧ Left dependencies [node] marks outcome)
    (marks : Marks) (same : marks.temporary = temporary)
    (settled : ∀ done ∈ marks.permanent, Acc (flip (Edge dependencies)) done) :
    ∃ outcome, visitEach visit nodes marks = some outcome ∧
      Left dependencies nodes marks outcome := by
  induction nodes generalizing marks with
  | nil =>
      exact ⟨_, rfl, rfl, List.Subset.refl _, List.nil_subset _, settled⟩
  | cons node nodes ih =>
      obtain ⟨first, visited, left⟩ := each node List.mem_cons_self marks same settled
      rw [visitEach, visited]
      cases first with
      | error failure => exact ⟨_, rfl, left⟩
      | ok next =>
          obtain ⟨kept, grown, present, ended⟩ := left
          obtain ⟨outcome, rest, leftRest⟩ := ih
            (fun other later => each other (List.mem_cons_of_mem _ later))
            next (kept.trans same) ended
          refine ⟨outcome, rest, ?_⟩
          cases outcome with
          | error failure => exact leftRest
          | ok last =>
              obtain ⟨keptRest, grownRest, presentRest, endedRest⟩ := leftRest
              refine ⟨keptRest.trans kept, List.Subset.trans grown grownRest, ?_, endedRest⟩
              rw [List.cons_subset]
              exact ⟨grownRest (present List.mem_cons_self), presentRest⟩

/-- A visit ends within the depth that the unmarked nodes need. -/
theorem exists_visit
    (closed : ∀ node other, Edge dependencies node other → other ∈ dependencies.map Prod.fst)
    {depth : Nat} {node : String} {marks : Marks} (known : node ∈ dependencies.map Prod.fst)
    (invariant : Invariant dependencies node marks)
    (enough : dependencies.length < depth + marks.temporary.length) :
    ∃ outcome, visit order dependencies depth node marks = some outcome ∧
      Left dependencies [node] marks outcome := by
  induction depth generalizing node marks with
  | zero =>
      -- More nodes would be under way than the graph has.
      have few := (invariant.distinct.subperm invariant.inside).length_le
      rw [List.length_map] at few
      omega
  | succ depth ih =>
      rw [visit]
      split
      · refine ⟨_, rfl, rfl, List.Subset.refl _, ?_, invariant.settled⟩
        exact List.cons_subset.mpr ⟨‹_›, List.nil_subset _⟩
      · split
        · exact ⟨_, rfl, node, rfl, invariant.leads node ‹_›⟩
        · next fresh =>
          obtain ⟨names, found⟩ : ∃ names,
              dependencies.lookup node = some names := by
            rw [← Option.ne_none_iff_exists', ne_eq, lookup_eq_none_iff_notMem, not_not]
            exact known
          have begun : ∀ other ∈ order.items names, ∀ current : Marks,
              current.temporary = node :: marks.temporary →
              (∀ done ∈ current.permanent, Acc (flip (Edge dependencies)) done) →
              ∃ outcome, visit order dependencies depth other current =
                  some outcome ∧
                Left dependencies [other] current outcome := by
            intro other listed current same settled
            have edge : Edge dependencies node other :=
              ⟨names, found, order.mem_items.mp listed⟩
            refine ih (closed node other edge) ?_ ?_
            · constructor
              · rw [same]
                exact List.nodup_cons.mpr ⟨fresh, invariant.distinct⟩
              · rw [same, List.cons_subset]
                exact ⟨known, invariant.inside⟩
              · rw [same, List.forall_mem_cons]
                exact ⟨.single edge, fun earlier present =>
                  (invariant.leads earlier present).tail edge⟩
              · exact settled
            · rw [same, List.length_cons]
              omega
          obtain ⟨outcome, visited, left⟩ := exists_visitEach
            (order.items names) begun
            { marks with temporary := node :: marks.temporary } rfl
            invariant.settled
          rw [found]
          dsimp only
          rw [visited]
          cases outcome with
          | error failure => exact ⟨_, rfl, left⟩
          | ok next =>
              obtain ⟨kept, grown, present, ended⟩ := left
              refine ⟨_, rfl, ?_, List.subset_cons_of_subset _ grown,
                List.cons_subset.mpr ⟨List.mem_cons_self, List.nil_subset _⟩, ?_⟩
              · rw [kept, List.erase_cons_head]
              · rw [List.forall_mem_cons]
                refine ⟨Acc.intro _ fun other edge => ?_, ended⟩
                obtain ⟨others, same, listed⟩ := edge
                cases found.symm.trans same
                exact ended other (present (order.mem_items.mpr listed))

end Search

/-! ## The check -/

section Check

variable {entries : List ContractEntry}

/-- A contract of the manifest lists another among its dependencies. -/
def DependsOn (entries : List ContractEntry) (id other : String) : Prop :=
  ∃ entry ∈ entries, entry.contractId = id ∧ other ∈ entry.dependsOn

theorem graph_eq (distinct : (entries.map (·.contractId)).Nodup) :
    graph entries = entries.map fun entry => (entry.contractId, entry.dependsOn) := by
  refine Dictionary.ofPairs_eq_self ?_
  rwa [List.map_map]

theorem edge_graph_iff (distinct : (entries.map (·.contractId)).Nodup) {id other : String} :
    Edge (graph entries) id other ↔ DependsOn entries id other := by
  rw [graph_eq distinct]
  constructor
  · rintro ⟨names, found, listed⟩
    obtain ⟨entry, present, same⟩ := List.mem_map.mp (mem_of_lookup found)
    cases same
    exact ⟨entry, present, rfl, listed⟩
  · rintro ⟨entry, present, rfl, listed⟩
    refine ⟨entry.dependsOn, ?_, listed⟩
    have present : (entry.contractId, entry.dependsOn) ∈
        entries.map fun entry => (entry.contractId, entry.dependsOn) :=
      List.mem_map_of_mem present
    refine lookup_of_mem ?_ present
    rwa [List.map_map]

/-- Contracts with distinct identifiers and known dependencies are checked
within any depth above their number, whatever the order of the sets is, and
the check fails exactly where the dependencies have a cycle; its failure names
a contract on one. -/
theorem assertAcyclic_exact (order : SetOrder) (entries : List ContractEntry)
    (distinct : (entries.map (·.contractId)).Nodup)
    (known : ∀ entry ∈ entries, ∀ other ∈ entry.dependsOn,
      other ∈ entries.map (·.contractId)) :
    ∃ outcome, (∀ depth, entries.length < depth →
        assertAcyclic order depth entries = some outcome) ∧
      ((∃ failure, outcome = .error failure) ↔
        ∃ id, Relation.TransGen (DependsOn entries) id id) ∧
      ∀ failure, outcome = .error failure →
        ∃ id, failure = cycleDetected id ∧
          Relation.TransGen (DependsOn entries) id id := by
  have relation : Edge (graph entries) = DependsOn entries := by
    funext id other
    exact propext (edge_graph_iff distinct)
  have keys : (graph entries).map Prod.fst = entries.map (·.contractId) := by
    rw [graph_eq distinct, List.map_map]
    rfl
  have size : (graph entries).length = entries.length := by
    rw [graph_eq distinct, List.length_map]
  have closed : ∀ node other, Edge (graph entries) node other →
      other ∈ (graph entries).map Prod.fst := by
    intro node other edge
    rw [relation] at edge
    obtain ⟨entry, present, rfl, listed⟩ := edge
    rw [keys]
    exact known entry present other listed
  obtain ⟨outcome, checked, left⟩ : ∃ outcome,
      assertAcyclic order (entries.length + 1) entries = some outcome ∧
        Left (graph entries) ((graph entries).map Prod.fst) ⟨[], []⟩
          outcome := by
    refine exists_visitEach _ ?_ _ rfl (List.forall_mem_nil _)
    intro node listed marks none settled
    refine exists_visit closed listed ?_ ?_
    · constructor
      · rw [none]
        exact List.nodup_nil
      · rw [none]
        exact List.nil_subset _
      · rw [none]
        exact List.forall_mem_nil _
      · exact settled
    · omega
  refine ⟨outcome, fun depth enough => visitEach_mono
    (fun _ _ _ => visit_mono enough) checked, ⟨?_, ?_⟩, ?_⟩
  · rintro ⟨failure, rfl⟩
    obtain ⟨id, -, cycle⟩ := left
    exact ⟨id, relation ▸ cycle⟩
  · rintro ⟨id, cycle⟩
    cases outcome with
    | error failure => exact ⟨failure, rfl⟩
    | ok next =>
        obtain ⟨-, -, visited, ended⟩ := left
        rw [← relation] at cycle
        obtain ⟨other, -, edge⟩ := Relation.TransGen.tail'_iff.mp cycle
        exact absurd cycle (Descent.not_transGen_of_acc
          (ended id (visited (closed other id edge))))
  · rintro failure rfl
    obtain ⟨id, same, cycle⟩ := left
    exact ⟨id, same, relation ▸ cycle⟩

/-- A contract that depends on itself through another. -/
def twoContracts : List ContractEntry :=
  [⟨"identity", "1.0", "LOCKED", "contracts/identity.yaml", "00", ["evidence"]⟩,
    ⟨"evidence", "1.0", "LOCKED", "contracts/evidence.yaml", "01", ["identity"]⟩]

theorem assertAcyclic_exact_two :
    ∃ outcome, (∀ depth, 2 < depth →
        assertAcyclic ⟨id, Iff.rfl⟩ depth twoContracts = some outcome) ∧
      ((∃ failure, outcome = .error failure) ↔
        ∃ id, Relation.TransGen (DependsOn twoContracts) id id) ∧
      ∀ failure, outcome = .error failure →
        ∃ id, failure = cycleDetected id ∧
          Relation.TransGen (DependsOn twoContracts) id id :=
  assertAcyclic_exact ⟨id, Iff.rfl⟩ twoContracts (by decide) (by decide)

example :
    assertAcyclic ⟨id, Iff.rfl⟩ 3 twoContracts = some (.error (cycleDetected "identity")) := by
  decide

end Check

end SanTanHeights.Kernel.Contracts
