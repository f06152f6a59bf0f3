import Mathlib.Order.Basic
import Mathlib.Data.List.Basic
import Mathlib.Data.List.Nodup
import SanTanHeights.Foundation.Outcome

/-!
# Runs of labelled transition systems

A run records the labels of its steps, first step first.  Safety arguments
use one of two rules: an invariant of the state alone, or an invariant that
relates the state to the history of labels that led to it.
-/

namespace Foundation.Runs

variable {σ label : Type*}

/-- A run from one state to another, with the labels of its steps. -/
inductive Exec (step : σ → label → σ → Prop) : σ → List label → σ → Prop
  | nil (state : σ) : Exec step state [] state
  | cons {first next last : σ} {head : label} {tail : List label} :
      step first head next → Exec step next tail last → Exec step first (head :: tail) last

/-- The steps that meet a condition on their label and their start. -/
def Guarded (step : σ → label → σ → Prop) (condition : label → σ → Prop) :
    σ → label → σ → Prop :=
  fun before current after =>
    step before current after ∧ condition current before

variable {condition : label → σ → Prop}

namespace Exec

variable {step : σ → label → σ → Prop}
  {first middle last : σ} {left right : List label} {current : label}

/-- A single step is a run. -/
theorem single (taken : step first current last) : Exec step first [current] last :=
  .cons taken (.nil last)

/-- Runs compose. -/
theorem append (earlier : Exec step first left middle) (later : Exec step middle right last) :
    Exec step first (left ++ right) last := by
  induction earlier with
  | nil state => exact later
  | cons taken _ ih =>
      exact .cons taken (ih later)

/-- A run over a concatenation passes through an intermediate state. -/
theorem split (run : Exec step first (left ++ right) last) :
    ∃ middle, Exec step first left middle ∧ Exec step middle right last := by
  induction left generalizing first with
  | nil => exact ⟨first, .nil first, run⟩
  | cons head tail ih =>
      cases run with
      | cons taken rest =>
          obtain ⟨middle, earlier, later⟩ := ih rest
          exact ⟨middle, .cons taken earlier, later⟩

/-- The step of a run at a marked position. -/
theorem split_cons (run : Exec step first (left ++ current :: right) last) :
    ∃ before after, Exec step first left before ∧
      step before current after ∧ Exec step after right last := by
  obtain ⟨before, earlier, rest⟩ := run.split
  cases rest with
  | cons taken later => exact ⟨before, _, earlier, taken, later⟩

/-- The last step of a nonempty run. -/
theorem split_concat (run : Exec step first (left ++ [current]) last) :
    ∃ before, Exec step first left before ∧ step before current last := by
  obtain ⟨before, after, earlier, taken, rest⟩ := run.split_cons
  cases rest
  exact ⟨before, earlier, taken⟩

/-- State invariants hold at the end of every run. -/
theorem invariant {property : σ → Prop} (run : Exec step first left last)
    (initial : property first)
    (preserved : ∀ before current after, property before →
      step before current after → property after) :
    property last := by
  induction run with
  | nil state => exact initial
  | cons taken _ ih =>
      exact ih (preserved _ _ _ initial taken)

/-- Invariants that relate a state to the labels of the run reaching it. -/
theorem history_invariant {property : List label → σ → Prop}
    (run : Exec step first left last) (initial : property [] first)
    (preserved : ∀ history before current after, property history before →
      step before current after → property (history ++ [current]) after) :
    property left last := by
  suffices general : ∀ history, property history first →
      property (history ++ left) last by
    simpa using general [] initial
  clear initial
  induction run with
  | nil state =>
      intro history holds
      simpa using holds
  | cons taken _ ih =>
      intro history holds
      have extended := preserved _ _ _ _ holds taken
      simpa using ih _ extended

/-- A guarded run is a run. -/
theorem of_guarded (run : Exec (Guarded step condition) first left last) :
    Exec step first left last := by
  induction run with
  | nil state => exact .nil state
  | cons taken _ ih =>
      exact .cons taken.1 ih

/-- Where the label of a step determines its outcome, the labels of a run
determine its end. -/
theorem deterministic {last' : σ}
    (determined : ∀ {before current after other}, step before current after →
      step before current other → after = other)
    (run : Exec step first left last) (other : Exec step first left last') :
    last = last' := by
  induction run with
  | nil state =>
      cases other
      rfl
  | cons taken _ ih =>
      cases other with
      | cons otherTaken rest =>
          obtain rfl := determined taken otherTaken
          exact ih rest

/-- A property that a step keeps exactly when it meets a condition, given the
run that led to it, holds after every run whose steps meet it, and each further
step decides anew. -/
theorem guarded_reachable (property : σ → Prop)
    (run : Exec (Guarded step condition) first left last) (initial : property first)
    (decides : ∀ history before current after, Exec step first history before →
      property before → step before current after → (property after ↔ condition current before)) :
    property last ∧ ∀ current after, step last current after →
      (property after ↔ condition current last) := by
  have holds : Exec step first left last ∧ property last := by
    apply run.history_invariant
    · exact ⟨.nil first, initial⟩
    · intro history before current after held taken
      have kept := decides history before current after held.1 held.2 taken.1
      exact ⟨held.1.append (.single taken.1), kept.mpr taken.2⟩
  refine ⟨holds.2, fun current after taken => ?_⟩
  exact decides left last current after holds.1 holds.2 taken

/-- The same where what a step keeps does not depend on the run. -/
theorem guarded_invariant (property : σ → Prop)
    (run : Exec (Guarded step condition) first left last) (initial : property first)
    (decides : ∀ before current after, property before →
      step before current after → (property after ↔ condition current before)) :
    property last ∧ ∀ current after, step last current after →
      (property after ↔ condition current last) :=
  run.guarded_reachable property initial
    fun _ before current after _ => decides before current after

/-- Every label of a run belongs to some step of it. -/
theorem step_of_mem (run : Exec step first left last) (present : current ∈ left) :
    ∃ before after, step before current after := by
  obtain ⟨earlier, later, rfl⟩ := List.append_of_mem present
  obtain ⟨before, after, _, taken, _⟩ := run.split_cons
  exact ⟨before, after, taken⟩

/-- A run that is computed step by step. -/
theorem of_foldlM {ε : Type*} {σ : Type} {step : σ → label → σ → Prop}
    {f : σ → label → Except ε σ}
    (sound : ∀ before current after, f before current = .ok after → step before current after)
    {labels : List label} {first last : σ} (ran : labels.foldlM f first = .ok last) :
    Exec step first labels last := by
  induction labels generalizing first with
  | nil =>
      cases ran
      exact .nil _
  | cons current labels ih =>
      obtain ⟨next, taken, rest⟩ := Outcome.bind_eq_ok.mp ran
      exact .cons (sound _ _ _ taken) (ih rest)

end Exec

/-!
## Ratchets

An observation of the state that no step lowers is not lowered by a run.  It
is enough that the steps whose label is permitted do not lower it, when every
label of the run is.
-/

variable {α : Type*} [Preorder α]

/-- Steps with a permitted label do not lower an observation of the state. -/
def Ratchet (step : σ → label → σ → Prop) (permitted : label → Prop) (observe : σ → α) : Prop :=
  ∀ before current after, permitted current → step before current after →
    observe before ≤ observe after

variable {step : σ → label → σ → Prop} {permitted : label → Prop}
  {observe : σ → α}

/-- A run of permitted steps does not lower the observation. -/
theorem Ratchet.run {first last : σ} {labels : List label}
    (ratchet : Ratchet step permitted observe) (run : Exec step first labels last)
    (each : ∀ current ∈ labels, permitted current) :
    observe first ≤ observe last := by
  induction run with
  | nil state => exact le_rfl
  | cons taken _ ih =>
      rw [List.forall_mem_cons] at each
      exact (ratchet _ _ _ each.1 taken).trans (ih each.2)

end Foundation.Runs

/-!
## Chains of rows

A row leads from one state to another.  Rows form a chain when each starts
where the one before it ends.  Where a chain starts and its rows determine
where it ends.
-/

namespace Foundation.Chains

variable {σ ρ : Type*} (source target : ρ → σ)

/-- Rows that lead from a state to another without a gap. -/
def Leads : σ → List ρ → σ → Prop
  | first, [], last => first = last
  | first, row :: rows, last =>
      source row = first ∧ Leads (target row) rows last

variable {source target} {first middle last last' : σ} {rows : List ρ}

/-- A chain grows at its end by a row that starts there. -/
theorem leads_concat_iff (row : ρ) :
    Leads source target first (rows ++ [row]) last ↔
      Leads source target first rows (source row) ∧ target row = last := by
  induction rows generalizing first with
  | nil => simp only [List.nil_append, Leads, eq_comm]
  | cons head rows ih =>
      simp only [List.cons_append, Leads, ih, and_assoc]

/-- The end of a chain is determined. -/
theorem Leads.unique (leads : Leads source target first rows last)
    (other : Leads source target first rows last') :
    last = last' := by
  induction rows generalizing first with
  | nil => exact leads.symm.trans other
  | cons row rows ih =>
      exact ih leads.2 other.2

end Foundation.Chains

/-!
## At most once per key

Every handled request leaves a receipt under its key, and a request is carried
out only where no receipt has its key yet.  Then no two requests that are
carried out share a key.
-/

namespace Foundation

variable {Receipt Request Key : Type*}

/-- The requests carried out have distinct keys, and each has a receipt. -/
structure OncePerKey (receiptKey : Receipt → Key) (requestKey : Request → Key)
    (receipts : List Receipt) (carriedOut : List Request) : Prop where
  distinct : (carriedOut.map requestKey).Nodup
  recorded : ∀ request ∈ carriedOut, ∃ receipt ∈ receipts, receiptKey receipt = requestKey request

namespace OncePerKey

variable {receiptKey : Receipt → Key} {requestKey : Request → Key}
  {receipts : List Receipt} {carriedOut : List Request}

theorem nil : OncePerKey receiptKey requestKey [] [] where
  distinct := List.nodup_nil
  recorded _ listed := absurd listed List.not_mem_nil

/-- A further receipt keeps the requests carried out as they are. -/
theorem record (once : OncePerKey receiptKey requestKey receipts carriedOut)
    (receipt : Receipt) :
    OncePerKey receiptKey requestKey (receipts ++ [receipt]) carriedOut where
  distinct := once.distinct
  recorded request listed := by
    obtain ⟨earlier, present, same⟩ := once.recorded request listed
    exact ⟨earlier, List.mem_append_left _ present, same⟩

/-- A request under a key of no receipt is carried out. -/
theorem carryOut (once : OncePerKey receiptKey requestKey receipts carriedOut)
    {receipt : Receipt} {request : Request} (keyed : receiptKey receipt = requestKey request)
    (fresh : ∀ earlier ∈ receipts, receiptKey earlier ≠ requestKey request) :
    OncePerKey receiptKey requestKey (receipts ++ [receipt]) (carriedOut ++ [request]) where
  distinct := by
    rw [List.map_append, List.nodup_append]
    refine ⟨once.distinct, List.nodup_singleton _, ?_⟩
    rintro key listed other single rfl
    obtain ⟨old, present, rfl⟩ := List.mem_map.mp listed
    obtain ⟨earlier, recorded, same⟩ := once.recorded old present
    rw [List.map_singleton, List.mem_singleton] at single
    exact fresh earlier recorded (same.trans single)
  recorded := by
    intro other listed
    rcases List.mem_append.mp listed with old | new
    · exact (once.record receipt).recorded other old
    · rw [List.mem_singleton.mp new]
      exact ⟨receipt, List.mem_concat_self, keyed⟩

/-- Where all requests carried out share a key, there is at most one. -/
theorem length_le_one (once : OncePerKey receiptKey requestKey receipts carriedOut)
    (shared : ∀ left ∈ carriedOut, ∀ right ∈ carriedOut, requestKey left = requestKey right) :
    carriedOut.length ≤ 1 := by
  have distinct := once.distinct
  match carriedOut, shared, distinct with
  | [], _, _ => simp
  | [_], _, _ => simp
  | first :: second :: rest, shared, distinct =>
      rw [List.map_cons, List.nodup_cons] at distinct
      exact absurd (List.mem_map.mpr ⟨second, List.mem_cons_self,
        shared second (by simp) first (by simp)⟩) distinct.1

end OncePerKey

end Foundation

/-!
## Transactions at READ COMMITTED

Transactions that are interleaved statement by statement: what can happen to
one, and how it ended.
-/

namespace Foundation.ReadCommitted

inductive Status where
  | active
  | committed
  | rolledBack
  deriving DecidableEq

inductive Action where
  | advance
  | commit
  | rollBack
  deriving DecidableEq

end Foundation.ReadCommitted
