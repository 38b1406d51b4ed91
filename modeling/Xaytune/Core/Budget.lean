import Mathlib.Algebra.BigOperators.Group.List.Basic
import Mathlib.Algebra.Ring.Int.Defs
import Xaytune.Core.Aggregates

/-!
# Budgets

What each enforced limit bounds, the append-only ledger entries that account
for it, and the balance of a dimension derived from the entries alone.
-/

namespace Xaytune.Core

inductive BudgetDimension where
  | runs | parallelRuns | failures
  deriving DecidableEq

/-- Held and given back, never spent: a full capacity means wait, not exhaustion. -/
def BudgetDimension.isCapacity (dimension : BudgetDimension) : Bool := dimension = .parallelRuns

inductive LedgerEntryKind where
  | reserve | commit | consume | release
  deriving DecidableEq

/-- What an entry is about: a training run, or an attempt of either kind. -/
inductive BudgetSubjectKind where
  | run | trainingAttempt | evaluationAttempt
  deriving DecidableEq

/-- One consequence, for one subject, on one dimension; an amount is never nothing. -/
structure BudgetLedgerEntry where
  experimentId : String
  dimension : BudgetDimension
  kind : LedgerEntryKind
  amount : Int
  subjectKind : BudgetSubjectKind
  subjectId : String
  amount_pos : 0 < amount

/-- Settling the same thing twice writes nothing the second time: this identifies an entry. -/
structure LedgerKey where
  subjectKind : BudgetSubjectKind
  subjectId : String
  dimension : BudgetDimension
  kind : LedgerEntryKind
  deriving DecidableEq

def BudgetLedgerEntry.key (entry : BudgetLedgerEntry) : LedgerKey :=
  ⟨entry.subjectKind, entry.subjectId, entry.dimension, entry.kind⟩

/-- The enforced limit of a dimension; an unset dimension is unlimited. -/
def limit? (spec : Option BudgetSpec) (dimension : BudgetDimension) : Option Int :=
  spec.bind fun budget =>
    match dimension with
    | .runs => budget.maxRuns.map Int.ofNat
    | .parallelRuns => budget.maxParallelRuns.map Int.ofNat
    | .failures => budget.maxFailures.map Int.ofNat

/-- The dimensions a budget bounds, with their limits. -/
def limits (spec : Option BudgetSpec) : List (BudgetDimension × Int) :=
  [BudgetDimension.runs, .parallelRuns, .failures].filterMap fun dimension =>
    (limit? spec dimension).map fun limit => (dimension, limit)

/-- The sum of the entries of one kind on one dimension. -/
def ledgerTotal (entries : List BudgetLedgerEntry) (dimension : BudgetDimension)
    (kind : LedgerEntryKind) : Int :=
  ((entries.filter fun entry => entry.dimension = dimension ∧ entry.kind = kind).map
    BudgetLedgerEntry.amount).sum

/-- One dimension's balance; `remaining` may be negative. -/
structure DimensionStatus where
  dimension : BudgetDimension
  limit : Int
  reserved : Int
  committed : Int
  consumed : Int
  released : Int
  outstanding : Int
  remaining : Int

/-- A quota with nothing left. A capacity is never exhausted, only full. -/
def DimensionStatus.exhausted (status : DimensionStatus) : Bool :=
  !status.dimension.isCapacity && status.remaining ≤ 0

/-- More was consumed than the limit allows. Reaching it exactly is not an overrun. -/
def DimensionStatus.overrun (status : DimensionStatus) : Bool := status.consumed > status.limit

/-- The balance of one dimension under a limit. -/
def dimensionStatus (entries : List BudgetLedgerEntry) (dimension : BudgetDimension) (limit : Int) :
    DimensionStatus :=
  let reserved := ledgerTotal entries dimension .reserve
  let consumed := ledgerTotal entries dimension .consume
  let released := ledgerTotal entries dimension .release
  let outstanding := max (reserved - consumed - released) 0
  { dimension := dimension
    limit := limit
    reserved := reserved
    committed := ledgerTotal entries dimension .commit
    consumed := consumed
    released := released
    outstanding := outstanding
    remaining := limit - consumed - outstanding }

/-- The balance of each limited dimension, from the ledger's entries alone. -/
def budgetStatus (spec : Option BudgetSpec) (entries : List BudgetLedgerEntry) :
    List DimensionStatus :=
  (limits spec).map fun bound => dimensionStatus entries bound.1 bound.2

/-- The balance of one dimension, if it is limited. -/
def statusOf (statuses : List DimensionStatus) (dimension : BudgetDimension) :
    Option DimensionStatus :=
  statuses.find? fun status => status.dimension = dimension

theorem statusOf_budgetStatus (spec : Option BudgetSpec) (entries : List BudgetLedgerEntry)
    (dimension : BudgetDimension) :
    statusOf (budgetStatus spec entries) dimension =
      (limit? spec dimension).map (dimensionStatus entries dimension) := by
  unfold statusOf budgetStatus limits
  cases runs : limit? spec .runs <;> cases slots : limit? spec .parallelRuns <;>
    cases failures : limit? spec .failures <;> cases dimension <;>
    simp [runs, slots, failures, dimensionStatus]

end Xaytune.Core
