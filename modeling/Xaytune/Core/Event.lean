import Xaytune.Core.Budget
import Xaytune.Core.Intervention

/-!
# Domain events

One recorded fact about an aggregate. An event names the aggregate by kind and
id and carries the revision it describes and the status the aggregate had there;
its sequence is its place in the journal, which the database assigns.
-/

namespace Xaytune.Core

/-- `aggregate_type`: the class of the aggregate an event is about. -/
inductive AggregateKind where
  | experiment | experimentNode | run | runAttempt | evaluationRun | evaluationAttempt
  | action | runtimeOperation
  deriving DecidableEq

/-- An aggregate as the journal names it. -/
structure AggregateKey where
  kind : AggregateKind
  id : String
  deriving DecidableEq

/-- The keys of an event's payload beside the status, for the readers that take them apart. -/
inductive EventExtra where
  | none
  | evaluationCycle (cycle : Nat)
  | toGeneration (generation : Nat)
  | overrun (dimension : BudgetDimension) (limit consumed : Int)
  | problems (problems : List String)
  | resolution (approver : Actor) (reason : String)
  | trainingIntervention (intervention : TrainingIntervention)
  | interventionApplication (runId : String) (application : InterventionApplication)
  | other (document : Document)
  deriving DecidableEq

structure DomainEvent where
  experimentId : String
  aggregate : AggregateKey
  aggregateRevision : Nat
  eventType : String
  actor : Actor
  status : String
  extra : EventExtra := .none

/-- A pending delivery of the event at a sequence to an external sink. -/
structure OutboxRecord where
  eventSequence : Nat
  destination : String

end Xaytune.Core
