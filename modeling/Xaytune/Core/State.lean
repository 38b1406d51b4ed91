import Mathlib.Data.List.Basic

/-!
# Lifecycles

The status of each control-plane aggregate and its transition table. A table is
data: the successors of every state. A terminal state is one without successors,
so nothing leaves it.
-/

namespace Xaytune.Core

inductive ExperimentStatus where
  | created | active | paused | succeeded | failed | cancelled | budgetExhausted
  deriving DecidableEq

inductive ExperimentNodeStatus where
  | created | planned | ready | active | evaluating | deciding
  | completed | rejected | cancelled | failed
  deriving DecidableEq

inductive RunStatus where
  | created | active | succeeded | failed | cancelled
  deriving DecidableEq

inductive RunAttemptStatus where
  | created | queued | starting | running | checkpointing | recovering
  | succeeded | failed | preempted | cancelled
  deriving DecidableEq

inductive EvaluationRunStatus where
  | created | active | succeeded | failed | cancelled
  deriving DecidableEq

inductive EvaluationAttemptStatus where
  | created | queued | starting | running | succeeded | failed | preempted | cancelled
  deriving DecidableEq

/-- Approval is a branch: `validated` may go straight to `executing`. -/
inductive ActionStatus where
  | proposed | validating | validated | approvalPending | approved
  | executing | succeeded | failed | rejected
  deriving DecidableEq

/-- `StrEnum` values: what a status is written as in a column and in an event. -/
class StatusValue (S : Type) where
  value : S → String

export StatusValue (value)

instance : StatusValue ExperimentStatus where
  value
    | .created => "created" | .active => "active" | .paused => "paused"
    | .succeeded => "succeeded" | .failed => "failed" | .cancelled => "cancelled"
    | .budgetExhausted => "budget_exhausted"

instance : StatusValue ExperimentNodeStatus where
  value
    | .created => "created" | .planned => "planned" | .ready => "ready" | .active => "active"
    | .evaluating => "evaluating" | .deciding => "deciding" | .completed => "completed"
    | .rejected => "rejected" | .cancelled => "cancelled" | .failed => "failed"

instance : StatusValue RunStatus where
  value
    | .created => "created" | .active => "active" | .succeeded => "succeeded"
    | .failed => "failed" | .cancelled => "cancelled"

instance : StatusValue RunAttemptStatus where
  value
    | .created => "created" | .queued => "queued" | .starting => "starting"
    | .running => "running" | .checkpointing => "checkpointing" | .recovering => "recovering"
    | .succeeded => "succeeded" | .failed => "failed" | .preempted => "preempted"
    | .cancelled => "cancelled"

instance : StatusValue EvaluationRunStatus where
  value
    | .created => "created" | .active => "active" | .succeeded => "succeeded"
    | .failed => "failed" | .cancelled => "cancelled"

instance : StatusValue EvaluationAttemptStatus where
  value
    | .created => "created" | .queued => "queued" | .starting => "starting"
    | .running => "running" | .succeeded => "succeeded" | .failed => "failed"
    | .preempted => "preempted" | .cancelled => "cancelled"

instance : StatusValue ActionStatus where
  value
    | .proposed => "proposed" | .validating => "validating" | .validated => "validated"
    | .approvalPending => "approval_pending" | .approved => "approved"
    | .executing => "executing" | .succeeded => "succeeded" | .failed => "failed"
    | .rejected => "rejected"

/-! ## Transition tables -/

/-- A transition table for one aggregate, named for its error messages. -/
structure StateMachine (S : Type) where
  aggregate : String
  initial : S
  transitions : S → List S

namespace StateMachine

variable {S : Type} [DecidableEq S]

/-- Whether the state has no outgoing transitions. -/
def isTerminal (machine : StateMachine S) (state : S) : Bool := (machine.transitions state).isEmpty

/-- Whether `current → requested` is in the table. -/
def can (machine : StateMachine S) (current requested : S) : Bool :=
  (machine.transitions current).contains requested

theorem not_terminal_of_can {machine : StateMachine S} {current requested : S}
    (permitted : machine.can current requested = true) : machine.isTerminal current = false := by
  unfold can at permitted
  unfold isTerminal
  cases targets : machine.transitions current with
  | nil => simp [targets] at permitted
  | cons => rfl

end StateMachine

def experimentMachine : StateMachine ExperimentStatus where
  aggregate := "Experiment"
  initial := .created
  transitions
    | .created => [.active, .cancelled]
    | .active => [.paused, .succeeded, .failed, .cancelled, .budgetExhausted]
    | .paused => [.active, .cancelled, .failed]
    | .succeeded | .failed | .cancelled | .budgetExhausted => []

def nodeMachine : StateMachine ExperimentNodeStatus where
  aggregate := "ExperimentNode"
  initial := .created
  transitions
    | .created => [.planned, .cancelled, .failed]
    | .planned => [.ready, .cancelled, .failed]
    | .ready => [.active, .cancelled, .failed]
    | .active => [.evaluating, .cancelled, .failed]
    | .evaluating => [.deciding, .cancelled, .failed]
    -- a decision may send the node back for another run, or close it out
    | .deciding => [.active, .completed, .rejected, .cancelled, .failed]
    | .completed | .rejected | .cancelled | .failed => []

def runMachine : StateMachine RunStatus where
  aggregate := "Run"
  initial := .created
  transitions
    | .created => [.active, .cancelled, .failed]
    | .active => [.succeeded, .failed, .cancelled]
    | .succeeded | .failed | .cancelled => []

def attemptMachine : StateMachine RunAttemptStatus where
  aggregate := "RunAttempt"
  initial := .created
  transitions
    | .created => [.queued, .cancelled, .failed]
    -- preemption is possible from here on: the runtime knows the workload
    | .queued => [.starting, .cancelled, .failed, .preempted]
    | .starting => [.running, .cancelled, .failed, .preempted]
    | .running => [.checkpointing, .recovering, .succeeded, .cancelled, .failed, .preempted]
    | .checkpointing => [.running, .recovering, .cancelled, .failed, .preempted]
    | .recovering => [.running, .cancelled, .failed, .preempted]
    | .succeeded | .failed | .preempted | .cancelled => []

def evaluationRunMachine : StateMachine EvaluationRunStatus where
  aggregate := "EvaluationRun"
  initial := .created
  transitions
    | .created => [.active, .cancelled, .failed]
    | .active => [.succeeded, .failed, .cancelled]
    | .succeeded | .failed | .cancelled => []

def evaluationAttemptMachine : StateMachine EvaluationAttemptStatus where
  aggregate := "EvaluationAttempt"
  initial := .created
  transitions
    | .created => [.queued, .cancelled, .failed]
    | .queued => [.starting, .cancelled, .failed, .preempted]
    | .starting => [.running, .cancelled, .failed, .preempted]
    | .running => [.succeeded, .cancelled, .failed, .preempted]
    | .succeeded | .failed | .preempted | .cancelled => []

def actionMachine : StateMachine ActionStatus where
  aggregate := "Action"
  initial := .proposed
  transitions
    | .proposed => [.validating, .rejected]
    | .validating => [.validated, .rejected]
    | .validated => [.executing, .approvalPending, .rejected]
    | .approvalPending => [.approved, .rejected]
    | .approved => [.executing, .rejected]
    | .executing => [.succeeded, .failed]
    | .succeeded | .failed | .rejected => []

end Xaytune.Core
