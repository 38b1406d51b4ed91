import Xaytune.Storage.Database

/-!
# The budget ledger

The checks a new effect passes and the entries a change is accounted with, each
inside the transaction that makes the change.
-/

namespace Xaytune.Storage

open Xaytune.Core Xaytune.Library
open Transaction (read write refuse require expect forEach)

/-! ## Owners -/

/-- Resolve a run's experiment, which an attempt does not carry. -/
def experimentOfRun (runId : String) : Repo String := do
  let run ← loadRow Run runId
  pure run.experimentId

def experimentOfEvaluationRun (runId : String) : Repo String := do
  let run ← loadRow EvaluationRun runId
  pure run.experimentId

/-- Resolve the experiment of a training or evaluation attempt. -/
def experimentOfAttempt (target : RuntimeOperationTarget) : Repo String :=
  match target.kind with
  | .trainingAttempt => do
      let found ← getRow RunAttempt target.id
      let attempt ← expect found (.unknownOperationTarget target.id)
      experimentOfRun attempt.runId
  | .evaluationAttempt => do
      let found ← getRow EvaluationAttempt target.id
      let attempt ← expect found (.unknownOperationTarget target.id)
      experimentOfEvaluationRun attempt.evaluationRunId

/-! ## Balances -/

/-- Every entry of an experiment. -/
def Db.entries (db : Db) (experimentId : String) : List BudgetLedgerEntry :=
  db.ledger.rows.filter fun entry => entry.experimentId = experimentId

/-- The one entry of a kind for a subject on a dimension, if written. -/
def Db.entryOf (db : Db) (subjectKind : BudgetSubjectKind) (subjectId : String)
    (dimension : BudgetDimension) (kind : LedgerEntryKind) : Option BudgetLedgerEntry :=
  db.ledger.find? ⟨subjectKind, subjectId, dimension, kind⟩

/-- The experiment's budget as the ledger stands. -/
def Db.budgetStatus (db : Db) (experiment : Experiment) : List DimensionStatus :=
  Core.budgetStatus experiment.budget (db.entries experiment.id)

/-- Why a used-up quota cannot cover a new effect; capacity is not judged here. -/
def budgetReason (newRun : Bool) (status : DimensionStatus) : Option String :=
  match status.dimension with
  | .parallelRuns => none
  | .runs =>
      if newRun && status.remaining < 1 then
        some ("runs: " ++ toString status.consumed ++ " consumed and " ++
          toString status.outstanding ++ " reserved of " ++ toString status.limit ++
          "; no run is left for another")
      else none
  | .failures =>
      if status.remaining ≤ 0 then
        some ("failures: " ++ toString status.consumed ++ " consumed of " ++ toString status.limit)
      else none

def budgetReasons (db : Db) (experiment : Experiment) (newRun : Bool) : List String :=
  (db.budgetStatus experiment).filterMap (budgetReason newRun)

/-- Refuse a new effect a used-up quota cannot cover. -/
def requireBudget (experimentId : String) (newRun : Bool) : Repo Unit := do
  let experiment ← loadRow Experiment experimentId
  let reasons ← read fun db => budgetReasons db experiment newRun
  require reasons.isEmpty (.budgetExhausted experimentId reasons)

/-- Refuse a training attempt while every parallel-run slot is held. -/
def requireCapacity (experimentId : String) : Repo Unit := do
  let experiment ← loadRow Experiment experimentId
  let slots ← read fun db => statusOf (db.budgetStatus experiment) .parallelRuns
  match slots with
  | none => pure ()
  | some slots =>
      require (slots.outstanding < slots.limit) (.capacityUnavailable experimentId slots.limit)

/-! ## Entries -/

/-- Write an entry, or find the identical one already written. -/
def appendEntry (entry : BudgetLedgerEntry) : Repo Unit := do
  let existing ← read fun db => db.ledger.find? entry.key
  match existing with
  | some stored =>
      require (stored.amount = entry.amount && stored.experimentId = entry.experimentId)
        (.ledgerConflict "settling it again would rewrite what happened")
  | none => insertInto Db.ledger (fun table db => { db with ledger := table }) entry

/-- Journal a consumption that took a quota past its limit, once, when it crosses. -/
def emitOverrun (experiment : Experiment) (before : List DimensionStatus)
    (dimension : BudgetDimension) (actor : Actor) (destinations : List String) : Repo Unit := do
  let after ← read fun db => db.budgetStatus experiment
  match statusOf before dimension, statusOf after dimension with
  | some was, some now =>
      if now.overrun && !was.overrun then
        emit experiment "BudgetOverrun" experiment.id actor destinations
          (.overrun dimension now.limit now.consumed)
      else pure ()
  | _, _ => pure ()

/-- Append one entry, if the dimension is limited and the amount is not nothing. -/
def ledger (experimentId : String) (dimension : BudgetDimension) (kind : LedgerEntryKind)
    (amount : Int) (subjectKind : BudgetSubjectKind) (subjectId : String) (actor : Actor)
    (destinations : List String) : Repo Unit := do
  let experiment ← loadRow Experiment experimentId
  if bounded : (limit? experiment.budget dimension).isSome ∧ 0 < amount then
    let before ← read fun db => db.budgetStatus experiment
    appendEntry ⟨experimentId, dimension, kind, amount, subjectKind, subjectId, bounded.2⟩
    if kind = .consume then emitOverrun experiment before dimension actor destinations
    else pure ()
  else pure ()

/-- Settle a subject's reservation on a dimension, if it holds one, with an entry of `kind`. -/
def settleReservation (experimentId : String) (dimension : BudgetDimension) (kind : LedgerEntryKind)
    (subjectKind : BudgetSubjectKind) (subjectId : String) (actor : Actor)
    (destinations : List String) : Repo Unit := do
  let reserved ← read fun db => db.entryOf subjectKind subjectId dimension .reserve
  match reserved with
  | none => pure ()
  | some reserved =>
      ledger experimentId dimension kind reserved.amount subjectKind subjectId actor destinations

/-- `_release`: give back a subject's reservation, if it holds one. -/
def release (experimentId : String) (dimension : BudgetDimension) (subjectKind : BudgetSubjectKind)
    (subjectId : String) (actor : Actor) (destinations : List String) : Repo Unit :=
  settleReservation experimentId dimension .release subjectKind subjectId actor destinations

/-- A training submission took effect: its slot and its run are committed. -/
def commitBudget (experimentId attemptId : String) (actor : Actor) (destinations : List String) :
    Repo Unit := do
  let attempt ← loadRow RunAttempt attemptId
  settleReservation experimentId .parallelRuns .commit .trainingAttempt attemptId actor destinations
  settleReservation experimentId .runs .commit .run attempt.runId actor destinations

/-- `_settle_attempt`: a failed attempt of either kind costs one failure. -/
def settleAttempt (experimentId : String) (subjectKind : BudgetSubjectKind) (attemptId : String)
    (failed : Bool) (actor : Actor) (destinations : List String) : Repo Unit :=
  if failed then
    ledger experimentId .failures .consume 1 subjectKind attemptId actor destinations
  else pure ()

/-- `_settle_budget` of a training attempt: a failure is counted, its slot released. -/
def settleRunAttempt (attempt : RunAttempt) (actor : Actor) (destinations : List String) :
    Repo Unit :=
  if attempt.isTerminal then do
    let experimentId ← experimentOfRun attempt.runId
    settleAttempt experimentId .trainingAttempt attempt.id (attempt.status = .failed) actor
      destinations
    release experimentId .parallelRuns .trainingAttempt attempt.id actor destinations
  else pure ()

/-- `_settle_budget` of an evaluation attempt: a failure is counted. -/
def settleEvaluationAttempt (attempt : EvaluationAttempt) (actor : Actor)
    (destinations : List String) : Repo Unit :=
  if attempt.isTerminal then do
    let experimentId ← experimentOfEvaluationRun attempt.evaluationRunId
    settleAttempt experimentId .evaluationAttempt attempt.id (attempt.status = .failed) actor
      destinations
  else pure ()

/-- `_settle_budget` of a run: committed is consumed, never submitted is released. -/
def settleRun (run : Run) (actor : Actor) (destinations : List String) : Repo Unit :=
  if run.isTerminal then do
    let reserved ← read fun db => db.entryOf .run run.id .runs .reserve
    match reserved with
    | none => pure ()
    | some reserved => do
        let committed ← read fun db => db.entryOf .run run.id .runs .commit
        match committed with
        | none => release run.experimentId .runs .run run.id actor destinations
        | some _ =>
            ledger run.experimentId .runs .consume reserved.amount .run run.id actor destinations
  else pure ()

/-! ## Transitions -/

/-- What `_apply_transition` needs to know of an aggregate. -/
class Transitionable (α : Type) [Stored α] where
  Status : Type
  withStatus : α → Status → Option α
  settleBudget : α → Actor → List String → Repo Unit
  owningExperiment : α → Repo String

instance : Transitionable Experiment where
  Status := ExperimentStatus
  withStatus := Experiment.withStatus
  settleBudget _ _ _ := pure ()
  owningExperiment experiment := pure experiment.id

instance : Transitionable ExperimentNode where
  Status := ExperimentNodeStatus
  withStatus := ExperimentNode.withStatus
  settleBudget _ _ _ := pure ()
  owningExperiment node := pure node.experimentId

instance : Transitionable Run where
  Status := RunStatus
  withStatus := Run.withStatus
  settleBudget := settleRun
  owningExperiment run := pure run.experimentId

instance : Transitionable RunAttempt where
  Status := RunAttemptStatus
  withStatus := RunAttempt.withStatus
  settleBudget := settleRunAttempt
  owningExperiment attempt := experimentOfRun attempt.runId

instance : Transitionable EvaluationRun where
  Status := EvaluationRunStatus
  withStatus := EvaluationRun.withStatus
  settleBudget _ _ _ := pure ()
  owningExperiment run := pure run.experimentId

instance : Transitionable EvaluationAttempt where
  Status := EvaluationAttemptStatus
  withStatus := EvaluationAttempt.withStatus
  settleBudget := settleEvaluationAttempt
  owningExperiment attempt := experimentOfEvaluationRun attempt.evaluationRunId

/-- A loaded row, if the revision is the one the caller read. -/
def loadAt (α : Type) [Stored α] (id : String) (expectedRevision : Nat) : Repo α := do
  let current ← loadRow α id
  require (Stored.revision current = expectedRevision)
    (.concurrentModification (Stored.label α) id expectedRevision)
  pure current

/-- `_apply_transition`: load, move, settle and journal one aggregate. -/
def applyTransition (α : Type) [Stored α] [Transitionable α] (id : String) (expectedRevision : Nat)
    (newStatus : Transitionable.Status α) (actor : Actor) (eventType : Option String)
    (destinations : List String) (afterWrite : α → Repo Unit := fun _ => pure ())
    (extra : EventExtra := .none) : Repo α := do
  let current ← loadAt α id expectedRevision
  let moved ← expect (Transitionable.withStatus current newStatus)
    (.invalidTransition (Stored.label α) (Stored.status current) "")
  updateRow moved
  afterWrite moved
  Transitionable.settleBudget moved actor destinations
  let owner ← Transitionable.owningExperiment moved
  emit moved (eventType.getD (Stored.label α ++ "StatusChanged")) owner actor destinations extra
  pure moved

end Xaytune.Storage
