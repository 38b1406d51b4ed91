import Xaytune.Storage.Execution

/-!
# Governed actions

A proposed action is validated, judged by policy and recorded in one commit, which
applies nothing; an action awaiting approval is resolved by a human, once. A
recovery decision binds its action in the same commit.
-/

namespace Xaytune.Storage

open Xaytune.Core Xaytune.Library
open Transaction (read write refuse require expect forEach)

/-- Who validates a proposed action: the control plane itself. -/
def governance : Actor := ⟨"system", "governance", ""⟩

/-- Where each verdict leaves a validated action; `ALLOW` moves nothing. -/
def verdictStatus : PolicyVerdict → ActionStatus
  | .allow => .validated
  | .deny => .rejected
  | .requireApproval => .approvalPending

def verdictEvent : PolicyVerdict → String
  | .allow => "ActionAuthorized"
  | .deny => "ActionRejected"
  | .requireApproval => "ActionApprovalPending"

/-- An action as governance left it: its decision, or why validation refused it. -/
structure GovernedAction where
  action : Action
  decision : Option PolicyDecision := none
  problems : List String := []

def Db.decisionForAction (db : Db) (actionId : String) : Option PolicyDecision :=
  db.policyDecisions.rows.find? fun decision => decision.actionId = actionId

def Db.governed (db : Db) (action : Action) : GovernedAction :=
  match db.decisionForAction action.id with
  | some decision => ⟨action, some decision, []⟩
  | none =>
      ⟨action, none, ((db.eventsFor ⟨.action, action.id⟩).filterMap fun event =>
        match event.extra with
        | .problems problems => if event.eventType = "ActionRejected" then some problems else none
        | _ => none).getLast?.getD []⟩

def governedAction (actionId : String) : Repo GovernedAction := do
  let action ← loadRow Action actionId
  read fun db => db.governed action

/-! ## Recording an action -/

/-- The fields of two actions under one id that differ. -/
def actionDiffers (existing requested : Action) : List String :=
  (if existing.type = requested.type then [] else ["type"]) ++
    (if existing.target = requested.target then [] else ["target"]) ++
    (if existing.experimentId = requested.experimentId then [] else ["experiment_id"]) ++
    (if existing.proposedBy = requested.proposedBy then [] else ["proposed_by"]) ++
    (if existing.reason = requested.reason then [] else ["reason"]) ++
    (if existing.payload = requested.payload then [] else ["payload"]) ++
    (if existing.parentActionId = requested.parentActionId then [] else ["parent_action_id"])

def assertSameAction (existing requested : Action) : Repo Unit :=
  require (actionDiffers existing requested).isEmpty
    (.idempotencyConflict existing.id (actionDiffers existing requested) "action")

/-- `_insert`: a payload nobody can check never becomes durable intent. -/
def insertAction (checks : Checks) (action : Action) : Repo Unit := do
  require (checks.validIntent action) (.domain "the payload does not validate")
  requireReference Db.experiments action.experimentId
  insertRow action

/-- A recovery decision's binding, checked and written with the action. -/
structure BoundRecoveryProposal where
  actionId : String
  spec : ActionSpec
  replay : Repo (Option GovernedAction)
  requireCurrent : Repo Unit
  insert : Repo Unit

/-- What was read and answered before the transaction: the snapshot judged, and the verdict. -/
structure Judgement where
  contextFingerprint : String
  proposal : PolicyProposal

structure ActionRequest where
  actionId : String
  spec : ActionSpec
  experimentId : String
  proposedBy : Actor
  reason : String
  capabilities : Document

def ActionRequest.action (request : ActionRequest) : Action :=
  { id := request.actionId, experimentId := request.experimentId, type := request.spec.type,
    target := request.spec.target, proposedBy := request.proposedBy, reason := request.reason,
    payload := request.spec.payload }

/-- The action already recorded under the request's id, if there is one. -/
def replayGoverned (bound : Option BoundRecoveryProposal) (action : Action) :
    Repo (Option GovernedAction) := do
  let replayed ←
    match bound with
    | none => pure none
    | some bound => bound.replay
  match replayed with
  | some governed => pure (some governed)
  | none => do
      let existing ← getRow Action action.id
      match existing with
      | none => pure none
      | some existing => do
          assertSameAction existing action
          require bound.isNone (.idempotencyConflict action.id ["recovery binding"] "Action")
          let governed ← read fun db => db.governed existing
          pure (some governed)

/-- One decision for each action. -/
def insertPolicyDecision (decision : PolicyDecision) : Repo Unit := do
  let taken ← read fun db => (db.decisionForAction decision.actionId).isSome
  require (!taken) (.integrity "UNIQUE action_id")
  requireReference Db.actions decision.actionId
  insertInto Db.policyDecisions (fun table db => { db with policyDecisions := table }) decision

/-- File the verdict on a `VALIDATED` action: the decision and where it leaves the action. -/
def governAction (validated : Action) (proposal : PolicyProposal) (decisionId : String)
    (capabilities : Document) (destinations : List String) : Repo GovernedAction := do
  let engine : Actor := ⟨"rule", "policy:" ++ proposal.engineName, proposal.engineVersion⟩
  let decision : PolicyDecision :=
    ⟨decisionId, validated.id, proposal.verdict, capabilities, proposal.content⟩
  insertPolicyDecision decision
  let governed ← expect (validated.governedBy decision.id (verdictStatus proposal.verdict))
    (.invalidTransition "Action" (value validated.status)
      (value (verdictStatus proposal.verdict)))
  updateRow governed
  emit governed (verdictEvent proposal.verdict) governed.experimentId engine destinations
    (.other decision.id)
  pure ⟨governed, some decision, []⟩

/-- What follows once an action and its binding are written: its validation and its verdict. -/
def judgeProposed (request : ActionRequest) (judgement : Judgement) (decisionId : String)
    (destinations : List String) (problems : List String) : Repo GovernedAction := do
  emit request.action "ActionProposed" request.action.experimentId request.proposedBy destinations
    (.other request.reason)
  let validating ← settleAction request.action .validating none "ActionValidating"
    request.proposedBy destinations
  if problems ≠ [] then do
    let rejected ← settleAction validating .rejected none "ActionRejected" governance
      destinations (.problems problems)
    pure ⟨rejected, none, problems⟩
  else do
    require (judgement.proposal.inputFingerprint = judgement.contextFingerprint)
      (.provenance "the engine claims another input")
    let validated ← settleAction validating .validated none "ActionValidated" governance
      destinations
    governAction validated judgement.proposal decisionId request.capabilities destinations

/-- Judge a new action on the state it is written into, with its binding. -/
def recordProposed (checks : Checks) (request : ActionRequest) (judgement : Judgement)
    (decisionId : String) (destinations : List String)
    (bound : Option BoundRecoveryProposal) : Repo GovernedAction := do
  let experiment ← loadRow Experiment request.experimentId
  let current ← read fun db => checks.policyContext db request.spec experiment
    request.proposedBy request.capabilities
  require (current = judgement.contextFingerprint)
    (.stalePolicyContext "the state the action was judged against changed")
  let problems ← read fun db => checks.applicabilityProblems db request.spec experiment
    request.proposedBy request.capabilities
  insertAction checks request.action
  match bound with
  | none => pure ()
  | some bound => bound.insert
  judgeProposed request judgement decisionId destinations problems

/-- Validate, authorize and record one proposed action, in one commit; applies nothing. -/
def proposeAction (checks : Checks) (request : ActionRequest) (judgement : Judgement)
    (decisionId : String) (destinations : List String)
    (bound : Option BoundRecoveryProposal := none) : Repo GovernedAction := do
  let action := request.action
  require (!action.isCancellation) (.cancellationNotGoverned action.type)
  require (bound.all fun bound => bound.actionId = action.id && bound.spec = request.spec)
    (.provenance "recovery Action spec or id disagrees with its binding")
  let replayed ← replayGoverned bound action
  match replayed with
  | some governed => pure governed
  | none => do
      match bound with
      | none => pure ()
      | some bound => bound.requireCurrent
      recordProposed checks request judgement decisionId destinations bound

/-! ## Approval -/

/-- The first human answer on record, with the event it was given as. -/
def Db.humanResolution (db : Db) (actionId : String) : Option (String × Actor × String) :=
  (db.eventsFor ⟨.action, actionId⟩).findSome? fun event =>
    match event.extra with
    | .resolution approver reason =>
        if event.eventType = "ActionApproved" ∨ event.eventType = "ActionApprovalDenied" then
          some (event.eventType, approver, reason)
        else none
    | _ => none

/-- `_resolve_approval`: a human answers an action awaiting approval, once. -/
def resolveApproval (actionId : String) (approver : Actor) (reason : String)
    (newStatus : ActionStatus) (eventType : String) (destinations : List String) : Repo Action := do
  require (approver.type = "human")
    (.approval "only a human approves or rejects an action awaiting approval")
  require (!(reason.toList.all Char.isWhitespace)) (.approval "an approval or rejection says why")
  let action ← loadRow Action actionId
  if action.status = .approvalPending then
    settleAction action newStatus none eventType approver destinations (.resolution approver reason)
  else do
    let given ← read fun db => db.humanResolution action.id
    let given ← expect given (.approval "the action is not awaiting approval")
    require (given.1 = eventType && given.2.1.type = approver.type &&
        given.2.1.id = approver.id && given.2.2 = reason)
      (.approvalConflict "the action is not resolved again")
    pure action

def approveAction (actionId : String) (approver : Actor) (reason : String)
    (destinations : List String) : Repo Action :=
  resolveApproval actionId approver reason .approved "ActionApproved" destinations

def rejectAction (actionId : String) (approver : Actor) (reason : String)
    (destinations : List String) : Repo Action :=
  resolveApproval actionId approver reason .rejected "ActionApprovalDenied" destinations

end Xaytune.Storage
