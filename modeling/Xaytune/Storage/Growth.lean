import Xaytune.Storage.Writes

/-!
# What no write undoes

A stored row is never removed: it keeps what identifies it, it only moves along its
lifecycle, and once it has ended its status is settled. Records beside the
aggregates, ledger entries and events are never changed.
-/

namespace Xaytune.Storage

open Xaytune.Core Xaytune.Library

/-! ## Later rows -/

def ExperimentLater (old new : Experiment) : Prop :=
  ∃ status best revision,
    new = { old with status := status, bestNodeId := best, revision := revision } ∧
      (old.isTerminal = true → status = old.status)

def NodeLater (old new : ExperimentNode) : Prop :=
  ∃ status cycle decisions revision,
    new = { old with
      status := status, evaluationCycle := cycle, decisionIds := decisions
      revision := revision } ∧
      (old.isTerminal = true → status = old.status)

def RunLater (old new : Run) : Prop :=
  ∃ status revision, new = { old with status := status, revision := revision } ∧
    (old.isTerminal = true → status = old.status)

def AttemptLater (old new : RunAttempt) : Prop :=
  ∃ status artifacts revision,
    new = { old with status := status, artifactRefs := artifacts, revision := revision } ∧
      (old.isTerminal = true → status = old.status)

def EvaluationRunLater (old new : EvaluationRun) : Prop :=
  ∃ status revision, new = { old with status := status, revision := revision } ∧
    (old.isTerminal = true → status = old.status)

def EvaluationAttemptLater (old new : EvaluationAttempt) : Prop :=
  ∃ status revision, new = { old with status := status, revision := revision } ∧
    (old.isTerminal = true → status = old.status)

/-- An action is one value at each of its revisions. -/
def ActionLater (old new : Action) : Prop :=
  ∃ status outcome decision revision,
    new = { old with
      status := status, outcome := outcome, policyDecisionId := decision
      revision := revision } ∧
      old.revision ≤ revision ∧ (revision = old.revision → new = old) ∧
      (old.isTerminal = true → new = old)

def OperationLater (old new : RuntimeOperation) : Prop :=
  ∃ state ref revision,
    new = { old with state := state, runtimeRef := ref, revision := revision } ∧
      (old.isTerminal = true → state = old.state)

/-- A request keeps what was asked and is one value at each of its revisions; once it has left
`PENDING` only its completion is open. -/
def RequestLater (old new : ControllerRequest) : Prop :=
  ∃ state error revision,
    new = { old with state := state, error := error, revision := revision } ∧
      old.revision ≤ revision ∧ (revision = old.revision → new = old) ∧
      (old.state = .failed → state = .failed) ∧ (old.state = .completed → state = .completed) ∧
      (old.state = .accepted → state = .accepted ∨ state = .completed)

/-- An invocation keeps what was asked; a closed one stays as it is, an answered one answered. -/
def InvocationLater (old new : AgentInvocation) : Prop :=
  ∃ status response failure proposal revision,
    new = { old with
      status := status, response := response, failure := failure, proposal := proposal
      revision := revision } ∧
      (agentInvocationMachine.isTerminal old.status = true → new = old) ∧
      (old.status = .answered → status.replayed = true)

/-- The lexicographic order of stream positions. -/
def PositionLE (first second : Nat × Int) : Prop :=
  first.1 < second.1 ∨ (first.1 = second.1 ∧ first.2 ≤ second.2)

section Lifecycles

variable {S : Type} [DecidableEq S] {machine : StateMachine S} {current requested : S}

theorem status_of_terminal_can {claim : Prop} (permitted : machine.can current requested = true)
    (ended : machine.isTerminal current = true) : claim := by
  have open_ := StateMachine.not_terminal_of_can permitted
  rw [open_] at ended
  cases ended

omit [DecidableEq S] in
theorem settled_trans {next : S} (kept : machine.isTerminal current = true → requested = current)
    (kept' : machine.isTerminal requested = true → next = requested)
    (ended : machine.isTerminal current = true) : next = current := by
  obtain rfl := kept ended
  exact kept' ended

end Lifecycles

theorem ExperimentMoves.later {old new : Experiment} (moved : ExperimentMoves old new) :
    ExperimentLater old new := by
  obtain ⟨status, best, permitted, rfl⟩ := moved
  exact ⟨status, best, _, rfl, status_of_terminal_can permitted⟩

theorem NodeMoves.later {old new : ExperimentNode} (moved : NodeMoves old new) :
    NodeLater old new := by
  obtain ⟨status, cycle, decisions, permitted, rfl⟩ := moved
  exact ⟨status, cycle, decisions, _, rfl, status_of_terminal_can permitted⟩

theorem RunMoves.later {old new : Run} (moved : RunMoves old new) : RunLater old new := by
  obtain ⟨status, permitted, rfl⟩ := moved
  exact ⟨status, _, rfl, status_of_terminal_can permitted⟩

theorem AttemptMoves.later {old new : RunAttempt} (moved : AttemptMoves old new) :
    AttemptLater old new := by
  obtain ⟨status, artifacts, permitted | same, rfl⟩ := moved
  · exact ⟨status, artifacts, _, rfl, status_of_terminal_can permitted⟩
  · exact ⟨status, artifacts, _, rfl, fun _ => same⟩

theorem EvaluationRunMoves.later {old new : EvaluationRun} (moved : EvaluationRunMoves old new) :
    EvaluationRunLater old new := by
  obtain ⟨status, permitted, rfl⟩ := moved
  exact ⟨status, _, rfl, status_of_terminal_can permitted⟩

theorem EvaluationAttemptMoves.later {old new : EvaluationAttempt}
    (moved : EvaluationAttemptMoves old new) : EvaluationAttemptLater old new := by
  obtain ⟨status, permitted, rfl⟩ := moved
  exact ⟨status, _, rfl, status_of_terminal_can permitted⟩

theorem ActionMoves.not_terminal {old new : Action} (moved : ActionMoves old new) :
    old.isTerminal = false := by
  obtain ⟨status, outcome, decision, permitted | ⟨_, validated⟩, rfl⟩ := moved
  · exact StateMachine.not_terminal_of_can permitted
  · rw [Action.isTerminal, validated]
    rfl

theorem ActionMoves.later {old new : Action} (moved : ActionMoves old new) :
    ActionLater old new := by
  have open_ := moved.not_terminal
  obtain ⟨status, outcome, decision, _, rfl⟩ := moved
  refine ⟨status, outcome, decision, _, rfl, Nat.le_succ _, ?_, ?_⟩
  · intro same
    exact absurd same (Nat.succ_ne_self _)
  · intro ended
    rw [open_] at ended
    cases ended

theorem OperationMoves.later {old new : RuntimeOperation} (moved : OperationMoves old new) :
    OperationLater old new := by
  obtain ⟨state, ref, permitted, rfl⟩ := moved
  exact ⟨state, ref, _, rfl, status_of_terminal_can permitted⟩

/-- What a request's copy changes, and from where it may be taken. -/
theorem request_withState_eq {old new : ControllerRequest} {state : ControllerRequestState}
    {error : Option Document} (moved : old.withState state error = some new) :
    new = { old with state := state, error := error, revision := old.revision + 1 } ∧
      (old.state = .pending ∨ (old.state = .accepted ∧ state = .completed)) := by
  unfold ControllerRequest.withState at moved
  split at moved
  · rename_i permitted
    cases moved
    refine ⟨rfl, ?_⟩
    cases kind : old.kind <;> cases stands : old.state <;>
      simp_all [ControllerRequest.allowed]
  · cases moved

theorem RequestLater.of_withState {old new : ControllerRequest} {state : ControllerRequestState}
    {error : Option Document} (moved : old.withState state error = some new) :
    RequestLater old new := by
  obtain ⟨rfl, from_⟩ := request_withState_eq moved
  refine ⟨state, error, _, rfl, Nat.le_succ _, fun same => absurd same (Nat.succ_ne_self _), ?_⟩
  rcases from_ with pending | ⟨accepted, rfl⟩
  · simp [pending]
  · simp [accepted]

theorem InvocationMoves.later {old new : AgentInvocation} (moved : InvocationMoves old new) :
    InvocationLater old new := by
  obtain ⟨status, response, failure, proposal, permitted, rfl⟩ := moved
  refine ⟨status, response, failure, proposal, _, rfl, status_of_terminal_can permitted, ?_⟩
  intro answered
  rw [answered] at permitted
  cases status <;> first | rfl | cases permitted

/-! ## The record only grows -/

/-- What every write keeps of the database before it. -/
structure Grows (db db' : Db) : Prop where
  experiments : db.experiments.Persists ExperimentLater db'.experiments
  nodes : db.nodes.Persists NodeLater db'.nodes
  runs : db.runs.Persists RunLater db'.runs
  attempts : db.attempts.Persists AttemptLater db'.attempts
  evaluationRuns : db.evaluationRuns.Persists EvaluationRunLater db'.evaluationRuns
  evaluationAttempts :
    db.evaluationAttempts.Persists EvaluationAttemptLater db'.evaluationAttempts
  actions : db.actions.Persists ActionLater db'.actions
  operations : db.operations.Persists OperationLater db'.operations
  ledger : db.ledger.Persists (· = ·) db'.ledger
  checkpoints : db.checkpoints.Persists (· = ·) db'.checkpoints
  episodes : db.episodes.Persists (· = ·) db'.episodes
  oomBindings : db.oomBindings.Persists (· = ·) db'.oomBindings
  numericalBindings : db.numericalBindings.Persists (· = ·) db'.numericalBindings
  numericalReceipts : db.numericalReceipts.Persists (· = ·) db'.numericalReceipts
  interventions : db.interventions.Persists (· = ·) db'.interventions
  applications : db.applications.Persists (· = ·) db'.applications
  events : db.events <+: db'.events
  edges : db.edges <+: db'.edges
  results : db.results.Persists (· = ·) db'.results
  decisions : db.decisions.Persists (· = ·) db'.decisions
  policyDecisions : db.policyDecisions.Persists (· = ·) db'.policyDecisions
  incidents : db.incidents.Persists (· = ·) db'.incidents
  checkpointReceipts : db.checkpointReceipts.Persists (· = ·) db'.checkpointReceipts
  memberships : db.memberships.Persists (· = ·) db'.memberships
  plans : db.plans.Persists (· = ·) db'.plans
  oomReceipts : db.oomReceipts.Persists (· = ·) db'.oomReceipts
  directives : db.directives.Persists (· = ·) db'.directives
  metricPoints : db.metricPoints.Persists (· = ·) db'.metricPoints
  pendingCompletions : db.pendingCompletions.Persists (· = ·) db'.pendingCompletions
  requests : db.requests.Persists RequestLater db'.requests
  invocations : db.invocations.Persists InvocationLater db'.invocations
  telemetry : ∀ target, PositionLE (db.telemetryPosition target) (db'.telemetryPosition target)

section Refl

theorem ExperimentLater.refl (row : Experiment) : ExperimentLater row row :=
  ⟨_, _, _, rfl, fun _ => rfl⟩

theorem NodeLater.refl (row : ExperimentNode) : NodeLater row row :=
  ⟨_, _, _, _, rfl, fun _ => rfl⟩

theorem RunLater.refl (row : Run) : RunLater row row := ⟨_, _, rfl, fun _ => rfl⟩

theorem AttemptLater.refl (row : RunAttempt) : AttemptLater row row := ⟨_, _, _, rfl, fun _ => rfl⟩

theorem EvaluationRunLater.refl (row : EvaluationRun) : EvaluationRunLater row row :=
  ⟨_, _, rfl, fun _ => rfl⟩

theorem EvaluationAttemptLater.refl (row : EvaluationAttempt) : EvaluationAttemptLater row row :=
  ⟨_, _, rfl, fun _ => rfl⟩

theorem ActionLater.refl (row : Action) : ActionLater row row :=
  ⟨_, _, _, _, rfl, Nat.le_refl _, fun _ => rfl, fun _ => rfl⟩

theorem OperationLater.refl (row : RuntimeOperation) : OperationLater row row :=
  ⟨_, _, _, rfl, fun _ => rfl⟩

theorem RequestLater.refl (row : ControllerRequest) : RequestLater row row :=
  ⟨_, _, _, rfl, Nat.le_refl _, fun _ => rfl, fun same => same, fun same => same, .inl⟩

theorem InvocationLater.refl (row : AgentInvocation) : InvocationLater row row := by
  refine ⟨_, _, _, _, _, rfl, fun _ => rfl, ?_⟩
  intro answered
  rw [answered]
  rfl

theorem PositionLE.refl (position : Nat × Int) : PositionLE position position :=
  .inr ⟨rfl, Int.le_refl _⟩

theorem Grows.refl (db : Db) : Grows db db where
  experiments := .refl .refl
  nodes := .refl .refl
  runs := .refl .refl
  attempts := .refl .refl
  evaluationRuns := .refl .refl
  evaluationAttempts := .refl .refl
  actions := .refl .refl
  operations := .refl .refl
  ledger := .refl fun _ => rfl
  checkpoints := .refl fun _ => rfl
  episodes := .refl fun _ => rfl
  oomBindings := .refl fun _ => rfl
  numericalBindings := .refl fun _ => rfl
  numericalReceipts := .refl fun _ => rfl
  interventions := .refl fun _ => rfl
  applications := .refl fun _ => rfl
  events := List.prefix_rfl
  edges := List.prefix_rfl
  results := .refl fun _ => rfl
  decisions := .refl fun _ => rfl
  policyDecisions := .refl fun _ => rfl
  incidents := .refl fun _ => rfl
  checkpointReceipts := .refl fun _ => rfl
  memberships := .refl fun _ => rfl
  plans := .refl fun _ => rfl
  oomReceipts := .refl fun _ => rfl
  directives := .refl fun _ => rfl
  metricPoints := .refl fun _ => rfl
  pendingCompletions := .refl fun _ => rfl
  requests := .refl .refl
  invocations := .refl .refl
  telemetry _ := .refl _

end Refl

section Trans

theorem ExperimentLater.trans (first second third : Experiment) :
    ExperimentLater first second → ExperimentLater second third → ExperimentLater first third := by
  rintro ⟨status, _, _, rfl, kept⟩ ⟨status', _, _, rfl, kept'⟩
  refine ⟨_, _, _, rfl, ?_⟩
  exact settled_trans kept kept'

theorem NodeLater.trans (first second third : ExperimentNode) :
    NodeLater first second → NodeLater second third → NodeLater first third := by
  rintro ⟨status, _, _, _, rfl, kept⟩ ⟨status', _, _, _, rfl, kept'⟩
  refine ⟨_, _, _, _, rfl, ?_⟩
  exact settled_trans kept kept'

theorem RunLater.trans (first second third : Run) :
    RunLater first second → RunLater second third → RunLater first third := by
  rintro ⟨status, _, rfl, kept⟩ ⟨status', _, rfl, kept'⟩
  refine ⟨_, _, rfl, ?_⟩
  exact settled_trans kept kept'

theorem AttemptLater.trans (first second third : RunAttempt) :
    AttemptLater first second → AttemptLater second third → AttemptLater first third := by
  rintro ⟨status, _, _, rfl, kept⟩ ⟨status', _, _, rfl, kept'⟩
  refine ⟨_, _, _, rfl, ?_⟩
  exact settled_trans kept kept'

theorem EvaluationRunLater.trans (first second third : EvaluationRun) :
    EvaluationRunLater first second → EvaluationRunLater second third →
      EvaluationRunLater first third := by
  rintro ⟨status, _, rfl, kept⟩ ⟨status', _, rfl, kept'⟩
  refine ⟨_, _, rfl, ?_⟩
  exact settled_trans kept kept'

theorem EvaluationAttemptLater.trans (first second third : EvaluationAttempt) :
    EvaluationAttemptLater first second → EvaluationAttemptLater second third →
      EvaluationAttemptLater first third := by
  rintro ⟨status, _, rfl, kept⟩ ⟨status', _, rfl, kept'⟩
  refine ⟨_, _, rfl, ?_⟩
  exact settled_trans kept kept'

theorem ActionLater.trans (first second third : Action) :
    ActionLater first second → ActionLater second third → ActionLater first third := by
  rintro ⟨_, _, _, revision, rfl, up, same, settled⟩ ⟨_, _, _, revision', rfl, up', same', settled'⟩
  refine ⟨_, _, _, _, rfl, Nat.le_trans up up', ?_, ?_⟩
  · intro back
    have later : revision ≤ revision' := up'
    have here : revision = first.revision := by omega
    have there : revision' = revision := by omega
    rw [same' there]
    exact same here
  · intro ended
    have kept := settled ended
    rw [settled' (by rw [kept]; exact ended), kept]

theorem OperationLater.trans (first second third : RuntimeOperation) :
    OperationLater first second → OperationLater second third → OperationLater first third := by
  rintro ⟨state, _, _, rfl, kept⟩ ⟨state', _, _, rfl, kept'⟩
  refine ⟨_, _, _, rfl, ?_⟩
  exact settled_trans kept kept'

theorem RequestLater.trans (first second third : ControllerRequest) :
    RequestLater first second → RequestLater second third → RequestLater first third := by
  rintro ⟨state, _, revision, rfl, up, same, failed, completed, accepted⟩
    ⟨state', _, revision', rfl, up', same', failed', completed', accepted'⟩
  refine ⟨_, _, _, rfl, Nat.le_trans up up', ?_, fun was => failed' (failed was),
    fun was => completed' (completed was), ?_⟩
  · intro back
    have later : revision ≤ revision' := up'
    have there : revision' = revision := by omega
    rw [same' there]
    exact same (by omega)
  · intro was
    rcases accepted was with still | done
    · exact accepted' still
    · exact .inr (completed' done)

theorem InvocationLater.trans (first second third : AgentInvocation) :
    InvocationLater first second → InvocationLater second third →
      InvocationLater first third := by
  rintro ⟨status, _, _, _, _, rfl, closed, answered⟩ ⟨status', _, _, _, _, rfl, closed', answered'⟩
  refine ⟨_, _, _, _, _, rfl, ?_, ?_⟩
  · intro ended
    have kept := closed ended
    rw [closed' (by rw [kept]; exact ended), kept]
  · intro was
    have replayed := answered was
    change status.replayed = true at replayed
    cases status with
    | answered => exact answered' rfl
    | completed | refused =>
        have kept := congrArg AgentInvocation.status (closed' rfl)
        change status' = _ at kept
        rw [kept]
        rfl
    | intended | failed | outcomeUnknown => cases replayed

theorem PositionLE.trans {first second third : Nat × Int} (le : PositionLE first second)
    (le' : PositionLE second third) : PositionLE first third := by
  unfold PositionLE at *
  omega

theorem Grows.trans {db db' db'' : Db} (first : Grows db db') (second : Grows db' db'') :
    Grows db db'' where
  experiments := first.experiments.trans ExperimentLater.trans second.experiments
  nodes := first.nodes.trans NodeLater.trans second.nodes
  runs := first.runs.trans RunLater.trans second.runs
  attempts := first.attempts.trans AttemptLater.trans second.attempts
  evaluationRuns := first.evaluationRuns.trans EvaluationRunLater.trans second.evaluationRuns
  evaluationAttempts :=
    first.evaluationAttempts.trans EvaluationAttemptLater.trans second.evaluationAttempts
  actions := first.actions.trans ActionLater.trans second.actions
  operations := first.operations.trans OperationLater.trans second.operations
  ledger := first.ledger.fixed second.ledger
  checkpoints := first.checkpoints.fixed second.checkpoints
  episodes := first.episodes.fixed second.episodes
  oomBindings := first.oomBindings.fixed second.oomBindings
  numericalBindings := first.numericalBindings.fixed second.numericalBindings
  numericalReceipts := first.numericalReceipts.fixed second.numericalReceipts
  interventions := first.interventions.fixed second.interventions
  applications := first.applications.fixed second.applications
  events := first.events.trans second.events
  edges := first.edges.trans second.edges
  results := first.results.fixed second.results
  decisions := first.decisions.fixed second.decisions
  policyDecisions := first.policyDecisions.fixed second.policyDecisions
  incidents := first.incidents.fixed second.incidents
  checkpointReceipts := first.checkpointReceipts.fixed second.checkpointReceipts
  memberships := first.memberships.fixed second.memberships
  plans := first.plans.fixed second.plans
  oomReceipts := first.oomReceipts.fixed second.oomReceipts
  directives := first.directives.fixed second.directives
  metricPoints := first.metricPoints.fixed second.metricPoints
  pendingCompletions := first.pendingCompletions.fixed second.pendingCompletions
  requests := first.requests.trans RequestLater.trans second.requests
  invocations := first.invocations.trans InvocationLater.trans second.invocations
  telemetry target := (first.telemetry target).trans (second.telemetry target)

end Trans

/-- Setting a cursor moves that target's position and no other. -/
theorem telemetryPosition_setTelemetry (db : Db) (cursor : TelemetryCursor)
    (target : RuntimeOperationTarget) :
    (db.setTelemetry cursor).telemetryPosition target =
      if target = cursor.target then (cursor.generation, cursor.sequence)
      else db.telemetryPosition target := by
  unfold Db.telemetryPosition Db.setTelemetry
  by_cases here : target = cursor.target
  · subst here
    rw [Table.find?_put_self, if_pos rfl]
  · rw [Table.find?_put_of_ne here, if_neg here]

/-- A statement beside the aggregates leaves everything else alone. -/
theorem Aside.withAux_eq {L : Licence} {d : Debt} {db other : Db} (aside : Aside L d db other) :
    db.withAux other = other := by
  cases aside <;> rfl

theorem Aside.grows {L : Licence} {d : Debt} {db other : Db} (aside : Aside L d db other) :
    Grows db (db.withAux other) := by
  have same := Grows.refl db
  cases aside with
  | result row table inserted => exact { same with results := .insertFixed inserted }
  | decision row table inserted => exact { same with decisions := .insertFixed inserted }
  | policyDecision row table inserted =>
      exact { same with policyDecisions := .insertFixed inserted }
  | incident row table inserted => exact { same with incidents := .insertFixed inserted }
  | checkpointReceipt row table inserted =>
      exact { same with checkpointReceipts := .insertFixed inserted }
  | membership row table inserted =>
      exact { same with memberships := .insertFixed inserted }
  | plan row table inserted => exact { same with plans := .insertFixed inserted }
  | oomReceipt row table inserted =>
      exact { same with oomReceipts := .insertFixed inserted }
  | directive row table inserted =>
      exact { same with directives := .insertFixed inserted }
  | request row table inserted => exact { same with requests := .insert .refl inserted }
  | moveRequest old new state error found moved =>
      have sameId : new.id = old.id := by
        obtain ⟨rfl, _⟩ := request_withState_eq moved
        rfl
      exact { same with requests := .replace .refl (sameId ▸ found) (.of_withState moved) }
  | rest row => exact { same with }
  | invocation row table inserted => exact { same with invocations := .insert .refl inserted }
  | moveInvocation old new found moved =>
      have sameId : new.id = old.id := by
        obtain ⟨_, _, _, _, _, rfl⟩ := moved
        rfl
      exact { same with invocations := .replace .refl (sameId ▸ found) moved.later }
  | metricPoints row table inserted =>
      exact { same with metricPoints := .insertFixed inserted }
  | telemetry cursor advanced =>
      refine { same with telemetry := ?_ }
      intro target
      have position : (db.withAux (db.setTelemetry cursor)).telemetryPosition target =
          (db.setTelemetry cursor).telemetryPosition target := rfl
      rw [position, telemetryPosition_setTelemetry]
      split
      · rename_i here
        subst here
        unfold PositionLE
        omega
      · exact .refl _
  | pendingCompletion row table inserted =>
      exact { same with pendingCompletions := .insertFixed inserted }

theorem Write.grows {L : Licence} {d d' : Debt} {db db' : Db} (write : Write L d db d' db') :
    Grows db db' := by
  have same := Grows.refl db
  cases write with
  | aux other aside => exact aside.grows
  | pay => exact same
  | note event destinations => exact { same with events := List.prefix_append _ _ }
  | post entry table inserted => exact { same with ledger := .insertFixed inserted }
  | fail entry table kind experiment limit actor outbox inserted =>
      exact { same with
        ledger := .insertFixed inserted
        events := List.prefix_append _ _ }
  | insertExperiment row table inserted =>
      exact { same with experiments := .insert .refl inserted }
  | insertNode row table inserted =>
      exact { same with nodes := .insert .refl inserted, edges := List.prefix_append _ _ }
  | insertRun row table inserted =>
      exact { same with runs := .insert .refl inserted }
  | insertAttempt row table inserted =>
      exact { same with attempts := .insert .refl inserted }
  | insertEvaluationRun row table inserted =>
      exact { same with evaluationRuns := .insert .refl inserted }
  | insertEvaluationAttempt row table inserted =>
      exact { same with evaluationAttempts := .insert .refl inserted }
  | insertAction row table inserted => exact { same with actions := .insert .refl inserted }
  | insertOperation row table inserted => exact { same with operations := .insert .refl inserted }
  | moveExperiment old new found moved =>
      exact { same with experiments := .replace .refl found moved.later }
  | moveNode old new found moved => exact { same with nodes := .replace .refl found moved.later }
  | moveRun old new found moved => exact { same with runs := .replace .refl found moved.later }
  | moveAttempt old new found moved =>
      exact { same with attempts := .replace .refl found moved.later }
  | moveEvaluationRun old new found moved =>
      exact { same with evaluationRuns := .replace .refl found moved.later }
  | moveEvaluationAttempt old new found moved =>
      exact { same with evaluationAttempts := .replace .refl found moved.later }
  | moveAction old new event destinations found moved =>
      exact { same with
        actions := .replace .refl found moved.later
        events := List.prefix_append _ _ }
  | moveOperation old new found moved =>
      exact { same with operations := .replace .refl found moved.later }
  | checkpoint row table inserted =>
      exact { same with checkpoints := .insertFixed inserted }
  | episode row table inserted => exact { same with episodes := .insertFixed inserted }
  | oomBinding row table action inserted =>
      exact { same with oomBindings := .insertFixed inserted }
  | numericalBinding row table action episode inserted =>
      exact { same with numericalBindings := .insertFixed inserted }
  | numericalReceipt row table binding inserted =>
      exact { same with numericalReceipts := .insertFixed inserted }
  | intervention row run action actor outbox table runFound decided type inserted =>
      exact { same with
        events := List.prefix_append _ _
        interventions := .insertFixed inserted }
  | application row attempt run decision actor outbox table attemptFound runFound decided sameRun
      applied inserted =>
      exact { same with
        events := List.prefix_append _ _
        applications := .insertFixed inserted }

theorem Writes.grows {L : Licence} {d d' : Debt} {db db' : Db} (writes : Writes L d db d' db') :
    Grows db db' :=
  writes.relates Grows.refl (fun _ _ _ => Grows.trans) fun _ _ _ _ => Write.grows

/-! ## Where a row came from -/

section Origins

variable {L : Licence} {d d' : Debt} {db db' : Db}

theorem Write.node_origin {id : String} {row : ExperimentNode} (write : Write L d db d' db')
    (found : db'.nodes.find? id = some row) :
    (∃ old, db.nodes.find? id = some old ∧ NodeLater old row) ∨
      (db.nodes.find? id = none ∧ NewNode L db row) := by
  cases write with
  | insertNode other table inserted new =>
      exact Table.Persists.origin_insert .refl inserted new found
  | moveNode old new stored moved =>
      exact .inl (Table.Persists.origin_replace .refl stored moved.later found)
  | _ => exact .inl ⟨row, found, .refl row⟩

theorem Write.node_step {id : String} {node : ExperimentNode} (write : Write L d db d' db')
    (found : db'.nodes.find? id = some node) :
    db.nodes.find? id = some node ∨ (db.nodes.find? id = none ∧ NewNode L db node) ∨
      ∃ old, db.nodes.find? id = some old ∧ NodeMoves old node ∧ NodeAdvances L d db old node ∧
        d' = .event ⟨.experimentNode, node.id⟩ :: (nodeDebt old node ++ d) ∧
        db'.evaluationRuns = db.evaluationRuns := by
  cases write with
  | insertNode row table inserted new =>
      rcases (Table.find?_insert? inserted).mp found with ⟨rfl, rfl⟩ | ⟨_, stored⟩
      · exact .inr (.inl ⟨Table.find?_fresh inserted, new⟩)
      · exact .inl stored
  | moveNode old new stored moved journalled advances =>
      rcases (Table.find?_replace stored).mp found with ⟨rfl, rfl⟩ | ⟨_, other⟩
      · exact .inr (.inr ⟨old, stored, moved, advances, rfl, rfl⟩)
      · exact .inl other
  | _ => exact .inl found

theorem Write.run_origin {id : String} {row : Run} (write : Write L d db d' db')
    (found : db'.runs.find? id = some row) :
    (∃ old, db.runs.find? id = some old ∧ RunLater old row) ∨
      (db.runs.find? id = none ∧ NewRun L db row) := by
  cases write with
  | insertRun other table inserted new =>
      exact Table.Persists.origin_insert .refl inserted new found
  | moveRun old new stored moved =>
      exact .inl (Table.Persists.origin_replace .refl stored moved.later found)
  | _ => exact .inl ⟨row, found, .refl row⟩

theorem Write.attempt_origin {id : String} {row : RunAttempt} (write : Write L d db d' db')
    (found : db'.attempts.find? id = some row) :
    (∃ old, db.attempts.find? id = some old ∧ AttemptLater old row) ∨
      (db.attempts.find? id = none ∧ NewAttempt L db row) := by
  cases write with
  | insertAttempt other table inserted new =>
      exact Table.Persists.origin_insert .refl inserted new found
  | moveAttempt old new stored moved =>
      exact .inl (Table.Persists.origin_replace .refl stored moved.later found)
  | _ => exact .inl ⟨row, found, .refl row⟩

theorem Write.evaluationRun_origin {id : String} {row : EvaluationRun} (write : Write L d db d' db')
    (found : db'.evaluationRuns.find? id = some row) :
    (∃ old, db.evaluationRuns.find? id = some old ∧ EvaluationRunLater old row) ∨
      (db.evaluationRuns.find? id = none ∧ NewEvaluationRun db row) := by
  cases write with
  | insertEvaluationRun other table inserted new =>
      exact Table.Persists.origin_insert .refl inserted new found
  | moveEvaluationRun old new stored moved =>
      exact .inl (Table.Persists.origin_replace .refl stored moved.later found)
  | _ => exact .inl ⟨row, found, .refl row⟩

theorem Write.evaluationAttempt_origin {id : String} {row : EvaluationAttempt}
    (write : Write L d db d' db') (found : db'.evaluationAttempts.find? id = some row) :
    (∃ old, db.evaluationAttempts.find? id = some old ∧ EvaluationAttemptLater old row) ∨
      (db.evaluationAttempts.find? id = none ∧ NewEvaluationAttempt db row) := by
  cases write with
  | insertEvaluationAttempt other table inserted new =>
      exact Table.Persists.origin_insert .refl inserted new found
  | moveEvaluationAttempt old new stored moved =>
      exact .inl (Table.Persists.origin_replace .refl stored moved.later found)
  | _ => exact .inl ⟨row, found, .refl row⟩

theorem Write.action_origin {id : String} {row : Action} (write : Write L d db d' db')
    (found : db'.actions.find? id = some row) :
    (∃ old, db.actions.find? id = some old ∧ ActionLater old row) ∨
      (db.actions.find? id = none ∧ NewAction db row) := by
  cases write with
  | insertAction other table inserted new =>
      exact Table.Persists.origin_insert .refl inserted new found
  | moveAction old new event destinations stored moved =>
      exact .inl (Table.Persists.origin_replace .refl stored moved.later found)
  | _ => exact .inl ⟨row, found, .refl row⟩

theorem Write.operation_origin {id : String} {row : RuntimeOperation} (write : Write L d db d' db')
    (found : db'.operations.find? id = some row) :
    (∃ old, db.operations.find? id = some old ∧ OperationLater old row) ∨
      (db.operations.find? id = none ∧ NewOperation d db row) := by
  cases write with
  | insertOperation other table inserted new =>
      exact Table.Persists.origin_insert .refl inserted new found
  | moveOperation old new stored moved =>
      exact .inl (Table.Persists.origin_replace .refl stored moved.later found)
  | _ => exact .inl ⟨row, found, .refl row⟩

end Origins

end Xaytune.Storage
