import Xaytune.Storage.Planning
import Xaytune.Storage.Legality.Admission

/-!
# Planning and the ledger's safety net as writes
-/

namespace Xaytune.Storage

open Xaytune.Core Xaytune.Library

/-! ## Proposals -/

section Proposals

variable {L : Licence} {db : Db} {actor : Actor} {destinations : List String}

theorem Legal.requireRecordedPlanner {post : Unit → Debt → Db → Prop} {d : Debt} {checks : Checks}
    {experiment : Experiment} {provenance : ProposalProvenance} (holds : post () d db) :
    Legal L (requireRecordedPlanner checks experiment provenance) d db post := by
  unfold Storage.requireRecordedPlanner
  exact .expect fun _ _ => .check fun _ => holds

/-- The node on record for a proposal. -/
structure Materializes (checks : Checks) (db : Db) (experimentId : String)
    (proposal : CandidateProposal) (node : ExperimentNode) : Prop where
  stored : db.nodes.find? node.id = some node
  experiment : node.experimentId = experimentId
  candidate : checks.candidateFingerprint node.candidate =
    checks.candidateFingerprint proposal.candidate
  origin : node.branchOrigin.map CandidateBranchOrigin.proposalFingerprint =
    some (CandidateBranchOrigin.of checks proposal).proposalFingerprint

theorem Legal.branchNode {post : ExperimentNode → Debt → Db → Prop} {checks : Checks}
    {experiment : Experiment} {proposal : CandidateProposal} {nodeId : String}
    (found : db.experiments.find? experiment.id = some experiment)
    (planted : ∀ node : ExperimentNode, node.id = nodeId → node.experimentId = experiment.id →
      node.candidate = proposal.candidate →
      node.candidateFingerprint = proposal.candidateFingerprint → L.plants node)
    (holds : ∀ node db', Materializes checks db' experiment.id proposal node → post node [] db') :
    Legal L (branchNode checks experiment proposal nodeId actor destinations) [] db post := by
  unfold Storage.branchNode
  refine .require fun active => .bind (Legal.requireRecordedPlanner ?_)
  refine .read (.require fun _ => .read (.require fun _ => .read (.require fun _ => ?_)))
  have open_ : experiment.isTerminal = false := by
    rw [Experiment.isTerminal, of_decide_eq_true active]
    rfl
  refine .bind (Legal.validateParents fun lineage => .bind (Legal.insertNode rfl rfl (.inr rfl)
    (planted _ rfl rfl rfl rfl) lineage ?_ ?_))
  · intro owner ownerFound
    have isOwner : experiment = owner := Option.some.inj (found.symm.trans ownerFound)
    exact .inr (isOwner ▸ open_)
  · intro table inserted
    have stored := Table.find?_insert?_self inserted
    refine .bind (Legal.emit [] stored (typed_of_kind (by decide)) rfl paid_head sub_head ?_)
    refine .expect fun planned copied => ?_
    obtain ⟨moves, _⟩ := node_withStatus_moves copied
    have sameId : planned.id = nodeId := by
      obtain ⟨_, _, _, _, rfl⟩ := moves
      rfl
    have replaced : (table.replace planned).find? planned.id = some planned :=
      Table.find?_replace_self (sameId ▸ stored)
    refine .bind (Legal.stepNode stored copied List.not_mem_nil (by rintro ⟨⟩) ?_)
    refine .bind (Legal.emit [] replaced (typed_of_kind (by decide)) rfl paid_head sub_head ?_)
    refine .pure (holds planned _ ⟨replaced, ?_, ?_, ?_⟩)
    all_goals
      obtain ⟨_, _, _, _, rfl⟩ := moves
      rfl

/-- The node a proposal makes of a candidate its experiment does not have. -/
structure Branches (checks : Checks) (db : Db) (experimentId : String)
    (proposal : CandidateProposal) (nodeId : String) (node : ExperimentNode) : Prop where
  id : node.id = nodeId
  experiment : node.experimentId = experimentId
  candidate : node.candidate = proposal.candidate
  consistent : node.candidateFingerprint = checks.candidateFingerprint node.candidate
  first : ∀ other ∈ db.nodesForExperiment experimentId,
    checks.candidateFingerprint other.candidate ≠ node.candidateFingerprint

theorem Legal.materializeCandidateProposal {post : ExperimentNode → Debt → Db → Prop}
    {checks : Checks} {experimentId : String} {proposal : CandidateProposal} {nodeId : String}
    (planted : ∀ node, Branches checks db experimentId proposal nodeId node → L.plants node)
    (holds : ∀ node db', Materializes checks db' experimentId proposal node → post node [] db') :
    Legal L (materializeCandidateProposal checks experimentId (.candidate proposal) nodeId actor
      destinations) [] db post := by
  unfold Storage.materializeCandidateProposal
  refine Legal.load fun (experiment : Experiment)
    (found : db.experiments.find? experimentId = some experiment) => ?_
  have sameId : experiment.id = experimentId := Table.key_of_find? found
  subst sameId
  refine .require fun claims => .read ?_
  have identity := of_decide_eq_true claims
  split
  · rename_i existing isFirst
    obtain ⟨stored, ofExperiment⟩ :=
      Db.mem_nodesForExperiment.mp (List.mem_of_find?_eq_some isFirst)
    have alike := List.find?_some isFirst
    exact .require fun same =>
      .pure (holds existing db
        ⟨stored, ofExperiment, of_decide_eq_true alike, of_decide_eq_true same⟩)
  · rename_i absent
    refine Legal.branchNode found ?_ holds
    intro node isId isExperiment isCandidate isFingerprint
    refine planted node ⟨isId, isExperiment, isCandidate, ?_, fun other member same => ?_⟩
    · rw [isFingerprint, isCandidate, identity]
    · have differs := List.find?_eq_none.mp absent other member
      rw [isFingerprint, ← identity] at same
      exact differs (decide_eq_true same)

theorem materializeCandidateProposal_closed (checks : Checks) (experimentId : String)
    (proposal : BranchProposal) (nodeId : String)
    (planted : ∀ candidate node, proposal = .candidate candidate →
      Branches checks db experimentId candidate nodeId node → L.plants node) :
    Closed L (materializeCandidateProposal checks experimentId proposal nodeId actor destinations)
      db := by
  cases proposal with
  | harness => exact .refuse
  | candidate proposal =>
      exact Legal.materializeCandidateProposal (fun node => planted proposal node rfl) fun _ _ _ =>
        rfl

/-- A first realization belongs to its node, and its attempt to the run. -/
theorem realization_of_no_problems {node : ExperimentNode} {run : Run} {attempt : RunAttempt}
    (fresh : (realizationProblems db node run attempt).isEmpty = true) :
    run.experimentId = node.experimentId ∧ attempt.runId = run.id ∧
      db.runsForNode node.id = [] := by
  unfold realizationProblems at fresh
  simp only [List.isEmpty_iff, List.append_eq_nil_iff] at fresh
  obtain ⟨⟨⟨⟨run_, first_⟩, attempt_⟩, _⟩, _⟩ := fresh
  refine ⟨?_, ?_, ?_⟩
  · by_contra other
    simp [other] at run_
  · by_contra other
    simp [other] at attempt_
  · by_contra other
    simp [other] at first_

/-- The node has left `PLANNED`, and nothing takes a node back to it. -/
def Started (nodeId : String) (db : Db) : Prop :=
  ∃ node, db.nodes.find? nodeId = some node ∧ node.status ≠ .created ∧ node.status ≠ .planned

theorem created_of_can {current requested : ExperimentNodeStatus}
    (permitted : nodeMachine.can current requested = true)
    (early : requested = .created ∨ requested = .planned) : current = .created := by
  revert permitted early
  cases current <;> cases requested <;> decide

theorem Started.kept {d d' : Debt} {db' : Db} {nodeId : String} (started : Started nodeId db)
    (write : Write L d db d' db') : Started nodeId db' := by
  obtain ⟨old, found, notCreated, notPlanned⟩ := started
  obtain ⟨node, found', _⟩ := write.grows.nodes nodeId old found
  rcases write.node_step found' with same | ⟨fresh, _⟩ | ⟨before, stored, moved, _⟩
  · rw [found, Option.some.injEq] at same
    exact ⟨node, found', same ▸ notCreated, same ▸ notPlanned⟩
  · rw [found] at fresh
    cases fresh
  · rw [found, Option.some.injEq] at stored
    obtain ⟨status, _, _, permitted, rfl⟩ := moved
    refine ⟨_, found', fun created => ?_, fun planned => ?_⟩
    · exact notCreated (stored ▸ created_of_can permitted (.inl created))
    · exact notCreated (stored ▸ created_of_can permitted (.inr planned))

/-- What follows the start of a node leaves it started. -/
theorem Legal.afterStart {α : Type} {m : Repo (Option α)} {d : Debt} {nodeId : String}
    {post : Option α → Debt → Db → Prop} (started : Started nodeId db)
    (legal : Legal L m d db fun answer d _ => d = [] ∧ answer.isSome = true)
    (holds : ∀ value db', Started nodeId db' → post (some value) [] db') : Legal L m d db post := by
  refine (legal.keeps (I := fun _ db => Started nodeId db) started
    fun _ _ _ _ write started => started.kept write).mono ?_
  rintro answer _ db' ⟨⟨rfl, answered⟩, started⟩
  obtain ⟨value, rfl⟩ := Option.isSome_iff_exists.mp answered
  exact holds value db' started

theorem Legal.realizePlannedNode {post : Option (ExperimentNode × Run × RunAttempt ×
      RuntimeOperation) → Debt → Db → Prop} {checks : Checks} {nodeId : String}
    {expectedRevision : Nat} {run : Run} {attempt : RunAttempt} {operationId requestDigest : String}
    (declines : post none [] db)
    (holds : ∀ answer db', db.runsForNode nodeId = [] → Started nodeId db' →
      post (some answer) [] db') :
    Legal L (realizePlannedNode checks nodeId expectedRevision run attempt operationId
      requestDigest actor destinations) [] db post := by
  unfold Storage.realizePlannedNode
  refine Legal.load fun (node : ExperimentNode)
    (found : db.nodes.find? nodeId = some node) => .ite (fun _ => .pure declines) fun _ => ?_
  refine .require fun _ => .expect fun origin _ => Legal.load fun (experiment : Experiment)
    (owner : db.experiments.find? node.experimentId = some experiment) => ?_
  refine .require fun active => .bind (Legal.requireRecordedPlanner ?_)
  refine .bind (Legal.requirePristine fun created pristine => ?_)
  refine .bind (Legal.requirePristine fun attemptCreated attemptPristine => ?_)
  refine .read (.require fun fresh => ?_)
  obtain ⟨ofNode, first, noRun⟩ := realization_of_no_problems fresh
  have isNode : node.id = nodeId := Table.key_of_find? found
  refine .bind (Legal.transitionNode (by rintro ⟨⟩) fun before ready _ _ stored copied => ?_)
  have started : Started nodeId (db.setNodes (db.nodes.replace ready)) := by
    obtain ⟨moves, isReady⟩ := node_withStatus_moves copied
    have sameId : ready.id = nodeId := by
      obtain ⟨_, _, _, _, rfl⟩ := moves
      exact (Table.key_of_find? stored).trans isNode
    refine ⟨ready, ?_, by rw [isReady]; decide, by rw [isReady]; decide⟩
    rw [← sameId]
    exact Table.find?_replace_self (by rw [sameId]; exact found)
  refine Legal.afterStart started ?_ fun value db' => holds value db' (isNode ▸ noRun)
  refine .bind (Legal.transitionNode (by rintro ⟨⟩) fun _ _ _ _ _ _ => ?_)
  refine .bind (Legal.startRun pristine created attemptPristine attemptCreated rfl rfl rfl rfl first
    ?_ fun _ _ => .pure ⟨rfl, rfl⟩)
  intro other otherFound
  rw [ofNode] at otherFound
  have isOwner : experiment = other := Option.some.inj (owner.symm.trans otherFound)
  rw [← isOwner, Experiment.isTerminal, of_decide_eq_true active]
  rfl

theorem realizePlannedNode_closed (checks : Checks) (nodeId : String) (expectedRevision : Nat)
    (run : Run) (attempt : RunAttempt) (operationId requestDigest : String) :
    Closed L (realizePlannedNode checks nodeId expectedRevision run attempt operationId
      requestDigest actor destinations) db :=
  Legal.realizePlannedNode rfl fun _ _ _ _ => rfl

end Proposals

/-! ## The safety net -/

section SafetyNet

variable {L : Licence} {db : Db} {actor : Actor} {destinations : List String}

/-- The books changed, and no row. -/
def SameRows (db db' : Db) : Prop :=
  ∃ ledger events outbox, db' = db.setBooks ledger events outbox

theorem SameRows.refl : SameRows db db := ⟨db.ledger, db.events, db.outbox, rfl⟩

/-- A loop over rows of the record that writes only the books. -/
theorem Legal.forEachSettled {α : Type} {items : List α} {m : α → Repo Unit} {db₀ : Db}
    {post : Unit → Debt → Db → Prop} (same : SameRows db₀ db)
    (round : ∀ item ∈ items, ∀ db', SameRows db₀ db' →
      Legal L (m item) [] db' fun _ d db'' => d = [] ∧ SameRows db₀ db'')
    (holds : ∀ db', SameRows db₀ db' → post () [] db') :
    Legal L (Transaction.forEach items m) [] db post := by
  refine .forEach (fun rest d db' => d = [] ∧ SameRows db₀ db' ∧ ∀ item ∈ rest, item ∈ items)
    ⟨rfl, same, fun _ member => member⟩ ?_ ?_
  · rintro item rest _ db' ⟨rfl, same', subset⟩
    refine (round item (subset item List.mem_cons_self) db' same').mono ?_
    rintro _ _ _ ⟨rfl, same''⟩
    exact ⟨rfl, same'', fun other inRest => subset other (List.mem_cons_of_mem _ inRest)⟩
  · rintro _ db' ⟨rfl, same', _⟩
    exact holds db' same'

theorem Legal.settleAttemptRecord {db' : Db} {attempt : RunAttempt} {run : Run} (late : L.late)
    (same : SameRows db db') (found : db.attempts.find? attempt.id = some attempt)
    (runFound : db.runs.find? attempt.runId = some run) :
    Legal L (settleAttemptRecord run.experimentId attempt actor destinations) [] db'
      fun _ d db'' => d = [] ∧ SameRows db db'' := by
  unfold Storage.settleAttemptRecord
  refine .read (.bind (Legal.forEachSettled same ?_ ?_))
  · rintro operation _ db₁ ⟨_, _, _, rfl⟩
    refine .ite (fun _ => ?_) fun _ => .pure ⟨rfl, _, _, _, rfl⟩
    refine Legal.commitBudget found runFound rfl ⟨List.not_mem_nil, List.not_mem_nil⟩ (.inl late) ?_
    intro table _ _ _
    exact ⟨rfl, table, _, _, rfl⟩
  · rintro _ ⟨_, _, _, rfl⟩
    refine Legal.settleRunAttempt found List.not_mem_nil ?_
    intro table events outbox _ _ _
    exact ⟨rfl, table, events, outbox, rfl⟩

theorem Legal.settleRunRecord {db' : Db} {run : Run} (late : L.late) (same : SameRows db db')
    (found : db.runs.find? run.id = some run) :
    Legal L (settleRunRecord run.experimentId run actor destinations) [] db'
      fun _ d db'' => d = [] ∧ SameRows db db'' := by
  unfold Storage.settleRunRecord
  refine .read (.bind (Legal.forEachSettled same ?_ ?_))
  · intro attempt member db₁ same₁
    obtain ⟨_, _, _, rfl⟩ := same
    obtain ⟨isAttempt, ofRun⟩ := Db.mem_attemptsForRun.mp member
    refine Legal.settleAttemptRecord late same₁ isAttempt ?_
    rw [ofRun]
    exact found
  · rintro _ ⟨_, _, _, rfl⟩
    refine Legal.settleRun found List.not_mem_nil ?_
    intro table events outbox _ _
    exact ⟨rfl, table, events, outbox, rfl⟩

theorem Legal.settleNodeRecord {db' : Db} {node : ExperimentNode} (late : L.late)
    (same : SameRows db db') (found : db.nodes.find? node.id = some node) :
    Legal L (settleNodeRecord node.experimentId node actor destinations) [] db'
      fun _ d db'' => d = [] ∧ SameRows db db'' := by
  unfold Storage.settleNodeRecord
  refine .assume fun sound => .read (.bind (Legal.forEachSettled same ?_ ?_))
  · intro run member db₁ same₁
    obtain ⟨isRun, ofNode⟩ := Db.mem_runsForNode.mp member
    obtain ⟨owner, ownerFound, sameOwner⟩ := sound.runs run.id run isRun
    obtain ⟨_, _, _, rfl⟩ := same
    rw [ofNode] at ownerFound
    have isOwner : node = owner := Option.some.inj (found.symm.trans ownerFound)
    subst isOwner
    rw [sameOwner]
    exact Legal.settleRunRecord late same₁ isRun
  · rintro _ ⟨_, _, _, rfl⟩
    refine .read (Legal.forEachSettled ⟨_, _, _, rfl⟩ ?_ ?_)
    · rintro evaluation _ _ ⟨_, _, _, rfl⟩
      refine .read (Legal.forEachSettled ⟨_, _, _, rfl⟩ ?_ ?_)
      · rintro attempt member _ ⟨_, _, _, rfl⟩
        have isAttempt := (Db.mem_evaluationAttemptsForRun.mp member).1
        refine Legal.settleEvaluationAttempt isAttempt ?_
        intro table events outbox _ _
        exact ⟨rfl, table, events, outbox, rfl⟩
      · exact fun _ same' => ⟨rfl, same'⟩
    · exact fun _ same' => ⟨rfl, same'⟩

/-- The safety net settles whatever the record implies, when it may. -/
theorem settleBudget_closed (experimentId : String) (late : L.late) :
    Closed L (settleBudget experimentId actor destinations) db := by
  unfold Closed settleBudget
  refine .read (.read (.bind (Legal.forEachSettled .refl ?_ ?_)))
  · intro node member db' same
    obtain ⟨isNode, rfl⟩ := Db.mem_nodesForExperiment.mp member
    exact Legal.settleNodeRecord late same isNode
  · intro _ _
    exact .read (.pure rfl)

end SafetyNet

end Xaytune.Storage
