import Xaytune.Storage.Legality.Repository

/-!
# Evaluations and their outcomes

A run succeeds with one attempt and with the one result they measured. A cycle is
decided once, by a decision on all it measured: no run of a cycle that is being
decided, or was, is still to end, so nothing is measured in it any more.
-/

namespace Xaytune.Storage

open Xaytune.Core Xaytune.Library

/-! ## What a write does to evaluations -/

section Steps

variable {L : Licence} {d d' : Debt} {db db' : Db}

/-- A success is owed once an attempt of a run that has not ended succeeds, and a decision once a
node in `DECIDING` names it. -/
def Incurred (db db' : Db) : Owed → Prop
  | .success id =>
      (∃ run, db.evaluationRuns.find? id = some run ∧ run.isTerminal = false) ∧
        ∃ attemptId attempt, db'.evaluationAttempts.find? attemptId = some attempt ∧
          attempt.evaluationRunId = id ∧ attempt.status = .succeeded
  | .decision nodeId id =>
      ∃ old new, db.nodes.find? nodeId = some old ∧ old.status = .deciding ∧
        db'.nodes.find? nodeId = some new ∧ new.decisionIds = old.decisionIds ++ [id]
  | _ => True

theorem Write.owes {owed : Owed} (write : Write L d db d' db') (due : owed ∈ d') :
    owed ∈ d ∨ Incurred db db' owed := by
  cases write with
  | pay _ _ nothing => exact .inl (nothing _ due)
  | moveEvaluationAttempt old new found moved journalled succeeds =>
      simp only [List.mem_cons, List.mem_append, evaluationAttemptDebt, successDebt] at due
      rcases due with rfl | (failure | success) | before
      · exact .inr trivial
      · split at failure
        · rw [List.mem_singleton.mp failure]
          exact .inr trivial
        · cases failure
      · split at success
        · rename_i succeeded
          rw [List.mem_singleton.mp success]
          exact .inr ⟨(succeeds succeeded).2, new.id, new, Table.find?_replace_self found, rfl,
            succeeded⟩
        · cases success
      · exact .inl before
  | moveNode old new found moved journalled advances =>
      simp only [List.mem_cons, List.mem_append, nodeDebt, List.mem_map] at due
      rcases due with rfl | ⟨id, isNamed, rfl⟩ | before
      · exact .inr trivial
      · rcases advances.decisions with same | ⟨deciding, _, last, appended⟩
        · rw [same, List.drop_length] at isNamed
          cases isNamed
        · rw [appended, List.drop_left, List.mem_singleton] at isNamed
          subst isNamed
          exact .inr ⟨old, new, found, deciding, Table.find?_replace_self found, appended⟩
      · exact .inl before
  | moveRun old new =>
      simp only [List.mem_cons, List.mem_append, runDebt] at due
      rcases due with rfl | settlement | before
      · exact .inr trivial
      · split at settlement
        · rw [List.mem_singleton.mp settlement]
          exact .inr trivial
        · cases settlement
      · exact .inl before
  | moveAttempt old new =>
      simp only [List.mem_cons, List.mem_append] at due
      rcases due with rfl | ended | before
      · exact .inr trivial
      · rcases mem_attemptDebt ended with ⟨rfl, _⟩ | ⟨rfl, _⟩
        · exact .inr trivial
        · exact .inr trivial
      · exact .inl before
  | insertAction row =>
      simp only [List.mem_cons, List.mem_append, actionDebt] at due
      rcases due with rfl | opening | before
      · exact .inr trivial
      · split at opening
        · rw [List.mem_singleton.mp opening]
          exact .inr trivial
        · cases opening
      · exact .inl before
  | moveOperation old new =>
      simp only [List.mem_cons, List.mem_append, operationDebt] at due
      rcases due with rfl | commit | before
      · exact .inr trivial
      · split at commit
        · rw [List.mem_singleton.mp commit]
          exact .inr trivial
        · cases commit
      · exact .inl before
  | insertRun | insertAttempt =>
      simp only [List.mem_cons, List.not_mem_nil, or_false] at due
      rcases due with rfl | rfl
      · exact .inr trivial
      · exact .inr trivial
  | insertExperiment | insertNode | insertEvaluationRun | insertEvaluationAttempt
  | insertOperation | moveExperiment | moveEvaluationRun =>
      rcases List.mem_cons.mp due with rfl | before
      · exact .inr trivial
      · exact .inl before
  | _ => exact .inl due

theorem Write.evaluationRun_step {id : String} {run : EvaluationRun} (write : Write L d db d' db')
    (found : db'.evaluationRuns.find? id = some run) :
    db.evaluationRuns.find? id = some run ∨
      (db.evaluationRuns.find? id = none ∧ NewEvaluationRun db run) ∨
      ∃ old, db.evaluationRuns.find? id = some old ∧ EvaluationRunMoves old run ∧
        (run.status = .succeeded → .success id ∈ d ∧ .success id ∈ d') := by
  cases write with
  | insertEvaluationRun row table inserted new =>
      rcases (Table.find?_insert? inserted).mp found with ⟨rfl, rfl⟩ | ⟨_, stored⟩
      · exact .inr (.inl ⟨Table.find?_fresh inserted, new⟩)
      · exact .inl stored
  | moveEvaluationRun old new stored moved journalled succeeds =>
      rcases (Table.find?_replace stored).mp found with ⟨rfl, rfl⟩ | ⟨_, other⟩
      · refine .inr (.inr ⟨old, stored, moved, fun succeeded => ?_⟩)
        exact ⟨succeeds succeeded, List.mem_cons_of_mem _ (succeeds succeeded)⟩
      · exact .inl other
  | _ => exact .inl found

theorem Write.evaluationAttempt_step {id : String} {attempt : EvaluationAttempt}
    (write : Write L d db d' db') (found : db'.evaluationAttempts.find? id = some attempt) :
    db.evaluationAttempts.find? id = some attempt ∨ NewEvaluationAttempt db attempt ∨
      (attempt.status = .succeeded → .success attempt.evaluationRunId ∉ d ∧
        .success attempt.evaluationRunId ∈ d' ∧
        (∃ run, db.evaluationRuns.find? attempt.evaluationRunId = some run ∧
          run.isTerminal = false) ∧
        ∀ other, other ≠ id →
          db'.evaluationAttempts.find? other = db.evaluationAttempts.find? other) := by
  cases write with
  | insertEvaluationAttempt row table inserted new =>
      rcases (Table.find?_insert? inserted).mp found with ⟨rfl, rfl⟩ | ⟨_, stored⟩
      · exact .inr (.inl new)
      · exact .inl stored
  | moveEvaluationAttempt old new stored moved journalled succeeds =>
      rcases (Table.find?_replace stored).mp found with ⟨rfl, rfl⟩ | ⟨_, other⟩
      · refine .inr (.inr fun succeeded => ?_)
        obtain ⟨first, live⟩ := succeeds succeeded
        refine ⟨first, ?_, live, fun _ differs => Table.find?_replace_of_ne differs⟩
        simp [successDebt, succeeded]
      · exact .inl other
  | _ => exact .inl found

theorem Write.result_step {result : EvaluationResult} (write : Write L d db d' db')
    (member : result ∈ db'.results) :
    result ∈ db.results ∨ (NewResult d db result ∧ ∀ other ∈ db'.results,
      other ∈ db.results ∨ other = result) := by
  cases write with
  | aux other aside =>
      cases aside with
      | result row table inserted new =>
          rcases (Table.mem_insert? inserted).mp member with before | rfl
          · exact .inl before
          · exact .inr ⟨new, fun _ => (Table.mem_insert? inserted).mp⟩
      | _ => exact .inl member
  | _ => exact .inl member

theorem Write.decision_step {id : String} {decision : Decision} (write : Write L d db d' db')
    (found : db'.decisions.find? id = some decision) :
    db.decisions.find? id = some decision ∨ (decision.id = id ∧ Decides d db decision ∧
      db'.evaluationRuns = db.evaluationRuns ∧ db'.results = db.results ∧
        db'.nodes = db.nodes) := by
  cases write with
  | aux other aside =>
      cases aside with
      | decision row table inserted decides =>
          rcases (Table.find?_insert? inserted).mp found with ⟨rfl, rfl⟩ | ⟨_, before⟩
          · exact .inr ⟨rfl, decides, rfl, rfl, rfl⟩
          · exact .inl before
      | _ => exact .inl found
  | _ => exact .inl found

end Steps

/-! ## A success has its result -/

theorem evaluationResultForRun_isSome {db : Db} {runId : String} :
    (db.evaluationResultForRun runId).isSome = true ↔
      ∃ result ∈ db.results, result.evaluationRunId = runId := by
  rw [Db.evaluationResultForRun, List.find?_isSome]
  simp only [decide_eq_true_eq]
  rfl

theorem of_evaluationResultForRun {db : Db} {runId : String} {result : EvaluationResult}
    (isResult : db.evaluationResultForRun runId = some result) :
    result ∈ db.results ∧ result.evaluationRunId = runId := by
  unfold Db.evaluationResultForRun at isResult
  have ofRun := List.find?_some isResult
  exact ⟨List.mem_of_find?_eq_some isResult, of_decide_eq_true ofRun⟩

/-- Runs, attempts and results say the same of what succeeded, but for a success that is owed. -/
structure Measured (d : Debt) (db : Db) : Prop where
  result : ∀ id run, db.evaluationRuns.find? id = some run → run.status = .succeeded →
    .success id ∈ d ∨ ∃ result ∈ db.results, result.evaluationRunId = id
  attempt : ∀ id run, db.evaluationRuns.find? id = some run → run.status = .succeeded →
    ∃ attemptId attempt, db.evaluationAttempts.find? attemptId = some attempt ∧
      attempt.evaluationRunId = id ∧ attempt.status = .succeeded
  owed : ∀ id, .success id ∈ d → ∃ attemptId attempt,
    db.evaluationAttempts.find? attemptId = some attempt ∧ attempt.evaluationRunId = id ∧
      attempt.status = .succeeded
  ofResult : ∀ result ∈ db.results, ∃ run,
    db.evaluationRuns.find? result.evaluationRunId = some run ∧ run.status = .succeeded
  ofAttempt : ∀ id attempt, db.evaluationAttempts.find? id = some attempt →
    attempt.status = .succeeded → .success attempt.evaluationRunId ∈ d ∨
      ∃ run, db.evaluationRuns.find? attempt.evaluationRunId = some run ∧ run.status = .succeeded
  oneResult : ∀ first ∈ db.results, ∀ second ∈ db.results,
    first.evaluationRunId = second.evaluationRunId → first = second
  oneAttempt : ∀ id id' attempt attempt', db.evaluationAttempts.find? id = some attempt →
    db.evaluationAttempts.find? id' = some attempt' → attempt.status = .succeeded →
    attempt'.status = .succeeded → attempt.evaluationRunId = attempt'.evaluationRunId → id = id'

section Measured

variable {L : Licence} {d d' : Debt} {db db' : Db}

theorem Grows.succeededRun (grows : Grows db db') {id : String} {run : EvaluationRun}
    (found : db.evaluationRuns.find? id = some run) (succeeded : run.status = .succeeded) :
    ∃ later, db'.evaluationRuns.find? id = some later ∧ later.status = .succeeded := by
  obtain ⟨later, found', status, _, rfl, same⟩ := grows.evaluationRuns id run found
  have ended : run.isTerminal = true := by
    rw [EvaluationRun.isTerminal, succeeded]
    rfl
  exact ⟨_, found', (same ended).trans succeeded⟩

theorem Grows.succeededAttempt (grows : Grows db db') {id runId : String}
    {attempt : EvaluationAttempt} (found : db.evaluationAttempts.find? id = some attempt)
    (ofRun : attempt.evaluationRunId = runId) (succeeded : attempt.status = .succeeded) :
    ∃ later, db'.evaluationAttempts.find? id = some later ∧ later.evaluationRunId = runId ∧
      later.status = .succeeded := by
  obtain ⟨later, found', status, _, rfl, same⟩ := grows.evaluationAttempts id attempt found
  have ended : attempt.isTerminal = true := by
    rw [EvaluationAttempt.isTerminal, succeeded]
    rfl
  exact ⟨_, found', ofRun, (same ended).trans succeeded⟩

theorem Grows.resultOf (grows : Grows db db') {runId : String}
    (measured : ∃ result ∈ db.results, result.evaluationRunId = runId) :
    ∃ result ∈ db'.results, result.evaluationRunId = runId := by
  obtain ⟨result, member, ofRun⟩ := measured
  obtain ⟨_, found', rfl⟩ := grows.results _ result (Table.find?_of_mem member)
  exact ⟨result, Table.mem_of_find? found', ofRun⟩

/-- A run that has not ended did not succeed. -/
theorem not_succeeded_of_live {run : EvaluationRun} (live : run.isTerminal = false) :
    run.status ≠ .succeeded := by
  intro succeeded
  rw [EvaluationRun.isTerminal, succeeded] at live
  cases live

theorem Write.measured (write : Write L d db d' db') (measured : Measured d db) :
    Measured d' db' where
  result := by
    intro id run found succeeded
    rcases write.evaluationRun_step found with stored | ⟨_, new⟩ | ⟨_, _, _, owes⟩
    · rcases measured.result id run stored succeeded with owed | recorded
      · by_cases paid : Paid db (.success id)
        · exact .inr (write.grows.resultOf (evaluationResultForRun_isSome.mp paid.2))
        · exact .inl (write.still_owed owed paid)
      · exact .inr (write.grows.resultOf recorded)
    · rw [new.created] at succeeded
      cases succeeded
    · exact .inl (owes succeeded).2
  attempt := by
    intro id run found succeeded
    have before : ∃ attemptId attempt, db.evaluationAttempts.find? attemptId = some attempt ∧
        attempt.evaluationRunId = id ∧ attempt.status = .succeeded := by
      rcases write.evaluationRun_step found with stored | ⟨_, new⟩ | ⟨_, _, _, owes⟩
      · exact measured.attempt id run stored succeeded
      · rw [new.created] at succeeded
        cases succeeded
      · exact measured.owed id (owes succeeded).1
    obtain ⟨attemptId, attempt, stored, ofRun, isSucceeded⟩ := before
    exact ⟨attemptId, write.grows.succeededAttempt stored ofRun isSucceeded⟩
  owed := by
    intro id due
    rcases write.owes due with before | ⟨_, incurred⟩
    · obtain ⟨attemptId, attempt, stored, ofRun, isSucceeded⟩ := measured.owed id before
      exact ⟨attemptId, write.grows.succeededAttempt stored ofRun isSucceeded⟩
    · exact incurred
  ofResult := by
    intro result member
    rcases write.result_step member with before | ⟨new, _⟩
    · obtain ⟨run, stored, succeeded⟩ := measured.ofResult result before
      exact write.grows.succeededRun stored succeeded
    · obtain ⟨run, stored, succeeded⟩ := new.run
      exact write.grows.succeededRun stored succeeded
  ofAttempt := by
    intro id attempt found succeeded
    rcases write.evaluationAttempt_step found with stored | new | moved
    · rcases measured.ofAttempt id attempt stored succeeded with owed | ⟨run, runFound, ended⟩
      · by_cases paid : Paid db (.success attempt.evaluationRunId)
        · obtain ⟨run, runFound, ended⟩ := paid.1
          exact .inr (write.grows.succeededRun runFound ended)
        · exact .inl (write.still_owed owed paid)
      · exact .inr (write.grows.succeededRun runFound ended)
    · rw [new.created] at succeeded
      cases succeeded
    · exact .inl (moved succeeded).2.1
  oneResult := by
    intro first isFirst second isSecond same
    -- a result just inserted is for a run that had none
    have fresh : ∀ result ∈ db.results, ∀ new, NewResult d db new →
        result.evaluationRunId ≠ new.evaluationRunId := by
      intro result member new isNew ofRun
      have recorded : (db.evaluationResultForRun new.evaluationRunId).isSome = true :=
        evaluationResultForRun_isSome.mpr ⟨result, member, ofRun⟩
      rw [isNew.first] at recorded
      cases recorded
    rcases write.result_step isFirst with before | ⟨new, only⟩
    · rcases write.result_step isSecond with before' | ⟨new, _⟩
      · exact measured.oneResult first before second before' same
      · exact absurd same (fresh first before second new)
    · rcases only second isSecond with before' | rfl
      · exact absurd same.symm (fresh second before' first new)
      · rfl
  oneAttempt := by
    intro id id' attempt attempt' found found' succeeded succeeded' sameRun
    -- the run of an attempt that succeeds now has no attempt that succeeded before
    have first : ∀ {id id' : String} {attempt attempt' : EvaluationAttempt},
        db.evaluationAttempts.find? id' = some attempt' → attempt'.status = .succeeded →
        attempt.evaluationRunId = attempt'.evaluationRunId →
        .success attempt.evaluationRunId ∉ d →
        (∃ run, db.evaluationRuns.find? attempt.evaluationRunId = some run ∧
          run.isTerminal = false) → id = id' := by
      intro id id' attempt attempt' stored isSucceeded ofRun unowed live
      obtain ⟨run, runFound, isLive⟩ := live
      rw [ofRun] at unowed runFound
      rcases measured.ofAttempt id' attempt' stored isSucceeded with owed | ⟨ended, endedFound, was⟩
      · exact absurd owed unowed
      · have isRun : run = ended := Option.some.inj (runFound.symm.trans endedFound)
        exact absurd (isRun ▸ was) (not_succeeded_of_live isLive)
    by_contra differs
    rcases write.evaluationAttempt_step found with stored | new | moved
    · rcases write.evaluationAttempt_step found' with stored' | new | moved
      · exact differs (measured.oneAttempt id id' attempt attempt' stored stored' succeeded
          succeeded' sameRun)
      · rw [new.created] at succeeded'
        cases succeeded'
      · obtain ⟨unowed, _, live, _⟩ := moved succeeded'
        exact differs (first stored succeeded sameRun.symm unowed live).symm
    · rw [new.created] at succeeded
      cases succeeded
    · obtain ⟨unowed, _, live, others⟩ := moved succeeded
      rw [others id' (fun same => differs same.symm)] at found'
      exact differs (first found' succeeded' sameRun unowed live)

theorem Measured.empty : Measured [] Db.empty where
  result _ _ found := by cases found
  attempt _ _ found := by cases found
  owed _ due := absurd due List.not_mem_nil
  ofResult _ member := absurd member List.not_mem_nil
  ofAttempt _ _ found := by cases found
  oneResult _ member := absurd member List.not_mem_nil
  oneAttempt _ _ _ _ found := by cases found

theorem ReachableBy.measured {checks : Checks} {allowed : Db → Op → Prop}
    (reached : ReachableBy checks allowed db) : Measured [] db :=
  ReachableBy.invariant (I := Measured) reached Measured.empty
    fun _ _ _ _ _ _ _ _ write holds => Write.measured write holds

end Measured

/-! ## A cycle is decided once -/

/-- A decision is its node's only one, and what it was on is all the cycle measured; a cycle that
is decided or being decided has ended. -/
structure Decided (d : Debt) (db : Db) : Prop where
  named : ∀ id node, db.nodes.find? id = some node → node.decisionIds = [] ∨
    ∃ decisionId, node.decisionIds = [decisionId] ∧ node.isTerminal = true ∧
      (.decision id decisionId ∈ d ∨ ∃ decision, db.decisions.find? decisionId = some decision ∧
        decision.proposal.nodeId = id)
  owed : ∀ id decisionId, .decision id decisionId ∈ d →
    ∃ node, db.nodes.find? id = some node ∧ node.decisionIds = [decisionId]
  recorded : ∀ id decision, db.decisions.find? id = some decision →
    ∃ node, db.nodes.find? decision.proposal.nodeId = some node ∧ node.decisionIds = [id] ∧
      node.evaluationCycle = decision.proposal.evaluationCycle
  ended : ∀ id node, db.nodes.find? id = some node →
    node.status = .deciding ∨ node.decisionIds ≠ [] →
    ∀ runId run, db.evaluationRuns.find? runId = some run → run.nodeId = id →
      run.evaluationCycle = node.evaluationCycle → run.isTerminal = true ∧ .success runId ∉ d
  results : ∀ id decision, db.decisions.find? id = some decision →
    ∀ resultId, resultId ∈ decision.proposal.evaluationResultIds ↔
      ∃ run ∈ db.evaluationRuns, run.nodeId = decision.proposal.nodeId ∧
        run.evaluationCycle = decision.proposal.evaluationCycle ∧
        ∃ result ∈ db.results, result.evaluationRunId = run.id ∧ result.id = resultId

section Decided

variable {L : Licence} {d d' : Debt} {db db' : Db}

theorem NodeMoves.live {old new : ExperimentNode} (moved : NodeMoves old new) :
    old.isTerminal = false := by
  obtain ⟨_, _, _, permitted, _⟩ := moved
  exact StateMachine.not_terminal_of_can permitted

theorem EvaluationRunMoves.live {old new : EvaluationRun} (moved : EvaluationRunMoves old new) :
    old.isTerminal = false := by
  obtain ⟨_, permitted, _⟩ := moved
  exact StateMachine.not_terminal_of_can permitted

/-- A node that names a decision has ended and stays as it is. -/
theorem Decided.kept (decided : Decided d db) (write : Write L d db d' db') {id decisionId : String}
    {node : ExperimentNode} (found : db.nodes.find? id = some node)
    (named : node.decisionIds = [decisionId]) : db'.nodes.find? id = some node := by
  have ended : node.isTerminal = true := by
    rcases decided.named id node found with none | ⟨_, _, isTerminal, _⟩
    · rw [named] at none
      cases none
    · exact isTerminal
  obtain ⟨later, found', _⟩ := write.grows.nodes id node found
  rcases write.node_step found' with stored | ⟨fresh, _⟩ | ⟨old, stored, moved, _⟩
  · rw [found', Option.some.inj (stored.symm.trans found)]
  · rw [found] at fresh
    cases fresh
  · rw [Option.some.inj (found.symm.trans stored), moved.live] at ended
    cases ended

/-- An undecided node names no decision. -/
theorem Decided.unnamed (decided : Decided d db) {id : String} {node : ExperimentNode}
    (found : db.nodes.find? id = some node) (live : node.isTerminal = false) :
    node.decisionIds = [] := by
  rcases decided.named id node found with none | ⟨_, _, ended, _⟩
  · exact none
  · rw [live] at ended
    cases ended

/-- No run is added to a cycle that is decided or being decided. -/
theorem Decided.closed (decided : Decided d db) {id : String} {node : ExperimentNode}
    {run : EvaluationRun} (found : db.nodes.find? id = some node)
    (frozen : node.status = .deciding ∨ node.decisionIds ≠ []) (new : NewEvaluationRun db run) :
    run.nodeId ≠ id := by
  rintro rfl
  have evaluating := new.evaluating node found
  rcases frozen with deciding | isNamed
  · rw [evaluating] at deciding
    cases deciding
  · apply isNamed
    refine decided.unnamed found ?_
    rw [ExperimentNode.isTerminal, evaluating]
    rfl

/-- A node being decided, or decided, after a write: its cycle had ended before. -/
theorem Decided.ended_before (decided : Decided d db) (strict : ¬ L.skips)
    (write : Write L d db d' db') {id : String} {node : ExperimentNode}
    (found : db'.nodes.find? id = some node)
    (frozen : node.status = .deciding ∨ node.decisionIds ≠ []) {runId : String}
    {run : EvaluationRun} (runFound : db'.evaluationRuns.find? runId = some run)
    (ofNode : run.nodeId = id) (ofCycle : run.evaluationCycle = node.evaluationCycle) :
    db.evaluationRuns.find? runId = some run ∧ run.isTerminal = true ∧ .success runId ∉ d := by
  rcases write.node_step found with stored | ⟨_, new⟩ | ⟨old, stored, moved, advances, _, sameRuns⟩
  · rcases write.evaluationRun_step runFound with before | ⟨_, new⟩ | ⟨old, before, moved, _⟩
    · exact ⟨before, decided.ended id node stored frozen runId run before ofNode ofCycle⟩
    · exact absurd ofNode (decided.closed stored frozen new)
    · have live := moved.live
      obtain ⟨_, _, rfl⟩ := moved
      rw [(decided.ended id node stored frozen runId old before ofNode ofCycle).1] at live
      cases live
  · rcases frozen with deciding | isNamed
    · rw [new.created] at deciding
      cases deciding
    · exact absurd (new.undecided.resolve_left strict) isNamed
  · rw [sameRuns] at runFound
    have none := decided.unnamed stored moved.live
    have oldId : old.id = id := Table.key_of_find? stored
    refine ⟨runFound, ?_⟩
    by_cases deciding : node.status = .deciding
    · obtain ⟨rfl, cycleEnded⟩ := (advances.deciding deciding).resolve_left strict
      have sameCycle : node.evaluationCycle = old.evaluationCycle := by
        rw [advances.cycle, if_neg (by rw [deciding]; decide)]
      exact ⟨cycleEnded runId run runFound (ofNode.trans oldId.symm) (ofCycle.trans sameCycle),
        List.not_mem_nil⟩
    · rcases advances.decisions with same | ⟨wasDeciding, isEnded, _, _⟩
      · exact absurd (same.trans none) (frozen.resolve_left deciding)
      · have notEvaluating : node.status ≠ .evaluating := by
          intro evaluating
          rw [ExperimentNode.isTerminal, evaluating] at isEnded
          cases isEnded
        have sameCycle : node.evaluationCycle = old.evaluationCycle := by
          rw [advances.cycle, if_neg notEvaluating]
        exact decided.ended id old stored (.inl wasDeciding) runId run runFound ofNode
          (ofCycle.trans sameCycle)

/-- What a decision is on is what its cycle measured, as a query of the run's result says it. -/
theorem mem_results_iff (measured : Measured d db) {run : EvaluationRun} {resultId : String} :
    (∃ result, db.evaluationResultForRun run.id = some result ∧ result.id = resultId) ↔
      ∃ result ∈ db.results, result.evaluationRunId = run.id ∧ result.id = resultId := by
  constructor
  · rintro ⟨result, isResult, isId⟩
    obtain ⟨member, ofRun⟩ := of_evaluationResultForRun isResult
    exact ⟨result, member, ofRun, isId⟩
  · rintro ⟨result, member, ofRun, isId⟩
    have some_ : (db.evaluationResultForRun run.id).isSome = true :=
      evaluationResultForRun_isSome.mpr ⟨result, member, ofRun⟩
    obtain ⟨first, isFirst⟩ := Option.isSome_iff_exists.mp some_
    obtain ⟨isFirstResult, firstRun⟩ := of_evaluationResultForRun isFirst
    have same : first = result :=
      measured.oneResult first isFirstResult result member (firstRun.trans ofRun.symm)
    exact ⟨first, isFirst, same ▸ isId⟩

theorem Write.decided (strict : ¬ L.skips) (write : Write L d db d' db') (measured : Measured d db)
    (decided : Decided d db) : Decided d' db' where
  named := by
    intro id node found
    rcases write.node_step found with stored | ⟨_, new⟩ | ⟨old, stored, moved, advances, rfl, _⟩
    · rcases decided.named id node stored with none | ⟨decisionId, named, ended, source⟩
      · exact .inl none
      · refine .inr ⟨decisionId, named, ended, ?_⟩
        have stays : ∀ decision, db.decisions.find? decisionId = some decision →
            decision.proposal.nodeId = id →
            ∃ decision, db'.decisions.find? decisionId = some decision ∧
              decision.proposal.nodeId = id := by
          intro decision recorded ofNode
          obtain ⟨_, recorded', rfl⟩ := write.grows.decisions _ decision recorded
          exact ⟨decision, recorded', ofNode⟩
        rcases source with owed | ⟨decision, recorded, ofNode⟩
        · by_cases paid : Paid db (.decision id decisionId)
          · obtain ⟨decision, recorded, ofNode⟩ := paid
            exact .inr (stays decision recorded ofNode)
          · exact .inl (write.still_owed owed paid)
        · exact .inr (stays decision recorded ofNode)
    · exact .inl (new.undecided.resolve_left strict)
    · have none := decided.unnamed stored moved.live
      have sameId : node.id = id := Table.key_of_find? found
      rcases advances.decisions with same | ⟨_, ended, decisionId, appended⟩
      · exact .inl (same.trans none)
      · rw [none, List.nil_append] at appended
        refine .inr ⟨decisionId, appended, ended, .inl ?_⟩
        simp [nodeDebt, none, appended, sameId]
  owed := by
    intro id decisionId due
    rcases write.owes due with before | ⟨old, new, stored, deciding, found, appended⟩
    · obtain ⟨node, stored, named⟩ := decided.owed id decisionId before
      exact ⟨node, decided.kept write stored named, named⟩
    · have live : old.isTerminal = false := by
        rw [ExperimentNode.isTerminal, deciding]
        rfl
      rw [decided.unnamed stored live, List.nil_append] at appended
      exact ⟨new, found, appended⟩
  recorded := by
    intro id decision found
    rcases write.decision_step found with before | ⟨rfl, decides, _, _, sameNodes⟩
    · obtain ⟨node, stored, named, sameCycle⟩ := decided.recorded id decision before
      exact ⟨node, decided.kept write stored named, named, sameCycle⟩
    · obtain ⟨node, stored, named⟩ := decided.owed _ _ decides.named
      obtain ⟨other, otherFound, sameCycle⟩ := decides.cycle
      have isNode : node = other := Option.some.inj (stored.symm.trans otherFound)
      rw [sameNodes]
      exact ⟨node, stored, named, isNode ▸ sameCycle⟩
  ended := by
    intro id node found frozen runId run runFound ofNode ofCycle
    obtain ⟨before, isEnded, unowed⟩ :=
      decided.ended_before strict write found frozen runFound ofNode ofCycle
    refine ⟨isEnded, fun due => ?_⟩
    rcases write.owes due with owed | ⟨⟨live, liveFound, isLive⟩, _⟩
    · exact unowed owed
    · rw [Option.some.inj (before.symm.trans liveFound), isLive] at isEnded
      cases isEnded
  results := by
    intro id decision found resultId
    rcases write.decision_step found with before | ⟨rfl, decides, sameRuns, sameResults, _⟩
    · obtain ⟨node, stored, named, sameCycle⟩ := decided.recorded id decision before
      have frozen : node.status = .deciding ∨ node.decisionIds ≠ [] := .inr (by simp [named])
      have still := decided.kept write stored named
      rw [decided.results id decision before resultId]
      constructor
      · rintro ⟨run, member, ofNode, ofCycle, result, isResult, ofRun, rfl⟩
        obtain ⟨later, found', _, _, rfl, _⟩ :=
          write.grows.evaluationRuns _ run (Table.find?_of_mem member)
        obtain ⟨_, resultFound, rfl⟩ := write.grows.results _ result (Table.find?_of_mem isResult)
        exact ⟨_, Table.mem_of_find? found', ofNode, ofCycle, result,
          Table.mem_of_find? resultFound, ofRun, rfl⟩
      · rintro ⟨run, member, ofNode, ofCycle, result, isResult, ofRun, rfl⟩
        obtain ⟨runBefore, _, unowed⟩ := decided.ended_before strict write still frozen
          (Table.find?_of_mem member) ofNode (ofCycle.trans sameCycle.symm)
        refine ⟨run, Table.mem_of_find? runBefore, ofNode, ofCycle, result, ?_, ofRun, rfl⟩
        rcases write.result_step isResult with resultBefore | ⟨new, _⟩
        · exact resultBefore
        · exact absurd (ofRun ▸ new.succeeds) unowed
    · rw [decides.results resultId, sameRuns, sameResults]
      constructor
      · rintro ⟨run, result, inCycle, isResult, isId⟩
        obtain ⟨member, ofNode, ofCycle⟩ := mem_evaluationRunsOfCycle.mp inCycle
        exact ⟨run, member, ofNode, ofCycle, (mem_results_iff measured).mp ⟨result, isResult, isId⟩⟩
      · rintro ⟨run, member, ofNode, ofCycle, recorded⟩
        obtain ⟨result, isResult, isId⟩ := (mem_results_iff measured).mpr recorded
        exact ⟨run, result, mem_evaluationRunsOfCycle.mpr ⟨member, ofNode, ofCycle⟩, isResult, isId⟩

theorem Decided.empty : Decided [] Db.empty where
  named _ _ found := by cases found
  owed _ _ due := absurd due List.not_mem_nil
  recorded _ _ found := by cases found
  ended _ _ found := by cases found
  results _ _ found := by cases found

theorem ReachableBy.decided {checks : Checks}
    (reached : ReachableBy checks (fun db op => ¬ op.skips db) db) : Decided [] db := by
  refine (ReachableBy.invariant (I := fun d db => Measured d db ∧ Decided d db) reached
    ⟨Measured.empty, Decided.empty⟩ ?_).2
  rintro db₀ op strict d db d' db' _ write ⟨measured, decided⟩
  exact ⟨write.measured measured, write.decided strict measured decided⟩

end Decided

/-! ## Reconciliation -/

/-- Every run of the node's cycle has succeeded and has its result, and there is one. -/
def Satisfied (db : Db) (nodeId : String) (cycle : Nat) : Prop :=
  db.evaluationRunsOfCycle nodeId cycle ≠ [] ∧
    ∀ run ∈ db.evaluationRunsOfCycle nodeId cycle, run.status = .succeeded ∧
      ∃ result ∈ db.results, result.evaluationRunId = run.id

/-- A reconciliation leaves the nodes as they are, or moves one whose cycle is satisfied. -/
theorem reconcileEvaluatingNode_ensures (db : Db) (nodeId : String) (actor : Actor)
    (destinations : List String) :
    (reconcileEvaluatingNode nodeId actor destinations).Ensures db fun _ db' =>
      db'.nodes = db.nodes ∨ ∃ node, db'.nodes.find? nodeId = some node ∧
        Satisfied db' nodeId node.evaluationCycle := by
  unfold reconcileEvaluatingNode loadRow getRow
  refine Transaction.ensures_bind.mpr (Transaction.ensures_bind.mpr (Transaction.ensures_read.mpr
    (Transaction.ensures_expect.mpr fun (node : ExperimentNode) found => ?_)))
  have stored : db.nodes.find? nodeId = some node := found
  have isNode : node.id = nodeId := Table.key_of_find? stored
  refine Transaction.ensures_bind.mpr (Transaction.ensures_require.mpr fun _ => ?_)
  refine Transaction.ensures_bind.mpr (Transaction.ensures_read.mpr ?_)
  refine Transaction.ensures_ite.mpr ⟨fun _ => Transaction.ensures_pure.mpr (.inl rfl), fun _ => ?_⟩
  refine Transaction.ensures_bind.mpr (Transaction.ensures_read.mpr ?_)
  refine Transaction.ensures_ite.mpr ⟨fun ⟨some_, satisfied⟩ => ?_, fun _ => ?_⟩
  · refine Transaction.ensures_bind.mpr (Transaction.ensures_expect.mpr fun deciding copied => ?_)
    have same : deciding.id = nodeId ∧ deciding.evaluationCycle = node.evaluationCycle := by
      obtain ⟨_, rfl⟩ := node_withStatus_eq copied
      exact ⟨isNode, rfl⟩
    refine Transaction.ensures_bind.mpr (updateRow_ensures fun stored' found' => ?_)
    refine Transaction.ensures_bind.mpr (Transaction.ensures_write.mpr ?_)
    have moved : (db.nodes.replace deciding).find? nodeId = some deciding :=
      same.1 ▸ Table.find?_replace_self found'
    refine Transaction.ensures_pure.mpr (.inr ⟨deciding, moved, ?_⟩)
    rw [same.2, ← isNode]
    refine ⟨some_, fun run inCycle => ?_⟩
    have holds := List.filter_eq_nil_iff.mp satisfied run inCycle
    simp only [Bool.or_eq_true, decide_eq_true_eq, not_or, not_not, Bool.not_eq_true,
      Option.isNone_eq_false_iff] at holds
    exact ⟨holds.1, evaluationResultForRun_isSome.mp holds.2⟩
  · refine Transaction.ensures_bind.mpr (Transaction.ensures_read.mpr ?_)
    refine Transaction.ensures_ite.mpr
      ⟨fun _ => Transaction.ensures_pure.mpr (.inl rfl), fun _ => ?_⟩
    refine Transaction.ensures_bind.mpr (Transaction.ensures_write.mpr ?_)
    exact Transaction.ensures_pure.mpr (.inl rfl)

/-! ## Outcomes -/

/-- The decisions about a node, in the order they were recorded. -/
def Db.decisionsFor (db : Db) (nodeId : String) : List Decision :=
  db.decisions.rows.filter fun decision => decision.proposal.nodeId = nodeId

/-- Evaluation succeeds with its result, and a cycle is decided once on all its results. -/
structure Concluded (db : Db) : Prop where
  success : ∀ id run, db.evaluationRuns.find? id = some run →
    (run.status = .succeeded ↔
      ∃! result, result ∈ db.results ∧ result.evaluationRunId = id) ∧
    (run.status = .succeeded ↔ ∃! attempt, attempt ∈ db.evaluationAttempts ∧
      attempt.evaluationRunId = id ∧ attempt.status = .succeeded)
  once : ∀ first ∈ db.decisions, ∀ second ∈ db.decisions,
    first.proposal.nodeId = second.proposal.nodeId →
    first.proposal.evaluationCycle = second.proposal.evaluationCycle → first = second
  results : ∀ decision ∈ db.decisions, ∀ id, id ∈ decision.proposal.evaluationResultIds ↔
    ∃ run ∈ db.evaluationRuns, run.nodeId = decision.proposal.nodeId ∧
      run.evaluationCycle = decision.proposal.evaluationCycle ∧
      ∃ result ∈ db.results, result.evaluationRunId = run.id ∧ result.id = id
  decisions : ∀ id node, db.nodes.find? id = some node →
    node.decisionIds = (db.decisionsFor id).map Decision.id ∧
      (db.decisionsFor id).Pairwise fun first second =>
        first.proposal.evaluationCycle < second.proposal.evaluationCycle

section Concluded

variable {db : Db}

theorem Measured.success (measured : Measured [] db) {id : String} {run : EvaluationRun}
    (found : db.evaluationRuns.find? id = some run) :
    (run.status = .succeeded ↔ ∃! result, result ∈ db.results ∧ result.evaluationRunId = id) ∧
    (run.status = .succeeded ↔ ∃! attempt, attempt ∈ db.evaluationAttempts ∧
      attempt.evaluationRunId = id ∧ attempt.status = .succeeded) := by
  have ofRun : ∀ other, db.evaluationRuns.find? id = some other → other.status = .succeeded →
      run.status = .succeeded := by
    intro other otherFound succeeded
    rw [Option.some.inj (found.symm.trans otherFound)]
    exact succeeded
  refine ⟨⟨fun succeeded => ?_, ?_⟩, ⟨fun succeeded => ?_, ?_⟩⟩
  · rcases measured.result id run found succeeded with owed | ⟨result, member, isOf⟩
    · cases owed
    · refine ⟨result, ⟨member, isOf⟩, fun other ⟨otherMember, otherOf⟩ => ?_⟩
      exact measured.oneResult other otherMember result member (otherOf.trans isOf.symm)
  · rintro ⟨result, ⟨member, rfl⟩, _⟩
    obtain ⟨other, otherFound, succeeded⟩ := measured.ofResult result member
    exact ofRun other otherFound succeeded
  · obtain ⟨attemptId, attempt, stored, isOf, isSucceeded⟩ :=
      measured.attempt id run found succeeded
    refine ⟨attempt, ⟨Table.mem_of_find? stored, isOf, isSucceeded⟩, ?_⟩
    rintro other ⟨member, otherOf, otherSucceeded⟩
    have same : other.id = attemptId := measured.oneAttempt _ _ other attempt
      (Table.find?_of_mem member) stored otherSucceeded isSucceeded (otherOf.trans isOf.symm)
    exact Option.some.inj ((Table.find?_of_mem member).symm.trans (same ▸ stored))
  · rintro ⟨attempt, ⟨member, rfl, isSucceeded⟩, _⟩
    rcases measured.ofAttempt _ attempt (Table.find?_of_mem member) isSucceeded with
      owed | ⟨other, otherFound, succeeded⟩
    · cases owed
    · exact ofRun other otherFound succeeded

/-- Two decisions about one node are one decision. -/
theorem Decided.unique (decided : Decided [] db) {first second : Decision}
    (isFirst : first ∈ db.decisions) (isSecond : second ∈ db.decisions)
    (sameNode : first.proposal.nodeId = second.proposal.nodeId) : first = second := by
  obtain ⟨node, found, named, _⟩ := decided.recorded _ first (Table.find?_of_mem isFirst)
  obtain ⟨other, otherFound, otherNamed, _⟩ :=
    decided.recorded _ second (Table.find?_of_mem isSecond)
  rw [sameNode] at found
  rw [Option.some.inj (found.symm.trans otherFound), otherNamed] at named
  exact Table.eq_of_key_eq isFirst isSecond (List.cons.inj named).1.symm

theorem Decided.decisionsFor (decided : Decided [] db) {id : String} {node : ExperimentNode}
    (found : db.nodes.find? id = some node) :
    node.decisionIds = (db.decisionsFor id).map Decision.id ∧
      (db.decisionsFor id).Pairwise fun first second =>
        first.proposal.evaluationCycle < second.proposal.evaluationCycle := by
  have ofNode : ∀ decision ∈ db.decisionsFor id,
      decision ∈ db.decisions ∧ decision.proposal.nodeId = id := by
    intro decision member
    rw [Db.decisionsFor, List.mem_filter, decide_eq_true_eq] at member
    exact member
  have nodup : (db.decisionsFor id).Nodup := db.decisions.rows_nodup.filter _
  -- there is no second decision about the node
  cases list : db.decisionsFor id with
  | nil =>
      refine ⟨?_, .nil⟩
      rcases decided.named id node found with none | ⟨_, _, _, owed | ⟨decision, recorded, isOf⟩⟩
      · exact none
      · cases owed
      · have member : decision ∈ db.decisionsFor id :=
          List.mem_filter.mpr ⟨Table.mem_of_find? recorded, decide_eq_true isOf⟩
        rw [list] at member
        cases member
  | cons decision rest =>
      rw [list] at ofNode nodup
      obtain ⟨isDecision, isOf⟩ := ofNode decision List.mem_cons_self
      have alone : rest = [] := by
        rw [List.eq_nil_iff_forall_not_mem]
        intro other member
        obtain ⟨isOther, otherOf⟩ := ofNode other (List.mem_cons_of_mem _ member)
        rw [decided.unique isOther isDecision (otherOf.trans isOf.symm)] at member
        exact (List.nodup_cons.mp nodup).1 member
      obtain ⟨stored, storedFound, named, _⟩ :=
        decided.recorded _ decision (Table.find?_of_mem isDecision)
      rw [isOf] at storedFound
      rw [Option.some.inj (found.symm.trans storedFound), named, alone]
      exact ⟨rfl, List.pairwise_singleton _ _⟩

end Concluded

/-- Where no call takes a node to `DECIDING` before its cycle has ended, or creates one that names
decisions, evaluations are concluded, and reconciliation decides only a satisfied cycle. -/
theorem evaluation_concluded {checks : Checks} {db : Db}
    (reached : ReachableBy checks (fun db op => ¬ op.skips db) db) :
    Concluded db ∧
    ∀ nodeId actor destinations node,
      let after := (Op.reconcileEvaluatingNode nodeId actor destinations).exec checks db
      after.nodes.find? nodeId = some node → node.status = .deciding →
        (db.nodes.find? nodeId).map ExperimentNode.status ≠ some .deciding →
          Satisfied after nodeId node.evaluationCycle := by
  have measured : Measured [] db := ReachableBy.measured reached
  have decided : Decided [] db := ReachableBy.decided reached
  refine ⟨⟨fun _ _ => measured.success, ?_, ?_, fun _ _ => decided.decisionsFor⟩, ?_⟩
  · exact fun _ isFirst _ isSecond sameNode _ => decided.unique isFirst isSecond sameNode
  · exact fun decision member => decided.results _ decision (Table.find?_of_mem member)
  · intro nodeId actor destinations node after found deciding before
    have moves : after.nodes = db.nodes ∨ ∃ node, after.nodes.find? nodeId = some node ∧
        Satisfied after nodeId node.evaluationCycle := by
      have exec_eq : after = (reconcileEvaluatingNode nodeId actor destinations).settle db :=
        done_settle _ _
      rw [exec_eq, Transaction.settle]
      cases ran : reconcileEvaluatingNode nodeId actor destinations db with
      | error => exact .inl rfl
      | ok answer =>
          exact reconcileEvaluatingNode_ensures db nodeId actor destinations answer.1 answer.2 ran
    rcases moves with same | ⟨other, otherFound, satisfied⟩
    · rw [same] at found
      rw [found, Option.map_some, deciding] at before
      exact absurd rfl before
    · rw [Option.some.inj (found.symm.trans otherFound)]
      exact satisfied

/-! ## Two histories -/

/-- An actor of the histories below. -/
def evaluator : Actor := ⟨"controller", "host", ""⟩

/-- A node in its first evaluation cycle, which has two runs. -/
def evaluating : List Op :=
  [.createExperiment { id := "experiment" } evaluator [],
    .createNode { id := "node", experimentId := "experiment", candidateFingerprint := "" }
      evaluator [],
    .transitionNode "node" 0 .planned evaluator none [],
    .transitionNode "node" 1 .ready evaluator none [],
    .transitionNode "node" 2 .active evaluator none [],
    .beginEvaluationCycle "node" 3
      [{ id := "first", experimentId := "experiment", nodeId := "node", evaluationCycle := 1 },
        { id := "second", experimentId := "experiment", nodeId := "node", evaluationCycle := 1 }]
      evaluator []]

/-- An evaluation run executed to its result. -/
def measuring (runId attemptId resultId : String) : List Op :=
  [.transitionEvaluationRun runId 0 .active evaluator [] none,
    .createEvaluationAttemptWithSubmitIntent
      { id := attemptId, evaluationRunId := runId, attemptNumber := 1 } attemptId "request"
      evaluator [],
    .transitionEvaluationAttempt attemptId 0 .queued evaluator [] none none,
    .transitionEvaluationAttempt attemptId 1 .starting evaluator [] none none,
    .transitionEvaluationAttempt attemptId 2 .running evaluator [] none none,
    .recordEvaluationResult attemptId
      { id := resultId, evaluationRunId := runId, nodeId := "node" } 3 evaluator none []]

/-- The decision to stop on these results. -/
def stopping (resultIds : List String) (expectedNodeRevision : Nat) : Op :=
  .recordDecision
    { experimentId := "experiment", nodeId := "node", evaluationCycle := 1
      outcome := .stopSucceeded, evaluationResultIds := resultIds, evidenceResultIds := resultIds
      inputFingerprint := "" } "decision" expectedNodeRevision evaluator []

/-- Both runs are measured, the cycle is reconciled and decided. -/
def decidedCycle : List Op :=
  evaluating ++ measuring "first" "a" "r" ++ measuring "second" "b" "s" ++
    [.reconcileEvaluatingNode "node" evaluator [], stopping ["r", "s"] 5]

/-- The node is taken to `DECIDING` and decided while the second run is still to be measured. -/
def decidedEarly : List Op :=
  evaluating ++ measuring "first" "a" "r" ++
    [.transitionNode "node" 4 .deciding evaluator none [], stopping ["r"] 5] ++
    measuring "second" "b" "s"

theorem evaluation_concluded_decided :
    let db := execAll .permissive decidedCycle Db.empty
    (db.nodes.find? "node").map ExperimentNode.decisionIds = some ["decision"] ∧
      ∀ node, db.nodes.find? "node" = some node →
        node.decisionIds = (db.decisionsFor "node").map Decision.id := by
  refine ⟨by decide +kernel, fun node found => ?_⟩
  have reached : ReachableBy .permissive (fun db op => ¬ op.skips db)
      (execAll .permissive decidedCycle Db.empty) := by
    refine reaches_execAll decidedCycle .start ?_
    intro op member db
    simp only [decidedCycle, evaluating, measuring, stopping, List.cons_append, List.nil_append,
      List.mem_cons, List.not_mem_nil, or_false] at member
    rcases member with rfl | rfl | rfl | rfl | rfl | rfl | rfl | rfl | rfl | rfl | rfl | rfl | rfl |
      rfl | rfl | rfl | rfl | rfl | rfl | rfl <;> simp [Op.skips]
  exact ((evaluation_concluded reached).1.decisions "node" node found).1

/-- The decision names one of the two results its cycle has. -/
theorem decided_before_measured :
    ¬ Concluded (execAll .permissive decidedEarly Db.empty) := by
  intro concluded
  let decision : Decision :=
    ⟨"decision",
      { experimentId := "experiment", nodeId := "node", evaluationCycle := 1
        outcome := .stopSucceeded, evaluationResultIds := ["r"], evidenceResultIds := ["r"]
        inputFingerprint := "" }⟩
  have recorded : decision ∈ (execAll .permissive decidedEarly Db.empty).decisions.rows := by
    decide +kernel
  let run : EvaluationRun :=
    { id := "second", experimentId := "experiment", nodeId := "node", evaluationCycle := 1
      status := .succeeded, revision := 2 }
  let result : EvaluationResult := { id := "s", evaluationRunId := "second", nodeId := "node" }
  have measured : run ∈ (execAll .permissive decidedEarly Db.empty).evaluationRuns.rows ∧
      result ∈ (execAll .permissive decidedEarly Db.empty).results.rows := by
    decide +kernel
  have onAll := concluded.results decision recorded "s"
  generalize execAll .permissive decidedEarly Db.empty = db at onAll measured
  have named : "s" ∈ decision.proposal.evaluationResultIds :=
    onAll.mpr ⟨run, measured.1, rfl, rfl, result, measured.2, rfl, rfl⟩
  exact absurd named (by decide)

end Xaytune.Storage
