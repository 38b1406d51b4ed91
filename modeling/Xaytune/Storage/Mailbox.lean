import Mathlib.Data.List.Induction
import Xaytune.Storage.Legality.Repository

/-!
# The daemon's mailbox

A submission is accepted in the commit that records its experiment, and in no other:
the experiment is not recorded before that commit and stays recorded after it, so a
second submission of it is never accepted. A request that failed was never admitted.
-/

namespace Xaytune.Storage

open Xaytune.Core Xaytune.Library

/-- A submission whose experiment has been admitted. -/
def ControllerRequest.isAdmitted (request : ControllerRequest) : Prop :=
  request.kind = .submit ∧ (request.state = .accepted ∨ request.state = .completed)

/-- The call admits a submission: one commit records the experiment the request names and accepts
the request, for a spec of the request's digest. -/
structure Admits (checks : Checks) (op : Op) (db : Db) (request : ControllerRequest) : Prop where
  call : ∃ experiment node run attempt operationId requestDigest actor destinations,
    op = .admitExperiment experiment node run attempt operationId requestDigest
      (some ⟨request.id, request.payloadDigest⟩) actor destinations ∧
      experiment.id = request.experimentId
  pending : (db.requests.find? request.id).map ControllerRequest.state = some .pending
  unrecorded : db.experiments.find? request.experimentId = none
  accepted : ((op.exec checks db).requests.find? request.id).map ControllerRequest.state =
    some .accepted
  recorded : ((op.exec checks db).experiments.find? request.experimentId).isSome

/-! ## What one admission does -/

section Admission

variable {checks : Checks} {db : Db}

theorem requirePristine_ensures {S : Type} [DecidableEq S] {status initial : S} {revision : Nat}
    {post : Unit → Db → Prop} (holds : post () db) :
    (requirePristine status initial revision).Ensures db post := by
  unfold requirePristine
  refine Transaction.ensures_bind.mpr (Transaction.ensures_require.mpr fun _ => ?_)
  exact Transaction.ensures_require.mpr fun _ => holds

/-- A request written back is stored, and names a recorded experiment if it is accepted. -/
theorem updateRequest_ensures (request : ControllerRequest) :
    (updateRequest request).Ensures db fun _ db' =>
      db'.requests.find? request.id = some request ∧
        (request.state = .accepted → (db'.experiments.find? request.experimentId).isSome) := by
  unfold updateRequest
  refine Transaction.ensures_bind.mpr (Transaction.ensures_read.mpr ?_)
  refine Transaction.ensures_bind.mpr (Transaction.ensures_expect.mpr fun stored found => ?_)
  refine Transaction.ensures_bind.mpr (Transaction.ensures_require.mpr fun _ => ?_)
  refine Transaction.ensures_bind.mpr (Transaction.ensures_require.mpr fun _ => ?_)
  refine Transaction.ensures_bind.mpr (Transaction.ensures_read.mpr ?_)
  refine Transaction.ensures_bind.mpr (Transaction.ensures_require.mpr fun admitted => ?_)
  refine Transaction.ensures_write.mpr ⟨Table.find?_replace_self found, ?_⟩
  intro accepted
  simpa [accepted] using admitted

/-- The submission is the pending request of an experiment not yet recorded. -/
structure Submits (db : Db) (experiment : Experiment) (submission : SubmissionRequest)
    (request : ControllerRequest) : Prop where
  found : db.requests.find? submission.id = some request
  kind : request.kind = .submit
  names : request.experimentId = experiment.id
  digest : request.payloadDigest = submission.submittedDigest
  pending : request.state = .pending
  unrecorded : db.experiments.find? experiment.id = none

/-- Nothing was written, or the request is accepted with its experiment recorded. -/
def Admitted (db : Db) (experiment : Experiment) (submission : SubmissionRequest)
    (answer : Option ExperimentAdmission) (db' : Db) : Prop :=
  (answer = none ∧ db' = db) ∨ answer ≠ none ∧
    ∃ request accepted, Submits db experiment submission request ∧
      db'.requests.find? submission.id = some accepted ∧ accepted.state = .accepted ∧
      (db'.experiments.find? experiment.id).isSome

/-- An admission for a request writes nothing, or accepts it with its experiment recorded. -/
theorem admitExperiment_ensures (experiment : Experiment) (node : ExperimentNode) (run : Run)
    (attempt : RunAttempt) (operationId requestDigest : String) (submission : SubmissionRequest)
    (actor : Actor) (destinations : List String) :
    (admitExperiment checks experiment node run attempt operationId requestDigest (some submission)
      actor destinations).Ensures db (Admitted db experiment submission) := by
  unfold admitExperiment
  refine Transaction.ensures_bind.mpr (requirePristine_ensures ?_)
  refine Transaction.ensures_bind.mpr (requirePristine_ensures ?_)
  refine Transaction.ensures_bind.mpr (requirePristine_ensures ?_)
  refine Transaction.ensures_bind.mpr (requirePristine_ensures ?_)
  unfold requireConsistentCandidate
  refine Transaction.ensures_bind.mpr (Transaction.ensures_require.mpr fun _ => ?_)
  refine Transaction.ensures_bind.mpr (Transaction.ensures_require.mpr fun _ => ?_)
  unfold admissibleRequest
  refine Transaction.ensures_bind.mpr
    (Transaction.ensures_bind.mpr (Transaction.ensures_read.mpr ?_))
  refine Transaction.ensures_bind.mpr (Transaction.ensures_expect.mpr fun request found => ?_)
  refine Transaction.ensures_bind.mpr (Transaction.ensures_require.mpr fun submitted => ?_)
  refine Transaction.ensures_bind.mpr (Transaction.ensures_require.mpr fun digest => ?_)
  simp only [Bool.and_eq_true, decide_eq_true_eq] at submitted digest
  refine Transaction.ensures_ite.mpr ⟨fun _ => ?_, fun isPending => ?_⟩
  · exact Transaction.ensures_pure.mpr (Transaction.ensures_pure.mpr (.inl ⟨rfl, rfl⟩))
  · refine Transaction.ensures_pure.mpr
      (Transaction.ensures_bind.mpr (Transaction.ensures_read.mpr ?_))
    refine Transaction.ensures_bind.mpr (Transaction.ensures_require.mpr fun unrecorded => ?_)
    have submits : Submits db experiment submission request :=
      ⟨found, submitted.1, submitted.2, digest, by simpa using isPending,
        Option.isNone_iff_eq_none.mp unrecorded⟩
    have accepts : ∀ (admission : ExperimentAdmission) (db₃ : Db), Transaction.Ensures (do
        let accepted ← Transaction.expect (request.withState .accepted none)
          (StoreError.invalidTransition "ControllerRequest" "" "accepted")
        updateRequest accepted
        pure (some admission)) db₃
          (Admitted db experiment submission) := by
      intro admission db₃
      refine Transaction.ensures_bind.mpr (Transaction.ensures_expect.mpr fun accepted copied => ?_)
      refine Transaction.ensures_bind.mpr
        ((updateRequest_ensures accepted).mono fun _ db₄ written => ?_)
      obtain ⟨rfl, _⟩ := request_withState_eq copied
      have sameId : request.id = submission.id := Table.key_of_find? found
      refine Transaction.ensures_pure.mpr (.inr ⟨nofun, request, _, submits, sameId ▸ written.1,
        rfl, ?_⟩)
      exact submits.names ▸ written.2 rfl
    -- the admission's own records are between the checks and the acceptance
    refine Transaction.ensures_bind.mpr fun active db₁ _ => ?_
    refine Transaction.ensures_bind.mpr fun root db₂ _ => ?_
    refine Transaction.ensures_bind.mpr (Transaction.ensures_read.mpr ?_)
    refine Transaction.ensures_ite.mpr ⟨fun _ => ?_, fun _ => ?_⟩
    · refine Transaction.ensures_bind.mpr fun started db₃ _ => ?_
      exact Transaction.ensures_bind.mpr (Transaction.ensures_pure.mpr (accepts _ db₃))
    · refine Transaction.ensures_bind.mpr fun ended db₃ _ => ?_
      exact Transaction.ensures_bind.mpr (Transaction.ensures_pure.mpr (accepts _ db₃))

/-- An admission that returns nothing has written nothing. -/
theorem admitExperiment_none {experiment : Experiment} {node : ExperimentNode} {run : Run}
    {attempt : RunAttempt} {operationId requestDigest : String}
    {submission : Option SubmissionRequest} {actor : Actor} {destinations : List String} {db' : Db}
    (returned : admitExperiment checks experiment node run attempt operationId requestDigest
      submission actor destinations db = .ok (none, db')) : db' = db := by
  cases submission with
  | some submission =>
      rcases admitExperiment_ensures experiment node run attempt operationId requestDigest
        submission actor destinations none db' returned with ⟨_, same⟩ | ⟨answered, _⟩
      · exact same
      · exact absurd rfl answered
  | none =>
      -- without a request to have been answered before, an admission answers
      have answers : (admitExperiment checks experiment node run attempt operationId requestDigest
          none actor destinations).Ensures db fun answer _ => answer ≠ none := by
        unfold admitExperiment
        refine Transaction.ensures_bind.mpr (requirePristine_ensures ?_)
        refine Transaction.ensures_bind.mpr (requirePristine_ensures ?_)
        refine Transaction.ensures_bind.mpr (requirePristine_ensures ?_)
        refine Transaction.ensures_bind.mpr (requirePristine_ensures ?_)
        refine Transaction.ensures_bind.mpr fun _ _ _ => ?_
        refine Transaction.ensures_bind.mpr fun _ _ _ => ?_
        refine Transaction.ensures_bind.mpr (Transaction.ensures_pure.mpr ?_)
        refine Transaction.ensures_bind.mpr fun _ _ _ => ?_
        refine Transaction.ensures_bind.mpr fun _ _ _ => ?_
        refine Transaction.ensures_bind.mpr fun _ _ _ => ?_
        refine Transaction.ensures_bind.mpr fun _ _ _ => ?_
        refine Transaction.ensures_bind.mpr fun _ _ _ => ?_
        refine Transaction.ensures_ite.mpr ⟨fun _ => ?_, fun _ => ?_⟩
        · refine Transaction.ensures_bind.mpr fun _ _ _ => ?_
          exact Transaction.ensures_bind.mpr (Transaction.ensures_pure.mpr
            (Transaction.ensures_pure.mpr nofun))
        · refine Transaction.ensures_bind.mpr fun _ _ _ => ?_
          exact Transaction.ensures_bind.mpr (Transaction.ensures_pure.mpr
            (Transaction.ensures_pure.mpr nofun))
      exact absurd rfl (answers none db' returned)

end Admission

/-! ## Where an admitted request comes from -/

section Requests

variable {checks : Checks} {L : Licence} {d d' : Debt} {db db' : Db}

theorem Write.admitted_before (write : Write L d db d' db') {id : String}
    {request : ControllerRequest} (found : db'.requests.find? id = some request)
    (admitted : request.isAdmitted) :
    (∃ old, db.requests.find? id = some old ∧ old.isAdmitted) ∨ L.accepts id := by
  cases write with
  | aux other aside =>
      cases aside with
      | request row table inserted pending =>
          rcases (Table.find?_insert? inserted).mp found with ⟨rfl, rfl⟩ | ⟨_, stored⟩
          · obtain ⟨_, accepted | completed⟩ := admitted
            · rw [pending] at accepted
              cases accepted
            · rw [pending] at completed
              cases completed
          · exact .inl ⟨request, stored, admitted⟩
      | moveRequest old new state error stored moved accepted =>
          obtain ⟨rfl, from_⟩ := request_withState_eq moved
          have stored' : db.requests.find? { old with
              state := state, error := error, revision := old.revision + 1 }.id = some old := stored
          rcases (Table.find?_replace stored').mp found with ⟨rfl, rfl⟩ | ⟨_, found'⟩
          · obtain ⟨isSubmit, isAccepted | isCompleted⟩ := admitted
            · exact .inr (accepted isAccepted)
            · refine .inl ⟨old, stored, isSubmit, .inl ?_⟩
              have completed : state = .completed := isCompleted
              subst completed
              rcases from_ with pending | ⟨wasAccepted, _⟩
              · have submit : old.kind = .submit := isSubmit
                simp [ControllerRequest.withState, ControllerRequest.allowed, submit, pending]
                  at moved
              · exact wasAccepted
          · exact .inl ⟨request, found', admitted⟩
      | _ => exact .inl ⟨request, found, admitted⟩
  | _ => exact .inl ⟨request, found, admitted⟩

theorem Writes.admitted_before (writes : Writes L d db d' db') {id : String}
    {request : ControllerRequest} (found : db'.requests.find? id = some request)
    (admitted : request.isAdmitted) :
    (∃ old, db.requests.find? id = some old ∧ old.isAdmitted) ∨ L.accepts id := by
  induction writes generalizing request with
  | refl => exact .inl ⟨request, found, admitted⟩
  | tail chain last ih =>
      rcases Write.admitted_before last found admitted with ⟨old, stored, wasAdmitted⟩ | accepts
      · exact ih stored wasAdmitted
      · exact .inr accepts

theorem RequestLater.same {old new : ControllerRequest} (later : RequestLater old new) :
    new.id = old.id ∧ new.kind = old.kind ∧ new.experimentId = old.experimentId ∧
      new.payloadDigest = old.payloadDigest := by
  obtain ⟨_, _, _, rfl, _⟩ := later
  exact ⟨rfl, rfl, rfl, rfl⟩

/-- A call that raises, or admits nothing, leaves the record as it was. -/
theorem admitExperiment_settles (checks : Checks) (db : Db) (experiment : Experiment)
    (node : ExperimentNode) (run : Run) (attempt : RunAttempt) (operationId requestDigest : String)
    (submission : SubmissionRequest) (actor : Actor) (destinations : List String) :
    let op := Op.admitExperiment experiment node run attempt operationId requestDigest
      (some submission) actor destinations
    op.exec checks db = db ∨
      ∃ request accepted, Submits db experiment submission request ∧
        (op.exec checks db).requests.find? submission.id = some accepted ∧
        accepted.state = .accepted ∧
        ((op.exec checks db).experiments.find? experiment.id).isSome := by
  intro op
  have exec_eq : op.exec checks db = Transaction.settle (admitExperiment checks experiment node run
      attempt operationId requestDigest (some submission) actor destinations) db := done_settle _ _
  rw [exec_eq, Transaction.settle]
  cases ran : admitExperiment checks experiment node run attempt operationId requestDigest
      (some submission) actor destinations db with
  | error e => exact .inl rfl
  | ok result =>
      rcases admitExperiment_ensures experiment node run attempt operationId requestDigest
        submission actor destinations result.1 result.2 ran with ⟨_, same⟩ | ⟨_, committed⟩
      · exact .inl same
      · exact .inr committed

/-- A request admitted after a call was so before it, or is admitted by the call. -/
theorem Op.admits (sound : Sound [] db) (op : Op) {id : String} {request : ControllerRequest}
    (found : (op.exec checks db).requests.find? id = some request)
    (admitted : request.isAdmitted) :
    (∃ old, db.requests.find? id = some old ∧ old.isAdmitted) ∨ Admits checks op db request := by
  rcases (Op.writes sound op).admitted_before found admitted with before | accepts
  · exact .inl before
  · have grows : Grows db (op.exec checks db) := Op.grows sound op
    cases op with
    | admitExperiment experiment node run attempt operationId requestDigest submission actor
        destinations =>
        cases submission with
        | none => cases accepts
        | some submission =>
            have named : submission.id = id := accepts
            subst named
            rcases admitExperiment_settles checks db experiment node run attempt operationId
              requestDigest submission actor destinations with
              idle | ⟨old, accepted, submits, stored, isAccepted, recorded⟩
            · rw [idle] at found
              exact .inl ⟨request, found, admitted⟩
            · obtain ⟨current, currentFound, later⟩ := grows.requests _ old submits.found
              have isCurrent : current = request := Option.some.inj (currentFound.symm.trans found)
              have isRequest : accepted = request := Option.some.inj (stored.symm.trans found)
              subst isCurrent
              obtain ⟨sameId, _, sameExperiment, sameDigest⟩ := later.same
              have ofSubmission : current.id = submission.id := Table.key_of_find? found
              have names : experiment.id = current.experimentId :=
                (sameExperiment.trans submits.names).symm
              refine .inr ⟨⟨experiment, node, run, attempt, operationId, requestDigest, actor,
                destinations, ?_, names⟩, ?_, ?_, ?_, ?_⟩
              · rw [ofSubmission, sameDigest, submits.digest]
              · rw [ofSubmission, submits.found, Option.map_some, submits.pending]
              · rw [← names]
                exact submits.unrecorded
              · rw [ofSubmission, stored, Option.map_some, isAccepted]
              · rw [← names]
                exact recorded
    | _ => cases accepts

end Requests

/-! ## Histories -/

section Histories

variable {checks : Checks}

theorem Admits.accepts {op : Op} {db : Db} {request : ControllerRequest}
    (admits : Admits checks op db request) : op.accepts request.id := by
  obtain ⟨_, _, _, _, _, _, _, _, rfl, _⟩ := admits.call
  rfl

/-- A call accepts one submission at most. -/
theorem Op.accepts_unique {op : Op} {id id' : String} (accepts : op.accepts id)
    (accepts' : op.accepts id') : id = id' := by
  cases op with
  | admitExperiment experiment node run attempt operationId requestDigest submission =>
      cases submission with
      | none => cases accepts
      | some submission => exact Eq.trans (Eq.symm accepts) accepts'
  | _ => cases accepts

/-- Every admitted submission has its admission in the history that led there. -/
theorem admission_in_history (ops : List Op) {id : String} {request : ControllerRequest}
    (found : (execAll checks ops Db.empty).requests.find? id = some request)
    (admitted : request.isAdmitted) :
    ∃ before op after, ops = before ++ op :: after ∧
      Admits checks op (execAll checks before Db.empty) request := by
  induction ops using List.reverseRecOn generalizing request with
  | nil => cases found
  | append_singleton ops op ih =>
      have sound : Sound [] (execAll checks ops Db.empty) :=
        ReachableBy.sound (reachable_execAll checks ops .start)
      rw [execAll_append] at found
      rcases Op.admits sound op found admitted with ⟨old, stored, wasAdmitted⟩ | admits
      · obtain ⟨before, earlier, after, split, admits⟩ := ih stored wasAdmitted
        have grows : Grows _ (op.exec checks (execAll checks ops Db.empty)) := Op.grows sound op
        obtain ⟨current, currentFound, later⟩ := grows.requests _ old stored
        have isCurrent : current = request := Option.some.inj (currentFound.symm.trans found)
        subst isCurrent
        obtain ⟨sameId, _, sameExperiment, sameDigest⟩ := later.same
        refine ⟨before, earlier, after ++ [op], ?_, ?_⟩
        · rw [split, List.append_assoc, List.cons_append]
        · obtain ⟨⟨experiment, node, run, attempt, operationId, requestDigest, actor, destinations,
            call, names⟩, pending, unrecorded, accepted, recorded⟩ := admits
          rw [← sameId, ← sameDigest] at call
          rw [← sameId] at pending accepted
          rw [← sameExperiment] at names unrecorded recorded
          exact ⟨⟨experiment, node, run, attempt, operationId, requestDigest, actor, destinations,
            call, names⟩, pending, unrecorded, accepted, recorded⟩
      · exact ⟨ops, op, [], rfl, admits⟩

/-- An admitted submission's experiment is recorded, and no other submission of it is admitted. -/
theorem admitted_once {db : Db} (reached : Reachable checks db) :
    (∀ id request, db.requests.find? id = some request → request.isAdmitted →
      (db.experiments.find? request.experimentId).isSome) ∧
    ∀ id id' request request', db.requests.find? id = some request →
      db.requests.find? id' = some request' → request.isAdmitted → request'.isAdmitted →
      request.experimentId = request'.experimentId → id = id' := by
  induction reached with
  | start =>
      constructor
      · intro _ _ found
        cases found
      · intro _ _ _ _ found
        cases found
  | @next db op reached _ ih =>
      obtain ⟨recorded, once⟩ := ih
      have sound : Sound [] db := ReachableBy.sound reached
      have grows : Grows db (op.exec checks db) := Op.grows sound op
      -- an admitted request was admitted in the state before under the same name
      have before : ∀ {id request old}, (op.exec checks db).requests.find? id = some request →
          db.requests.find? id = some old → request.experimentId = old.experimentId := by
        intro id request old found stored
        obtain ⟨current, currentFound, later⟩ := grows.requests _ old stored
        rw [Option.some.inj (found.symm.trans currentFound)]
        exact later.same.2.2.1
      constructor
      · intro id request found admitted
        rcases Op.admits sound op found admitted with ⟨old, stored, wasAdmitted⟩ | admits
        · rw [before found stored]
          obtain ⟨experiment, isStored⟩ :=
            Option.isSome_iff_exists.mp (recorded id old stored wasAdmitted)
          obtain ⟨_, isStored', _⟩ := grows.experiments _ experiment isStored
          exact Option.isSome_iff_exists.mpr ⟨_, isStored'⟩
        · exact admits.recorded
      · intro id id' request request' found found' admitted admitted' same
        rcases Op.admits sound op found admitted with ⟨old, stored, wasAdmitted⟩ | admits
        · rcases Op.admits sound op found' admitted' with ⟨old', stored', wasAdmitted'⟩ | admits'
          · refine once id id' old old' stored stored' wasAdmitted wasAdmitted' ?_
            rw [← before found stored, ← before found' stored', same]
          · have isRecorded := recorded id old stored wasAdmitted
            rw [← before found stored, same, admits'.unrecorded] at isRecorded
            cases isRecorded
        · rcases Op.admits sound op found' admitted' with ⟨old', stored', wasAdmitted'⟩ | admits'
          · have isRecorded := recorded id' old' stored' wasAdmitted'
            rw [← before found' stored', ← same, admits.unrecorded] at isRecorded
            cases isRecorded
          · rw [← Table.key_of_find? found, ← Table.key_of_find? found']
            exact Op.accepts_unique admits.accepts admits'.accepts

/-- The calls of the mailbox. -/
def Op.isMailbox : Op → Bool
  | .recordControllerRequest .. | .admitExperiment .. | .completeControllerRequest ..
  | .failControllerRequest .. => true
  | _ => false

/-- A request that failed was not admitted by any call of its history. -/
theorem failed_never_admitted (before : List Op) (op : Op) (after : List Op) {id : String}
    {request : ControllerRequest}
    (found : (execAll checks (before ++ op :: after) Db.empty).requests.find? id = some request)
    (failed : request.state = .failed) (accepts : op.accepts id) :
    op.exec checks (execAll checks before Db.empty) = execAll checks before Db.empty := by
  have reached : Reachable checks (execAll checks before Db.empty) :=
    reachable_execAll checks before .start
  cases op with
  | admitExperiment experiment node run attempt operationId requestDigest submission actor
      destinations =>
      cases submission with
      | none => cases accepts
      | some submission =>
          have named : submission.id = id := accepts
          subst named
          rcases admitExperiment_settles checks (execAll checks before Db.empty) experiment node run
            attempt operationId requestDigest submission actor destinations with
            idle | ⟨_, accepted, _, stored, isAccepted, _⟩
          · exact idle
          · -- an accepted request is completed or stays as it is
            rw [execAll_append] at found
            have later : Grows ((Op.admitExperiment experiment node run attempt operationId
                requestDigest (some submission) actor destinations).exec checks
                  (execAll checks before Db.empty)) (execAll checks after _) :=
              (reachableFrom_execAll checks after _).grows (Reaches.next reached trivial)
            obtain ⟨current, currentFound, _, _, _, isCurrent, _, _, _, _, kept⟩ :=
              later.requests _ accepted stored
            have isRequest : current = request := Option.some.inj (currentFound.symm.trans found)
            rw [← isRequest, isCurrent] at failed
            rcases kept isAccepted with still | completed
            · exact absurd (failed.symm.trans still) (by decide)
            · exact absurd (failed.symm.trans completed) (by decide)
  | _ => cases accepts

/-- A mailbox call that raises changes no table. -/
theorem mailbox_raises {op : Op} (mailbox : op.isMailbox = true) (db : Db) {e : StoreError}
    (raised : (perform checks op db).1 = .error e) : op.exec checks db = db := by
  have single : ∀ {α : Type} (m : Repo α), (m.done db).1 = .error e → m.done.settle db = db := by
    intro α m isRaised
    rw [done_settle, Transaction.settle]
    cases ran : m db with
    | error _ => rfl
    | ok result =>
        simp only [Repo.done, Session.commit, Bind.bind, ran] at isRaised
        cases isRaised
  cases op with
  | recordControllerRequest | admitExperiment | completeControllerRequest | failControllerRequest =>
      exact single _ raised
  | _ => cases mailbox

/-- The mailbox over any history: a submission is admitted in the very commit that accepts it, a
failed one never, no experiment twice, and a call that returns nothing or raises does nothing. -/
theorem mailbox_admits_once (checks : Checks) (ops : List Op) :
    (∀ id request, (execAll checks ops Db.empty).requests.find? id = some request →
      request.kind = .submit → request.state = .accepted ∨ request.state = .completed →
      ∃ before op after, ops = before ++ op :: after ∧
        Admits checks op (execAll checks before Db.empty) request) ∧
    (∀ id request, (execAll checks ops Db.empty).requests.find? id = some request →
      request.state = .failed → ∀ before op after, ops = before ++ op :: after → op.accepts id →
        op.exec checks (execAll checks before Db.empty) = execAll checks before Db.empty) ∧
    (∀ id id' request request', (execAll checks ops Db.empty).requests.find? id = some request →
      (execAll checks ops Db.empty).requests.find? id' = some request' →
      request.isAdmitted → request'.isAdmitted → request.experimentId = request'.experimentId →
        id = id') ∧
    (∀ op e, Op.isMailbox op = true →
      (perform checks op (execAll checks ops Db.empty)).1 = .error e →
        op.exec checks (execAll checks ops Db.empty) = execAll checks ops Db.empty) ∧
    ∀ experiment node run attempt operationId requestDigest submission actor destinations db',
      admitExperiment checks experiment node run attempt operationId requestDigest submission actor
          destinations (execAll checks ops Db.empty) = .ok (none, db') →
        db' = execAll checks ops Db.empty := by
  refine ⟨?_, ?_, ?_, ?_, ?_⟩
  · intro id request found isSubmit admitted
    exact admission_in_history ops found ⟨isSubmit, admitted⟩
  · rintro id request found failed before op after rfl accepts
    exact failed_never_admitted before op after found failed accepts
  · exact (admitted_once (reachable_execAll checks ops .start)).2
  · intro op e mailbox raised
    exact mailbox_raises mailbox _ raised
  · intro experiment node run attempt operationId requestDigest submission actor destinations db'
      returned
    exact admitExperiment_none returned

end Histories

/-- The submission of the experiment by the request of this id. -/
def submissionOf (id : String) : Op :=
  .recordControllerRequest { id := id, kind := .submit, experimentId := "experiment"
                             payload := "spec", payloadDigest := "digest" }

/-- The daemon's admission of the experiment for the request of this id. -/
def admissionOf (id : String) : Op :=
  .admitExperiment { id := "experiment" }
    { id := "node", experimentId := "experiment", candidateFingerprint := "" }
    { id := "run", nodeId := "node", experimentId := "experiment", candidateFingerprint := "" }
    { id := "attempt", runId := "run", attemptNumber := 1 } "submit" "request"
    (some ⟨id, "digest"⟩) ⟨"daemon", "controller", ""⟩ []

/-- Two clients submit one experiment; the daemon admits it for the first and then tries both. -/
def twoSubmissions : List Op :=
  [submissionOf "first", submissionOf "second", admissionOf "first", admissionOf "first",
    admissionOf "second"]

theorem mailbox_admits_once_resubmitted :
    let db := execAll .permissive twoSubmissions Db.empty
    ((db.requests.find? "first").map ControllerRequest.state = some .accepted ∧
      (db.requests.find? "second").map ControllerRequest.state = some .pending) ∧
    ∃ before op after, twoSubmissions = before ++ op :: after ∧
      Admits .permissive op (execAll .permissive before Db.empty)
        { id := "first", kind := .submit, experimentId := "experiment", payload := "spec"
          payloadDigest := "digest", state := .accepted, revision := 1 } := by
  refine ⟨by decide, ?_⟩
  exact (mailbox_admits_once .permissive twoSubmissions).1 "first" _ (by decide) rfl
    (.inl rfl)

end Xaytune.Storage
