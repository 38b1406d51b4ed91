import Xaytune.Storage.Legality.Repository

/-!
# Branching

A candidate is one node of its experiment. The nodes of an experiment come from its
admission and from proposals; a proposal for a candidate the experiment has is
answered from the record, and any other is checked, in the commit that would create
its node, against the planner, the context and the evidence of that moment.
-/

namespace Xaytune.Storage

open Xaytune.Core Xaytune.Library

/-- Whether a call gives the experiment a node neither by admitting it nor by branching. -/
def Op.createsNodeIn (experimentId : String) : Op → Prop
  | .createNode node _ _ => node.experimentId = experimentId
  | _ => False

/-! ## One node for each candidate -/

section Candidates

variable {checks : Checks} {experimentId : String} {db : Db}

/-- The nodes of an experiment are fingerprinted as recorded, no two alike. -/
structure Candidates (checks : Checks) (experimentId : String) (db : Db) : Prop where
  consistent : ∀ id node, db.nodes.find? id = some node → node.experimentId = experimentId →
    node.candidateFingerprint = checks.candidateFingerprint node.candidate
  distinct : ∀ id node id' node', db.nodes.find? id = some node →
    db.nodes.find? id' = some node' → node.experimentId = experimentId →
    node'.experimentId = experimentId →
    node.candidateFingerprint = node'.candidateFingerprint → id = id'

/-- Along a chain of writes a node was there before, or is one the licence plants. -/
theorem Writes.node_origin {L : Licence} {d d' : Debt} {db' : Db} (writes : Writes L d db d' db')
    {id : String} {node : ExperimentNode} (found : db'.nodes.find? id = some node) :
    ∃ first, NodeLater first node ∧ (db.nodes.find? id = some first ∨ L.plants first) := by
  refine Steps.invariant (I := fun _ db' => ∀ node, db'.nodes.find? id = some node →
    ∃ first, NodeLater first node ∧ (db.nodes.find? id = some first ∨ L.plants first))
    writes ?_ ?_ node found
  · intro node stored
    exact ⟨node, .refl node, .inl stored⟩
  · intro _ _ _ _ write before node stored
    rcases write.node_origin stored with ⟨old, oldStored, later⟩ | ⟨_, new⟩
    · obtain ⟨first, earlier, origin⟩ := before old oldStored
      exact ⟨first, NodeLater.trans _ _ _ earlier later, origin⟩
    · exact ⟨node, .refl node, .inr new.planted⟩

/-- A planted node is consistent, unlike every node there is, and the only one of its call. -/
theorem Op.plants_first (sound : Sound [] db) (candidates : Candidates checks experimentId db)
    {op : Op} (restricted : ¬ op.createsNodeIn experimentId) {row : ExperimentNode}
    (planted : op.plants checks db row) (ofExperiment : row.experimentId = experimentId) :
    row.candidateFingerprint = checks.candidateFingerprint row.candidate ∧
      (∀ id old, db.nodes.find? id = some old → old.experimentId = experimentId →
        old.candidateFingerprint ≠ row.candidateFingerprint) ∧
      ∀ other, op.plants checks db other → other.id = row.id := by
  unfold Op.plants at planted
  split at planted
  · obtain ⟨rfl, _⟩ := planted
    exact absurd ofExperiment restricted
  · obtain ⟨rfl, consistent, owner, unrecorded⟩ := planted
    refine ⟨consistent, fun id old found ofOld => ?_, ?_⟩
    · -- the experiment is not on record, so it has no node
      obtain ⟨experiment, stored⟩ := sound.nodes id old found
      rw [ofOld, ← ofExperiment, owner, unrecorded] at stored
      cases stored
    · rintro other ⟨rfl, _⟩
      rfl
  · refine ⟨planted.consistent, fun id old found ofOld alike => ?_, fun other branched => ?_⟩
    · have isId : old.id = id := Table.key_of_find? found
      subst isId
      have listed : old ∈ db.nodesForExperiment experimentId :=
        Db.mem_nodesForExperiment.mpr ⟨found, ofOld⟩
      rw [← planted.experiment, ofExperiment] at planted
      refine planted.first old listed ?_
      rw [← candidates.consistent _ old found ofOld, alike]
    · exact branched.id.trans planted.id.symm
  · cases planted

/-- A later row of a node has its candidate, its experiment and its origin. -/
theorem NodeLater.candidate {old new : ExperimentNode} (later : NodeLater old new) :
    new.id = old.id ∧ new.experimentId = old.experimentId ∧ new.candidate = old.candidate ∧
      new.candidateFingerprint = old.candidateFingerprint ∧
        new.branchOrigin = old.branchOrigin := by
  obtain ⟨_, _, _, _, rfl, _⟩ := later
  exact ⟨rfl, rfl, rfl, rfl, rfl⟩

theorem Candidates.exec (sound : Sound [] db) (candidates : Candidates checks experimentId db)
    {op : Op} (restricted : ¬ op.createsNodeIn experimentId) :
    Candidates checks experimentId (op.exec checks db) := by
  have origin : ∀ id node, (op.exec checks db).nodes.find? id = some node →
      node.experimentId = experimentId → ∃ first : ExperimentNode, first.id = id ∧
        first.experimentId = experimentId ∧ node.candidate = first.candidate ∧
        node.candidateFingerprint = first.candidateFingerprint ∧
        (db.nodes.find? id = some first ∨ op.plants checks db first) := by
    intro id node found ofExperiment
    obtain ⟨first, later, from_⟩ := Writes.node_origin (Op.writes sound op) found
    obtain ⟨sameId, sameExperiment, sameCandidate, sameFingerprint, _⟩ := later.candidate
    exact ⟨first, sameId.symm.trans (Table.key_of_find? found), sameExperiment ▸ ofExperiment,
      sameCandidate, sameFingerprint, from_⟩
  constructor
  · intro id node found ofExperiment
    obtain ⟨first, _, ofFirst, sameCandidate, sameFingerprint, stored | planted⟩ :=
      origin id node found ofExperiment
    · rw [sameFingerprint, sameCandidate]
      exact candidates.consistent id first stored ofFirst
    · rw [sameFingerprint, sameCandidate]
      exact (Op.plants_first sound candidates restricted planted ofFirst).1
  · intro id node id' node' found found' ofExperiment ofExperiment' alike
    obtain ⟨first, isId, ofFirst, _, sameFingerprint, from_⟩ := origin id node found ofExperiment
    obtain ⟨first', isId', ofFirst', _, sameFingerprint', from'⟩ :=
      origin id' node' found' ofExperiment'
    rw [sameFingerprint, sameFingerprint'] at alike
    rcases from_ with stored | planted
    · rcases from' with stored' | planted'
      · exact candidates.distinct id first id' first' stored stored' ofFirst ofFirst' alike
      · obtain ⟨_, unlike, _⟩ := Op.plants_first sound candidates restricted planted' ofFirst'
        exact absurd alike (unlike id first stored ofFirst)
    · obtain ⟨_, unlike, alone⟩ := Op.plants_first sound candidates restricted planted ofFirst
      rcases from' with stored' | planted'
      · exact absurd alike.symm (unlike id' first' stored' ofFirst')
      · exact isId.symm.trans ((alone first' planted').symm.trans isId')

/-- Calls that only admit and branch keep one node for each candidate. -/
theorem Candidates.reaches {db' : Db} (sound : Sound [] db)
    (candidates : Candidates checks experimentId db)
    (later : Reaches (Op.exec checks) (fun _ op => ¬ op.createsNodeIn experimentId) db db') :
    Sound [] db' ∧ Candidates checks experimentId db' :=
  Reaches.invariant (I := fun db => Sound [] db ∧ Candidates checks experimentId db) later
    ⟨sound, candidates⟩ fun _ op ⟨sound, candidates⟩ restricted =>
      ⟨(Op.writes sound op).sound sound, candidates.exec sound restricted⟩

theorem Candidates.empty : Candidates checks experimentId Db.empty where
  consistent := by
    intro _ _ found
    cases found
  distinct := by
    intro _ _ _ _ found
    cases found

end Candidates

/-! ## Proposals -/

section Proposals

variable {checks : Checks} {experimentId : String} {db : Db} {proposal : CandidateProposal}
  {nodeId : String} {actor : Actor} {destinations : List String}

/-- The planner the experiment records, in the configuration it records, made the proposal. -/
def MadeByPlanner (checks : Checks) (experiment : Experiment) (provenance : ProposalProvenance) :
    Prop :=
  ∃ spec, experiment.planner = some spec ∧
    provenance.plannerSpecKind = spec.kind ∧ provenance.plannerName = spec.kind ∧
    some provenance.plannerSpecVersion = spec.version ∧
    some provenance.plannerVersion = spec.version ∧
    provenance.plannerSpecIdentityVersion = plannerSpecIdentityVersion ∧
    provenance.plannerSpecFingerprint = checks.plannerSpecFingerprint
      { identityVersion := plannerSpecIdentityVersion, spec := spec,
        provider := provenance.plannerProvider, name := spec.kind,
        pluginVersion := spec.version, apiVersion := provenance.plannerApiVersion }

/-- The proposal was planned against the experiment's context as it stands. -/
def PlannedAgainst (checks : Checks) (db : Db) (experiment : Experiment)
    (provenance : ProposalProvenance) : Prop :=
  provenance.contextIdentityVersion = planningContextIdentityVersion ∧
    provenance.contextFingerprint = checks.planningContext db experiment

/-- Everything the proposal cites is a decision about, or a result of, one of its parents. -/
def CitesParents (db : Db) (proposal : CandidateProposal) : Prop :=
  ∀ ref ∈ proposal.evidenceRefs,
    (ref.isDecision = true → ∃ decision ∈ db.decisions.rows,
      decision.id = ref.id ∧ decision.proposal.nodeId ∈ proposal.parentIds) ∧
    (ref.isDecision = false → ∃ result ∈ db.results.rows,
      result.id = ref.id ∧ result.nodeId ∈ proposal.parentIds)

theorem madeByPlanner_of_no_problems {experiment : Experiment} {spec : PlannerSpec}
    {provenance : ProposalProvenance} (recorded : experiment.planner = some spec)
    (clean : (recordedPlannerProblems checks spec provenance).isEmpty = true) :
    MadeByPlanner checks experiment provenance := by
  unfold recordedPlannerProblems at clean
  simp only [List.isEmpty_iff, List.append_eq_nil_iff] at clean
  obtain ⟨⟨kind, version⟩, configured⟩ := clean
  have sameKind : provenance.plannerSpecKind = spec.kind ∧ provenance.plannerName = spec.kind := by
    by_contra other
    rw [if_pos (not_and_or.mp other)] at kind
    cases kind
  have sameVersion : some provenance.plannerSpecVersion = spec.version ∧
      some provenance.plannerVersion = spec.version := by
    by_contra other
    rw [if_pos (not_and_or.mp other)] at version
    cases version
  split at configured
  · cases configured
  · rename_i sameIdentity
    split at configured
    · cases configured
    · rename_i sameFingerprint
      exact ⟨spec, recorded, sameKind.1, sameKind.2, sameVersion.1, sameVersion.2,
        not_not.mp sameIdentity, not_not.mp sameFingerprint⟩

theorem citesParents_of_parentEvidence (supported : parentEvidence db proposal = true) :
    CitesParents db proposal := by
  unfold parentEvidence at supported
  intro ref cited
  have here := List.all_eq_true.mp supported ref cited
  constructor
  · intro isDecision
    rw [if_pos isDecision] at here
    obtain ⟨decision, member, same⟩ := List.any_eq_true.mp here
    simp only [Bool.and_eq_true, decide_eq_true_eq, List.contains_iff_mem] at same
    exact ⟨decision, member, same⟩
  · intro isResult
    rw [if_neg (by simp [isResult])] at here
    obtain ⟨result, member, same⟩ := List.any_eq_true.mp here
    simp only [Bool.and_eq_true, decide_eq_true_eq, List.contains_iff_mem] at same
    exact ⟨result, member, same⟩

/-- What a call that branches a node has found. -/
theorem branchNode_ensures {experiment : Experiment} :
    (branchNode checks experiment proposal nodeId actor destinations).Ensures db fun _ _ =>
      MadeByPlanner checks experiment proposal.provenance ∧
        PlannedAgainst checks db experiment proposal.provenance ∧ CitesParents db proposal := by
  unfold branchNode requireRecordedPlanner
  refine Transaction.ensures_bind.mpr (Transaction.ensures_require.mpr fun _ => ?_)
  refine Transaction.ensures_bind.mpr (Transaction.ensures_bind.mpr
    (Transaction.ensures_expect.mpr fun spec recorded => Transaction.ensures_require.mpr
      fun clean => ?_))
  refine Transaction.ensures_bind.mpr (Transaction.ensures_read.mpr ?_)
  refine Transaction.ensures_bind.mpr (Transaction.ensures_require.mpr fun current => ?_)
  refine Transaction.ensures_bind.mpr (Transaction.ensures_read.mpr ?_)
  refine Transaction.ensures_bind.mpr (Transaction.ensures_require.mpr fun _ => ?_)
  refine Transaction.ensures_bind.mpr (Transaction.ensures_read.mpr ?_)
  refine Transaction.ensures_bind.mpr (Transaction.ensures_require.mpr fun supported => ?_)
  intro _ _ _
  rw [Bool.and_eq_true, decide_eq_true_eq, decide_eq_true_eq] at current
  exact ⟨madeByPlanner_of_no_problems recorded clean, current,
    citesParents_of_parentEvidence supported⟩

/-- A proposal that no node materializes branches only a candidate the experiment lacks. -/
theorem materialize_ensures (unmade : ∀ node, ¬ Materializes checks db experimentId proposal node)
    {experiment : Experiment} (recorded : db.experiments.find? experimentId = some experiment) :
    (materializeCandidateProposal checks experimentId (.candidate proposal) nodeId actor
      destinations).Ensures db fun _ _ =>
      (∀ node ∈ db.nodesForExperiment experimentId, checks.candidateFingerprint node.candidate ≠
        checks.candidateFingerprint proposal.candidate) ∧
      MadeByPlanner checks experiment proposal.provenance ∧
        PlannedAgainst checks db experiment proposal.provenance ∧ CitesParents db proposal := by
  have isId : experiment.id = experimentId := Table.key_of_find? recorded
  unfold materializeCandidateProposal
  refine Transaction.ensures_bind.mpr (loadRow_ensures fun row found => ?_)
  have isRow : row = experiment := Option.some.inj (found.symm.trans recorded)
  subst isRow isId
  refine Transaction.ensures_bind.mpr (Transaction.ensures_require.mpr fun _ => ?_)
  refine Transaction.ensures_bind.mpr (Transaction.ensures_read.mpr ?_)
  split
  · rename_i existing isFirst
    refine Transaction.ensures_bind.mpr (Transaction.ensures_require.mpr fun same => ?_)
    obtain ⟨stored, ofExperiment⟩ :=
      Db.mem_nodesForExperiment.mp (List.mem_of_find?_eq_some isFirst)
    have alike := List.find?_some isFirst
    exact absurd ⟨stored, ofExperiment, of_decide_eq_true alike, of_decide_eq_true same⟩
      (unmade existing)
  · rename_i absent
    refine branchNode_ensures.mono fun _ _ checked => ⟨fun node listed alike => ?_, checked⟩
    exact List.find?_eq_none.mp absent node listed (decide_eq_true alike)

/-- The node of a proposal is what the experiment answers it with, wherever it has got to. -/
theorem Materializes.answers {node : ExperimentNode} {experiment : Experiment}
    (candidates : Candidates checks experimentId db)
    (recorded : db.experiments.find? experimentId = some experiment)
    (claimed : checks.candidateFingerprint proposal.candidate = proposal.candidateFingerprint)
    (made : Materializes checks db experimentId proposal node) :
    materializeCandidateProposal checks experimentId (.candidate proposal) nodeId actor destinations
      db = .ok (node, db) := by
  have isId : experiment.id = experimentId := Table.key_of_find? recorded
  have first : ((db.nodesForExperiment experiment.id).find? fun other =>
      checks.candidateFingerprint other.candidate =
        checks.candidateFingerprint proposal.candidate) = some node := by
    have listed : node ∈ db.nodesForExperiment experiment.id :=
      Db.mem_nodesForExperiment.mpr ⟨made.stored, made.experiment.trans isId.symm⟩
    cases isFirst : (db.nodesForExperiment experiment.id).find? fun other =>
        checks.candidateFingerprint other.candidate =
          checks.candidateFingerprint proposal.candidate with
    | none =>
        exact absurd (decide_eq_true made.candidate) (List.find?_eq_none.mp isFirst node listed)
    | some found =>
        obtain ⟨stored, ofExperiment⟩ :=
          Db.mem_nodesForExperiment.mp (List.mem_of_find?_eq_some isFirst)
        have ofFound := ofExperiment.trans isId
        have alike := List.find?_some isFirst
        rw [decide_eq_true_eq] at alike
        have sameId : found.id = node.id := by
          refine candidates.distinct _ found _ node stored made.stored ofFound made.experiment ?_
          rw [candidates.consistent _ found stored ofFound,
            candidates.consistent _ node made.stored made.experiment, alike, made.candidate]
        rw [sameId, made.stored] at stored
        exact stored.symm
  unfold materializeCandidateProposal
  refine Transaction.Yields.bind (loadRow_yields (α := Experiment) recorded) ?_
  refine Transaction.Yields.bind (Transaction.yields_require (decide_eq_true claimed) db) ?_
  refine Transaction.yields_read ?_
  rw [first]
  exact Transaction.Yields.bind (Transaction.yields_require (decide_eq_true made.origin) db)
    (Transaction.yields_pure node db)

/-- A call that answers a proposal leaves its node on record. -/
theorem materialize_materializes (sound : Sound [] db) {node : ExperimentNode} {db' : Db}
    (answered : materializeCandidateProposal checks experimentId (.candidate proposal) nodeId actor
      destinations db = .ok (node, db')) :
    Materializes checks db' experimentId proposal node ∧
      checks.candidateFingerprint proposal.candidate = proposal.candidateFingerprint ∧
      ∃ experiment, db.experiments.find? experimentId = some experiment := by
  have legal : Legal .unlimited
      (materializeCandidateProposal checks experimentId (.candidate proposal) nodeId actor
        destinations) [] db
      fun node _ db' => Materializes checks db' experimentId proposal node :=
    Legal.materializeCandidateProposal (fun _ _ => trivial) fun _ _ made => made
  obtain ⟨_, _, _, made⟩ := legal sound node db' answered
  have claimed :
    (materializeCandidateProposal checks experimentId (.candidate proposal) nodeId actor
      destinations).Ensures db fun _ _ =>
      checks.candidateFingerprint proposal.candidate = proposal.candidateFingerprint ∧
      ∃ experiment, db.experiments.find? experimentId = some experiment := by
    unfold materializeCandidateProposal
    refine Transaction.ensures_bind.mpr (loadRow_ensures fun row found => ?_)
    refine Transaction.ensures_bind.mpr (Transaction.ensures_require.mpr fun claims => ?_)
    intro _ _ _
    exact ⟨of_decide_eq_true claims, row, found⟩
  exact ⟨made, claimed node db' answered⟩

theorem Materializes.grows {db' : Db} {node : ExperimentNode} (grows : Grows db db')
    (made : Materializes checks db experimentId proposal node) :
    ∃ current, current.id = node.id ∧ Materializes checks db' experimentId proposal current := by
  obtain ⟨current, found, later⟩ := grows.nodes node.id node made.stored
  obtain ⟨sameId, sameExperiment, sameCandidate, _, sameOrigin⟩ := later.candidate
  refine ⟨current, sameId, ?_, ?_, ?_, ?_⟩
  · rw [sameId]
    exact found
  · rw [sameExperiment]
    exact made.experiment
  · rw [sameCandidate]
    exact made.candidate
  · rw [sameOrigin]
    exact made.origin

end Proposals

/-! ## Realization -/

section Realization

variable {checks : Checks} {db db' : Db} {nodeId : String} {expectedRevision : Nat} {run : Run}
  {attempt : RunAttempt} {operationId requestDigest : String} {actor : Actor}
  {destinations : List String}

theorem realize_starts (sound : Sound [] db)
    {answer : ExperimentNode × Run × RunAttempt × RuntimeOperation}
    (answered : realizePlannedNode checks nodeId expectedRevision run attempt operationId
      requestDigest actor destinations db = .ok (some answer, db')) :
    db.runsForNode nodeId = [] ∧ Started nodeId db' := by
  have legal : Legal .unlimited
      (realizePlannedNode checks nodeId expectedRevision run attempt operationId requestDigest actor
        destinations) [] db
      fun answer _ db' => answer.isSome = true → db.runsForNode nodeId = [] ∧ Started nodeId db' :=
    Legal.realizePlannedNode nofun fun _ _ noRun started _ => ⟨noRun, started⟩
  obtain ⟨_, _, _, started⟩ := legal sound _ db' answered
  exact started rfl

theorem Started.declines (started : Started nodeId db) :
    realizePlannedNode checks nodeId expectedRevision run attempt operationId requestDigest actor
      destinations db = .ok (none, db) := by
  obtain ⟨node, found, _, notPlanned⟩ := started
  unfold realizePlannedNode
  refine Transaction.Yields.bind (loadRow_yields (α := ExperimentNode) found) ?_
  rw [if_pos notPlanned]
  exact Transaction.yields_pure none db

theorem Started.reaches (sound : Sound [] db) (started : Started nodeId db)
    (later : ReachableFrom checks db db') : Started nodeId db' := by
  have both : Sound [] db' ∧ Started nodeId db' := by
    refine Reaches.invariant (I := fun db => Sound [] db ∧ Started nodeId db) later
      ⟨sound, started⟩ ?_
    rintro db op ⟨sound, started⟩ _
    have writes : Writes (op.licence checks db) [] db [] (op.exec checks db) := Op.writes sound op
    exact ⟨writes.sound sound, Steps.invariant (I := fun _ db => Started nodeId db) writes started
      fun _ _ _ _ write started => started.kept write⟩
  exact both.2

end Realization

/-! ## Branching never duplicates a candidate -/

section Branching

variable {checks : Checks}

/-- A call of one transaction leaves what the transaction committed. -/
theorem exec_of_ok {α : Type} {op : Op} {m : Repo α} {db db' : Db} {a : α}
    (performs : perform checks op = m.done) (ran : m db = .ok (a, db')) :
    op.exec checks db = db' := by
  unfold Op.exec
  rw [performs, done_settle]
  exact Transaction.Yields.settle ran

theorem exec_of_error {α : Type} {op : Op} {m : Repo α} {db : Db} {e : StoreError}
    (performs : perform checks op = m.done) (ran : m db = .error e) : op.exec checks db = db := by
  unfold Op.exec
  rw [performs, done_settle, Transaction.settle, ran]

/-- In every state that admissions, branchings and every other call reach: a candidate is one node
of its experiment; a proposal that was materialized is answered, ever after, with its node as it
then stands; a proposal that was not is refused where the experiment has its candidate, records
another planner, is in another context, or where it cites what is not its parents'; and once a
branched node has been given its first run no call gives it another. -/
theorem branching_never_duplicates (experimentId : String) (db : Db)
    (reached : ReachableBy checks (fun _ op => ¬ op.createsNodeIn experimentId) db) :
    (∀ node ∈ db.nodesForExperiment experimentId, ∀ other ∈ db.nodesForExperiment experimentId,
      node.candidateFingerprint = other.candidateFingerprint → node = other) ∧
    (∀ proposal nodeId actor destinations node db₁,
      materializeCandidateProposal checks experimentId (.candidate proposal) nodeId actor
        destinations db = .ok (node, db₁) →
      ∀ db', Reaches (Op.exec checks) (fun _ op => ¬ op.createsNodeIn experimentId) db₁ db' →
        ∃ current, db'.nodes.find? node.id = some current ∧
          ∀ nodeId' actor' destinations',
            materializeCandidateProposal checks experimentId (.candidate proposal) nodeId' actor'
              destinations' db' = .ok (current, db')) ∧
    (∀ proposal experiment, db.experiments.find? experimentId = some experiment →
      (∀ node, ¬ Materializes checks db experimentId proposal node) →
      (∃ node ∈ db.nodesForExperiment experimentId, checks.candidateFingerprint node.candidate =
          checks.candidateFingerprint proposal.candidate) ∨
        ¬ PlannedAgainst checks db experiment proposal.provenance ∨
        ¬ MadeByPlanner checks experiment proposal.provenance ∨ ¬ CitesParents db proposal →
      ∀ nodeId actor destinations, (∃ e, materializeCandidateProposal checks experimentId
          (.candidate proposal) nodeId actor destinations db = .error e) ∧
        (Op.materializeCandidateProposal experimentId (.candidate proposal) nodeId actor
          destinations).exec checks db = db) ∧
    (∀ nodeId expectedRevision run attempt operationId requestDigest actor destinations answer db₁,
      realizePlannedNode checks nodeId expectedRevision run attempt operationId requestDigest actor
        destinations db = .ok (some answer, db₁) →
      db.runsForNode nodeId = [] ∧ ∀ db', ReachableFrom checks db₁ db' →
        ∀ expectedRevision' run' attempt' operationId' requestDigest' actor' destinations',
          realizePlannedNode checks nodeId expectedRevision' run' attempt' operationId'
            requestDigest' actor' destinations' db' = .ok (none, db')) := by
  obtain ⟨sound, candidates⟩ := Candidates.reaches Sound.empty Candidates.empty reached
  refine ⟨?_, ?_, ?_, ?_⟩
  · intro node listed other listed' alike
    obtain ⟨stored, ofExperiment⟩ := Db.mem_nodesForExperiment.mp listed
    obtain ⟨stored', ofExperiment'⟩ := Db.mem_nodesForExperiment.mp listed'
    have sameId :=
      candidates.distinct _ node _ other stored stored' ofExperiment ofExperiment' alike
    rw [sameId] at stored
    exact Option.some.inj (stored.symm.trans stored')
  · intro proposal nodeId actor destinations node db₁ answered db' later
    obtain ⟨made, claimed, experiment, recorded⟩ := materialize_materializes sound answered
    have executed : (Op.materializeCandidateProposal experimentId (.candidate proposal) nodeId actor
        destinations).exec checks db = db₁ := exec_of_ok rfl answered
    have reached₁ : ReachableBy checks (fun _ op => ¬ op.createsNodeIn experimentId)
        ((Op.materializeCandidateProposal experimentId (.candidate proposal) nodeId actor
          destinations).exec checks db) := reached.next id
    rw [executed] at reached₁
    obtain ⟨_, candidates'⟩ :=
      Candidates.reaches Sound.empty Candidates.empty (reached₁.trans later)
    have first : Grows db db₁ := executed ▸ Op.grows sound _
    have rest : Grows db₁ db' := ReachableFrom.grows (later.mono fun _ _ _ => trivial)
      (reached₁.mono fun _ _ _ => trivial)
    obtain ⟨current, sameId, made'⟩ := made.grows rest
    obtain ⟨experiment', recorded', _⟩ := (first.trans rest).experiments experimentId _ recorded
    refine ⟨current, sameId ▸ made'.stored, fun _ _ _ => ?_⟩
    exact made'.answers candidates' recorded' claimed
  · intro proposal experiment recorded unmade wrong nodeId actor destinations
    have refused : ∃ e,
      materializeCandidateProposal checks experimentId (.candidate proposal) nodeId
        actor destinations db = .error e := by
      refine Transaction.Ensures.refuses ((materialize_ensures unmade recorded).mono ?_)
      rintro _ _ ⟨lacks, made, current, supported⟩
      rcases wrong with ⟨node, listed, alike⟩ | stale | other | foreign
      · exact lacks node listed alike
      · exact stale current
      · exact other made
      · exact foreign supported
    obtain ⟨e, raised⟩ := refused
    exact ⟨⟨e, raised⟩, exec_of_error rfl raised⟩
  · intro nodeId expectedRevision run attempt operationId requestDigest actor destinations
      answer db₁
      answered
    obtain ⟨noRun, started⟩ := realize_starts sound answered
    refine ⟨noRun, fun db' later _ _ _ _ _ _ _ => ?_⟩
    have executed : (Op.realizePlannedNode nodeId expectedRevision run attempt operationId
        requestDigest actor destinations).exec checks db = db₁ := exec_of_ok rfl answered
    have sound₁ : Sound [] db₁ := executed ▸ (Op.writes sound _).sound sound
    exact (started.reaches sound₁ later).declines

/-! ## A branch -/

/-- Checks that tell candidates, and the proposals for them, apart by content. -/
def Checks.byContent : Checks :=
  { Checks.permissive with
    candidateFingerprint := Candidate.content
    planningCandidateProjection := Candidate.content
    proposalFingerprint := CandidateProposalIdentity.candidate }

def searcher : Actor := ⟨"agent", "searcher", ""⟩

def lowerRate : CandidateProposal where
  candidate := { content := "lower" }
  candidateFingerprint := "lower"
  parentIds := ["root"]
  hypothesis := "a lower rate is stable"
  reason := "the loss oscillates"
  provenance := ⟨"core", "rules", "1", "1", "rules", "1", 1, "", 2, ""⟩

/-- The first run of the branched node. -/
def realizeLower : Repo (Option (ExperimentNode × Run × RunAttempt × RuntimeOperation)) :=
  realizePlannedNode .byContent "n" 1
    { id := "s", nodeId := "n", experimentId := "e", seed := some 7, seedOrigin := some "r"
      replicate := some 1, candidateFingerprint := "lower" }
    { id := "b", runId := "s", attemptNumber := 1, executionFingerprint := some "x" } "op2" ""
    searcher []

/-- An admitted experiment whose root succeeds and is branched, by two controllers. -/
def branchedTwice : List Op :=
  [.admitExperiment { id := "e", planner := some ⟨"rules", some "1", ""⟩ }
      { id := "root", experimentId := "e", candidate := { content := "base" }
        candidateFingerprint := "base" }
      { id := "r", nodeId := "root", experimentId := "e", seed := some 7, replicate := some 1
        candidateFingerprint := "base" }
      { id := "a", runId := "r", attemptNumber := 1, executionFingerprint := some "x" } "op" ""
      none searcher [],
    .transitionRun "r" 1 .succeeded searcher none [],
    .materializeCandidateProposal "e" (.candidate lowerRate) "n" searcher [],
    .materializeCandidateProposal "e" (.candidate lowerRate) "again" searcher []]

theorem branching_never_duplicates_branchedTwice :
    ∃ db, ReachableBy .byContent (fun _ op => ¬ op.createsNodeIn "e") db ∧
      (db.nodesForExperiment "e").map ExperimentNode.id = ["root", "n"] ∧
      (∀ node ∈ db.nodesForExperiment "e", ∀ other ∈ db.nodesForExperiment "e",
        node.candidateFingerprint = other.candidateFingerprint → node = other) ∧
      ∃ answer db₁, realizeLower db = .ok (some answer, db₁) ∧
        ∀ db', ReachableFrom .byContent db₁ db' → realizeLower db' = .ok (none, db') := by
  have reached : ReachableBy .byContent (fun _ op => ¬ op.createsNodeIn "e")
      (execAll .byContent branchedTwice Db.empty) := by
    refine reaches_execAll branchedTwice .start ?_
    intro op member db
    simp only [branchedTwice, List.mem_cons, List.not_mem_nil, or_false] at member
    rcases member with rfl | rfl | rfl | rfl <;> exact id
  have nodes : ((execAll .byContent branchedTwice Db.empty).nodesForExperiment "e").map
      ExperimentNode.id = ["root", "n"] := by
    decide
  have realized : ((realizeLower (execAll .byContent branchedTwice Db.empty)).toOption.bind
      Prod.fst).isSome = true := by
    decide
  generalize execAll .byContent branchedTwice Db.empty = db at reached nodes realized
  obtain ⟨once, _, _, first⟩ := branching_never_duplicates "e" db reached
  cases ran : realizeLower db with
  | error error =>
      rw [ran] at realized
      cases realized
  | ok result =>
      obtain ⟨answered, db₁⟩ := result
      cases answered with
      | none =>
          rw [ran] at realized
          cases realized
      | some answer =>
          refine ⟨db, reached, nodes, once, answer, db₁, ran, fun db' later => ?_⟩
          exact (first _ _ _ _ _ _ _ _ answer db₁ ran).2 db' later _ _ _ _ _ _ _

end Branching

end Xaytune.Storage
