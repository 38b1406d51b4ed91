import Mathlib.Data.List.Sort
import Mathlib.Data.String.Basic
import Xaytune.Core.Aggregates
import Xaytune.Library.Loop

/-!
# Sequential search

A search provider holds no durable state: for every suggestion it makes a fresh,
seeded run of its algorithm and replays the experiment's record into it. A candidate
the algorithm suggests again is a trial of the search only if its branch origin says
that this search proposed it at that place of its history; the first suggestion the
experiment does not have is the next proposal.
-/

namespace Xaytune.Search

open Xaytune.Core Xaytune.Library

/-! ## Observations -/

structure Objective where
  primaryName : String
  direction : String

inductive ObservationOutcome where
  | measured | unmeasured | rejected | failed | cancelled
  deriving DecidableEq

/-- What became of one candidate a search proposed; it has a value exactly when it was measured. -/
structure CandidateObservation where
  nodeId : String
  candidateFingerprint : String
  outcome : ObservationOutcome
  metric : String
  value : Option ℚ := none
  evidenceRefs : List EvidenceRef := []
  valued : outcome = .measured ↔ value.isSome = true
  deriving DecidableEq

structure MetricSummary where
  name : String
  slice : Option String := none
  value : ℚ

structure EvaluationSummary where
  evaluationResultId : String
  metrics : List MetricSummary

structure DecisionSummary where
  decisionId : String
  evaluationResultIds : List String

/-- A node of the experiment as a planner sees it. -/
structure NodeSummary where
  nodeId : String
  candidateFingerprint : String
  status : ExperimentNodeStatus
  latestDecision : Option DecisionSummary := none
  evaluations : List EvaluationSummary := []

/-- The measurements of the primary metric among the results a decision decided on. -/
def decidedMeasurements (node : NodeSummary) (decision : DecisionSummary) (primary : String) :
    List (ℚ × String) :=
  (node.evaluations.filter fun evaluation =>
    evaluation.evaluationResultId ∈ decision.evaluationResultIds).flatMap fun evaluation =>
      (evaluation.metrics.filter fun metric =>
        metric.name = primary ∧ metric.slice = none).map fun metric =>
          (metric.value, evaluation.evaluationResultId)

/-- What a node's durable record shows became of it; nothing while it is still in flight. -/
def observationOf (node : NodeSummary) (objective : Objective) : Option CandidateObservation :=
  let evidence := match node.latestDecision with
    | none => []
    | some decision => [⟨true, decision.decisionId⟩]
  let observed := fun (outcome : ObservationOutcome) (unvalued : outcome ≠ .measured) =>
    some { nodeId := node.nodeId, candidateFingerprint := node.candidateFingerprint
           outcome := outcome, metric := objective.primaryName, value := none
           evidenceRefs := evidence
           valued := iff_of_false unvalued Bool.false_ne_true : CandidateObservation }
  match node.status with
  | .rejected => observed .rejected nofun
  | .failed => observed .failed nofun
  | .cancelled => observed .cancelled nofun
  | .completed =>
      match node.latestDecision with
      | none => observed .unmeasured nofun
      | some decision =>
          match decidedMeasurements node decision objective.primaryName with
          | [(value, resultId)] =>
              some { nodeId := node.nodeId, candidateFingerprint := node.candidateFingerprint
                     outcome := .measured, metric := objective.primaryName, value := some value
                     evidenceRefs := evidence ++ [⟨false, resultId⟩]
                     valued := iff_of_true rfl rfl }
          | _ => observed .unmeasured nofun
  | _ => none

/-- An observation names the node it is of, its candidate and the objective's metric. -/
theorem observationOf_names {node : NodeSummary} {objective : Objective}
    {observation : CandidateObservation} (found : observationOf node objective = some observation) :
    observation.nodeId = node.nodeId ∧
      observation.candidateFingerprint = node.candidateFingerprint ∧
      observation.metric = objective.primaryName := by
  unfold observationOf at found
  cases ended : node.status <;> rw [ended] at found <;> simp only at found
  case completed =>
    split at found
    · cases found
      exact ⟨rfl, rfl, rfl⟩
    · split at found <;> cases found <;> exact ⟨rfl, rfl, rfl⟩
  case rejected | failed | cancelled =>
    cases found
    exact ⟨rfl, rfl, rfl⟩
  all_goals cases found

/-! ## The record of a search -/

/-- One suggestion the algorithm was told about, and whether it was a trial or a duplicate. -/
structure HistoryEntry where
  suggestion : Nat
  candidateFingerprint : String
  trial : Bool
  observation : Option CandidateObservation

/-- A value of a search record, by its canonical form. -/
inductive RecordValue where
  | document (content : Document)
  | identity (version : Nat) (fingerprint : String)
  | history (version : Nat) (fingerprint : String) (observed : Nat)
  | number (value : Nat)
  deriving DecidableEq

/-- What the branch origin of a node says of the search that proposed it: the planner's identity,
and `mutation["search"]` where that is a mapping. -/
structure BranchOrigin where
  provenance : ProposalProvenance
  search : Option (List (String × RecordValue))

/-- A candidate the experiment has, and why it exists. -/
structure SearchCandidate where
  nodeId : String
  candidateFingerprint : String
  branchOrigin : Option BranchOrigin := none

/-- A search provider as bound: its configuration, and the algorithm run it makes for an objective.
The algorithm is deterministic: what it suggests is a function of what it was asked and told. -/
structure SequentialSearchProvider (S V : Type) where
  name : String
  seed : Nat
  maxConsecutiveDuplicates : Nat
  spaceNames : List String
  spaceFingerprint : String
  providerRecord : Document
  searcher : Objective → S
  suggest : S → Nat → Option V × S
  complete : S → Nat → Option CandidateObservation → S
  applyParameters : Candidate → V → Except String Candidate
  parameters : V → Document
  candidateFingerprint : Candidate → String
  historyFingerprint : List HistoryEntry → String
  contextFingerprint : String → Objective → String → Candidate → List SearchCandidate →
    ProposalProvenance → String

def searchSpaceIdentityVersion : Nat := 1

def searchContextIdentityVersion : Nat := 1

def searchHistoryIdentityVersion : Nat := 1

section Provider

variable {S V : Type} (provider : SequentialSearchProvider S V)

/-- Everything a provider may depend on: every candidate of the experiment, each once, the base
among them. -/
structure SearchContext where
  experimentId : String
  objective : Objective
  baseNodeId : String
  base : Candidate
  candidates : List SearchCandidate
  provenance : ProposalProvenance
  nodes_nodup : (candidates.map SearchCandidate.nodeId).Nodup
  fingerprints_nodup : (candidates.map SearchCandidate.candidateFingerprint).Nodup
  base_mem : ∃ candidate ∈ candidates, candidate.nodeId = baseNodeId ∧
    candidate.candidateFingerprint = provider.candidateFingerprint base

/-- What a search proposes: a child of the base, with the record a later replay checks. -/
structure CandidateProposal where
  candidate : Candidate
  candidateFingerprint : String
  parentIds : List String
  hypothesis : String
  reason : String
  search : List (String × RecordValue)
  provenance : ProposalProvenance

inductive SearchError where
  | refused (message : String)
  | conflict (message : String)
  | history (message : String)
  | space (message : String)

/-- What a proposal's search record says, apart from the context it was made in. -/
def recordOf (index : Nat) (values : V) (history : List HistoryEntry) :
    List (String × RecordValue) :=
  [("provider", .document provider.providerRecord),
    ("search_space", .identity searchSpaceIdentityVersion provider.spaceFingerprint),
    ("history", .history searchHistoryIdentityVersion (provider.historyFingerprint history)
      (history.countP HistoryEntry.trial)),
    ("suggestion", .number index),
    ("parameters", .document (provider.parameters values))]

/-- The names of what two provenances differ in, apart from the context they were planned in. -/
def plannerDifferences (recorded ours : ProposalProvenance) : List String :=
  (if recorded.plannerApiVersion ≠ ours.plannerApiVersion then ["planner_api_version"] else []) ++
    (if recorded.plannerName ≠ ours.plannerName then ["planner_name"] else []) ++
    (if recorded.plannerProvider ≠ ours.plannerProvider then ["planner_provider"] else []) ++
    (if recorded.plannerSpecFingerprint ≠ ours.plannerSpecFingerprint then
      ["planner_spec_fingerprint"] else []) ++
    (if recorded.plannerSpecIdentityVersion ≠ ours.plannerSpecIdentityVersion then
      ["planner_spec_identity_version"] else []) ++
    (if recorded.plannerSpecKind ≠ ours.plannerSpecKind then ["planner_spec_kind"] else []) ++
    (if recorded.plannerSpecVersion ≠ ours.plannerSpecVersion then
      ["planner_spec_version"] else []) ++
    (if recorded.plannerVersion ≠ ours.plannerVersion then ["planner_version"] else [])

/-- Why a branch origin does not show that this search proposed the candidate here. -/
def originProblems (origin : Option BranchOrigin) (ours : ProposalProvenance)
    (expected : List (String × RecordValue)) : List String :=
  match origin with
  | none => ["it has no branch origin: no planner proposed it"]
  | some origin =>
      (match plannerDifferences origin.provenance ours with
        | [] => []
        | differing => ["another planner, or this one configured differently, proposed it (" ++
            ", ".intercalate differing ++ ")"]) ++
      (match origin.search with
        | none => ["its proposal carries no search record"]
        | some recorded => expected.filterMap fun (name, value) =>
            if recorded.lookup name = some value then none
            else some ("its search record's " ++ name ++ " is another"))

variable {provider}

namespace SearchContext

def baseFingerprint (context : SearchContext provider) : String :=
  provider.candidateFingerprint context.base

/-- The identity of the context, hashed. -/
def inputFingerprint (context : SearchContext provider) : String :=
  provider.contextFingerprint context.experimentId context.objective context.baseNodeId context.base
    (context.candidates.insertionSort (·.nodeId ≤ ·.nodeId)) context.provenance

def find? (context : SearchContext provider) (fingerprint : String) : Option SearchCandidate :=
  context.candidates.find? fun candidate => candidate.candidateFingerprint = fingerprint

/-- Every candidate of the experiment but the base. -/
def trials (context : SearchContext provider) : List String :=
  (context.candidates.map SearchCandidate.candidateFingerprint).filter
    (· ≠ context.baseFingerprint)

end SearchContext

/-- What the provider was told, by candidate. -/
abbrev Observations := List (String × CandidateObservation)

/-- Record what became of a trial: once, and never otherwise. -/
def observe (observations : Observations) (observation : CandidateObservation) :
    Except SearchError Observations :=
  match observations.lookup observation.candidateFingerprint with
  | none => .ok (observations ++ [(observation.candidateFingerprint, observation)])
  | some recorded =>
      if recorded = observation then .ok observations
      else .error (.conflict ("candidate " ++ observation.candidateFingerprint ++
        " was observed otherwise; the first stands"))

/-- What keeps the observations from being of the context's trials. -/
def observationProblems (context : SearchContext provider) (observations : Observations) :
    List String :=
  (observations.insertionSort (·.1 ≤ ·.1)).flatMap fun (candidate, observation) =>
    (if candidate = context.baseFingerprint then
        ["the base candidate " ++ candidate ++ " was observed; it is no trial"]
      else if (context.find? candidate).map SearchCandidate.nodeId ≠ some observation.nodeId then
        ["candidate " ++ candidate ++ " was observed as node " ++ observation.nodeId ++
          ", which the experiment does not have"]
      else []) ++
    (if observation.metric ≠ context.objective.primaryName then
        ["candidate " ++ candidate ++ " was observed on " ++ observation.metric ++
          ", not the objective's " ++ context.objective.primaryName]
      else [])

/-! ## The replay -/

/-- The replay between two suggestions. -/
structure Replay (S : Type) where
  searcher : S
  known : List (String × Option CandidateObservation)
  history : List HistoryEntry
  duplicates : Nat
  index : Nat

def Replay.keys (replay : Replay S) : List String := replay.known.map Prod.fst

/-- What a replay returns: a proposal, or nothing to suggest. -/
abbrev Answer := Except SearchError (Option CandidateProposal)

/-- Refuse the record unless the search reproduced every trial of it; then answer. -/
def requireAllMatched (trials known : List String) (when : String)
    (answer : Option CandidateProposal) : Answer :=
  match (trials.filter (· ∉ known)).insertionSort (· ≤ ·) with
  | [] => .ok answer
  | unmatched => .error (.history ("the search does not reproduce the experiment's candidates " ++
      ", ".intercalate unmatched ++ " before " ++ when ++
      ": the record is not this search's history"))

def proposal (context : SearchContext provider) (candidate : Candidate) (values : V) (index : Nat)
    (history : List HistoryEntry) : CandidateProposal where
  candidate := candidate
  candidateFingerprint := provider.candidateFingerprint candidate
  parentIds := [context.baseNodeId]
  hypothesis := "The " ++ provider.name ++ " search's next point may " ++
    context.objective.direction ++ " " ++ context.objective.primaryName ++ "."
  reason := "suggestion " ++ toString index ++ " of the " ++ provider.name ++ " search over " ++
    ", ".intercalate provider.spaceNames ++ " (seed " ++ toString provider.seed ++ "), after " ++
    toString (history.countP HistoryEntry.trial) ++ " observed trial(s): " ++
    provider.parameters values
  search := recordOf provider index values history ++
    [("context", .identity searchContextIdentityVersion context.inputFingerprint)]
  provenance := context.provenance

/-- The replay after a suggestion that was not new. -/
def Replay.repeated (provider : SequentialSearchProvider S V) (replay : Replay S) (asked : S)
    (identity : String) (known : Option CandidateObservation) : Replay S where
  searcher := provider.complete asked replay.index known
  known := replay.known
  history := replay.history ++ [⟨replay.index, identity, false, known⟩]
  duplicates := replay.duplicates + 1
  index := replay.index + 1

/-- The replay after a trial that ended. -/
def Replay.tried (provider : SequentialSearchProvider S V) (replay : Replay S) (asked : S)
    (identity : String) (observation : CandidateObservation) : Replay S where
  searcher := provider.complete asked replay.index (some observation)
  known := replay.known ++ [(identity, some observation)]
  history := replay.history ++ [⟨replay.index, identity, true, some observation⟩]
  duplicates := 0
  index := replay.index + 1

/-- One suggestion of the algorithm, matched against the record. -/
def turn (observations : Observations) (context : SearchContext provider) (replay : Replay S) :
    Turn (Replay S) Answer :=
  match provider.suggest replay.searcher replay.index with
  | (none, _) =>
      .stop (requireAllMatched context.trials replay.keys "the algorithm is exhausted" none)
  | (some values, asked) =>
      match provider.applyParameters context.base values with
      | .error problem => .stop (.error (.space problem))
      | .ok candidate =>
          let identity := provider.candidateFingerprint candidate
          match replay.known.lookup identity with
          | some known =>
              if replay.duplicates + 1 > provider.maxConsecutiveDuplicates then
                .stop (requireAllMatched context.trials replay.keys
                  (toString (replay.duplicates + 1) ++ " suggestions in a row were not new") none)
              else .next (replay.repeated provider asked identity known)
          | none =>
              if identity ∈ context.trials then
                let found := context.find? identity
                match originProblems (found.bind SearchCandidate.branchOrigin) context.provenance
                    (recordOf provider replay.index values replay.history) with
                | [] =>
                    match observations.lookup identity with
                    | none =>
                        .stop (requireAllMatched context.trials (identity :: replay.keys) "it waits"
                          none)
                    | some observation => .next (replay.tried provider asked identity observation)
                | problems => .stop (.error (.history ("node " ++
                    (found.map SearchCandidate.nodeId).getD "" ++ " has candidate " ++ identity ++
                    ", which is suggestion " ++ toString replay.index ++
                    " of this search, but the record does not show this search proposed it: " ++
                    "; ".intercalate problems)))
              else
                .stop (requireAllMatched context.trials replay.keys "it proposes a new candidate"
                  (some (proposal context candidate values replay.index replay.history)))

def firstReplay (context : SearchContext provider) : Replay S where
  searcher := provider.searcher context.objective
  known := [(context.baseFingerprint, none)]
  history := []
  duplicates := 0
  index := 0

/-- The rounds a replay takes at most: each trial once, and the duplicates before each. -/
def replayBound (context : SearchContext provider) : Nat :=
  context.trials.length * (provider.maxConsecutiveDuplicates + 1) +
    provider.maxConsecutiveDuplicates + 1

/-- Ask for the next candidate, allowing the replay so many rounds. -/
def suggestWithin (fuel : Nat) (observations : Observations) (context : SearchContext provider)
    (count : Nat) : Option Answer :=
  if count ≠ 1 then
    some (.error (.refused (provider.name ++ " suggests one candidate at a time, not " ++
      toString count ++ ": parallel suggestions have no admission semantics yet")))
  else match observationProblems context observations with
    | [] => Loop.run (turn observations context) fuel (firstReplay context)
    | problems => some (.error (.history ("; ".intercalate problems)))

/-- Ask for the next candidate. -/
def suggest (observations : Observations) (context : SearchContext provider) (count : Nat) :
    Option Answer :=
  suggestWithin (replayBound context) observations context count

end Provider

end Xaytune.Search
