import Mathlib.Logic.Relation
import Xaytune.Search.Replay

/-!
# A search reproduces its own history

The runs of a search: its proposals are lost or branched as children of the root,
its trials end and are observed, and its provider is replaced and told everything
again. In every state of such a run the replay passes through the state each
proposal was made in, so the search finds its own trials, waits for an open one,
and otherwise goes on from there.
-/

namespace Xaytune.Search

open Xaytune.Core Xaytune.Library Relation

/-! ## Runs -/

/-- The experiment a search varies, and the planner it runs under. -/
structure Setting where
  objective : Objective
  baseNodeId : String
  base : Candidate
  planner : ProposalProvenance

/-- The candidates on record, what became of the trials that ended, and what the present provider
was told. -/
structure SearchState where
  candidates : List SearchCandidate
  observed : List CandidateObservation
  observations : Observations

section Runs

variable {S V : Type} {provider : SequentialSearchProvider S V}

/-- A context assembled from the record, whatever context its provenance was planned in. -/
structure Describes (setting : Setting) (state : SearchState) (context : SearchContext provider) :
    Prop where
  objective : context.objective = setting.objective
  baseNodeId : context.baseNodeId = setting.baseNodeId
  base : context.base = setting.base
  candidates : ∀ candidate, candidate ∈ context.candidates ↔ candidate ∈ state.candidates
  planner : plannerDifferences context.provenance setting.planner = []

/-- Tell a provider each observation in turn. -/
def deliver (observations : Observations) :
    List CandidateObservation → Except SearchError Observations
  | [] => .ok observations
  | observation :: rest => do
      let told ← observe observations observation
      deliver told rest

/-- A step that branches nothing: a trial ends and is observed, an observation is delivered again,
or the provider is replaced by a fresh one that is told everything. A proposal that is lost leaves
the state as it is. -/
inductive Quiet (provider : SequentialSearchProvider S V) (setting : Setting) :
    SearchState → SearchState → Prop
  | observed {state : SearchState} {candidate : SearchCandidate} {node : NodeSummary}
      {observation : CandidateObservation} {observations : Observations}
      (onRecord : candidate ∈ state.candidates)
      (notBase : candidate.candidateFingerprint ≠ provider.candidateFingerprint setting.base)
      (first : ∀ earlier ∈ state.observed,
        earlier.candidateFingerprint ≠ candidate.candidateFingerprint)
      (isNode : node.nodeId = candidate.nodeId)
      (isCandidate : node.candidateFingerprint = candidate.candidateFingerprint)
      (ended : observationOf node setting.objective = some observation)
      (told : observe state.observations observation = .ok observations) :
      Quiet provider setting state
        { state with observed := state.observed ++ [observation], observations := observations }
  | again {state : SearchState} {observation : CandidateObservation} {observations : Observations}
      (onRecord : observation ∈ state.observed)
      (told : observe state.observations observation = .ok observations) :
      Quiet provider setting state { state with observations := observations }
  | replaced {state : SearchState} {order : List CandidateObservation} {observations : Observations}
      (all : order.Perm state.observed) (told : deliver [] order = .ok observations) :
      Quiet provider setting state { state with observations := observations }

/-- A proposal is branched as a child of the root, under a fresh node id. -/
inductive Branched (provider : SequentialSearchProvider S V) (setting : Setting) :
    SearchState → SearchState → Prop
  | child {state : SearchState} {context : SearchContext provider} {made : CandidateProposal}
      {nodeId : String} (describes : Describes setting state context)
      (proposed : suggest state.observations context 1 = some (.ok (some made)))
      (fresh : ∀ candidate ∈ state.candidates, candidate.nodeId ≠ nodeId) :
      Branched provider setting state
        { state with candidates := state.candidates ++
            [⟨nodeId, made.candidateFingerprint, some ⟨made.provenance, some made.search⟩⟩] }

/-- The states of a search: from the root alone, by branchings and quiet steps. -/
inductive SearchRun (provider : SequentialSearchProvider S V) (setting : Setting) :
    SearchState → Prop
  | root (origin : Option BranchOrigin) : SearchRun provider setting
      ⟨[⟨setting.baseNodeId, provider.candidateFingerprint setting.base, origin⟩], [], []⟩
  | branched {state state' : SearchState} (run : SearchRun provider setting state)
      (branches : Branched provider setting state state') : SearchRun provider setting state'
  | quiet {state state' : SearchState} (run : SearchRun provider setting state)
      (step : Quiet provider setting state state') : SearchRun provider setting state'

end Runs

/-! ## What the record gains -/

section Growth

variable {S V : Type} {provider : SequentialSearchProvider S V}
  {observations observations' : Observations} {context context' : SearchContext provider}

/-- The second record has everything the first has. -/
structure Extends (observations : Observations) (context : SearchContext provider)
    (observations' : Observations) (context' : SearchContext provider) : Prop where
  base : context'.base = context.base
  objective : context'.objective = context.objective
  candidates : ∀ candidate ∈ context.candidates, candidate ∈ context'.candidates
  observed : ∀ fingerprint observation, observations.lookup fingerprint = some observation →
    observations'.lookup fingerprint = some observation
  planner : ∀ recorded, plannerDifferences recorded context.provenance = [] ↔
    plannerDifferences recorded context'.provenance = []

theorem mem_trials {fingerprint : String} : fingerprint ∈ context.trials ↔
    (∃ candidate ∈ context.candidates, candidate.candidateFingerprint = fingerprint) ∧
      fingerprint ≠ context.baseFingerprint := by
  simp [SearchContext.trials]

/-- A candidate is found by its fingerprint. -/
theorem find?_eq_some_iff {fingerprint : String} {candidate : SearchCandidate} :
    context.find? fingerprint = some candidate ↔
      candidate ∈ context.candidates ∧ candidate.candidateFingerprint = fingerprint := by
  unfold SearchContext.find?
  constructor
  · intro found
    exact ⟨List.mem_of_find?_eq_some found, by simpa using List.find?_some found⟩
  · rintro ⟨member, rfl⟩
    cases found : context.candidates.find? fun other =>
        other.candidateFingerprint = candidate.candidateFingerprint with
    | none => simpa using List.find?_eq_none.mp found candidate member
    | some other =>
        have same : other.candidateFingerprint = candidate.candidateFingerprint := by
          simpa using List.find?_some found
        have isOther := List.inj_on_of_nodup_map context.fingerprints_nodup
          (List.mem_of_find?_eq_some found) member same
        rw [isOther]

theorem originProblems_iff {origin : Option BranchOrigin} {ours : ProposalProvenance}
    {expected : List (String × RecordValue)} : originProblems origin ours expected = [] ↔
      ∃ found recorded, origin = some found ∧ plannerDifferences found.provenance ours = [] ∧
        found.search = some recorded ∧
        ∀ name value, (name, value) ∈ expected → recorded.lookup name = some value := by
  unfold originProblems
  cases origin with
  | none => simp
  | some found =>
      rw [List.append_eq_nil_iff]
      constructor
      · rintro ⟨planner, searched⟩
        split at planner
        · split at searched
          · cases searched
          · rename_i recorded isRecord
            refine ⟨found, recorded, rfl, ‹_›, isRecord, fun name value member => ?_⟩
            have kept := List.filterMap_eq_nil_iff.mp searched (name, value) member
            by_contra differs
            simp only [if_neg differs, reduceCtorEq] at kept
        · cases planner
      · rintro ⟨found', recorded, isFound, planner, isRecord, agrees⟩
        cases isFound
        refine ⟨by rw [planner], ?_⟩
        rw [isRecord]
        refine List.filterMap_eq_nil_iff.mpr ?_
        rintro ⟨name, value⟩ member
        exact if_pos (agrees name value member)

theorem Extends.proposed (extends_ : Extends observations context observations' context')
    {replay : Replay S} {values : V} {identity : String}
    (proposed : Proposed context replay values identity) :
    Proposed context' replay values identity := by
  obtain ⟨⟨candidate, member, isIdentity⟩, notBase⟩ := mem_trials.mp proposed.trial
  have sameBase : context'.baseFingerprint = context.baseFingerprint := by
    unfold SearchContext.baseFingerprint
    rw [extends_.base]
  have found := find?_eq_some_iff.mpr ⟨member, isIdentity⟩
  have found' := find?_eq_some_iff.mpr ⟨extends_.candidates candidate member, isIdentity⟩
  refine ⟨proposed.new,
    mem_trials.mpr ⟨⟨candidate, extends_.candidates candidate member, isIdentity⟩,
    sameBase ▸ notBase⟩, ?_⟩
  have proven := proposed.proven
  rw [found] at proven
  rw [found']
  obtain ⟨origin, recorded, isOrigin, planner, isRecord, agrees⟩ := originProblems_iff.mp proven
  exact originProblems_iff.mpr
    ⟨origin, recorded, isOrigin, (extends_.planner _).mp planner, isRecord, agrees⟩

theorem Extends.suggests (extends_ : Extends observations context observations' context')
    {replay : Replay S} {values : V} {asked : S} {candidate : Candidate}
    (suggests : Suggests context replay values asked candidate) :
    Suggests context' replay values asked candidate :=
  ⟨suggests.suggested, extends_.base ▸ suggests.applied⟩

/-- A turn that goes on is taken again over any record that has everything of the first. -/
theorem Extends.turn (extends_ : Extends observations context observations' context')
    {replay later : Replay S} (goes : turn observations context replay = .next later) :
    Search.turn observations' context' replay = .next later := by
  obtain ⟨values, asked, candidate, suggests, repeats | tries⟩ := turn_next goes
  · obtain ⟨known, found, few, rfl⟩ := repeats
    exact turn_repeats (extends_.suggests suggests) found few
  · obtain ⟨proposed, observation, observed, rfl⟩ := tries
    exact turn_tries (extends_.suggests suggests) (extends_.proposed proposed)
      (extends_.observed _ _ observed)

theorem Extends.visits (extends_ : Extends observations context observations' context')
    {replay : Replay S}
    (visited : Loop.Visits (Search.turn observations context) (firstReplay context) replay) :
    Loop.Visits (Search.turn observations' context') (firstReplay context') replay := by
  have sameStart : firstReplay context' = firstReplay context := by
    unfold firstReplay SearchContext.baseFingerprint
    rw [extends_.base, extends_.objective]
  rw [sameStart]
  exact visited.mono fun _ _ _ goes => extends_.turn goes

end Growth

/-! ## The invariant -/

section Invariant

variable {S V : Type} {provider : SequentialSearchProvider S V} {setting : Setting}
  {state : SearchState} {context context' : SearchContext provider}

theorem plannerDifferences_iff {recorded ours : ProposalProvenance} :
    plannerDifferences recorded ours = [] ↔ { recorded with
      contextIdentityVersion := ours.contextIdentityVersion
      contextFingerprint := ours.contextFingerprint } = ours := by
  unfold plannerDifferences
  cases recorded
  cases ours
  simp only [List.append_eq_nil_iff, ite_eq_right_iff, reduceCtorEq, imp_false, not_not,
    ProposalProvenance.mk.injEq, and_true]
  tauto

theorem plannerDifferences_congr {recorded first second : ProposalProvenance}
    (same : plannerDifferences first second = []) :
    plannerDifferences recorded first = [] ↔ plannerDifferences recorded second = [] := by
  rw [plannerDifferences_iff] at same
  rw [plannerDifferences_iff, plannerDifferences_iff]
  cases recorded
  cases first
  cases second
  simp only [ProposalProvenance.mk.injEq, and_true] at same ⊢
  obtain ⟨rfl, rfl, rfl, rfl, rfl, rfl, rfl, rfl⟩ := same
  rfl

theorem plannerDifferences_self (ours : ProposalProvenance) : plannerDifferences ours ours = [] :=
  plannerDifferences_iff.mpr rfl

/-- Contexts of one search differ in the context their proposals were planned in alone. -/
theorem Describes.planner_congr {state' : SearchState} (first : Describes setting state context)
    (second : Describes setting state' context') (recorded : ProposalProvenance) :
    plannerDifferences recorded context.provenance = [] ↔
      plannerDifferences recorded context'.provenance = [] :=
  (plannerDifferences_congr first.planner).trans (plannerDifferences_congr second.planner).symm

/-- A context of a later state extends one of an earlier. -/
theorem Describes.extends {state' : SearchState} (first : Describes setting state context)
    (second : Describes setting state' context')
    (candidates : ∀ candidate ∈ state.candidates, candidate ∈ state'.candidates)
    (observed : ∀ fingerprint observation,
      state.observations.lookup fingerprint = some observation →
      state'.observations.lookup fingerprint = some observation) :
    Extends state.observations context state'.observations context' where
  base := second.base.trans first.base.symm
  objective := second.objective.trans first.objective.symm
  candidates candidate member :=
    (second.candidates candidate).mpr
      (candidates candidate ((first.candidates candidate).mp member))
  observed := observed
  planner := first.planner_congr second

theorem Describes.baseFingerprint (describes : Describes setting state context) :
    context.baseFingerprint = provider.candidateFingerprint setting.base := by
  unfold SearchContext.baseFingerprint
  rw [describes.base]

/-- What the provider was told is what became of the trials, each told once. -/
structure Told (provider : SequentialSearchProvider S V) (setting : Setting)
    (state : SearchState) : Prop where
  entries : ∀ fingerprint observation, (fingerprint, observation) ∈ state.observations ↔
    observation ∈ state.observed ∧ observation.candidateFingerprint = fingerprint
  once : ∀ first ∈ state.observed, ∀ second ∈ state.observed,
    first.candidateFingerprint = second.candidateFingerprint → first = second
  trials : ∀ observation ∈ state.observed, observation.metric = setting.objective.primaryName ∧
    observation.candidateFingerprint ≠ provider.candidateFingerprint setting.base ∧
    ∃ candidate ∈ state.candidates, candidate.nodeId = observation.nodeId ∧
      candidate.candidateFingerprint = observation.candidateFingerprint

/-- The replay has matched every trial that ended, and the next suggestion is the open trial, if
there is one. -/
structure Settled (setting : Setting) (state : SearchState) (context : SearchContext provider)
    (replay : Replay S) : Prop where
  known : ∀ fingerprint, fingerprint ∈ replay.keys ↔
    fingerprint = provider.candidateFingerprint setting.base ∨
      ∃ observation ∈ state.observed, observation.candidateFingerprint = fingerprint
  matched : (∀ candidate ∈ state.candidates, candidate.candidateFingerprint ∈ replay.keys) ∨
    ∃ values asked candidate, Suggests context replay values asked candidate ∧
      Proposed context replay values (provider.candidateFingerprint candidate) ∧
      ∀ other ∈ state.candidates, other.candidateFingerprint ∈ replay.keys ∨
        other.candidateFingerprint = provider.candidateFingerprint candidate

/-- In every state of a search, its replay comes to where its own history ends. -/
structure Reproduces (provider : SequentialSearchProvider S V) (setting : Setting)
    (state : SearchState) : Prop where
  told : Told provider setting state
  replayed : ∀ context : SearchContext provider, Describes setting state context → ∃ replay,
    Loop.Visits (turn state.observations context) (firstReplay context) replay ∧
      Settled setting state context replay

theorem mem_of_lookup {observations : Observations} {fingerprint : String}
    {observation : CandidateObservation}
    (found : observations.lookup fingerprint = some observation) :
    (fingerprint, observation) ∈ observations := by
  obtain ⟨_, _, rfl, _⟩ := List.lookup_eq_some_iff.mp found
  exact List.mem_append_right _ List.mem_cons_self

theorem lookup_of_mem {observations : Observations} {fingerprint : String}
    {observation : CandidateObservation} (member : (fingerprint, observation) ∈ observations) :
    ∃ first, observations.lookup fingerprint = some first :=
  Option.isSome_iff_exists.mp (List.lookup_isSome_iff.mpr ⟨_, member, beq_self_eq_true fingerprint⟩)

theorem Told.lookup_iff (told : Told provider setting state) {fingerprint : String}
    {observation : CandidateObservation} :
    state.observations.lookup fingerprint = some observation ↔
      observation ∈ state.observed ∧ observation.candidateFingerprint = fingerprint := by
  constructor
  · exact fun found => (told.entries _ _).mp (mem_of_lookup found)
  · rintro ⟨member, rfl⟩
    obtain ⟨first, found⟩ := lookup_of_mem ((told.entries _ _).mpr ⟨member, rfl⟩)
    obtain ⟨isFirst, same⟩ := (told.entries _ _).mp (mem_of_lookup found)
    rw [found, told.once first isFirst observation member same]

theorem Told.lookup_none (told : Told provider setting state) {fingerprint : String}
    (unobserved : ∀ observation ∈ state.observed, observation.candidateFingerprint ≠ fingerprint) :
    state.observations.lookup fingerprint = none := by
  cases found : state.observations.lookup fingerprint with
  | none => rfl
  | some observation =>
      obtain ⟨member, same⟩ := told.lookup_iff.mp found
      exact absurd same (unobserved observation member)

/-- The observations of a search are of its trials. -/
theorem Told.no_problems (told : Told provider setting state)
    (describes : Describes setting state context) :
    observationProblems context state.observations = [] := by
  unfold observationProblems
  refine List.flatMap_eq_nil_iff.mpr ?_
  rintro ⟨fingerprint, observation⟩ member
  have listed : (fingerprint, observation) ∈ state.observations :=
    (List.mem_insertionSort _).mp member
  obtain ⟨isObserved, rfl⟩ := (told.entries _ _).mp listed
  obtain ⟨sameMetric, notBase, candidate, onRecord, sameNode, sameFingerprint⟩ :=
    told.trials observation isObserved
  have found :=
    find?_eq_some_iff.mpr ⟨(describes.candidates candidate).mpr onRecord, sameFingerprint⟩
  have primary : observation.metric = context.objective.primaryName := by
    rw [describes.objective]
    exact sameMetric
  simp [found, sameNode, primary, describes.baseFingerprint, notBase]

/-! ## Deliveries -/

theorem observe_entries {observations observations' : Observations}
    {observation : CandidateObservation}
    (told : observe observations observation = .ok observations')
    (entry : String × CandidateObservation) : entry ∈ observations' ↔
      entry ∈ observations ∨ entry = (observation.candidateFingerprint, observation) := by
  unfold observe at told
  split at told
  · cases told
    simp
  · rename_i recorded found
    split at told
    · rename_i same
      cases told
      subst same
      constructor
      · exact .inl
      · rintro (member | rfl)
        · exact member
        · exact mem_of_lookup found
    · cases told

theorem deliver_entries {observations observations' : Observations}
    {order : List CandidateObservation} (told : deliver observations order = .ok observations')
    (entry : String × CandidateObservation) : entry ∈ observations' ↔ entry ∈ observations ∨
      ∃ observation ∈ order, entry = (observation.candidateFingerprint, observation) := by
  induction order generalizing observations with
  | nil =>
      cases told
      simp
  | cons observation rest ih =>
      unfold deliver at told
      cases first : observe observations observation with
      | error problem =>
          rw [first] at told
          cases told
      | ok middle =>
          rw [first] at told
          rw [ih told, observe_entries first]
          simp [or_assoc]

/-- Delivering observations of different trials never conflicts. -/
theorem deliver_ok {observations : Observations} {order : List CandidateObservation}
    (agree : ∀ first ∈ order, ∀ second ∈ order,
      first.candidateFingerprint = second.candidateFingerprint → first = second)
    (told : ∀ entry ∈ observations, entry.1 = entry.2.candidateFingerprint ∧
      ∀ second ∈ order, entry.2.candidateFingerprint = second.candidateFingerprint →
        entry.2 = second) :
    ∃ observations', deliver observations order = .ok observations' := by
  induction order generalizing observations with
  | nil => exact ⟨observations, rfl⟩
  | cons observation rest ih =>
      have first : ∃ middle, observe observations observation = .ok middle := by
        unfold observe
        split
        · exact ⟨_, rfl⟩
        · rename_i recorded found
          obtain ⟨isKey, agrees⟩ := told _ (mem_of_lookup found)
          rw [if_pos (agrees observation List.mem_cons_self isKey.symm)]
          exact ⟨_, rfl⟩
      obtain ⟨middle, isMiddle⟩ := first
      unfold deliver
      rw [isMiddle]
      refine ih (fun first member second member' => agree first (List.mem_cons_of_mem _ member)
        second (List.mem_cons_of_mem _ member')) ?_
      intro entry member
      rcases (observe_entries isMiddle entry).mp member with before | rfl
      · exact ⟨(told entry before).1, fun second member' =>
          (told entry before).2 second (List.mem_cons_of_mem _ member')⟩
      · exact ⟨rfl, fun second member' =>
          agree observation List.mem_cons_self second (List.mem_cons_of_mem _ member')⟩

theorem Told.quiet {state' : SearchState} (told : Told provider setting state)
    (step : Quiet provider setting state state') : Told provider setting state' := by
  cases step with
  | @observed candidate node observation observations onRecord notBase first isNode isCandidate
      ended
      delivered =>
      obtain ⟨ofNode, ofCandidate, ofMetric⟩ := observationOf_names ended
      have isFingerprint : observation.candidateFingerprint = candidate.candidateFingerprint :=
        ofCandidate.trans isCandidate
      constructor
      · intro fingerprint other
        rw [observe_entries delivered, told.entries, List.mem_append, List.mem_singleton,
          Prod.mk.injEq]
        constructor
        · rintro (⟨member, same⟩ | ⟨rfl, rfl⟩)
          · exact ⟨.inl member, same⟩
          · exact ⟨.inr rfl, rfl⟩
        · rintro ⟨member | rfl, same⟩
          · exact .inl ⟨member, same⟩
          · exact .inr ⟨same.symm, rfl⟩
      · intro one member two member' same
        rcases List.mem_append.mp member with before | here
        · rcases List.mem_append.mp member' with before' | here'
          · exact told.once one before two before' same
          · rw [List.mem_singleton.mp here', isFingerprint] at same
            exact absurd same (first one before)
        · rcases List.mem_append.mp member' with before' | here'
          · rw [List.mem_singleton.mp here, isFingerprint] at same
            exact absurd same.symm (first two before')
          · rw [List.mem_singleton.mp here, List.mem_singleton.mp here']
      · intro other member
        rcases List.mem_append.mp member with before | here
        · exact told.trials other before
        · rw [List.mem_singleton.mp here]
          exact ⟨ofMetric, isFingerprint ▸ notBase, candidate, onRecord,
            (ofNode.trans isNode).symm, isFingerprint.symm⟩
  | @again observation observations onRecord delivered =>
      refine ⟨fun fingerprint other => ?_, told.once, told.trials⟩
      rw [observe_entries delivered, told.entries, Prod.mk.injEq]
      constructor
      · rintro (before | ⟨rfl, rfl⟩)
        · exact before
        · exact ⟨onRecord, rfl⟩
      · exact .inl
  | @replaced order observations all delivered =>
      refine ⟨fun fingerprint other => ?_, told.once, told.trials⟩
      rw [deliver_entries delivered]
      constructor
      · rintro (before | ⟨observation, member, same⟩)
        · cases before
        · cases same
          exact ⟨all.mem_iff.mp member, rfl⟩
      · rintro ⟨member, rfl⟩
        exact .inr ⟨other, all.mem_iff.mpr member, rfl⟩

/-! ## Every step keeps it -/

theorem lookup_none_iff {replay : Replay S} {fingerprint : String} :
    replay.known.lookup fingerprint = none ↔ fingerprint ∉ replay.keys := by
  rw [Replay.mem_keys]
  cases replay.known.lookup fingerprint <;> simp

/-- What a replay knows is the base and trials it was told about. -/
theorem keys_observed {observations : Observations} {replay : Replay S}
    (visited : Loop.Visits (turn observations context) (firstReplay context) replay) :
    context.baseFingerprint ∈ replay.keys ∧ ∀ fingerprint ∈ replay.keys,
      fingerprint = context.baseFingerprint ∨
        ∃ observation, observations.lookup fingerprint = some observation := by
  refine visited.invariant (I := fun replay => context.baseFingerprint ∈ replay.keys ∧
    ∀ fingerprint ∈ replay.keys, fingerprint = context.baseFingerprint ∨
      ∃ observation, observations.lookup fingerprint = some observation) ?_ ?_
  · refine ⟨List.mem_singleton.mpr rfl, fun fingerprint member => .inl ?_⟩
    exact List.mem_singleton.mp member
  · rintro before later goes ⟨base, told⟩
    obtain ⟨values, asked, candidate, _, ⟨_, _, _, rfl⟩ | ⟨_, observation, observed, rfl⟩⟩ :=
      turn_next goes
    · exact ⟨base, told⟩
    · rw [Replay.keys_tried]
      refine ⟨List.mem_append_left _ base, fun fingerprint member => ?_⟩
      rcases List.mem_append.mp member with known | here
      · exact told fingerprint known
      · rw [List.mem_singleton.mp here]
        exact .inr ⟨observation, observed⟩

/-- A proposal is made where the algorithm suggests what the record lacks, and nothing on record is
unmatched. -/
theorem proposed_at {observations : Observations} {made : CandidateProposal}
    (answered : suggest observations context 1 = some (.ok (some made))) :
    ∃ replay values asked candidate,
      Loop.Visits (turn observations context) (firstReplay context) replay ∧
      Suggests context replay values asked candidate ∧
      replay.known.lookup (provider.candidateFingerprint candidate) = none ∧
      provider.candidateFingerprint candidate ∉ context.trials ∧
      (∀ trial ∈ context.trials, trial ∈ replay.keys) ∧
      made = proposal context candidate values replay.index replay.history := by
  rcases suggest_ends answered with ⟨_, isError, _⟩ | ⟨replay, visited, stops⟩
  · cases isError
  generalize isAnswer : (Except.ok (some made) : Answer) = answer at stops
  cases turn_stop stops with
  | exhausted | repeats | waits =>
      obtain ⟨other, _⟩ := matched_of_requireAllMatched isAnswer.symm
      cases other
  | invalid | foreign => cases isAnswer
  | proposes when suggests new unknown =>
      obtain ⟨isMade, matched⟩ := matched_of_requireAllMatched isAnswer.symm
      exact ⟨replay, _, _, _, visited, suggests, new, unknown, matched, Option.some.inj isMade⟩

/-- The record a proposal carries is the one a later replay expects. -/
theorem lookup_recordOf {index : Nat} {values : V} {history : List HistoryEntry}
    {rest : List (String × RecordValue)} {name : String} {value : RecordValue}
    (expected : (name, value) ∈ recordOf provider index values history) :
    (recordOf provider index values history ++ rest).lookup name = some value := by
  simp only [recordOf, List.mem_cons, List.not_mem_nil, or_false, Prod.mk.injEq] at expected
  rcases expected with ⟨rfl, rfl⟩ | ⟨rfl, rfl⟩ | ⟨rfl, rfl⟩ | ⟨rfl, rfl⟩ | ⟨rfl, rfl⟩ <;> rfl

theorem Reproduces.branched {state' : SearchState} (reproduces : Reproduces provider setting state)
    (branches : Branched provider setting state state') : Reproduces provider setting state' := by
  obtain @⟨context, made, nodeId, describes, proposed, fresh⟩ := branches
  obtain ⟨replay, values, asked, candidate, visited, suggests, new, unknown, matched, rfl⟩ :=
    proposed_at proposed
  obtain ⟨baseKnown, keysTold⟩ := keys_observed visited
  have told := reproduces.told
  refine ⟨⟨told.entries, told.once, fun observation member => ?_⟩, fun context' describes' => ?_⟩
  · obtain ⟨sameMetric, notBase, trial, onRecord, same⟩ := told.trials observation member
    exact ⟨sameMetric, notBase, trial, List.mem_append_left _ onRecord, same⟩
  have extends_ := describes.extends describes' (fun _ member => List.mem_append_left _ member)
    fun _ _ found => found
  have inTrials : ∀ other ∈ state.candidates,
      other.candidateFingerprint = provider.candidateFingerprint setting.base ∨
        other.candidateFingerprint ∈ context.trials := by
    intro other member
    by_cases isBase : other.candidateFingerprint = provider.candidateFingerprint setting.base
    · exact .inl isBase
    · refine .inr (mem_trials.mpr ⟨⟨other, (describes.candidates other).mpr member, rfl⟩, ?_⟩)
      rw [describes.baseFingerprint]
      exact isBase
  rw [describes.baseFingerprint] at baseKnown keysTold
  refine ⟨replay, extends_.visits visited, fun fingerprint => ?_, .inr ⟨values, asked, candidate,
    extends_.suggests suggests, ⟨new, ?_, ?_⟩, fun other member => ?_⟩⟩
  · constructor
    · intro isKey
      rcases keysTold fingerprint isKey with isBase | ⟨observation, found⟩
      · exact .inl isBase
      · exact .inr ⟨observation, told.lookup_iff.mp found⟩
    · rintro (rfl | ⟨observation, member, rfl⟩)
      · exact baseKnown
      · obtain ⟨_, notBase, trial, onRecord, _, same⟩ := told.trials observation member
        rw [← same] at notBase ⊢
        exact matched _ ((inTrials trial onRecord).resolve_left notBase)
  · refine mem_trials.mpr ⟨⟨_, (describes'.candidates _).mpr
      (List.mem_append_right _ List.mem_cons_self), rfl⟩, ?_⟩
    rw [describes'.baseFingerprint]
    rintro isBase
    exact lookup_none_iff.mp new (isBase ▸ baseKnown)
  · have found : context'.find? (provider.candidateFingerprint candidate) = some _ :=
      find?_eq_some_iff.mpr
        ⟨(describes'.candidates _).mpr (List.mem_append_right _ List.mem_cons_self), rfl⟩
    rw [found]
    exact originProblems_iff.mpr ⟨_, _, rfl,
      (describes.planner_congr describes' _).mp (plannerDifferences_self _), rfl,
      fun _ _ expected => lookup_recordOf expected⟩
  · rcases List.mem_append.mp member with before | here
    · refine .inl ?_
      rcases inTrials other before with isBase | isTrial
      · rw [isBase]
        exact baseKnown
      · exact matched _ isTrial
    · rw [List.mem_singleton.mp here]
      exact .inr rfl

theorem Reproduces.quiet {state' : SearchState} (reproduces : Reproduces provider setting state)
    (step : Quiet provider setting state state') : Reproduces provider setting state' := by
  have told := reproduces.told
  have told' := told.quiet step
  refine ⟨told', fun context describes' => ?_⟩
  cases step with
  | @observed candidate node observation observations onRecord notBase first isNode isCandidate
      ended
      delivered =>
      have isFingerprint : observation.candidateFingerprint = candidate.candidateFingerprint :=
        (observationOf_names ended).2.1.trans isCandidate
      have describes : Describes setting state context := ⟨describes'.objective,
        describes'.baseNodeId, describes'.base, describes'.candidates, describes'.planner⟩
      obtain ⟨replay, visited, settled⟩ := reproduces.replayed context describes
      have extends_ := describes.extends describes' (fun _ member => member) fun _ _ found =>
        told'.lookup_iff.mpr ⟨List.mem_append_left _ (told.lookup_iff.mp found).1,
          (told.lookup_iff.mp found).2⟩
      have notKnown : candidate.candidateFingerprint ∉ replay.keys := by
        intro isKey
        rcases (settled.known _).mp isKey with isBase | ⟨earlier, member, same⟩
        · exact notBase isBase
        · exact first earlier member same
      rcases settled.matched with all | ⟨values, asked, suggested, suggests, proposed, others⟩
      · exact absurd (all candidate onRecord) notKnown
      have isSuggested := (others candidate onRecord).resolve_left notKnown
      have found :
        observations.lookup (provider.candidateFingerprint suggested) = some observation :=
        told'.lookup_iff.mpr ⟨List.mem_append_right _ List.mem_cons_self,
          isFingerprint.trans isSuggested⟩
      refine ⟨_, (extends_.visits visited).next (turn_tries suggests proposed found), ?_, .inl ?_⟩
      · intro fingerprint
        rw [Replay.keys_tried, List.mem_append, settled.known, List.mem_singleton, or_assoc]
        refine or_congr_right ?_
        constructor
        · rintro (⟨earlier, member, same⟩ | rfl)
          · exact ⟨earlier, List.mem_append_left _ member, same⟩
          · exact ⟨observation, List.mem_append_right _ List.mem_cons_self,
              isFingerprint.trans isSuggested⟩
        · rintro ⟨other, member, rfl⟩
          rcases List.mem_append.mp member with before | here
          · exact .inl ⟨other, before, rfl⟩
          · rw [List.mem_singleton.mp here]
            exact .inr (isFingerprint.trans isSuggested)
      · intro other member
        rw [Replay.keys_tried, List.mem_append, List.mem_singleton]
        exact others other member
  | again | replaced =>
      have describes : Describes setting state context := ⟨describes'.objective,
        describes'.baseNodeId, describes'.base, describes'.candidates, describes'.planner⟩
      obtain ⟨replay, visited, settled⟩ := reproduces.replayed context describes
      have extends_ := describes.extends describes' (fun _ member => member) fun _ _ found =>
        told'.lookup_iff.mpr (told.lookup_iff.mp found)
      exact ⟨replay, extends_.visits visited, settled.known, settled.matched⟩

theorem SearchRun.reproduces (run : SearchRun provider setting state) :
    Reproduces provider setting state := by
  induction run with
  | root origin =>
      refine ⟨⟨?_, ?_, ?_⟩, fun context describes => ⟨firstReplay context, .here, ?_, .inl ?_⟩⟩
      · simp
      · intro _ member
        cases member
      · intro _ member
        cases member
      · intro fingerprint
        simp [Replay.keys, firstReplay, describes.baseFingerprint]
      · intro candidate member
        rw [List.mem_singleton.mp member]
        simp [Replay.keys, firstReplay, describes.baseFingerprint]
  | branched _ branches ih => exact ih.branched branches
  | quiet _ step ih => exact ih.quiet step

end Invariant

/-! ## A sequential search reproduces its own history -/

section Reproduction

variable {S V : Type} {provider : SequentialSearchProvider S V} {setting : Setting}
  {state : SearchState} {context : SearchContext provider}

theorem keys_mono {observations : Observations} {replay later : Replay S}
    (visited : Loop.Visits (turn observations context) replay later) {fingerprint : String}
    (known : fingerprint ∈ replay.keys) : fingerprint ∈ later.keys := by
  refine visited.invariant (I := fun later => fingerprint ∈ later.keys) known ?_
  intro before after goes isKey
  obtain ⟨_, _, _, _, ⟨_, _, _, rfl⟩ | ⟨_, _, _, rfl⟩⟩ := turn_next goes
  · exact isKey
  · rw [Replay.keys_tried]
    exact List.mem_append_left _ isKey

/-- The last suggestions of a replay, as many as it counts, were all not new. -/
theorem duplicates_last {observations : Observations} {replay : Replay S}
    (visited : Loop.Visits (turn observations context) (firstReplay context) replay) :
    ∃ before last, replay.history = before ++ last ∧ last.length = replay.duplicates ∧
      ∀ entry ∈ last, entry.trial = false := by
  refine visited.invariant (I := fun replay => ∃ before last, replay.history = before ++ last ∧
    last.length = replay.duplicates ∧ ∀ entry ∈ last, entry.trial = false) ?_ ?_
  · exact ⟨[], [], rfl, rfl, fun _ member => absurd member List.not_mem_nil⟩
  · rintro now later goes ⟨before, last, isHistory, counted, allRepeated⟩
    obtain ⟨_, _, candidate, _, ⟨known, _, _, rfl⟩ | ⟨_, observation, _, rfl⟩⟩ := turn_next goes
    · refine ⟨before, last ++ [⟨now.index, provider.candidateFingerprint candidate, false, known⟩],
        ?_, ?_, ?_⟩
      · simp [Replay.repeated, isHistory]
      · simp [Replay.repeated, counted]
      · intro entry member
        rcases List.mem_append.mp member with earlier | here
        · exact allRepeated entry earlier
        · rw [List.mem_singleton.mp here]
    · exact ⟨now.history ++ [⟨now.index, provider.candidateFingerprint candidate, true,
        some observation⟩], [], by simp [Replay.tried], rfl,
        fun _ member => absurd member List.not_mem_nil⟩

/-- A trial on record that has not been observed. -/
def OpenTrial (provider : SequentialSearchProvider S V) (setting : Setting) (state : SearchState) :
    Prop :=
  ∃ candidate ∈ state.candidates,
    candidate.candidateFingerprint ≠ provider.candidateFingerprint setting.base ∧
      ∀ observation ∈ state.observed,
        observation.candidateFingerprint ≠ candidate.candidateFingerprint

/-- The algorithm, asked after the history on record, has nothing more to suggest. -/
def Exhausted (observations : Observations) (context : SearchContext provider) : Prop :=
  ∃ replay, Loop.Visits (turn observations context) (firstReplay context) replay ∧
    (provider.suggest replay.searcher replay.index).1 = none

/-- The suggestion now, and as many before it as the limit, were all not new. -/
def OnlyDuplicates (observations : Observations) (context : SearchContext provider) : Prop :=
  ∃ replay values asked candidate,
    Loop.Visits (turn observations context) (firstReplay context) replay ∧
    Suggests context replay values asked candidate ∧
    provider.candidateFingerprint candidate ∈ replay.keys ∧
    ∃ before last, replay.history = before ++ last ∧
      provider.maxConsecutiveDuplicates < last.length + 1 ∧ ∀ entry ∈ last, entry.trial = false

/-- The candidate was branched from the search's own proposal at that place of its history: the
algorithm suggests it there, and its origin names this planner and exactly that place. -/
def BranchedHere (observations : Observations) (context : SearchContext provider)
    (branched : SearchCandidate) : Prop :=
  ∃ replay values asked candidate,
    Loop.Visits (turn observations context) (firstReplay context) replay ∧
    Suggests context replay values asked candidate ∧
    provider.candidateFingerprint candidate = branched.candidateFingerprint ∧
    ∃ origin recorded, branched.branchOrigin = some origin ∧
      plannerDifferences origin.provenance context.provenance = [] ∧
      origin.search = some recorded ∧ ∀ name value,
        (name, value) ∈ recordOf provider replay.index values replay.history →
          recorded.lookup name = some value

/-- Where a search's replay ends, it has found every trial, or it waits for the open one. -/
theorem Reproduces.ends (reproduces : Reproduces provider setting state)
    (describes : Describes setting state context) {answer : Answer}
    (answered : suggest state.observations context 1 = some answer) :
    ∃ replay, Loop.Visits (turn state.observations context) (firstReplay context) replay ∧
      Ends state.observations context replay answer ∧
      ((∀ trial ∈ context.trials, trial ∈ replay.keys) ∨ answer = .ok none) := by
  rcases suggest_ends answered with ⟨_, _, problems⟩ | ⟨last, visited, stops⟩
  · exact absurd (reproduces.told.no_problems describes) problems
  refine ⟨last, visited, turn_stop stops, ?_⟩
  obtain ⟨replay, passed, settled⟩ := reproduces.replayed context describes
  have onwards := passed.to_stop visited stops
  have onRecord : ∀ trial ∈ context.trials, ∃ candidate ∈ state.candidates,
      candidate.candidateFingerprint = trial := by
    intro trial member
    obtain ⟨⟨candidate, inContext, same⟩, _⟩ := mem_trials.mp member
    exact ⟨candidate, (describes.candidates candidate).mp inContext, same⟩
  rcases settled.matched with all | ⟨values, asked, candidate, suggests, proposed, others⟩
  · refine .inl fun trial member => ?_
    obtain ⟨candidate, inState, rfl⟩ := onRecord trial member
    exact keys_mono onwards (all candidate inState)
  · -- the open trial is not known, so it was not observed: the replay waits for it
    have notKnown := lookup_none_iff.mp proposed.new
    have unobserved : state.observations.lookup (provider.candidateFingerprint candidate) =
      none := by
      refine reproduces.told.lookup_none fun observation member same => notKnown ?_
      exact (settled.known _).mpr (.inr ⟨observation, member, same⟩)
    have waits := turn_waits suggests proposed unobserved
    have isLast := passed.stop_unique waits visited stops
    subst isLast
    rw [waits] at stops
    cases stops
    refine .inr (requireAllMatched_of_matched fun trial member => ?_)
    obtain ⟨other, inState, rfl⟩ := onRecord trial member
    rcases others other inState with known | same
    · exact List.mem_cons_of_mem _ known
    · rw [same]
      exact List.mem_cons_self

/-- Where a search proposes, every trial of it has been observed. -/
theorem Reproduces.no_open (reproduces : Reproduces provider setting state)
    (describes : Describes setting state context) {made : CandidateProposal}
    (answered : suggest state.observations context 1 = some (.ok (some made))) :
    ¬ OpenTrial provider setting state := by
  rintro ⟨candidate, onRecord, notBase, unobserved⟩
  obtain ⟨replay, _, _, _, visited, _, _, _, matched, _⟩ := proposed_at answered
  have isTrial : candidate.candidateFingerprint ∈ context.trials := by
    refine mem_trials.mpr ⟨⟨candidate, (describes.candidates candidate).mpr onRecord, rfl⟩, ?_⟩
    rw [describes.baseFingerprint]
    exact notBase
  rcases (keys_observed visited).2 _ (matched _ isTrial) with isBase | ⟨observation, found⟩
  · rw [describes.baseFingerprint] at isBase
    exact notBase isBase
  · obtain ⟨member, same⟩ := reproduces.told.lookup_iff.mp found
    exact unobserved observation member same

/-- Quiet steps change nothing on record where no trial is open. -/
theorem quiet_settled {state' : SearchState} (closed : ¬ OpenTrial provider setting state)
    (steps : ReflTransGen (Quiet provider setting) state state') :
    state'.candidates = state.candidates ∧ state'.observed = state.observed := by
  induction steps with
  | refl => exact ⟨rfl, rfl⟩
  | tail _ step ih =>
      obtain ⟨sameCandidates, sameObserved⟩ := ih
      cases step with
      | observed onRecord notBase first =>
          rw [sameCandidates] at onRecord
          rw [sameObserved] at first
          exact absurd ⟨_, onRecord, notBase, first⟩ closed
      | again | replaced => exact ⟨sameCandidates, sameObserved⟩

/-- A search never finds that the record is not its own. -/
theorem Reproduces.not_history (reproduces : Reproduces provider setting state)
    (describes : Describes setting state context) {answer : Answer}
    (answered : suggest state.observations context 1 = some answer) (message : String) :
    answer ≠ .error (.history message) := by
  obtain ⟨replay, _, ends, matched | isNone⟩ := reproduces.ends describes answered
  · intro isError
    cases ends with
    | exhausted | repeats | proposes =>
        rw [requireAllMatched_of_matched matched] at isError
        cases isError
    | invalid => cases isError
    | foreign _ _ new trial => exact lookup_none_iff.mp new (matched _ trial)
    | waits _ _ proposed => exact lookup_none_iff.mp proposed.new (matched _ proposed.trial)
  · rw [isNone]
    nofun

/-- A search has nothing to propose only for one of three reasons. -/
theorem Reproduces.nothing (reproduces : Reproduces provider setting state)
    (describes : Describes setting state context)
    (answered : suggest state.observations context 1 = some (.ok none)) :
    OpenTrial provider setting state ∨ Exhausted state.observations context ∨
      OnlyDuplicates state.observations context := by
  obtain ⟨replay, visited, ends, _⟩ := reproduces.ends describes answered
  generalize isAnswer : (Except.ok none : Answer) = answer at ends
  cases ends with
  | exhausted _ suggested => exact .inr (.inl ⟨replay, visited, suggested⟩)
  | invalid | foreign => cases isAnswer
  | repeats _ suggests found many =>
      obtain ⟨before, last, isHistory, counted, allRepeated⟩ := duplicates_last visited
      exact .inr (.inr ⟨replay, _, _, _, visited, suggests, Replay.mem_keys.mpr ⟨_, found⟩, before,
        last, isHistory, counted ▸ many, allRepeated⟩)
  | @waits _ values asked candidate suggests proposed unobserved =>
      obtain ⟨⟨trial, inContext, same⟩, notBase⟩ := mem_trials.mp proposed.trial
      rw [← same, describes.baseFingerprint] at notBase
      refine .inl ⟨trial, (describes.candidates trial).mp inContext, notBase, ?_⟩
      intro observation member isTrial
      have found := reproduces.told.lookup_iff.mpr ⟨member, isTrial.trans same⟩
      rw [unobserved] at found
      cases found
  | proposes =>
      obtain ⟨isSome, _⟩ := matched_of_requireAllMatched isAnswer.symm
      cases isSome

/-- A proposal is of a candidate that is neither the base nor on record. -/
theorem proposed_new {made : CandidateProposal} (describes : Describes setting state context)
    (answered : suggest state.observations context 1 = some (.ok (some made))) :
    made.candidateFingerprint ≠ provider.candidateFingerprint setting.base ∧
      ∀ candidate ∈ state.candidates,
        candidate.candidateFingerprint ≠ made.candidateFingerprint := by
  obtain ⟨replay, values, _, proposed, visited, _, new, unknown, _, rfl⟩ := proposed_at answered
  have notKnown := lookup_none_iff.mp new
  have baseKnown := (keys_observed visited).1
  rw [describes.baseFingerprint] at baseKnown
  have notBase : provider.candidateFingerprint proposed ≠
      provider.candidateFingerprint setting.base := by
    intro isBase
    rw [isBase] at notKnown
    exact notKnown baseKnown
  refine ⟨notBase, fun candidate onRecord same => unknown (mem_trials.mpr
    ⟨⟨candidate, (describes.candidates candidate).mpr onRecord, same⟩, ?_⟩)⟩
  rw [describes.baseFingerprint]
  exact notBase

/-- A proposal that was lost is made again. -/
theorem Reproduces.proposes_again (reproduces : Reproduces provider setting state)
    (describes : Describes setting state context) {made : CandidateProposal}
    (answered : suggest state.observations context 1 = some (.ok (some made)))
    {state' : SearchState} (steps : ReflTransGen (Quiet provider setting) state state')
    {context' : SearchContext provider} (describes' : Describes setting state' context') :
    ∃ made', suggest state'.observations context' 1 = some (.ok (some made')) ∧
      { made' with search := made.search, provenance := made.provenance } = made := by
  obtain ⟨sameCandidates, sameObserved⟩ :=
    quiet_settled (reproduces.no_open describes answered) steps
  have reproduces' : Reproduces provider setting state' := by
    clear sameCandidates sameObserved describes'
    induction steps with
    | refl => exact reproduces
    | tail _ step ih => exact ih.quiet step
  have extends_ := describes.extends describes' (fun _ member => sameCandidates ▸ member)
    fun _ _ found =>
      reproduces'.told.lookup_iff.mpr (sameObserved ▸ reproduces.told.lookup_iff.mp found)
  obtain ⟨replay, values, asked, candidate, visited, suggests, new, unknown, matched, rfl⟩ :=
    proposed_at answered
  have sameTrials : ∀ trial, trial ∈ context'.trials ↔ trial ∈ context.trials := by
    intro trial
    rw [mem_trials, mem_trials, describes.baseFingerprint, describes'.baseFingerprint]
    simp only [describes.candidates, describes'.candidates, sameCandidates]
  have stops : turn state'.observations context' replay = .stop _ :=
    turn_proposes (extends_.suggests suggests) new fun isTrial =>
      unknown ((sameTrials _).mp isTrial)
  rw [requireAllMatched_of_matched fun trial isTrial =>
    matched trial ((sameTrials trial).mp isTrial)]
    at stops
  obtain ⟨answer, answered'⟩ := suggest_terminates state'.observations context' 1
  rcases suggest_ends answered' with ⟨_, _, problems⟩ | ⟨last, passed, stops'⟩
  · exact absurd (reproduces'.told.no_problems describes') problems
  have isLast := (extends_.visits visited).stop_unique stops passed stops'
  subst isLast
  rw [stops] at stops'
  cases stops'
  refine ⟨_, answered', ?_⟩
  unfold proposal
  simp only [describes.baseNodeId, describes'.baseNodeId, describes.objective, describes'.objective]

/-- Every key but the base was put there by a turn that proved it. -/
def Traced (observations : Observations) (context : SearchContext provider) (replay : Replay S) :
    Prop :=
  ∀ fingerprint ∈ replay.keys, fingerprint = context.baseFingerprint ∨
    ∃ before values asked candidate,
      Loop.Visits (turn observations context) (firstReplay context) before ∧
      Suggests context before values asked candidate ∧
      provider.candidateFingerprint candidate = fingerprint ∧
      Proposed context before values fingerprint

/-- A search proposes only over candidates it proposed itself. -/
theorem branchedHere_of_proposed {observations : Observations} {made : CandidateProposal}
    (answered : suggest observations context 1 = some (.ok (some made)))
    {branched : SearchCandidate} (onRecord : branched ∈ context.candidates)
    (notBase : branched.candidateFingerprint ≠ provider.candidateFingerprint context.base) :
    BranchedHere observations context branched := by
  obtain ⟨replay, _, _, _, visited, _, _, _, matched, _⟩ := proposed_at answered
  have known := matched _ (mem_trials.mpr ⟨⟨branched, onRecord, rfl⟩, notBase⟩)
  have proven : Loop.Visits (turn observations context) (firstReplay context) replay ∧
      Traced observations context replay := by
    refine visited.invariant (I := fun replay =>
      Loop.Visits (turn observations context) (firstReplay context) replay ∧
        Traced observations context replay) ?_ ?_
    · exact ⟨.here, fun fingerprint member => .inl (List.mem_singleton.mp member)⟩
    · rintro now later goes ⟨passed, proven⟩
      refine ⟨passed.next goes, ?_⟩
      obtain ⟨values, asked, candidate, suggests, ⟨_, _, _, rfl⟩ | ⟨proposed, _, _, rfl⟩⟩ :=
        turn_next goes
      · exact proven
      · intro fingerprint member
        rw [Replay.keys_tried] at member
        rcases List.mem_append.mp member with before | here
        · exact proven fingerprint before
        · rw [List.mem_singleton.mp here]
          exact .inr ⟨now, values, asked, candidate, passed, suggests, rfl, proposed⟩
  rcases proven.2 _ known with isBase | ⟨before, values, asked, candidate, passed, suggests, same,
    proposed⟩
  · exact absurd isBase notBase
  · have found := find?_eq_some_iff.mpr ⟨onRecord, rfl⟩
    have isProven := proposed.proven
    rw [found] at isProven
    exact ⟨before, values, asked, candidate, passed, suggests, same, originProblems_iff.mp isProven⟩

/-- Whatever was branched or lost, observed and told again to however many providers: asking for
the next candidate ends; it never finds the record not to be the search's own; it proposes neither
the base nor a candidate on record; after a proposal is lost it is made again; and there is nothing
to propose only while a trial is open, or where the algorithm is exhausted or repeats itself. And
whatever record a search is given, it proposes only where each of its candidates was branched from
the search's own proposal at that place. -/
theorem search_reproduces_history :
    (∀ state, SearchRun provider setting state →
      (∀ order : List CandidateObservation, order.Perm state.observed →
        ∃ observations, deliver [] order = .ok observations) ∧
      ∀ context : SearchContext provider, Describes setting state context →
        ∃ answer, suggest state.observations context 1 = some answer ∧
          (∀ message, answer ≠ .error (.history message)) ∧
          (answer = .ok none → OpenTrial provider setting state ∨
            Exhausted state.observations context ∨ OnlyDuplicates state.observations context) ∧
          ∀ made, answer = .ok (some made) →
            made.candidateFingerprint ≠ provider.candidateFingerprint setting.base ∧
            (∀ candidate ∈ state.candidates,
              candidate.candidateFingerprint ≠ made.candidateFingerprint) ∧
            ∀ state', ReflTransGen (Quiet provider setting) state state' →
              ∀ context' : SearchContext provider, Describes setting state' context' →
                ∃ made', suggest state'.observations context' 1 = some (.ok (some made')) ∧
                  { made' with search := made.search, provenance := made.provenance } = made) ∧
    ∀ (observations : Observations) (context : SearchContext provider) (made : CandidateProposal),
      suggest observations context 1 = some (.ok (some made)) →
      ∀ candidate ∈ context.candidates,
        candidate.candidateFingerprint ≠ provider.candidateFingerprint context.base →
        BranchedHere observations context candidate := by
  refine ⟨fun state run => ⟨fun order all => ?_, fun context describes => ?_⟩,
    fun observations context made answered candidate onRecord notBase =>
      branchedHere_of_proposed answered onRecord notBase⟩
  · refine deliver_ok (fun first member second member' => ?_) fun _ member => nomatch member
    exact run.reproduces.told.once first (all.mem_iff.mp member) second (all.mem_iff.mp member')
  · obtain ⟨answer, answered⟩ := suggest_terminates state.observations context 1
    refine ⟨answer, answered, run.reproduces.not_history describes answered, ?_, ?_⟩
    · rintro rfl
      exact run.reproduces.nothing describes answered
    · rintro made rfl
      obtain ⟨notBase, notOnRecord⟩ := proposed_new describes answered
      exact ⟨notBase, notOnRecord, fun state' steps context' describes' =>
        run.reproduces.proposes_again describes answered steps describes'⟩

/-! ## Four suggestions -/

/-- An algorithm that suggests the base, a point, that point again and another one. -/
def fourSuggestions : SequentialSearchProvider Unit Nat where
  name := "list"
  seed := 0
  maxConsecutiveDuplicates := 1
  spaceNames := ["lr"]
  spaceFingerprint := "space"
  providerRecord := "list 1.0"
  searcher _ := ()
  suggest _ index := ([0, 1, 1, 2][index]?, ())
  complete _ _ _ := ()
  applyParameters _ value := .ok { content := toString value }
  parameters value := toString value
  candidateFingerprint := Candidate.content
  historyFingerprint history := toString history.length
  contextFingerprint _ _ _ _ candidates _ := toString candidates.length

def listSetting : Setting where
  objective := ⟨"loss", "minimize"⟩
  baseNodeId := "root"
  base := { content := "0" }
  planner := ⟨"core", "search", "1", "1", "search", "1", 1, "spec", 2, ""⟩

def rootOnly : SearchContext fourSuggestions where
  experimentId := "e"
  objective := listSetting.objective
  baseNodeId := "root"
  base := listSetting.base
  candidates := [⟨"root", "0", none⟩]
  provenance := listSetting.planner
  nodes_nodup := by decide
  fingerprints_nodup := by decide
  base_mem := ⟨_, List.mem_cons_self, rfl, rfl⟩

/-- The first proposal: the base was suggested before it. -/
def firstProposal : CandidateProposal :=
  proposal rootOnly { content := "1" } 1 1 [⟨0, "0", false, none⟩]

def firstTrial : SearchCandidate :=
  ⟨"n", "1", some ⟨firstProposal.provenance, some firstProposal.search⟩⟩

def failedTrial : CandidateObservation where
  nodeId := "n"
  candidateFingerprint := "1"
  outcome := .failed
  metric := "loss"
  valued := by decide

def withTrial : SearchContext fourSuggestions where
  experimentId := "e"
  objective := listSetting.objective
  baseNodeId := "root"
  base := listSetting.base
  candidates := [⟨"root", "0", none⟩, firstTrial]
  provenance := listSetting.planner
  nodes_nodup := by decide
  fingerprints_nodup := by decide
  base_mem := ⟨_, List.mem_cons_self, rfl, rfl⟩

theorem search_reproduces_history_fourSuggestions :
    ∃ state made, SearchRun fourSuggestions listSetting state ∧
      Describes listSetting state withTrial ∧
      suggest state.observations withTrial 1 = some (.ok (some made)) ∧
      made.candidateFingerprint = "2" ∧
      ∀ candidate ∈ state.candidates,
        candidate.candidateFingerprint ≠ made.candidateFingerprint := by
  have asked : suggest [] rootOnly 1 = some (.ok (some firstProposal)) := rfl
  have root : SearchRun fourSuggestions listSetting ⟨[⟨"root", "0", none⟩], [], []⟩ := .root none
  have describesRoot : Describes listSetting ⟨[⟨"root", "0", none⟩], [], []⟩ rootOnly :=
    ⟨rfl, rfl, rfl, fun _ => Iff.rfl, rfl⟩
  have freshNode : ∀ candidate ∈ [(⟨"root", "0", none⟩ : SearchCandidate)],
      candidate.nodeId ≠ "n" := by decide
  have isFailed : observationOf { nodeId := "n", candidateFingerprint := "1", status := .failed }
      listSetting.objective = some failedTrial := rfl
  have branched : SearchRun fourSuggestions listSetting
      ⟨[⟨"root", "0", none⟩, firstTrial], [], []⟩ :=
    root.branched (Branched.child describesRoot asked freshNode)
  have ended : SearchRun fourSuggestions listSetting
      ⟨[⟨"root", "0", none⟩, firstTrial], [failedTrial], [("1", failedTrial)]⟩ :=
    branched.quiet (.observed (List.mem_cons_of_mem _ List.mem_cons_self) (by decide)
      (fun _ member => absurd member List.not_mem_nil) rfl rfl isFailed rfl)
  have describes : Describes listSetting
      ⟨[⟨"root", "0", none⟩, firstTrial], [failedTrial], [("1", failedTrial)]⟩ withTrial :=
    ⟨rfl, rfl, rfl, fun _ => Iff.rfl, rfl⟩
  obtain ⟨answer, answered, _, _, proposes⟩ :=
    (search_reproduces_history.1 _ ended).2 withTrial describes
  have isProposal : suggest [("1", failedTrial)] withTrial 1 = some (.ok (some
      (proposal withTrial { content := "2" } 2 3 [⟨0, "0", false, none⟩,
        ⟨1, "1", true, some failedTrial⟩, ⟨2, "1", false, some failedTrial⟩]))) := rfl
  have isAnswer := Option.some.inj (answered.symm.trans isProposal)
  exact ⟨_, _, ended, describes, isProposal, rfl, (proposes _ isAnswer).2.1⟩

end Reproduction

end Xaytune.Search
