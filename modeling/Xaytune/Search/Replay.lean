import Xaytune.Search.Provider

/-!
# The replay of a search

Every turn of a replay is one of six; a turn that goes on is taken again whatever
the record gains. So a search that is replayed over its own record passes through
the states in which it made its proposals, and finds each of them where it was made.
-/

namespace Xaytune.Search

open Xaytune.Core Xaytune.Library

section Turns

variable {S V : Type} {provider : SequentialSearchProvider S V} {observations : Observations}
  {context : SearchContext provider} {replay later : Replay S}

/-! ## Turns -/

theorem requireAllMatched_of_matched {trials known : List String} {when : String}
    {answer : Option CandidateProposal} (matched : ∀ trial ∈ trials, trial ∈ known) :
    requireAllMatched trials known when answer = .ok answer := by
  have none : trials.filter (· ∉ known) = [] := by
    rw [List.filter_eq_nil_iff]
    intro trial member
    simpa using matched trial member
  unfold requireAllMatched
  rw [none]
  rfl

theorem matched_of_requireAllMatched {trials known : List String} {when : String}
    {answer answer' : Option CandidateProposal}
    (ran : requireAllMatched trials known when answer = .ok answer') :
    answer' = answer ∧ ∀ trial ∈ trials, trial ∈ known := by
  unfold requireAllMatched at ran
  split at ran
  · rename_i sorted
    cases ran
    refine ⟨rfl, fun trial member => ?_⟩
    by_contra unmatched
    have listed : trial ∈ trials.filter (· ∉ known) :=
      List.mem_filter.mpr ⟨member, decide_eq_true unmatched⟩
    rw [← List.mem_insertionSort (· ≤ ·), sorted] at listed
    cases listed
  · cases ran

/-- The algorithm suggests values that make a candidate. -/
structure Suggests (context : SearchContext provider) (replay : Replay S) (values : V) (asked : S)
    (candidate : Candidate) : Prop where
  suggested : provider.suggest replay.searcher replay.index = (some values, asked)
  applied : provider.applyParameters context.base values = .ok candidate

/-- The candidate is a trial of this search: the record shows it was proposed here. -/
structure Proposed (context : SearchContext provider) (replay : Replay S) (values : V)
    (identity : String) : Prop where
  new : replay.known.lookup identity = none
  trial : identity ∈ context.trials
  proven : originProblems ((context.find? identity).bind SearchCandidate.branchOrigin)
    context.provenance (recordOf provider replay.index values replay.history) = []

/-- A turn that goes on repeats what is known, or tells what became of a trial. -/
theorem turn_next (goes : turn observations context replay = .next later) :
    ∃ values asked candidate, Suggests context replay values asked candidate ∧
      ((∃ known, replay.known.lookup (provider.candidateFingerprint candidate) = some known ∧
          replay.duplicates + 1 ≤ provider.maxConsecutiveDuplicates ∧
          later = replay.repeated provider asked (provider.candidateFingerprint candidate) known) ∨
        (Proposed context replay values (provider.candidateFingerprint candidate) ∧
          ∃ observation,
            observations.lookup (provider.candidateFingerprint candidate) = some observation ∧
            later = replay.tried provider asked (provider.candidateFingerprint candidate)
              observation)) := by
  unfold turn at goes
  split at goes
  · cases goes
  rename_i values asked suggested
  split at goes
  · cases goes
  rename_i candidate applied
  refine ⟨values, asked, candidate, ⟨suggested, applied⟩, ?_⟩
  simp only at goes
  split at goes
  · rename_i known found
    split at goes
    · cases goes
    · rename_i bounded
      cases goes
      exact .inl ⟨known, found, Nat.not_lt.mp bounded, rfl⟩
  · rename_i new
    split at goes
    · rename_i trial
      split at goes
      · rename_i proven
        split at goes
        · cases goes
        · rename_i observation observed
          cases goes
          exact .inr ⟨⟨new, trial, proven⟩, observation, observed, rfl⟩
      · cases goes
    · cases goes

/-- The ways a replay ends. -/
inductive Ends (observations : Observations) (context : SearchContext provider)
    (replay : Replay S) : Answer → Prop
  | exhausted (when : String)
      (suggested : (provider.suggest replay.searcher replay.index).1 = none) :
      Ends observations context replay (requireAllMatched context.trials replay.keys when none)
  | invalid (problem : String) : Ends observations context replay (.error (.space problem))
  | repeats (when : String) {values : V} {asked : S} {candidate : Candidate}
      {known : Option CandidateObservation}
        (suggests : Suggests context replay values asked candidate)
      (found : replay.known.lookup (provider.candidateFingerprint candidate) = some known)
      (many : provider.maxConsecutiveDuplicates < replay.duplicates + 1) :
      Ends observations context replay (requireAllMatched context.trials replay.keys when none)
  | foreign (message : String) {values : V} {asked : S} {candidate : Candidate}
      (suggests : Suggests context replay values asked candidate)
      (new : replay.known.lookup (provider.candidateFingerprint candidate) = none)
      (trial : provider.candidateFingerprint candidate ∈ context.trials)
      (unproven : ¬ Proposed context replay values (provider.candidateFingerprint candidate)) :
      Ends observations context replay (.error (.history message))
  | waits (when : String) {values : V} {asked : S} {candidate : Candidate}
      (suggests : Suggests context replay values asked candidate)
      (proposed : Proposed context replay values (provider.candidateFingerprint candidate))
      (unobserved : observations.lookup (provider.candidateFingerprint candidate) = none) :
      Ends observations context replay (requireAllMatched context.trials
        (provider.candidateFingerprint candidate :: replay.keys) when none)
  | proposes (when : String) {values : V} {asked : S} {candidate : Candidate}
      (suggests : Suggests context replay values asked candidate)
      (new : replay.known.lookup (provider.candidateFingerprint candidate) = none)
      (unknown : provider.candidateFingerprint candidate ∉ context.trials) :
      Ends observations context replay (requireAllMatched context.trials replay.keys when
        (some (proposal context candidate values replay.index replay.history)))

theorem turn_stop {answer : Answer} (stops : turn observations context replay = .stop answer) :
    Ends observations context replay answer := by
  unfold turn at stops
  split at stops
  · rename_i suggested
    cases stops
    exact .exhausted _ (by rw [suggested])
  rename_i values asked suggested
  split at stops
  · cases stops
    exact .invalid _
  rename_i candidate applied
  have suggests : Suggests context replay values asked candidate := ⟨suggested, applied⟩
  simp only at stops
  split at stops
  · rename_i known found
    split at stops
    · rename_i many
      cases stops
      exact .repeats _ suggests found many
    · cases stops
  · rename_i new
    split at stops
    · rename_i trial
      split at stops
      · rename_i proven
        split at stops
        · rename_i unobserved
          cases stops
          exact .waits _ suggests ⟨new, trial, proven⟩ unobserved
        · cases stops
      · rename_i unproven
        cases stops
        exact .foreign _ suggests new trial fun proposed => unproven proposed.proven
    · rename_i unknown
      cases stops
      exact .proposes _ suggests new unknown

theorem turn_repeats {values : V} {asked : S} {candidate : Candidate}
    {known : Option CandidateObservation}
    (suggests : Suggests context replay values asked candidate)
    (found : replay.known.lookup (provider.candidateFingerprint candidate) = some known)
    (few : replay.duplicates + 1 ≤ provider.maxConsecutiveDuplicates) :
    turn observations context replay =
      .next (replay.repeated provider asked (provider.candidateFingerprint candidate) known) := by
  unfold turn
  simp only [suggests.suggested, suggests.applied, found, gt_iff_lt, if_neg (Nat.not_lt.mpr few)]

theorem turn_tries {values : V} {asked : S} {candidate : Candidate}
    {observation : CandidateObservation} (suggests : Suggests context replay values asked candidate)
    (proposed : Proposed context replay values (provider.candidateFingerprint candidate))
    (observed : observations.lookup (provider.candidateFingerprint candidate) = some observation) :
    turn observations context replay =
      .next (replay.tried provider asked
        (provider.candidateFingerprint candidate) observation) := by
  unfold turn
  simp only [suggests.suggested, suggests.applied, proposed.new, if_pos proposed.trial,
    proposed.proven, observed]

theorem turn_waits {values : V} {asked : S} {candidate : Candidate}
    (suggests : Suggests context replay values asked candidate)
    (proposed : Proposed context replay values (provider.candidateFingerprint candidate))
    (unobserved : observations.lookup (provider.candidateFingerprint candidate) = none) :
    turn observations context replay = .stop (requireAllMatched context.trials
      (provider.candidateFingerprint candidate :: replay.keys) "it waits" none) := by
  unfold turn
  simp only [suggests.suggested, suggests.applied, proposed.new, if_pos proposed.trial,
    proposed.proven, unobserved]

theorem turn_proposes {values : V} {asked : S} {candidate : Candidate}
    (suggests : Suggests context replay values asked candidate)
    (new : replay.known.lookup (provider.candidateFingerprint candidate) = none)
    (unknown : provider.candidateFingerprint candidate ∉ context.trials) :
    turn observations context replay = .stop (requireAllMatched context.trials replay.keys
      "it proposes a new candidate"
      (some (proposal context candidate values replay.index replay.history))) := by
  unfold turn
  simp only [suggests.suggested, suggests.applied, new, if_neg unknown]

end Turns

/-! ## A replay ends -/

section Termination

variable {S V : Type} {provider : SequentialSearchProvider S V} {observations : Observations}
  {context : SearchContext provider} {replay later : Replay S}

theorem Replay.mem_keys {fingerprint : String} :
    fingerprint ∈ replay.keys ↔ ∃ known, replay.known.lookup fingerprint = some known := by
  unfold Replay.keys
  induction replay.known with
  | nil => simp
  | cons entry rest ih =>
      obtain ⟨key, value⟩ := entry
      by_cases here : fingerprint = key
      · simp [here]
      · have other : (fingerprint == key) = false := by simpa using here
        simp only [List.map_cons, List.mem_cons, here, false_or, ih, List.lookup_cons, other]

/-- The trials the replay has not matched yet. -/
def unmatched (context : SearchContext provider) (replay : Replay S) : List String :=
  context.trials.filter (· ∉ replay.keys)

/-- What is left of a replay: each unmatched trial, and the duplicates before each. -/
def replayMeasure (context : SearchContext provider) (replay : Replay S) : Nat :=
  (unmatched context replay).length * (provider.maxConsecutiveDuplicates + 1) +
    (provider.maxConsecutiveDuplicates - replay.duplicates)

theorem Replay.keys_tried {asked : S} {identity : String} {observation : CandidateObservation} :
    (replay.tried provider asked identity observation).keys = replay.keys ++ [identity] := by
  simp [Replay.keys, Replay.tried]

theorem unmatched_tried_lt {asked : S} {identity : String} {observation : CandidateObservation}
    (new : replay.known.lookup identity = none) (trial : identity ∈ context.trials) :
    (unmatched context (replay.tried provider asked identity observation)).length <
      (unmatched context replay).length := by
  have narrowed : unmatched context (replay.tried provider asked identity observation) =
      (unmatched context replay).filter (· ≠ identity) := by
    unfold unmatched
    rw [Replay.keys_tried, List.filter_filter]
    refine List.filter_congr fun trial _ => ?_
    simp [and_comm]
  rw [narrowed, List.length_filter_lt_length_iff_exists]
  refine ⟨identity, List.mem_filter.mpr ⟨trial, decide_eq_true fun known => ?_⟩, by simp⟩
  obtain ⟨_, found⟩ := Replay.mem_keys.mp known
  rw [new] at found
  cases found

theorem replayMeasure_lt (bounded : replay.duplicates ≤ provider.maxConsecutiveDuplicates)
    (goes : turn observations context replay = .next later) :
    later.duplicates ≤ provider.maxConsecutiveDuplicates ∧
      replayMeasure context later < replayMeasure context replay := by
  obtain ⟨values, asked, candidate, _, repeats | tries⟩ := turn_next goes
  · obtain ⟨known, _, few, rfl⟩ := repeats
    refine ⟨few, ?_⟩
    have same : unmatched context (replay.repeated provider asked
        (provider.candidateFingerprint candidate) known) = unmatched context replay := rfl
    unfold replayMeasure
    rw [same]
    simp only [Replay.repeated]
    omega
  · obtain ⟨proposed, observation, _, rfl⟩ := tries
    refine ⟨Nat.zero_le _, ?_⟩
    have fewer : (unmatched context (replay.tried provider asked
        (provider.candidateFingerprint candidate) observation)).length <
        (unmatched context replay).length :=
      unmatched_tried_lt proposed.new proposed.trial
    unfold replayMeasure
    have product := Nat.mul_le_mul_right (provider.maxConsecutiveDuplicates + 1) fewer
    rw [Nat.succ_mul] at product
    simp only [Replay.tried]
    simp only [Replay.tried] at product
    omega

/-- Asking terminates, whatever the algorithm suggests and whatever is on record. -/
theorem suggest_terminates (observations : Observations) (context : SearchContext provider)
    (count : Nat) : ∃ answer, suggest observations context count = some answer := by
  unfold suggest suggestWithin
  split
  · exact ⟨_, rfl⟩
  · split
    · refine Option.isSome_iff_exists.mp (Loop.run_isSome (replayMeasure context)
        (I := fun replay => replay.duplicates ≤ provider.maxConsecutiveDuplicates)
        (Nat.zero_le _) (fun _ _ bounded goes => replayMeasure_lt bounded goes) ?_)
      have fewer : (unmatched context (firstReplay context)).length ≤ context.trials.length :=
        List.length_filter_le _ _
      have product := Nat.mul_le_mul_right (provider.maxConsecutiveDuplicates + 1) fewer
      unfold replayMeasure replayBound
      simp only [firstReplay] at product ⊢
      omega
    · exact ⟨_, rfl⟩

/-- An answer is what some replay that was reached ends with, or the observations are not of the
context's trials. -/
theorem suggest_ends {answer : Answer} (answered : suggest observations context 1 = some answer) :
    (∃ message, answer = .error (.history message) ∧
      observationProblems context observations ≠ []) ∨
      ∃ replay, Loop.Visits (turn observations context) (firstReplay context) replay ∧
        turn observations context replay = .stop answer := by
  unfold suggest suggestWithin at answered
  rw [if_neg (by simp)] at answered
  split at answered
  · exact .inr (Loop.stops_of_run answered)
  · rename_i problems
    cases answered
    exact .inl ⟨_, rfl, problems⟩

end Termination

end Xaytune.Search
