import Mathlib.Data.Finset.Sort
import Mathlib.Data.List.Sort
import Mathlib.Data.String.Basic
import Xaytune.Core.Harness

/-!
# Task assignments

Which tasks of a pinned suite one run performs is decided by the suite, the sampling policy and
the seed. A recorded assignment is a claim until it is verified against them; two assignments
match when they share the cohort, the seed and the tasks.
-/

namespace Xaytune.Comparison

open Xaytune.Core.Harness

structure BenchmarkSuiteRef where
  suiteId : String
  revision : String
  suiteFingerprint : String

inductive TaskSampling where
  | allTasks
  | firstTasks (count : Positive)
  | seededSample (count : Positive)

/-- What a request resolved to, and the ids of its tasks in manifest order. -/
structure ResolvedBenchmarkSuite where
  ref : BenchmarkSuiteRef
  members : List String
  listed : members ≠ []
  once : members.Nodup

structure CohortIdentity where
  suiteFingerprint : String
  sampling : TaskSampling

/-- The canonical encoder's digest and the hash of a text are parameters. -/
structure BenchmarkHashing where
  cohort : CohortIdentity → String
  sha256 : String → String

structure TaskAssignment where
  cohort : String
  seed : Int
  taskIds : List String
  listed : taskIds ≠ []
  once : taskIds.Nodup

def assignTasks (hashing : BenchmarkHashing) (suite : ResolvedBenchmarkSuite)
    (sampling : TaskSampling) (seed : Int) : Except String (List String) :=
  let ids := suite.members
  let tooMany (count : Positive) := "the sampling policy asks for " ++ toString count.val ++
    " tasks; the suite has " ++ toString ids.length
  match sampling with
  | .allTasks => .ok ids
  | .firstTasks count =>
      if ids.length < count.val then .error (tooMany count) else .ok (ids.take count.val)
  | .seededSample count =>
      if ids.length < count.val then .error (tooMany count)
      else
        let rank (id : String) := hashing.sha256
          (toString seed ++ "\x00" ++ suite.ref.suiteFingerprint ++ "\x00" ++ id)
        let chosen := (ids.insertionSort fun id id' => rank id ≤ rank id').take count.val
        .ok (ids.filter fun id => id ∈ chosen)

def benchmarkCohort (hashing : BenchmarkHashing) (ref : BenchmarkSuiteRef)
    (sampling : TaskSampling) : String :=
  hashing.cohort ⟨ref.suiteFingerprint, sampling⟩

/-- The reasons of `UnverifiedAssignmentError`; the assignment is verified where there is none. -/
def verifyAssignment (hashing : BenchmarkHashing) (suite : ResolvedBenchmarkSuite)
    (sampling : TaskSampling) (assignment : TaskAssignment) : List String :=
  let ids := assignment.taskIds
  let members := suite.members
  let positions := ids.map fun id => members.idxOf id
  (if assignment.cohort ≠ benchmarkCohort hashing suite.ref sampling then
    ["the cohort is not this suite's and sampling policy's"] else []) ++
  (if ids.toFinset.card ≠ ids.length then
    ["the assignment lists a task more than once"] else []) ++
  (if ¬ ids ⊆ members then ["the assignment names tasks that are not members of the suite"]
    else if positions ≠ positions.insertionSort (· ≤ ·) then
      ["the tasks are not in manifest order"] else []) ++
  match assignTasks hashing suite sampling assignment.seed with
  | .error error => ["the sampling policy does not apply to this suite: " ++ error]
  | .ok expected => if ids ≠ expected then
      ["the tasks are not the ones this suite, policy and seed assign"] else []

def assignmentMismatches (left right : TaskAssignment) : List String :=
  (if left.cohort ≠ right.cohort then
    ["different benchmark cohorts: different suite or sampling policy"] else []) ++
  (if left.seed ≠ right.seed then
    ["different replicate seeds: the runs are not paired"] else []) ++
  if left.taskIds ≠ right.taskIds then ["different task assignments"] else []

/-- Matched: the same cohort, the same replicate seed and the same tasks. -/
theorem assignmentMismatches_eq_nil {left right : TaskAssignment} :
    assignmentMismatches left right = [] ↔ left = right := by
  cases left
  cases right
  unfold assignmentMismatches
  simp only [List.append_eq_nil_iff, ite_eq_right_iff, List.cons_ne_nil, imp_false, ne_eq,
    not_not, TaskAssignment.mk.injEq, and_assoc]

end Xaytune.Comparison
