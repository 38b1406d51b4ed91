import Xaytune.Search.Space

/-!
# Deciding what becomes of an evaluated candidate

A decision is made from one cycle's results and the objective, and from nothing else. The
engine compares the metrics the objective names with its thresholds; what it was given is
hashed into the proposal.
-/

namespace Xaytune.Decision

open Xaytune.Core Search

/-- What the code relies on of Python's floats. -/
structure FloatOperations (F : Type) where
  finite : F → Bool
  lt : F → F → Bool
  le : F → F → Bool
  eq : F → F → Bool
  repr : F → String

variable {F : Type}

def FloatOperations.arithmetic (floats : FloatOperations F) : FloatArithmetic F where
  finite := floats.finite
  le := floats.le
  repr value := text (floats.repr value)

/-! ## The objective -/

inductive ConstraintOperator where
  | lt | le | gt | ge | eq | ne
  deriving DecidableEq

def ConstraintOperator.symbol : ConstraintOperator → String
  | .lt => "<"
  | .le => "<="
  | .gt => ">"
  | .ge => ">="
  | .eq => "=="
  | .ne => "!="

/-- `_COMPARE`. -/
def compare (floats : FloatOperations F) : ConstraintOperator → F → F → Bool
  | .lt, value, threshold => floats.lt value threshold
  | .le, value, threshold => floats.le value threshold
  | .gt, value, threshold => floats.lt threshold value
  | .ge, value, threshold => floats.le threshold value
  | .eq, value, threshold => floats.eq value threshold
  | .ne, value, threshold => !floats.eq value threshold

inductive Direction where
  | maximize | minimize
  deriving DecidableEq

def Direction.word : Direction → String
  | .maximize => "maximize"
  | .minimize => "minimize"

structure ObjectiveMetric where
  name : String
  direction : Direction

structure MetricConstraint (F : Type) where
  name : String
  operator : ConstraintOperator
  value : F

/-- The thresholds may be any float, also an infinite one. -/
structure Objective (F : Type) where
  primary : ObjectiveMetric
  target : Option F
  constraints : List (MetricConstraint F)

/-! ## What was measured -/

/-- A float a record accepts as a measurement. -/
abbrev Finite (floats : FloatOperations F) : Type := {value : F // floats.finite value = true}

variable {floats : FloatOperations F} {D R : Type}

/-- `D` is what describes and does not decide: the dataset and the free-form metadata. -/
structure MetricResult (floats : FloatOperations F) (D : Type) where
  name : String
  value : Finite floats
  sampleCount : Option Nat
  slice : Option String
  evaluatorName : String
  evaluatorVersion : Option String
  seed : Option Int
  confidenceInterval : Option (Finite floats × Finite floats)
  standardError : Option (Finite floats)
  rest : D

structure Subject where
  id : String
  digest : Option String

/-- `R` is what describes the result: its node, its artifacts and its time. -/
structure EvaluationResult (floats : FloatOperations F) (D R : Type) where
  id : String
  evaluationRunId : String
  subject : Subject
  evaluationFingerprint : String
  metrics : List (MetricResult floats D)
  rest : R

structure DecisionContext (floats : FloatOperations F) (D R : Type) where
  experimentId : String
  nodeId : String
  evaluationCycle : Nat
  objective : Objective F
  results : List (EvaluationResult floats D R)

/-! ## The identity of what is decided on -/

/-- What the code relies on of the standard library, beside floats. -/
structure Printing (F : Type) where
  /-- `json.dumps` with sorted keys. -/
  dumps : Value F → Text
  sha256 : Text → String
  /-- `repr` of a text. -/
  quote : String → String

variable (printing : Printing F)

def ofText (letters : String) : Value F := .str (text letters)

def optional {α : Type} (value : α → Value F) : Option α → Value F
  | none => .null
  | some given => value given

def record (entries : List (String × Value F)) : Value F :=
  .map (entries.map fun entry => (text entry.1, entry.2))

def metricIdentity (metric : MetricResult floats D) : Value F :=
  record
    [("name", ofText metric.name),
      ("value", .float metric.value.val),
      ("slice", optional ofText metric.slice),
      ("evaluator_name", ofText metric.evaluatorName),
      ("evaluator_version", optional ofText metric.evaluatorVersion),
      ("seed", optional .int metric.seed),
      ("sample_count", optional (fun count => .int (Int.ofNat count)) metric.sampleCount),
      ("confidence_interval",
        optional (fun bounds => .seq [.float bounds.1.val, .float bounds.2.val])
          metric.confidenceInterval),
      ("standard_error", optional (fun error => .float error.val) metric.standardError)]

/-- `sorted(..., key=_canonical)`. -/
def sortedByDump (values : List (Value F)) : List (Value F) :=
  values.insertionSort fun first second => printing.dumps first ≤ printing.dumps second

def resultIdentity (result : EvaluationResult floats D R) : Value F :=
  record
    [("id", ofText result.id),
      ("evaluation_run_id", ofText result.evaluationRunId),
      ("evaluation_fingerprint", ofText result.evaluationFingerprint),
      ("subject", record
        [("id", ofText result.subject.id), ("digest", optional ofText result.subject.digest)]),
      ("metrics", .seq (sortedByDump printing (result.metrics.map metricIdentity)))]

def constraintIdentity (constraint : MetricConstraint F) : Value F :=
  record
    [("name", ofText constraint.name),
      ("operator", ofText constraint.operator.symbol),
      ("value", .float constraint.value)]

def objectiveIdentity (objective : Objective F) : Value F :=
  record
    [("primary", record
        [("name", ofText objective.primary.name),
          ("direction", ofText objective.primary.direction.word)]),
      ("target", optional .float objective.target),
      ("constraints",
        .seq (sortedByDump printing (objective.constraints.map constraintIdentity)))]

def sortedById (results : List (EvaluationResult floats D R)) :
    List (EvaluationResult floats D R) :=
  results.insertionSort fun first second => first.id ≤ second.id

def decisionInputIdentityV1 (context : DecisionContext floats D R) : Value F :=
  record
    [("kind", ofText "decision-input"),
      ("identity_version", .int 1),
      ("experiment_id", ofText context.experimentId),
      ("node_id", ofText context.nodeId),
      ("evaluation_cycle", .int context.evaluationCycle),
      ("objective", objectiveIdentity printing context.objective),
      ("results", .seq ((sortedById context.results).map (resultIdentity printing)))]

/-- `input_fingerprint`; a value that cannot be encoded has none. -/
def inputFingerprint (context : DecisionContext floats D R) : Option String :=
  (canonicalEncode floats.arithmetic (decisionInputIdentityV1 printing context)).map
    fun encoded => "sha256:" ++ printing.sha256 encoded

/-! ## Proposals -/

inductive DecisionOutcome where
  | stopSucceeded | stopFailed | branch | reject

inductive Role where
  | objective | constraint

def Role.word : Role → String
  | .objective => "objective"
  | .constraint => "constraint"

structure MetricEvidence (floats : FloatOperations F) where
  metric : String
  role : Role
  value : Finite floats
  operator : ConstraintOperator
  threshold : Finite floats
  satisfied : Bool
  evaluationResultId : String
  evaluatorName : String
  evaluatorVersion : Option String

/-- It rests on some evidence, from some result. -/
@[ext]
structure DecisionProposal (floats : FloatOperations F) where
  experimentId : String
  nodeId : String
  evaluationCycle : Nat
  outcome : DecisionOutcome
  reason : String
  evidence : List (MetricEvidence floats)
  engineName : String
  engineVersion : String
  evaluationResultIds : List String
  inputFingerprint : String
  evidenced : evidence ≠ []
  attributed : evaluationResultIds ≠ []

inductive DecideError where
  /-- `UndecidableError`. -/
  | undecidable (engine : String) (reasons : List String)
  /-- The evidence about the metric names a threshold that is not finite. -/
  | invalidThreshold (metric : String)
  /-- The inputs have no canonical encoding. -/
  | noFingerprint
  /-- A lookup in the metrics found, for a name that is not among them. -/
  | keyError (metric : String)
  /-- A proposal without evidence or without results. -/
  | invalidProposal

/-! ## The engine -/

/-- The class attributes in which the two engines differ. -/
structure Engine where
  name : String
  version : String
  targetMissed : DecisionOutcome
  targetMissedNote : String

def thresholdEngine : Engine where
  name := "threshold"
  version := "1.0.0"
  targetMissed := .stopFailed
  targetMissedNote := ""

def adaptiveThresholdEngine : Engine where
  name := "adaptive-threshold"
  version := "1.0.0"
  targetMissed := .branch
  targetMissedNote := "; the candidate is finished and another may be explored"

abbrev Measurement (floats : FloatOperations F) (D R : Type) : Type :=
  EvaluationResult floats D R × MetricResult floats D

/-- `_measurements`: only what was not measured on a slice. -/
def measurements (results : List (EvaluationResult floats D R)) (name : String) :
    List (Measurement floats D R) :=
  results.flatMap fun result =>
    (result.metrics.filter fun metric => metric.name = name ∧ metric.slice = none).map
      fun metric => (result, metric)

/-- `_evidence`, and what its record refuses. -/
def evidenceOf (role : Role) (name : String) (operator : ConstraintOperator) (threshold : F)
    (measured : Measurement floats D R) : Except DecideError (MetricEvidence floats) :=
  if finite : floats.finite threshold = true then
    .ok
      { metric := name
        role := role
        value := measured.2.value
        operator := operator
        threshold := ⟨threshold, finite⟩
        satisfied := compare floats operator measured.2.value.val threshold
        evaluationResultId := measured.1.id
        evaluatorName := measured.2.evaluatorName
        evaluatorVersion := measured.2.evaluatorVersion }
  else .error (.invalidThreshold name)

/-- `_describe`. -/
def describe (evidence : MetricEvidence floats) : String :=
  evidence.metric ++ " " ++ floats.repr evidence.value.val ++ " is " ++
    (if evidence.satisfied then "" else "not ") ++ evidence.operator.symbol ++ " " ++
    floats.repr evidence.threshold.val

def describeAll (evidence : List (MetricEvidence floats)) : String :=
  String.intercalate "; " (evidence.map describe)

/-- The only measurement of a metric, or why there is none to decide on. -/
def locate (context : DecisionContext floats D R) (name : String) :
    Except String (Measurement floats D R) :=
  match measurements context.results name with
  | [] =>
      let role : Role := if name = context.objective.primary.name then .objective else .constraint
      .error ("the " ++ role.word ++ " metric " ++ printing.quote name ++
        " is not among this cycle's results; a missing value is not read as passing")
  | [located] => .ok located
  | located =>
      .error ("the metric " ++ printing.quote name ++ " is reported " ++
        toString located.length ++ " times this cycle; which one decides is not defined")

/-- The loop over the metrics wanted: `found` and `reasons` behind it. -/
def locateEach (context : DecisionContext floats D R) :
    List String → List (String × Measurement floats D R) × List String
  | [] => ([], [])
  | name :: names =>
      let (found, reasons) := locateEach context names
      match locate printing context name with
      | .ok located => ((name, located) :: found, reasons)
      | .error reason => (found, reason :: reasons)

def wanted (objective : Objective F) : List String :=
  (objective.primary.name :: objective.constraints.map MetricConstraint.name).eraseDups

/-- `_evidence(..., *found[name])`. -/
def evidenceFound (found : List (String × Measurement floats D R)) (role : Role) (name : String)
    (operator : ConstraintOperator) (threshold : F) :
    Except DecideError (MetricEvidence floats) :=
  match found.lookup name with
  | some measured => evidenceOf role name operator threshold measured
  | none => .error (.keyError name)

def targetOperator : Direction → ConstraintOperator
  | .maximize => .ge
  | .minimize => .le

/-- The evidence about the target, where there is one. -/
def compareTarget (found : List (String × Measurement floats D R)) (objective : Objective F) :
    Except DecideError (Option (MetricEvidence floats)) :=
  match objective.target with
  | none => pure none
  | some threshold => do
      let target ← evidenceFound found .objective objective.primary.name
        (targetOperator objective.primary.direction) threshold
      pure (some target)

def compareFound (found : List (String × Measurement floats D R)) (objective : Objective F) :
    Except DecideError (Option (MetricEvidence floats) × List (MetricEvidence floats)) := do
  let constraints ← objective.constraints.mapM fun constraint =>
    evidenceFound found .constraint constraint.name constraint.operator constraint.value
  let target ← compareTarget found objective
  pure (target, constraints)

/-- The comparisons a decision rests on, unless a metric is missing or measured twice. -/
def gather (engine : Engine) (context : DecisionContext floats D R) :
    Except DecideError (Option (MetricEvidence floats) × List (MetricEvidence floats)) :=
  match locateEach printing context (wanted context.objective) with
  | (_, reason :: reasons) => .error (.undecidable engine.name (reason :: reasons))
  | (found, []) => compareFound found context.objective

def violated (constraints : List (MetricEvidence floats)) : List (MetricEvidence floats) :=
  constraints.filter fun evidence => !evidence.satisfied

/-- The outcome and its reason, in the order of the engine's branches. -/
def conclude (engine : Engine) (primary : ObjectiveMetric)
    (target : Option (MetricEvidence floats)) (constraints : List (MetricEvidence floats)) :
    Except DecideError (DecisionOutcome × String) :=
  let held :=
    if constraints ≠ [] ∧ violated constraints = [] then
      "; constraints held: " ++ describeAll constraints
    else ""
  if violated constraints ≠ [] then
    .ok (.reject, "constraint violated: " ++ describeAll (violated constraints) ++ held)
  else
    match target with
    | none =>
        .error (.undecidable engine.name
          ["the objective " ++ primary.direction.word ++ "s " ++ printing.quote primary.name ++
            " with no target; with one candidate there is nothing to compare it against, so " ++
            "neither success nor failure follows"])
    | some target =>
        if target.satisfied then .ok (.stopSucceeded, "target met: " ++ describe target ++ held)
        else
          .ok (engine.targetMissed,
            "target not met: " ++ describe target ++ engine.targetMissedNote ++ held)

def evaluationResultIds (context : DecisionContext floats D R) : List String :=
  (context.results.map EvaluationResult.id).insertionSort (· ≤ ·)

def decide (engine : Engine) (context : DecisionContext floats D R) :
    Except DecideError (DecisionProposal floats) := do
  let (target, constraints) ← gather printing engine context
  let (outcome, reason) ← conclude printing engine context.objective.primary target constraints
  match inputFingerprint printing context with
  | none => .error .noFingerprint
  | some fingerprint =>
      if valid : target.toList ++ constraints ≠ [] ∧ evaluationResultIds context ≠ [] then
        pure
          { experimentId := context.experimentId
            nodeId := context.nodeId
            evaluationCycle := context.evaluationCycle
            outcome := outcome
            reason := reason
            evidence := target.toList ++ constraints
            engineName := engine.name
            engineVersion := engine.version
            evaluationResultIds := evaluationResultIds context
            inputFingerprint := fingerprint
            evidenced := valid.1
            attributed := valid.2 }
      else .error .invalidProposal

end Xaytune.Decision
