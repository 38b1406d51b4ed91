import Mathlib.Data.List.Sort
import Xaytune.Core.Aggregates

/-!
# Training interventions and their replay

A training intervention is the decision an authorized action produced; an
application is one confirmed effect of it, ordered by its event's sequence; a
directive is the durable intent, recorded with a successor attempt, to apply one
intervention there. `planInterventionDirectives` decides which interventions a
successor that restores a checkpoint has to apply.
-/

namespace Xaytune.Core

inductive InterventionOrigin where
  | scheduled | reactiveAgent | reactiveHuman | reactivePolicy
  deriving DecidableEq

inductive InterventionReplayPolicy where
  | reapplyAfterRollback | applyOnce | rearmTrigger
  deriving DecidableEq

/-- Why an intervention exists; only an incident's fields are read by the repository. -/
inductive InterventionTrigger where
  | incident (category : String) (incidentId : Option String)
  | other (document : Document)
  deriving DecidableEq

/-- The only mutation of this version: a positive, finite base learning rate. -/
structure LearningRateMutation where
  learningRate : ℚ
  positive : 0 < learningRate
  deriving DecidableEq

structure TrainingIntervention where
  id : String
  runId : String
  actionId : String
  origin : InterventionOrigin
  trigger : InterventionTrigger
  replayPolicy : InterventionReplayPolicy
  mutation : LearningRateMutation
  content : Document := ""
  deriving DecidableEq

structure InterventionApplication where
  id : String
  interventionId : String
  attemptId : String
  eventSequence : Nat
  position : Document
  triggerEvaluation : Option Document := none
  previousValue : ℚ
  appliedValue : ℚ
  checkpointAncestor : Option CheckpointRef := none
  deriving DecidableEq

inductive InterventionDirectiveKind where
  | initial | reapplyAfterRollback
  deriving DecidableEq

structure InterventionDirective where
  applicationId : String
  interventionId : String
  attemptId : String
  ordinal : Nat
  kind : InterventionDirectiveKind
  mutation : LearningRateMutation
  expectedPreviousValue : ℚ
  deriving DecidableEq

/-- `sorted(items, key=key)`: stable, ascending. -/
def sortedBy {α : Type} (key : α → Nat) (items : List α) : List α :=
  items.insertionSort fun first second => key first ≤ key second

@[simp] theorem mem_sortedBy {α : Type} {key : α → Nat} {items : List α} {item : α} :
    item ∈ sortedBy key items ↔ item ∈ items :=
  List.mem_insertionSort _

/-- `Field(gt=0, allow_inf_nan=False)`. -/
def FloatValue.positive? : FloatValue → Option ℚ
  | .finite value => if 0 < value then some value else none
  | .nonfinite => none

/-! ## The replay plan of a successor -/

structure PlannedDirective where
  interventionId : String
  kind : InterventionDirectiveKind
  mutation : LearningRateMutation
  expectedPreviousValue : ℚ

/-- The restored base learning rate, then each directive in application order. -/
structure ReplayPlan where
  restoredLearningRate : ℚ
  directives : List PlannedDirective

/-- Each intervention that took effect, with the sequence of its first effect. -/
def firstEffect (applications : List InterventionApplication) : List (String × Nat) :=
  applications.foldl
    (fun found application =>
      if found.any (fun entry => entry.1 = application.interventionId) then
        found.map fun entry =>
          if entry.1 = application.interventionId then
            (entry.1, min entry.2 application.eventSequence)
          else entry
      else found ++ [(application.interventionId, application.eventSequence)])
    []

/-- The mutation of the last intervention recorded under an id. -/
def decisionOf (interventions : List TrainingIntervention) (interventionId : String) :
    Option TrainingIntervention :=
  interventions.reverse.find? fun intervention => intervention.id = interventionId

/--
Compose the embodied applications from the rate in force before them: each one's
previous value is the rate the one before left, at most one per intervention.
-/
def composeRetained (interventions : List TrainingIntervention) :
    List InterventionApplication → FloatValue → List String → Option (FloatValue × List String)
  | [], current, surviving => some (current, surviving)
  | application :: rest, current, surviving =>
      match decisionOf interventions application.interventionId with
      | none => none
      | some decision =>
          if application.interventionId ∈ surviving ∨
              FloatValue.finite application.previousValue ≠ current ∨
              application.appliedValue ≠ decision.mutation.learningRate then none
          else
            composeRetained interventions rest (.finite application.appliedValue)
              (application.interventionId :: surviving)

/-- Re-apply, in first-effect order, what the restore dropped and the policy keeps. -/
def planReapplications (interventions : List TrainingIntervention) (surviving : List String) :
    List String → FloatValue → Except String (List PlannedDirective × FloatValue)
  | [], current => .ok ([], current)
  | interventionId :: rest, current =>
      if interventionId ∈ surviving then planReapplications interventions surviving rest current
      else
        match decisionOf interventions interventionId with
        | none => .error "KeyError"
        | some intervention =>
            match intervention.replayPolicy with
            | .applyOnce => planReapplications interventions surviving rest current
            | .rearmTrigger =>
                .error "would need its trigger re-armed, which this release does not support"
            | .reapplyAfterRollback =>
                match current.positive? with
                | none => .error "expected_previous_value"
                | some previous =>
                    (planReapplications interventions surviving rest
                        (.finite intervention.mutation.learningRate)).map fun planned =>
                      (⟨interventionId, .reapplyAfterRollback, intervention.mutation, previous⟩ ::
                        planned.1, planned.2)

/-- The successor's own first effect, after every re-application. -/
def planInitial (effects : List (String × Nat)) (current : FloatValue) :
    Option TrainingIntervention → Except String (List PlannedDirective)
  | none => .ok []
  | some intervention =>
      if effects.any fun entry => entry.1 = intervention.id then
        .error "intervention has already taken effect"
      else
        match current.positive? with
        | none => .error "expected_previous_value"
        | some previous => .ok [⟨intervention.id, .initial, intervention.mutation, previous⟩]

/-- The embodied application ids of the restore, or why its lineage cannot be established. -/
def restoredEmbodiment (applications : List InterventionApplication) (effects : List (String × Nat))
    (initial : Option TrainingIntervention) : Option (List String) → Except String (List String)
  | none =>
      if effects ≠ [] ∨ initial.isSome then
        .error "the restore checkpoint does not record which applications it embodies"
      else .ok []
  | some embodied =>
      if embodied.Nodup ∧ ∀ item ∈ embodied, item ∈ applications.map InterventionApplication.id then
        .ok embodied
      else .error "the restore checkpoint names applications this run never recorded"

/-- Plan the directives for one successor attempt. -/
def planInterventionDirectives (declaredLearningRate : FloatValue)
    (interventions : List TrainingIntervention) (applications : List InterventionApplication)
    (restored : Bool) (embodiedApplicationIds : Option (List String))
    (initial : Option TrainingIntervention) : Except String ReplayPlan := do
  let effects := firstEffect applications
  if effects.any fun entry => !(interventions.map TrainingIntervention.id).contains entry.1 then
    .error "an application names an intervention not on this run"
  else if !restored then
    if effects ≠ [] ∨ initial.isSome then
      .error "a successor that restores no checkpoint cannot carry or re-apply interventions"
    else
      match declaredLearningRate.positive? with
      | none => .error "restored_learning_rate"
      | some declared => .ok ⟨declared, []⟩
  else
    let embodied ← restoredEmbodiment applications effects initial embodiedApplicationIds
    let retained := sortedBy InterventionApplication.eventSequence
      (applications.filter fun application => embodied.contains application.id)
    match composeRetained interventions retained declaredLearningRate [] with
    | none =>
        .error ("the restore checkpoint's applications do not compose into a trajectory " ++
          "from the declared learning rate")
    | some (restoredRate, surviving) =>
        let (reapplied, current) ← planReapplications interventions surviving
          ((sortedBy Prod.snd effects).map Prod.fst) restoredRate
        let first ← planInitial effects current initial
        match restoredRate.positive? with
        | none => .error "restored_learning_rate"
        | some rate => .ok ⟨rate, reapplied ++ first⟩

end Xaytune.Core
