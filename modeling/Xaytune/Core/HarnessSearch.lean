import Xaytune.Core.Harness

/-!
# Patches of a harness

A patch is a list of operations on a pinned base, each writing its own part of the record. The
loop writes into one record and gathers every reason to refuse; the record is validated again and
held against the base it came from.
-/

namespace Xaytune.Core.Harness

variable {J R : Type}

/-! ## Operations -/

inductive OperationName where
  | setContextPolicy
  | setEnabledTools
  | setStoppingLimits
  | setSystemInstructions
  | setTaskTemplate
  | setToolDescription
  deriving DecidableEq

def OperationName.text : OperationName → String
  | .setContextPolicy => "set-context-policy"
  | .setEnabledTools => "set-enabled-tools"
  | .setStoppingLimits => "set-stopping-limits"
  | .setSystemInstructions => "set-system-instructions"
  | .setTaskTemplate => "set-task-template"
  | .setToolDescription => "set-tool-description"

/-- Context fields to set; none of them set is refused. -/
structure SetContextPolicy where
  maxContextTokens : Option Positive
  selection : Option ContextSelection
  overflow : Option Overflow
  maxToolResultTokens : Option Positive
  setsSomething : (maxContextTokens.isSome || selection.isSome || overflow.isSome ||
    maxToolResultTokens.isSome) = true

structure SetStoppingLimits where
  maxTurns : Option Positive
  maxTotalTokens : Option Positive
  maxToolCalls : Option Nat
  setsSomething : (maxTurns.isSome || maxTotalTokens.isSome || maxToolCalls.isSome) = true

inductive HarnessOperation where
  | setSystemInstructions (system : HarnessContent)
  | setTaskTemplate (template : PromptTemplate)
  | setToolDescription (tool : String) (description : HarnessContent)
  | setEnabledTools (enabled : List String) (canonical : Listed enabled)
  | setContextPolicy (policy : SetContextPolicy)
  | setStoppingLimits (limits : SetStoppingLimits)

namespace HarnessOperation

def op : HarnessOperation → OperationName
  | setSystemInstructions _ => .setSystemInstructions
  | setTaskTemplate _ => .setTaskTemplate
  | setToolDescription _ _ => .setToolDescription
  | setEnabledTools _ _ => .setEnabledTools
  | setContextPolicy _ => .setContextPolicy
  | setStoppingLimits _ => .setStoppingLimits

/-- `_target`: the name, and the tool it describes if it describes one. -/
def target : HarnessOperation → OperationName × Option String
  | setToolDescription tool _ => (.setToolDescription, some tool)
  | operation => (operation.op, none)

end HarnessOperation

structure HarnessPatch where
  baseFingerprint : String
  operations : List HarnessOperation
  someOperation : operations ≠ []
  onePerField : (operations.map HarnessOperation.target).Nodup

/-! ## Ceilings -/

structure HarnessCeilings where
  maxContextTokens : Positive
  maxToolResultTokens : Positive
  maxTurns : Positive
  maxTotalTokens : Positive
  maxToolCalls : Nat
  maxOutputTokens : Positive

/-- A value against its ceiling; an unset one cannot stay within it. -/
def ceilingProblem (name : String) (value : Option Nat) (ceiling : Nat) : List String :=
  match value with
  | none => [name ++ " is unset, so it cannot stay within the ceiling " ++ toString ceiling]
  | some value =>
      if ceiling < value then
        [name ++ " " ++ toString value ++ " exceeds the experiment's ceiling " ++ toString ceiling]
      else []

def ceilingProblems (harness : HarnessRecord J R) (ceilings : HarnessCeilings) : List String :=
  ceilingProblem "context.max_context_tokens" (some harness.context.maxContextTokens.val)
      ceilings.maxContextTokens.val ++
    ceilingProblem "context.max_tool_result_tokens"
      (harness.context.maxToolResultTokens.map Subtype.val) ceilings.maxToolResultTokens.val ++
    ceilingProblem "stopping.max_turns" (some harness.stopping.maxTurns.val)
      ceilings.maxTurns.val ++
    ceilingProblem "stopping.max_total_tokens"
      (harness.stopping.maxTotalTokens.map Subtype.val) ceilings.maxTotalTokens.val ++
    ceilingProblem "stopping.max_tool_calls" harness.stopping.maxToolCalls
      ceilings.maxToolCalls ++
    ceilingProblem "model.generation.max_output_tokens"
      (some harness.model.generation.maxOutputTokens.val) ceilings.maxOutputTokens.val

/-! ## Applying a patch -/

/-- What the experiment allows of a patch; each part is optional. -/
structure Surfaces where
  allowed : Option (List OperationName)
  authorizedTools : Option (List String)
  ceilings : Option HarnessCeilings

/-- The record being edited and the reasons so far. -/
structure Editing (J R : Type) where
  record : HarnessRecord J R
  reasons : List String

namespace Editing

def refuse (reason : String) (editing : Editing J R) : Editing J R :=
  { editing with reasons := editing.reasons ++ [reason] }

def write (change : HarnessRecord J R → HarnessRecord J R) (editing : Editing J R) :
    Editing J R :=
  { editing with record := change editing.record }

end Editing

def describe (tool : String) (description : HarnessContent) (tools : HarnessTools J) :
    HarnessTools J :=
  { tools with
    definitions := tools.definitions.map fun definition =>
      if definition.id = tool then { definition with description } else definition }

def SetContextPolicy.write (policy : SetContextPolicy) (context : ContextPolicy) :
    ContextPolicy :=
  { maxContextTokens := policy.maxContextTokens.getD context.maxContextTokens
    selection := policy.selection.getD context.selection
    overflow := policy.overflow.getD context.overflow
    maxToolResultTokens := policy.maxToolResultTokens.or context.maxToolResultTokens }

def SetStoppingLimits.write (limits : SetStoppingLimits) (stopping : StoppingPolicy) :
    StoppingPolicy :=
  { stopping with
    maxTurns := limits.maxTurns.getD stopping.maxTurns
    maxTotalTokens := limits.maxTotalTokens.or stopping.maxTotalTokens
    maxToolCalls := limits.maxToolCalls.or stopping.maxToolCalls }

section Apply

variable (hashing : Hashing (HarnessIdentity J R)) (surfaces : Surfaces)
  (base : AgentHarnessSpec J R)

/-- One operation of the loop. What it may do is decided by the base, not by the record. -/
def operate (operation : HarnessOperation) (editing : Editing J R) : Editing J R :=
  if ∃ allowed ∈ surfaces.allowed, operation.op ∉ allowed then
    editing.refuse (operation.op.text ++ " is outside the allowed surfaces")
  else
    match operation with
    | .setSystemInstructions system =>
        editing.write fun record =>
          { record with instructions := { record.instructions with system } }
    | .setTaskTemplate template =>
        match base.instructions.taskTemplate with
        | none => editing.refuse "the base has no task template to replace"
        | some current =>
            if template.variableNames ≠ current.variableNames then
              editing.refuse "a task template's variables must be the base's"
            else
              editing.write fun record =>
                { record with
                  instructions := { record.instructions with taskTemplate := some template } }
    | .setToolDescription tool description =>
        if tool ∉ base.tools.ids then
          editing.refuse ("tool " ++ tool ++ " is not defined in the base")
        else
          editing.write fun record =>
            { record with tools := describe tool description record.tools }
    | .setEnabledTools enabled _ =>
        let widened := enabled.filter fun tool => tool ∉ base.tools.enabled
        let editing :=
          if widened ≠ [] then
            editing.refuse ("tools not enabled in the base cannot be enabled by a patch " ++
              "(enabling is a grant): " ++ String.intercalate ", " widened)
          else editing
        let outside := enabled.filter fun tool => ∃ tools ∈ surfaces.authorizedTools, tool ∉ tools
        let editing :=
          if outside ≠ [] then
            editing.refuse ("tools outside the authorized set: " ++
              String.intercalate ", " outside)
          else editing
        editing.write fun record => { record with tools := { record.tools with enabled } }
    | .setContextPolicy policy =>
        editing.write fun record => { record with context := policy.write record.context }
    | .setStoppingLimits limits =>
        editing.write fun record => { record with stopping := limits.write record.stopping }

def operateAll : List HarnessOperation → Editing J R → Editing J R
  | [], editing => editing
  | operation :: rest, editing => operateAll rest (operate surfaces base operation editing)

/-- The reasons against a child that is a valid harness. -/
def childReasons (child : AgentHarnessSpec J R) : List String :=
  (match surfaces.ceilings with
    | none => []
    | some ceilings => ceilingProblems child.toHarnessRecord ceilings) ++
  if harnessFingerprint hashing child.toHarnessRecord =
      harnessFingerprint hashing base.toHarnessRecord then
    ["the patch changes nothing the harness identity covers (no-op)"]
  else []

/-- `apply_patch`: the child, or every reason to refuse. -/
def applyPatch (patch : HarnessPatch) : Except (List String) (AgentHarnessSpec J R) :=
  let stale :=
    if patch.baseFingerprint ≠ harnessFingerprint hashing base.toHarnessRecord then
      ["the patch was written against another base (stale base)"]
    else []
  let editing := operateAll surfaces base patch.operations ⟨base.toHarnessRecord, stale⟩
  if editing.reasons = [] then
    match AgentHarnessSpec.validate editing.record with
    | .error invalid => .error ["the result is not a valid harness: " ++ invalid]
    | .ok child =>
        if childReasons hashing surfaces base child = [] then .ok child
        else .error (childReasons hashing surfaces base child)
  else .error editing.reasons

end Apply

end Xaytune.Core.Harness
