import Mathlib.Data.List.Basic

/-!
# The result of one harness run

How a run ends, and what it says it did. A result agrees with itself whenever it is built.
-/

namespace Xaytune.Trajectory

abbrev Digest := String

inductive TerminationReason where
  | finalAnswer | noToolCall
  | maxTurns | tokenBudget | toolCallBudget | contextOverflow | modelError | cancelled
  deriving DecidableEq

namespace TerminationReason

def text : TerminationReason → String
  | finalAnswer => "final-answer"
  | noToolCall => "no-tool-call"
  | maxTurns => "max-turns"
  | tokenBudget => "token-budget"
  | toolCallBudget => "tool-call-budget"
  | contextOverflow => "context-overflow"
  | modelError => "model-error"
  | cancelled => "cancelled"

/-- The terminations that are completions. Every other reason is a stop. -/
def completes : TerminationReason → Bool
  | finalAnswer | noToolCall => true
  | _ => false

end TerminationReason

structure CompilerIdentity where
  name : String
  version : String

structure RunnerIdentity where
  name : String
  version : String

/-- What a result says, before it is validated. -/
structure HarnessRunFields where
  requestDigest : Digest
  executionFingerprint : Digest
  harnessFingerprint : Digest
  compiler : CompilerIdentity
  runner : RunnerIdentity
  modelDigest : Digest
  taskId : String
  seed : Int
  replicate : Nat
  termination : TerminationReason
  completed : Bool
  answer : Option String
  error : Option String
  turns : Nat
  toolCalls : Nat
  refusedToolCalls : Nat
  failedToolCalls : Nat
  contextTruncations : Nat
  promptTokens : Nat
  outputTokens : Nat
  totalTokens : Nat
  tokenCounter : String

/-- Every way a result does not agree with itself. -/
def HarnessRunFields.inconsistencies (run : HarnessRunFields) : List String :=
  (if run.completed ≠ run.termination.completes then
    ["completed must be true exactly for a completing termination"] else []) ++
  (if run.answer.isSome ≠ run.completed then
    ["only a completed run has an answer, and a completed run has one"] else []) ++
  (if run.error.isSome ≠ decide (run.termination = .modelError) then
    ["only a model-error run records an error, and it always does"] else []) ++
  (if run.totalTokens ≠ run.promptTokens + run.outputTokens then
    ["total_tokens must be prompt_tokens + output_tokens"] else []) ++
  (if run.toolCalls < run.refusedToolCalls + run.failedToolCalls then
    ["refused and failed tool calls are counted among tool_calls"] else []) ++
  (if run.toolCalls ≠ 0 ∧ run.turns = 0 then
    ["a tool call needs a model turn that asked for it"] else []) ++
  (if run.turns = 0 ∧ (run.promptTokens ≠ 0 ∨ run.outputTokens ≠ 0) then
    ["tokens are counted only for model calls that answered"] else []) ++
  (if run.termination.completes ∧ run.turns = 0 then
    ["a run completes only on a model turn"] else [])

/-- What one run did: no result that contradicts itself can be built. -/
structure HarnessRunResult extends HarnessRunFields where
  consistent : toHarnessRunFields.inconsistencies = []

end Xaytune.Trajectory
