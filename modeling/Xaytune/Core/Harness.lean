import Mathlib.Data.List.Sort
import Mathlib.Data.String.Basic

/-!
# Agent harnesses

How a fixed model is operated: what it is told, which tools it sees, what context it keeps and when
it stops. A harness is identified by an explicit projection in which content enters by its digest
and only enabled tools appear.
-/

namespace Xaytune.Core.Harness

variable {J R : Type}

/-- A count that is not nought. -/
abbrev Positive : Type := {count : Nat // 0 < count}

/-! ## The record -/

structure ContentRef where
  uri : String
  digest : String
  mediaType : String

inductive HarnessContent where
  | inline (text : String)
  | ref (reference : ContentRef)

/-- Numbers of a provider are `R`, its parameters and other frozen mappings `J`. -/
structure GenerationSettings (J R : Type) where
  temperature : R
  topP : R
  maxOutputTokens : Positive
  stopSequences : List String
  providerParameters : J

structure HarnessModelBinding (J R : Type) where
  provider : String
  model : String
  revision : Option String
  artifactDigest : Option String
  generation : GenerationSettings J R

inductive TemplateSyntax where
  | literal
  | pythonFormat
  | jinja2

/-- Texts listed once each, sorted. -/
def Listed (texts : List String) : Prop := texts.Pairwise (· < ·)

instance listed_decidable (texts : List String) : Decidable (Listed texts) :=
  inferInstanceAs (Decidable (texts.Pairwise (· < ·)))

structure PromptTemplate where
  language : TemplateSyntax
  content : HarnessContent
  variableNames : List String
  declared : Listed variableNames
  literalHasNone : language = .literal → variableNames = []

@[ext] structure HarnessInstructions where
  system : HarnessContent
  taskTemplate : Option PromptTemplate

@[ext] structure ToolDefinition (J : Type) where
  id : String
  version : String
  description : HarnessContent
  inputSchema : J
  contract : Option ContentRef

@[ext] structure HarnessTools (J : Type) where
  definitions : List (ToolDefinition J)
  enabled : List String

inductive ContextSelection where
  | fullHistory
  | recentTurns (turns : Positive)

inductive Overflow where
  | fail
  | truncateOldest

@[ext] structure ContextPolicy where
  maxContextTokens : Positive
  selection : ContextSelection
  overflow : Overflow
  maxToolResultTokens : Option Positive

inductive Termination where
  | finalAnswer
  | noToolCall

@[ext] structure StoppingPolicy where
  maxTurns : Positive
  maxTotalTokens : Option Positive
  maxToolCalls : Option Nat
  terminateOn : List Termination

/-- A harness before its sections are held against one another. -/
@[ext] structure HarnessRecord (J R : Type) where
  model : HarnessModelBinding J R
  instructions : HarnessInstructions
  tools : HarnessTools J
  context : ContextPolicy
  stopping : StoppingPolicy
  metadata : J

/-! ## Validation -/

def HarnessTools.ids (tools : HarnessTools J) : List String :=
  tools.definitions.map ToolDefinition.id

/-- `_consistent` of the tools, with what it refuses. -/
def HarnessTools.inconsistency (tools : HarnessTools J) : Option String :=
  if ¬ Listed tools.ids then some "tool definitions are listed by id, once each, sorted"
  else if ¬ Listed tools.enabled then some "enabled tools are listed once each, sorted"
  else
    let undefined := tools.enabled.filter fun tool => tool ∉ tools.ids
    if undefined ≠ [] then
      some ("enabled tools have no definition: " ++ String.intercalate ", " undefined)
    else none

structure AgentHarnessSpec (J R : Type) extends HarnessRecord J R where
  consistent : tools.inconsistency = none

/-- `model_validate` of a record whose sections are themselves valid. -/
def AgentHarnessSpec.validate (record : HarnessRecord J R) :
    Except String (AgentHarnessSpec J R) :=
  match found : record.tools.inconsistency with
  | some problem => .error ("tools: Value error, " ++ problem)
  | none => .ok { record with consistent := found }

theorem listed_ids (harness : AgentHarnessSpec J R) : Listed harness.tools.ids := by
  have consistent := harness.consistent
  unfold HarnessTools.inconsistency at consistent
  by_contra unlisted
  rw [if_pos unlisted] at consistent
  cases consistent

theorem nodup_ids (harness : AgentHarnessSpec J R) : harness.tools.ids.Nodup :=
  (listed_ids harness).imp fun less => ne_of_lt less

theorem validate_ok {record : HarnessRecord J R} {harness : AgentHarnessSpec J R}
    (valid : AgentHarnessSpec.validate record = .ok harness) :
    harness.toHarnessRecord = record := by
  unfold AgentHarnessSpec.validate at valid
  split at valid
  · cases valid
  · cases valid
    rfl

/-! ## Identity -/

/-- The digest of a text's bytes, and of an identity. -/
structure Hashing (I : Type) where
  sha256 : String → String
  fingerprint : I → String

section Identity

variable (sha256 : String → String)

def contentDigest : HarnessContent → String
  | .inline text => "sha256:" ++ sha256 text
  | .ref reference => reference.digest

structure TemplateIdentity where
  language : TemplateSyntax
  content : String
  variableNames : List String

structure ToolIdentity (J : Type) where
  id : String
  version : String
  description : String
  inputSchema : J
  contract : Option String

/-- What `harness_identity_v1` covers. -/
structure HarnessIdentity (J R : Type) where
  model : HarnessModelBinding J R
  system : String
  taskTemplate : Option TemplateIdentity
  enabled : List (ToolIdentity J)
  context : ContextPolicy
  stopping : StoppingPolicy

def toolIdentity (tool : ToolDefinition J) : ToolIdentity J :=
  { id := tool.id
    version := tool.version
    description := contentDigest sha256 tool.description
    inputSchema := tool.inputSchema
    contract := tool.contract.map ContentRef.digest }

def toolsIdentity (tools : HarnessTools J) : List (ToolIdentity J) :=
  (tools.definitions.filter fun tool => tool.id ∈ tools.enabled).map (toolIdentity sha256)

def harnessIdentityV1 (harness : HarnessRecord J R) : HarnessIdentity J R :=
  { model := harness.model
    system := contentDigest sha256 harness.instructions.system
    taskTemplate := harness.instructions.taskTemplate.map fun template =>
      ⟨template.language, contentDigest sha256 template.content, template.variableNames⟩
    enabled := toolsIdentity sha256 harness.tools
    context := harness.context
    stopping := harness.stopping }

end Identity

def harnessFingerprint (hashing : Hashing (HarnessIdentity J R)) (harness : HarnessRecord J R) :
    String :=
  hashing.fingerprint (harnessIdentityV1 hashing.sha256 harness)

end Xaytune.Core.Harness
