import Xaytune.Agent.Supported

/-!
# Asking a model for a structured answer

A request holds a supported schema, and an answer crosses the boundary only if the whole of it
conforms to that schema. Whatever else the adapter does is turned into an error.
-/

namespace Xaytune.Agent

open Xaytune.Library Xaytune.Core

variable {F : Type} {python : PythonValues F}

/-! ## Accepted schemas -/

theorem check_ok_iff {schema : Value F} (distinct : schema.DistinctKeys) :
    checkResponseSchema python schema = .ok () ↔
      Supported python schema ∧ kindNamed (get schema "type") = some .object := by
  obtain ⟨found, ran, iff⟩ :=
    checkNode_reports (depth schema) schema (text "$") (Nat.le_refl _) distinct
  unfold checkResponseSchema
  rw [ran, ← iff]
  by_cases isObject : kindNamed (get schema "type") = some .object
  · cases found <;> simp [rootReasons, isObject]
  · simp [rootReasons, isObject]

theorem check_refuses {schema : Value F} (distinct : schema.DistinctKeys) :
    checkResponseSchema python schema = .ok () ∨
      ∃ reasons, checkResponseSchema python schema = .error (.unsupported reasons) := by
  obtain ⟨found, ran, _⟩ :=
    checkNode_reports (depth schema) schema (text "$") (Nat.le_refl _) distinct
  unfold checkResponseSchema
  rw [ran]
  by_cases clean : rootReasons schema ++ found = []
  · exact .inl (if_pos clean)
  · exact .inr ⟨_, if_neg clean⟩

/-- A node of the schema, at any depth. -/
inductive NodeOf : Value F → Value F → Prop
  | root (schema : Value F) : NodeOf schema schema
  | inside {schema child node : Value F} {form : Form F} : form? schema = some form →
      child ∈ form.children → NodeOf child node → NodeOf schema node

theorem Supported.node_of {schema node : Value F} (supported : Supported python schema)
    (isNode : NodeOf schema node) : Supported python node := by
  induction isNode with
  | root schema => exact supported
  | inside reads member _ ih =>
      apply ih
      cases supported with
      | node wellFormed children _ =>
          obtain rfl := Option.some.inj (reads.symm.trans wellFormed.reads)
          exact children _ member

/-! ## Requests and answers -/

structure PluginDescriptor where
  apiVersion : Text
  name : Text

def pluginApiVersions : List Text := [text "xaytune.plugins/v1alpha1"]

structure AgentModelIdentity where
  provider : Text
  name : Text
  revision : Option Text

structure AgentModelDescriptor where
  plugin : PluginDescriptor
  model : AgentModelIdentity

inductive Speaker where
  | user | assistant

def Speaker.word : Speaker → String
  | .user => "user"
  | .assistant => "assistant"

structure AgentMessage where
  role : Speaker
  content : Text

/-- A request asks for what a supported schema describes, and ends with the user's turn. -/
structure AgentModelRequest (python : PythonValues F) where
  system : Text
  messages : List AgentMessage
  responseSchema : TypedValue F
  temperature : Option F
  maxOutputTokens : Option Nat
  supported : checkResponseSchema python responseSchema.value = .ok ()
  userLast : messages.getLast?.map AgentMessage.role = some .user

/-- `D` is what describes the attempt: usage, the provider's own words, the time taken. -/
structure AgentModelResponse (F D : Type) where
  content : TypedValue F
  modelRevision : Option Text
  rest : D

def optionally {α : Type} (value : α → Value F) : Option α → Value F
  | none => .null
  | some given => value given

def fields (entries : List (String × Value F)) : Value F :=
  .map (entries.map fun entry => (text entry.1, entry.2))

def agentModelRequestIdentityV1 (model : AgentModelIdentity) (request : AgentModelRequest python) :
    Value F :=
  fields
    [("version", .int 1),
      ("model", fields
        [("provider", .str model.provider), ("name", .str model.name),
          ("revision", optionally .str model.revision)]),
      ("system", .str request.system),
      ("messages", .seq (request.messages.map fun message => fields
        [("role", .str (text message.role.word)), ("content", .str message.content)])),
      ("response_schema", request.responseSchema.value),
      ("generation", fields
        [("temperature", optionally .float request.temperature),
          ("max_output_tokens", optionally (fun count => .int (Int.ofNat count))
            request.maxOutputTokens)])]

/-- How waiting for the adapter's `generate` ends. -/
inductive Generated (F D : Type) where
  /-- An `AgentModelError` the adapter raises itself. -/
  | refused (message : Text)
  /-- Another exception, of which only the type crosses the boundary. -/
  | failed (typeName : Text)
  /-- Something that is no `Exception`, such as a cancellation. -/
  | interrupted
  | returned (typeName : Text)
  | answered (response : AgentModelResponse F D)

inductive InvokeError (F D : Type) where
  | incompatiblePlugin (name apiVersion : Text)
  | refused (message : Text)
  | interrupted
  | invocation (message : Text)
  | output (requestFingerprint : Text) (reasons : List Text)
      (response : Option (AgentModelResponse F D))
  | raised (error : PythonError)

/-- The hash behind `fingerprint` is a parameter. -/
def invokeAgentModel {D : Type} (hash : Value F → Text) (descriptor : AgentModelDescriptor)
    (generated : Generated F D) (request : AgentModelRequest python) :
    Except (InvokeError F D) (AgentModelResponse F D) :=
  if descriptor.plugin.apiVersion ∉ pluginApiVersions then
    .error (.incompatiblePlugin descriptor.plugin.name descriptor.plugin.apiVersion)
  else
    let fingerprint := hash (agentModelRequestIdentityV1 descriptor.model request)
    match generated with
    | .refused message => .error (.refused message)
    | .interrupted => .error .interrupted
    | .failed typeName =>
        .error (.invocation (text "agent model " ++ python.shown (.str descriptor.model.name) ++
          text " failed on request " ++ fingerprint ++ text ": " ++ typeName))
    | .returned typeName =>
        .error (.output fingerprint
          [text "the adapter returned " ++ typeName ++ text ", not an AgentModelResponse"] none)
    | .answered response =>
        if descriptor.model.revision ≠ none ∧ response.modelRevision ≠ none ∧
            response.modelRevision ≠ descriptor.model.revision then
          .error (.output fingerprint
            [text "the model reports revision " ++
              python.shown (optionally .str response.modelRevision) ++ text ", not the pinned " ++
              python.shown (optionally .str descriptor.model.revision)] (some response))
        else
          match schemaViolations python request.responseSchema.value response.content.value with
          | .error error => .error (.raised error)
          | .ok [] => .ok response
          | .ok violations => .error (.output fingerprint violations (some response))

theorem conforms_of_invoked {D : Type} {hash : Value F → Text} {descriptor : AgentModelDescriptor}
    {generated : Generated F D} {request : AgentModelRequest python}
    {response : AgentModelResponse F D}
    (invoked : invokeAgentModel hash descriptor generated request = .ok response) :
    Conforms python request.responseSchema.value response.content.value := by
  obtain ⟨supported, _⟩ := (check_ok_iff request.responseSchema.distinct).mp request.supported
  unfold invokeAgentModel at invoked
  split at invoked
  · cases invoked
  · cases generated with
    | answered given =>
        dsimp only at invoked
        split at invoked
        · cases invoked
        · obtain ⟨violations, ran, iff⟩ := schemaViolations_reports supported
            request.responseSchema.distinct given.content.distinct
          rw [ran] at invoked
          cases violations with
          | nil =>
              cases invoked
              exact iff.mp rfl
          | cons violation violations => cases invoked
    | _ => cases invoked

/-- Structured answers are accepted exactly when they conform. -/
structure AnswersSound (python : PythonValues F) : Prop where
  checked : ∀ schema : TypedValue F, checkResponseSchema python schema.value = .ok () ∨
    ∃ reasons, checkResponseSchema python schema.value = .error (.unsupported reasons)
  exact : ∀ schema value : TypedValue F, checkResponseSchema python schema.value = .ok () →
    ∃ violations, schemaViolations python schema.value value.value = .ok violations ∧
      (violations = [] ↔ Conforms python schema.value value.value)
  literals : ∀ schema : TypedValue F, checkResponseSchema python schema.value = .ok () →
    ∀ node, NodeOf schema.value node →
      ∀ literal ∈ literals node, Conforms python (withoutLiterals node) literal
  returned : ∀ {D : Type} (hash : Value F → Text) (descriptor : AgentModelDescriptor)
    (generated : Generated F D) (request : AgentModelRequest python)
    (response : AgentModelResponse F D),
      invokeAgentModel hash descriptor generated request = .ok response →
        Conforms python request.responseSchema.value response.content.value

theorem answers_sound (python : PythonValues F) : AnswersSound python := by
  constructor
  · intro schema
    exact check_refuses schema.distinct
  · intro schema value accepted
    obtain ⟨supported, _⟩ := (check_ok_iff schema.distinct).mp accepted
    exact schemaViolations_reports supported schema.distinct value.distinct
  · intro schema accepted node isNode
    obtain ⟨supported, _⟩ := (check_ok_iff schema.distinct).mp accepted
    exact (supported_iff.mp (supported.node_of isNode)).2.literals
  · intro D hash descriptor generated request response invoked
    exact conforms_of_invoked invoked

mutual

/-- `repr` of a value whose texts need no escape. -/
def shownWhole : Value (Fin 1000) → Text
  | .null => text "None"
  | .bool true => text "True"
  | .bool false => text "False"
  | .int value => spell (decimal value)
  | .float value => reprWhole value
  | .str letters => text "'" ++ letters ++ text "'"
  | .seq items => text "[" ++ (text ", ").intercalate (shownItems items) ++ text "]"
  | .map entries => text "\x7b" ++ (text ", ").intercalate (shownEntries entries) ++ text "\x7d"

def shownItems : List (Value (Fin 1000)) → List Text
  | [] => []
  | item :: items => shownWhole item :: shownItems items

def shownEntries : List (Text × Value (Fin 1000)) → List Text
  | [] => []
  | (key, item) :: entries =>
      (text "'" ++ key ++ text "': " ++ shownWhole item) :: shownEntries entries

end

/-- Python's values with the whole floats below a thousand. -/
def wholeFloats : PythonValues (Fin 1000) where
  rational value := value.val
  reprFloat := reprWhole
  repr_injective := reprWhole_injective
  repr_plain := reprWhole_plain
  shown := shownWhole
  typeName
    | .null => text "NoneType"
    | .bool _ => text "bool"
    | .int _ => text "int"
    | .float _ => text "float"
    | .str _ => text "str"
    | .seq _ => text "list"
    | .map _ => text "dict"

def quoted (letters : String) : Value (Fin 1000) := .str (text letters)

/-- An object with an action of two, a score and at most two notes. -/
def verdictSchema : TypedValue (Fin 1000) where
  value := fields
    [("type", quoted "object"),
      ("properties", fields
        [("action", fields
            [("type", quoted "string"), ("enum", .seq [quoted "stop", quoted "continue"])]),
          ("score", fields [("type", quoted "number"), ("minimum", .int 0)]),
          ("notes", fields
            [("type", quoted "array"), ("items", fields [("type", quoted "string")]),
              ("maxItems", .int 2)])]),
      ("required", .seq [quoted "action"])]
  distinct := by
    simp [fields, quoted, Value.DistinctKeys, distinctEntries, distinctAll,
      text_injective.eq_iff]

def verdict (action : String) : TypedValue (Fin 1000) where
  value := fields
    [("action", quoted action), ("score", .float 2), ("notes", .seq [quoted "late"])]
  distinct := by
    simp [fields, quoted, Value.DistinctKeys, distinctEntries, distinctAll,
      text_injective.eq_iff]

def verdictRequest : AgentModelRequest wholeFloats where
  system := text "judge"
  messages := [⟨.user, text "go on?"⟩]
  responseSchema := verdictSchema
  temperature := none
  maxOutputTokens := some 100
  supported := rfl
  userLast := rfl

def judge : AgentModelDescriptor where
  plugin := ⟨text "xaytune.plugins/v1alpha1", text "judge"⟩
  model := ⟨text "local", text "judge", none⟩

theorem answers_sound_verdict :
    Conforms wholeFloats verdictSchema.value (verdict "stop").value ∧
      schemaViolations wholeFloats verdictSchema.value (verdict "pause").value =
        .ok [text "$.action: must be one of ['stop', 'continue']"] ∧
      ¬ Conforms wholeFloats verdictSchema.value (verdict "pause").value := by
  have sound := answers_sound wholeFloats
  have pauses : schemaViolations wholeFloats verdictSchema.value (verdict "pause").value =
      .ok [text "$.action: must be one of ['stop', 'continue']"] := by decide
  obtain ⟨violations, ran, exactly⟩ := sound.exact verdictSchema (verdict "pause") rfl
  rw [pauses] at ran
  refine ⟨?_, pauses, fun conforms => ?_⟩
  · exact sound.returned (fun _ => []) judge (.answered ⟨verdict "stop", none, ()⟩) verdictRequest
      ⟨verdict "stop", none, ()⟩ rfl
  · rw [← Except.ok.inj ran] at exactly
    exact absurd (exactly.mpr conforms) (by simp)

end Xaytune.Agent
