import Xaytune.Core.HarnessSearch

/-!
# What a patch changes

An accepted patch writes each operation's fields over the base's and leaves every other field. Two
records that agree on every field are the same, so neither the order of the operations nor a cut
into two patches shows in the child.
-/

namespace Xaytune.Core.Harness

variable {J R : Type}

/-! ## Fields -/

/-- The parts of a harness an operation may write, and the others. `toolSignatures` is everything
of the tool definitions but their descriptions. -/
inductive HarnessField where
  | model
  | system
  | taskTemplate
  | toolSignatures
  | toolDescription (tool : String)
  | enabledTools
  | maxContextTokens
  | selection
  | overflow
  | maxToolResultTokens
  | maxTurns
  | maxTotalTokens
  | maxToolCalls
  | terminateOn
  | metadata

inductive FieldValue (J R : Type) where
  | model (binding : HarnessModelBinding J R)
  | content (content : Option HarnessContent)
  | template (template : Option PromptTemplate)
  | signatures (signatures : List (String × String × J × Option ContentRef))
  | names (names : List String)
  | limit (limit : Option Nat)
  | selection (selection : ContextSelection)
  | overflow (overflow : Overflow)
  | terminateOn (conditions : List Termination)
  | metadata (metadata : J)

def signature (tool : ToolDefinition J) : String × String × J × Option ContentRef :=
  (tool.id, tool.version, tool.inputSchema, tool.contract)

def descriptionOf (tool : String) (definitions : List (ToolDefinition J)) :
    Option HarnessContent :=
  (definitions.find? fun definition => definition.id = tool).map ToolDefinition.description

namespace HarnessRecord

def read (harness : HarnessRecord J R) : HarnessField → FieldValue J R
  | .model => .model harness.model
  | .system => .content (some harness.instructions.system)
  | .taskTemplate => .template harness.instructions.taskTemplate
  | .toolSignatures => .signatures (harness.tools.definitions.map signature)
  | .toolDescription tool => .content (descriptionOf tool harness.tools.definitions)
  | .enabledTools => .names harness.tools.enabled
  | .maxContextTokens => .limit (some harness.context.maxContextTokens.val)
  | .selection => .selection harness.context.selection
  | .overflow => .overflow harness.context.overflow
  | .maxToolResultTokens => .limit (harness.context.maxToolResultTokens.map Subtype.val)
  | .maxTurns => .limit (some harness.stopping.maxTurns.val)
  | .maxTotalTokens => .limit (harness.stopping.maxTotalTokens.map Subtype.val)
  | .maxToolCalls => .limit harness.stopping.maxToolCalls
  | .terminateOn => .terminateOn harness.stopping.terminateOn
  | .metadata => .metadata harness.metadata

end HarnessRecord

/-- What an operation writes into a field; a part left unset writes nothing. -/
def HarnessOperation.writes (J R : Type) :
    HarnessOperation → HarnessField → Option (FieldValue J R)
  | .setSystemInstructions system, .system => some (.content (some system))
  | .setTaskTemplate template, .taskTemplate => some (.template (some template))
  | .setToolDescription tool description, .toolDescription other =>
      if other = tool then some (.content (some description)) else none
  | .setEnabledTools enabled _, .enabledTools => some (.names enabled)
  | .setContextPolicy policy, .maxContextTokens =>
      policy.maxContextTokens.map fun limit => .limit (some limit.val)
  | .setContextPolicy policy, .selection => policy.selection.map .selection
  | .setContextPolicy policy, .overflow => policy.overflow.map .overflow
  | .setContextPolicy policy, .maxToolResultTokens =>
      policy.maxToolResultTokens.map fun limit => .limit (some limit.val)
  | .setStoppingLimits limits, .maxTurns => limits.maxTurns.map fun limit => .limit (some limit.val)
  | .setStoppingLimits limits, .maxTotalTokens =>
      limits.maxTotalTokens.map fun limit => .limit (some limit.val)
  | .setStoppingLimits limits, .maxToolCalls =>
      limits.maxToolCalls.map fun limit => .limit (some limit)
  | _, _ => none

/-- The target an operation that writes the field has. -/
def HarnessField.target : HarnessField → Option (OperationName × Option String)
  | .system => some (.setSystemInstructions, none)
  | .taskTemplate => some (.setTaskTemplate, none)
  | .toolDescription tool => some (.setToolDescription, some tool)
  | .enabledTools => some (.setEnabledTools, none)
  | .maxContextTokens | .selection | .overflow | .maxToolResultTokens =>
      some (.setContextPolicy, none)
  | .maxTurns | .maxTotalTokens | .maxToolCalls => some (.setStoppingLimits, none)
  | .model | .toolSignatures | .terminateOn | .metadata => none

theorem target_of_writes {operation : HarnessOperation} {field : HarnessField}
    {value : FieldValue J R} (writes : operation.writes J R field = some value) :
    field.target = some operation.target := by
  cases operation with
  | setToolDescription tool description =>
      cases field with
      | toolDescription other =>
          simp only [HarnessOperation.writes] at writes
          split at writes
          · next same => rw [same]; rfl
          · cases writes
      | _ => cases writes
  | _ => cases field <;> first | rfl | cases writes

/-! ## Records by their fields -/

theorem descriptionOf_cons_self (definition : ToolDefinition J) (rest : List (ToolDefinition J)) :
    descriptionOf definition.id (definition :: rest) = some definition.description := by
  simp [descriptionOf]

theorem descriptionOf_cons_ne {tool : String} {definition : ToolDefinition J}
    (differs : definition.id ≠ tool) (rest : List (ToolDefinition J)) :
    descriptionOf tool (definition :: rest) = descriptionOf tool rest := by
  simp [descriptionOf, differs]

theorem descriptionOf_undefined {tool : String} {definitions : List (ToolDefinition J)}
    (undefined : tool ∉ definitions.map ToolDefinition.id) :
    descriptionOf tool definitions = none := by
  rw [descriptionOf, List.find?_eq_none.mpr]
  · rfl
  · intro definition member
    have other : definition.id ≠ tool := by
      rintro rfl
      exact undefined (List.mem_map_of_mem member)
    simpa using other

theorem ids_of_signatures {definitions definitions' : List (ToolDefinition J)}
    (signatures : definitions.map signature = definitions'.map signature) :
    definitions.map ToolDefinition.id = definitions'.map ToolDefinition.id := by
  have firsts := congrArg (List.map Prod.fst) signatures
  rwa [List.map_map, List.map_map] at firsts

/-- Definitions of distinct ids are known by their signatures and descriptions. -/
theorem definitions_ext {definitions definitions' : List (ToolDefinition J)}
    (distinct : (definitions.map ToolDefinition.id).Nodup)
    (signatures : definitions.map signature = definitions'.map signature)
    (descriptions : ∀ tool, descriptionOf tool definitions = descriptionOf tool definitions') :
    definitions = definitions' := by
  induction definitions generalizing definitions' with
  | nil =>
      cases definitions' with
      | nil => rfl
      | cons _ _ => cases signatures
  | cons tool rest ih =>
      cases definitions' with
      | nil => cases signatures
      | cons tool' rest' =>
          obtain ⟨sameTool, sameRest⟩ := List.cons.inj signatures
          obtain ⟨fresh, distinctRest⟩ := List.nodup_cons.mp distinct
          have sameId : tool.id = tool'.id := congrArg Prod.fst sameTool
          have sameDescription : tool.description = tool'.description := by
            have here := descriptions tool.id
            rw [descriptionOf_cons_self, sameId, descriptionOf_cons_self] at here
            exact Option.some.inj here
          have fresh' : tool.id ∉ rest'.map ToolDefinition.id := by
            rwa [← ids_of_signatures sameRest]
          have heads : tool = tool' := by
            obtain ⟨id, version, schema, contract⟩ :
                tool.id = tool'.id ∧ tool.version = tool'.version ∧
                  tool.inputSchema = tool'.inputSchema ∧ tool.contract = tool'.contract := by
              simpa only [signature, Prod.mk.injEq] using sameTool
            exact ToolDefinition.ext id version sameDescription schema contract
          have tails : rest = rest' := by
            apply ih distinctRest sameRest
            intro other
            by_cases same : tool.id = other
            · rw [← same, descriptionOf_undefined fresh, descriptionOf_undefined fresh']
            · have later := descriptions other
              rwa [descriptionOf_cons_ne same, descriptionOf_cons_ne (sameId ▸ same)] at later
          rw [heads, tails]

/-- Records of which every field is the same are the same. -/
theorem ext_of_read {harness other : HarnessRecord J R} (distinct : harness.tools.ids.Nodup)
    (same : ∀ field, harness.read field = other.read field) : harness = other := by
  have tools : harness.tools = other.tools := by
    apply HarnessTools.ext
    · exact definitions_ext distinct (FieldValue.signatures.inj (same .toolSignatures))
        fun tool => FieldValue.content.inj (same (.toolDescription tool))
    · exact FieldValue.names.inj (same .enabledTools)
  have instructions : harness.instructions = other.instructions := by
    apply HarnessInstructions.ext
    · exact Option.some.inj (FieldValue.content.inj (same .system))
    · exact FieldValue.template.inj (same .taskTemplate)
  have limits := fun {limit limit' : Option Positive}
      (equal : limit.map Subtype.val = limit'.map Subtype.val) =>
    Option.map_injective Subtype.val_injective equal
  have context : harness.context = other.context := by
    apply ContextPolicy.ext
    · exact Subtype.ext (Option.some.inj (FieldValue.limit.inj (same .maxContextTokens)))
    · exact FieldValue.selection.inj (same .selection)
    · exact FieldValue.overflow.inj (same .overflow)
    · exact limits (FieldValue.limit.inj (same .maxToolResultTokens))
  have stopping : harness.stopping = other.stopping := by
    apply StoppingPolicy.ext
    · exact Subtype.ext (Option.some.inj (FieldValue.limit.inj (same .maxTurns)))
    · exact limits (FieldValue.limit.inj (same .maxTotalTokens))
    · exact FieldValue.limit.inj (same .maxToolCalls)
    · exact FieldValue.terminateOn.inj (same .terminateOn)
  exact HarnessRecord.ext (FieldValue.model.inj (same .model)) instructions tools context stopping
    (FieldValue.metadata.inj (same .metadata))

/-! ## One operation -/

/-- What an operation writes, apart from whether it may. -/
def HarnessOperation.write (operation : HarnessOperation) (record : HarnessRecord J R) :
    HarnessRecord J R :=
  match operation with
  | .setSystemInstructions system =>
      { record with instructions := { record.instructions with system } }
  | .setTaskTemplate template =>
      { record with instructions := { record.instructions with taskTemplate := some template } }
  | .setToolDescription tool description =>
      { record with tools := describe tool description record.tools }
  | .setEnabledTools enabled _ => { record with tools := { record.tools with enabled } }
  | .setContextPolicy policy => { record with context := policy.write record.context }
  | .setStoppingLimits limits => { record with stopping := limits.write record.stopping }

/-- An operation describes only tools that are defined. -/
def HarnessOperation.Defined (tools : HarnessTools J) : HarnessOperation → Prop
  | .setToolDescription tool _ => tool ∈ tools.ids
  | _ => True

theorem signatures_describe (tool : String) (description : HarnessContent)
    (tools : HarnessTools J) :
    (describe tool description tools).definitions.map signature =
      tools.definitions.map signature := by
  rw [describe, List.map_map]
  apply List.map_congr_left
  intro definition _
  rw [Function.comp_apply]
  split <;> rfl

theorem descriptionOf_describe {tool : String} (description : HarnessContent)
    {tools : HarnessTools J} (defined : tool ∈ tools.ids) (other : String) :
    descriptionOf other (describe tool description tools).definitions =
      if other = tool then some description else descriptionOf other tools.definitions := by
  have keeps_id : (fun definition : ToolDefinition J =>
      decide ((if definition.id = tool then { definition with description } else definition).id =
        other)) = fun definition => decide (definition.id = other) := by
    funext definition
    split <;> rfl
  rw [describe, descriptionOf, List.find?_map, Function.comp_def, keeps_id, Option.map_map,
    descriptionOf]
  cases found : tools.definitions.find? fun definition => definition.id = other with
  | none =>
      have undefined : other ∉ tools.ids := by
        intro member
        obtain ⟨definition, isDefinition, same⟩ := List.mem_map.mp member
        have differs := List.find?_eq_none.mp found definition isDefinition
        simp [same] at differs
      rw [if_neg (by rintro rfl; exact undefined defined)]
      rfl
  | some definition =>
      have named : definition.id = other := by simpa using List.find?_some found
      rw [Option.map_some, Option.map_some, Function.comp_apply, named]
      split <;> rfl

/-- Frame: an operation writes its fields and leaves the others. -/
theorem read_write {operation : HarnessOperation} {record : HarnessRecord J R}
    (defined : operation.Defined record.tools) (field : HarnessField) :
    (operation.write record).read field =
      (operation.writes J R field).getD (record.read field) := by
  cases operation with
  | setSystemInstructions system => cases field <;> rfl
  | setTaskTemplate template => cases field <;> rfl
  | setToolDescription tool description =>
      cases field with
      | toolSignatures => exact congrArg FieldValue.signatures (signatures_describe _ _ _)
      | toolDescription other =>
          have described := descriptionOf_describe description defined other
          refine (congrArg FieldValue.content described).trans ?_
          rw [HarnessOperation.writes]
          split <;> rfl
      | _ => rfl
  | setEnabledTools enabled canonical => cases field <;> rfl
  | setContextPolicy policy =>
      obtain ⟨tokens, selection, overflow, results, _⟩ := policy
      cases field with
      | maxContextTokens => cases tokens <;> rfl
      | selection => cases selection <;> rfl
      | overflow => cases overflow <;> rfl
      | maxToolResultTokens => cases results <;> rfl
      | _ => rfl
  | setStoppingLimits limits =>
      obtain ⟨turns, tokens, calls, _⟩ := limits
      cases field with
      | maxTurns => cases turns <;> rfl
      | maxTotalTokens => cases tokens <;> rfl
      | maxToolCalls => cases calls <;> rfl
      | _ => rfl

/-! ## All operations -/

def writeAll : List HarnessOperation → HarnessRecord J R → HarnessRecord J R
  | [], record => record
  | operation :: rest, record => writeAll rest (operation.write record)

/-- The child is the base with just the fields of the operations written. -/
structure ChangesExactly (operations : List HarnessOperation) (base child : HarnessRecord J R) :
    Prop where
  written : ∀ operation ∈ operations, ∀ field value,
    operation.writes J R field = some value → child.read field = value
  unwritten : ∀ field, (∀ operation ∈ operations, operation.writes J R field = none) →
    child.read field = base.read field

theorem ids_write (operation : HarnessOperation) (record : HarnessRecord J R) :
    (operation.write record).tools.ids = record.tools.ids := by
  cases operation with
  | setToolDescription tool description => exact ids_of_signatures (signatures_describe _ _ _)
  | _ => rfl

theorem ids_writeAll (operations : List HarnessOperation) (record : HarnessRecord J R) :
    (writeAll operations record).tools.ids = record.tools.ids := by
  induction operations generalizing record with
  | nil => rfl
  | cons operation rest ih => exact (ih _).trans (ids_write operation record)

theorem defined_write {operation other : HarnessOperation} {record : HarnessRecord J R}
    (defined : other.Defined record.tools) : other.Defined (operation.write record).tools := by
  cases other with
  | setToolDescription tool description =>
      show tool ∈ (operation.write record).tools.ids
      rw [ids_write]
      exact defined
  | _ => trivial

theorem writeAll_append (first second : List HarnessOperation) (record : HarnessRecord J R) :
    writeAll (first ++ second) record = writeAll second (writeAll first record) := by
  induction first generalizing record with
  | nil => rfl
  | cons operation rest ih => exact ih _

/-- Operations of distinct targets change exactly what they name. -/
theorem writeAll_exactly {operations : List HarnessOperation} {record : HarnessRecord J R}
    (distinct : (operations.map HarnessOperation.target).Nodup)
    (defined : ∀ operation ∈ operations, operation.Defined record.tools) :
    ChangesExactly operations record (writeAll operations record) := by
  induction operations generalizing record with
  | nil => exact ⟨by simp, fun _ _ => rfl⟩
  | cons operation rest ih =>
      obtain ⟨fresh, distinctRest⟩ := List.nodup_cons.mp distinct
      have here := defined operation List.mem_cons_self
      have still : ∀ other ∈ rest, other.Defined (operation.write record).tools :=
        fun other member => defined_write (defined other (List.mem_cons_of_mem _ member))
      obtain ⟨written, unwritten⟩ := ih distinctRest still
      constructor
      · intro writer member field value writes
        rcases List.mem_cons.mp member with rfl | later
        · have others : ∀ other ∈ rest, other.writes J R field = none := by
            intro other isOther
            by_contra written_again
            obtain ⟨value', writes'⟩ := Option.ne_none_iff_exists'.mp written_again
            have target := (target_of_writes writes).symm.trans (target_of_writes writes')
            exact fresh (Option.some.inj target ▸ List.mem_map_of_mem isOther)
          rw [writeAll, unwritten field others, read_write here, writes, Option.getD_some]
        · exact written writer later field value writes
      · intro field none_writes
        rw [writeAll, unwritten field fun other member =>
          none_writes other (List.mem_cons_of_mem _ member), read_write here,
          none_writes operation List.mem_cons_self, Option.getD_none]

/-- Two children of one base with the same operations are the same. -/
theorem changesExactly_unique {operations operations' : List HarnessOperation}
    {base child child' : HarnessRecord J R} (distinct : child.tools.ids.Nodup)
    (same : ∀ operation, operation ∈ operations ↔ operation ∈ operations')
    (changes : ChangesExactly operations base child)
    (changes' : ChangesExactly operations' base child') : child = child' := by
  apply ext_of_read distinct
  intro field
  by_cases written : ∃ operation ∈ operations, ∃ value,
      operation.writes J R field = some value
  · obtain ⟨operation, member, value, writes⟩ := written
    rw [changes.written operation member field value writes,
      changes'.written operation ((same operation).mp member) field value writes]
  · have none_writes : ∀ operation ∈ operations, operation.writes J R field = none := by
      intro operation member
      by_contra writes
      obtain ⟨value, isValue⟩ := Option.ne_none_iff_exists'.mp writes
      exact written ⟨operation, member, value, isValue⟩
    rw [changes.unwritten field none_writes, changes'.unwritten field fun operation member =>
      none_writes operation ((same operation).mpr member)]

/-! ## The loop -/

section Loop

variable {surfaces : Surfaces} {base : AgentHarnessSpec J R}

/-- What an operation may do: the loop adds no reason, the operation is written, the tools it
describes are defined and those it enables were enabled. -/
structure Permitted (surfaces : Surfaces) (base : AgentHarnessSpec J R)
    (operation : HarnessOperation) : Prop where
  operated : ∀ editing : Editing J R, operate surfaces base operation editing =
    editing.write operation.write
  defined : operation.Defined base.tools
  narrows : ∀ enabled canonical, operation = .setEnabledTools enabled canonical →
    ∀ tool ∈ enabled, tool ∈ base.tools.enabled

theorem refuse_reasons (reason : String) (editing : Editing J R) :
    (editing.refuse reason).reasons ≠ [] := by
  simp [Editing.refuse]

/-- An operation is permitted or adds a reason, whatever the record. -/
theorem operate_cases (surfaces : Surfaces) (base : AgentHarnessSpec J R)
    (operation : HarnessOperation) : Permitted surfaces base operation ∨
      ∀ editing : Editing J R, (operate surfaces base operation editing).reasons ≠ [] := by
  by_cases closed : ∃ allowed ∈ surfaces.allowed, operation.op ∉ allowed
  · right
    intro editing
    unfold operate
    rw [if_pos closed]
    exact refuse_reasons _ _
  have opened : ∀ editing : Editing J R, operate surfaces base operation editing = _ :=
    fun editing => if_neg closed
  cases operation with
  | setSystemInstructions | setContextPolicy | setStoppingLimits =>
      left
      exact ⟨opened, trivial, by simp⟩
  | setTaskTemplate template =>
      cases current : base.instructions.taskTemplate with
      | none =>
          right
          intro editing
          rw [opened, current]
          exact refuse_reasons _ _
      | some old =>
          by_cases differs : template.variableNames ≠ old.variableNames
          · right
            intro editing
            rw [opened, current]
            simp only
            rw [if_pos differs]
            exact refuse_reasons _ _
          · left
            refine ⟨fun editing => ?_, trivial, by simp⟩
            rw [opened, current]
            simp only
            rw [if_neg differs]
            rfl
  | setToolDescription tool description =>
      by_cases undefined : tool ∉ base.tools.ids
      · right
        intro editing
        rw [opened]
        simp only
        rw [if_pos undefined]
        exact refuse_reasons _ _
      · left
        refine ⟨fun editing => ?_, not_not.mp undefined, by simp⟩
        rw [opened]
        simp only
        rw [if_neg undefined]
        rfl
  | setEnabledTools enabled canonical =>
      by_cases unauthorized : (enabled.filter fun tool =>
          ∃ tools ∈ surfaces.authorizedTools, tool ∉ tools) ≠ []
      · right
        intro editing
        rw [opened]
        simp only
        rw [if_pos unauthorized]
        exact refuse_reasons _ _
      by_cases widened : (enabled.filter fun tool => tool ∉ base.tools.enabled) ≠ []
      · right
        intro editing
        rw [opened]
        simp only
        rw [if_neg unauthorized, if_pos widened]
        exact refuse_reasons _ _
      · left
        refine ⟨fun editing => ?_, trivial, ?_⟩
        · rw [opened]
          simp only
          rw [if_neg unauthorized, if_neg widened]
          rfl
        · rintro _ _ ⟨⟩ tool member
          by_contra outside
          apply widened
          exact List.ne_nil_of_mem (List.mem_filter.mpr ⟨member, by simpa using outside⟩)

/-- The loop ends without a reason exactly if there was none and every operation is permitted. -/
theorem operateAll_reasons (operations : List HarnessOperation) (editing : Editing J R) :
    (operateAll surfaces base operations editing).reasons = [] ↔
      editing.reasons = [] ∧ ∀ operation ∈ operations, Permitted surfaces base operation := by
  induction operations generalizing editing with
  | nil => simp [operateAll]
  | cons operation rest ih =>
      rw [operateAll, ih, List.forall_mem_cons]
      rcases operate_cases surfaces base operation with permitted | refused
      · rw [permitted.operated]
        exact and_congr_right fun _ => (and_iff_right permitted).symm
      · constructor
        · rintro ⟨clean, _⟩
          exact absurd clean (refused editing)
        · rintro ⟨_, permitted, _⟩
          have clean : (operate surfaces base operation ⟨base.toHarnessRecord, []⟩).reasons =
            [] := by
            rw [permitted.operated]
            rfl
          exact absurd clean (refused _)

theorem operateAll_record (operations : List HarnessOperation) (editing : Editing J R)
    (permitted : ∀ operation ∈ operations, Permitted surfaces base operation) :
    (operateAll surfaces base operations editing).record = writeAll operations editing.record := by
  induction operations generalizing editing with
  | nil => rfl
  | cons operation rest ih =>
      rw [operateAll, ih _ fun other member => permitted other (List.mem_cons_of_mem _ member),
        (permitted operation List.mem_cons_self).operated]
      rfl

end Loop

/-! ## Whole patches -/

section Patches

variable {hashing : Hashing (HarnessIdentity J R)} {surfaces : Surfaces}
  {base child : AgentHarnessSpec J R} {patch : HarnessPatch}

/-- When a patch is accepted, and what its child is. -/
theorem applyPatch_ok_iff : applyPatch hashing surfaces base patch = .ok child ↔
    patch.baseFingerprint = harnessFingerprint hashing base.toHarnessRecord ∧
      (∀ operation ∈ patch.operations, Permitted surfaces base operation) ∧
      AgentHarnessSpec.validate (writeAll patch.operations base.toHarnessRecord) = .ok child ∧
      childReasons hashing surfaces base child = [] := by
  unfold applyPatch
  simp only
  by_cases stale : patch.baseFingerprint ≠ harnessFingerprint hashing base.toHarnessRecord
  · rw [if_pos stale, if_neg fun clean => absurd ((operateAll_reasons _ _).mp clean).1 (by simp)]
    exact iff_of_false (by simp) fun accepted => stale accepted.1
  rw [if_neg stale]
  by_cases permitted : ∀ operation ∈ patch.operations, Permitted surfaces base operation
  · rw [if_pos ((operateAll_reasons _ _).mpr ⟨rfl, permitted⟩), operateAll_record _ _ permitted,
      and_iff_right (not_not.mp stale), and_iff_right permitted]
    cases valid : AgentHarnessSpec.validate (writeAll patch.operations base.toHarnessRecord) with
    | error invalid => exact iff_of_false (by simp) (by simp)
    | ok other =>
        simp only
        split
        · next clean =>
            constructor
            · intro same
              cases same
              exact ⟨rfl, clean⟩
            · rintro ⟨same, _⟩
              cases same
              rfl
        · next refused =>
            refine iff_of_false (by simp) ?_
            rintro ⟨same, clean⟩
            cases same
            exact refused clean
  · rw [if_neg fun clean => permitted ((operateAll_reasons _ _).mp clean).2]
    exact iff_of_false (by simp) fun accepted => permitted accepted.2.1

theorem child_record (accepted : applyPatch hashing surfaces base patch = .ok child) :
    child.toHarnessRecord = writeAll patch.operations base.toHarnessRecord :=
  validate_ok ((applyPatch_ok_iff).mp accepted).2.2.1

theorem changesExactly_applyPatch
    (accepted : applyPatch hashing surfaces base patch = .ok child) :
    ChangesExactly patch.operations base.toHarnessRecord child.toHarnessRecord := by
  obtain ⟨_, permitted, _⟩ := (applyPatch_ok_iff).mp accepted
  rw [child_record accepted]
  exact writeAll_exactly patch.onePerField fun operation member =>
    (permitted operation member).defined

/-- The same operations in another order write the same record. -/
theorem writeAll_perm {operations : List HarnessOperation}
    (same : operations.Perm patch.operations)
    (permitted : ∀ operation ∈ patch.operations, Permitted surfaces base operation) :
    writeAll operations base.toHarnessRecord =
      writeAll patch.operations base.toHarnessRecord := by
  have defined : ∀ operation ∈ patch.operations, operation.Defined base.tools :=
    fun operation member => (permitted operation member).defined
  have distinct : (operations.map HarnessOperation.target).Nodup :=
    (same.map _).nodup_iff.mpr patch.onePerField
  apply changesExactly_unique
  · rw [ids_writeAll]
    exact nodup_ids base
  · exact fun operation => same.mem_iff
  · exact writeAll_exactly distinct fun operation member =>
      defined operation (same.mem_iff.mp member)
  · exact writeAll_exactly patch.onePerField defined

/-- A permuted patch is accepted with the same child. -/
theorem applyPatch_perm {permuted : HarnessPatch}
    (sameBase : permuted.baseFingerprint = patch.baseFingerprint)
    (same : permuted.operations.Perm patch.operations)
    (accepted : applyPatch hashing surfaces base patch = .ok child) :
    applyPatch hashing surfaces base permuted = .ok child := by
  obtain ⟨pinned, permitted, valid, clean⟩ := (applyPatch_ok_iff).mp accepted
  refine (applyPatch_ok_iff).mpr ⟨sameBase.trans pinned, fun operation member => ?_, ?_, clean⟩
  · exact permitted operation (same.mem_iff.mp member)
  · rw [writeAll_perm same permitted]
    exact valid

theorem enabled_applyPatch (accepted : applyPatch hashing surfaces base patch = .ok child) :
    ∀ tool ∈ child.tools.enabled, tool ∈ base.tools.enabled := by
  obtain ⟨_, permitted, _⟩ := (applyPatch_ok_iff).mp accepted
  have changes := changesExactly_applyPatch accepted
  intro tool member
  by_cases narrowed : ∃ operation ∈ patch.operations,
      (operation.writes J R .enabledTools).isSome
  · obtain ⟨operation, isOperation, writes⟩ := narrowed
    cases operation with
    | setEnabledTools enabled canonical =>
        have written := changes.written _ isOperation .enabledTools (.names enabled) rfl
        have isEnabled : child.tools.enabled = enabled := FieldValue.names.inj written
        rw [isEnabled] at member
        exact (permitted _ isOperation).narrows enabled canonical rfl tool member
    | _ => cases writes
  · have kept := changes.unwritten .enabledTools fun operation isOperation =>
      Option.not_isSome_iff_eq_none.mp fun writes => narrowed ⟨operation, isOperation, writes⟩
    have isEnabled : child.tools.enabled = base.tools.enabled := FieldValue.names.inj kept
    rwa [isEnabled] at member

theorem fingerprint_applyPatch (accepted : applyPatch hashing surfaces base patch = .ok child) :
    harnessFingerprint hashing child.toHarnessRecord ≠
      harnessFingerprint hashing base.toHarnessRecord := by
  intro same
  have clean := ((applyPatch_ok_iff).mp accepted).2.2.2
  rw [childReasons, if_pos same] at clean
  exact absurd (List.append_eq_nil_iff.mp clean).2 (by simp)

/-- Two patches one after the other come to their union. -/
theorem applyPatch_union {surfaces₁ surfaces₂ : Surfaces} {first second union : HarnessPatch}
    {middle last : AgentHarnessSpec J R}
    (joined : union.operations.Perm (first.operations ++ second.operations))
    (accepted₁ : applyPatch hashing surfaces₁ base first = .ok middle)
    (accepted₂ : applyPatch hashing surfaces₂ middle second = .ok last)
    (accepted : applyPatch hashing surfaces base union = .ok child) : last = child := by
  obtain ⟨_, permitted, _⟩ := (applyPatch_ok_iff).mp accepted
  have records : last.toHarnessRecord = child.toHarnessRecord := by
    rw [child_record accepted₂, child_record accepted₁, ← writeAll_append, child_record accepted]
    exact writeAll_perm joined.symm permitted
  cases last
  cases child
  cases records
  rfl

end Patches

/-- What applying patches to a base promises. -/
structure PatchSound (hashing : Hashing (HarnessIdentity J R)) (surfaces : Surfaces)
    (base : AgentHarnessSpec J R) : Prop where
  unordered : ∀ patch permuted : HarnessPatch,
    permuted.baseFingerprint = patch.baseFingerprint →
      permuted.operations.Perm patch.operations → ∀ child,
        applyPatch hashing surfaces base permuted = .ok child ↔
          applyPatch hashing surfaces base patch = .ok child
  changes : ∀ patch child, applyPatch hashing surfaces base patch = .ok child →
    ChangesExactly patch.operations base.toHarnessRecord child.toHarnessRecord
  narrows : ∀ patch child, applyPatch hashing surfaces base patch = .ok child →
    ∀ tool ∈ child.tools.enabled, tool ∈ base.tools.enabled
  differs : ∀ patch child, applyPatch hashing surfaces base patch = .ok child →
    harnessFingerprint hashing child.toHarnessRecord ≠
      harnessFingerprint hashing base.toHarnessRecord
  composes : ∀ surfaces₁ surfaces₂ first second union middle last child,
    union.operations.Perm (first.operations ++ second.operations) →
      applyPatch hashing surfaces₁ base first = .ok middle →
      applyPatch hashing surfaces₂ middle second = .ok last →
      applyPatch hashing surfaces base union = .ok child → last = child

/-- A patch changes exactly what it names, in any order, and patches compose. -/
theorem patch_sound (hashing : Hashing (HarnessIdentity J R)) (surfaces : Surfaces)
    (base : AgentHarnessSpec J R) : PatchSound hashing surfaces base := by
  constructor
  · intro patch permuted sameBase same child
    constructor
    · exact applyPatch_perm sameBase.symm same.symm
    · exact applyPatch_perm sameBase same
  · intro patch child accepted
    exact changesExactly_applyPatch accepted
  · intro patch child accepted
    exact enabled_applyPatch accepted
  · intro patch child accepted
    exact fingerprint_applyPatch accepted
  · intro surfaces₁ surfaces₂ first second union middle last child joined first_ok second_ok ok
    exact applyPatch_union joined first_ok second_ok ok

end Xaytune.Core.Harness
