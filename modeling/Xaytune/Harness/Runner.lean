import Mathlib.Algebra.Ring.Nat
import Mathlib.Data.List.MinMax
import Mathlib.Data.String.Basic
import Xaytune.Library.Loop
import Xaytune.Library.Words

/-!
# The harness runner

One execution of one spec: the model is asked turn by turn, with as much of the conversation as
its context allows, and the tools it calls are run between the turns, until the declared
conditions or a budget ends it.
-/

namespace Xaytune.Harness

open Xaytune.Library

/-! ## What the model sees and says -/

/-- One tool call a model asks for; `J` are JSON objects. -/
structure HarnessToolCall (J : Type) where
  callId : String
  tool : String
  arguments : J

/-- One model turn: text, tool calls, and whether it is the final answer. -/
structure HarnessModelReply (J : Type) where
  text : String := ""
  toolCalls : List (HarnessToolCall J) := []
  final : Bool := false
  coherent : final = true → toolCalls = []
  once : (toolCalls.map HarnessToolCall.callId).Nodup

inductive Role where
  | user | assistant | tool

structure HarnessMessage (J : Type) where
  role : Role
  content : String
  toolCalls : List (HarnessToolCall J) := []
  toolCallId : Option String := none

/-- An enabled tool as the model sees it. -/
structure HarnessToolView (J : Type) where
  id : String
  version : String
  description : String
  contract : Option String
  inputSchema : J

/-! ## The harness -/

structure GenerationSettings where
  maxOutputTokens : Nat
  stopSequences : List String := []
  outputs : 0 < maxOutputTokens
  stops : ∀ stop ∈ stopSequences, stop ≠ ""

structure HarnessModelRequest (J : Type) where
  system : String
  messages : List (HarnessMessage J)
  tools : List (HarnessToolView J)
  generation : GenerationSettings

inductive ContextSelection where
  | fullHistory
  | recentTurns (turns : Nat) (positive : 0 < turns)

inductive Overflow where
  | fail | truncateOldest
  deriving DecidableEq

structure ContextPolicy where
  maxContextTokens : Nat
  selection : ContextSelection := .fullHistory
  overflow : Overflow
  maxToolResultTokens : Option Nat := none
  context : 0 < maxContextTokens

inductive Completion where
  | finalAnswer | noToolCall
  deriving DecidableEq

structure StoppingPolicy where
  maxTurns : Nat
  maxTotalTokens : Option Nat := none
  maxToolCalls : Option Nat := none
  terminateOn : List Completion
  turns : 0 < maxTurns

structure AgentHarnessSpec where
  generation : GenerationSettings
  context : ContextPolicy
  stopping : StoppingPolicy

/-! ## The toolbox -/

/-- What a tool function does: it may raise, or return something other than text. -/
inductive ToolAnswer where
  | text (output : String)
  | raised (error : String)
  | other

/-- A tool's function; it may answer each call of a run differently. -/
abbrev ToolFunction (J : Type) : Type := Nat → J → ToolAnswer

abbrev HarnessToolbox (J : Type) : Type := String → String → Option (ToolFunction J)

/-- The JSON module, and the check of a response schema. -/
structure Json (J : Type) where
  dumps : J → String
  schemaViolations : J → J → List String

/-- What a run reads; the tools it enables have an implementation. -/
structure Run (J : Type) where
  harness : AgentHarnessSpec
  system : String
  task : String
  enabled : List (HarnessToolView J)
  script : List (HarnessModelReply J)
  toolbox : HarnessToolbox J
  cancel : Option (Nat → Bool) := none
  implemented : ∀ tool ∈ enabled, (toolbox tool.id tool.version).isSome = true

/-! ## Tokens -/

/-- The letters at which Python splits a text. -/
def isSpace (letter : Char) : Bool :=
  (0x9 ≤ letter.toNat && letter.toNat ≤ 0xd) || (0x1c ≤ letter.toNat && letter.toNat ≤ 0x20) ||
    (0x2000 ≤ letter.toNat && letter.toNat ≤ 0x200a) ||
    letter.toNat ∈ [0x85, 0xa0, 0x1680, 0x2028, 0x2029, 0x202f, 0x205f, 0x3000]

def tokens (text : String) : Nat := (words isSpace text.toList).length

def firstWords (text : String) (limit : Nat) : String :=
  let found := words isSpace text.toList
  if found.length ≤ limit then text else String.ofList ([' '].intercalate (found.take limit))

variable {J : Type} (json : Json J)

def callTokens (call : HarnessToolCall J) : Nat :=
  tokens call.tool + tokens (json.dumps call.arguments)

def messageTokens (message : HarnessMessage J) : Nat :=
  tokens message.content + (message.toolCalls.map (callTokens json)).sum

def viewTokens (view : HarnessToolView J) : Nat :=
  tokens view.description + tokens (view.contract.getD "") + tokens (json.dumps view.inputSchema)

def Run.fixedTokens (run : Run J) : Nat :=
  tokens run.system + (run.enabled.map (viewTokens json)).sum

/-- Where a text first occurs in another, if it does. -/
def find (text : List Char) : List Char → Option Nat
  | [] => if text = [] then some 0 else none
  | letter :: rest =>
      if text.isPrefixOf (letter :: rest) then some 0 else (find text rest).map (· + 1)

/-- `_bounded_output`: the text cut at the first stop sequence, then to a number of words. -/
def GenerationSettings.bounded (generation : GenerationSettings) (text : String) : String :=
  let cuts := generation.stopSequences.filterMap fun stop => find stop.toList text.toList
  let text := match cuts.min? with
    | some cut => String.ofList (text.toList.take cut)
    | none => text
  firstWords text generation.maxOutputTokens

/-! ## The state of a run -/

abbrev Turns (J : Type) : Type := List (List (HarnessMessage J))

/-- What `_Run` keeps.  `polls` counts the questions whether to cancel, `requests` is what the
model remembers of them, and `executed` what the toolbox was called with. -/
structure State (J : Type) where
  history : Turns J := []
  answer : Option String := none
  error : Option String := none
  turns : Nat := 0
  toolCalls : Nat := 0
  refusedToolCalls : Nat := 0
  failedToolCalls : Nat := 0
  contextTruncations : Nat := 0
  promptTokens : Nat := 0
  outputTokens : Nat := 0
  polls : Nat := 0
  requests : List (HarnessModelRequest J) := []
  executed : List (HarnessToolView J × J) := []

inductive TerminationReason where
  | finalAnswer | noToolCall | maxTurns | tokenBudget | toolCallBudget | contextOverflow
  | modelError | cancelled
  deriving DecidableEq

/-- The answer to the next question whether to cancel. -/
def Run.cancelled (run : Run J) (state : State J) : Bool :=
  match run.cancel with
  | none => false
  | some answers => answers state.polls

def State.polled (state : State J) : State J := { state with polls := state.polls + 1 }

/-! ## The context -/

def Run.taskMessage (run : Run J) : HarnessMessage J := ⟨.user, run.task, [], none⟩

def Run.shown (run : Run J) (kept : Turns J) : List (HarnessMessage J) :=
  run.taskMessage :: kept.flatten

def Run.size (run : Run J) (messages : List (HarnessMessage J)) : Nat :=
  run.fixedTokens json + (messages.map (messageTokens json)).sum

def ContextSelection.select (selection : ContextSelection) (history : Turns J) : Turns J :=
  match selection with
  | .fullHistory => history
  | .recentTurns turns _ => history.drop (history.length - turns)

/-- The loop of `_context`, with the number of turns it dropped. -/
def Run.fit (run : Run J) : Turns J → Option (List (HarnessMessage J)) × Nat
  | [] =>
      if run.size json (run.shown []) ≤ run.harness.context.maxContextTokens then
        (some (run.shown []), 0)
      else (none, 0)
  | turn :: turns =>
      if run.size json (run.shown (turn :: turns)) ≤ run.harness.context.maxContextTokens then
        (some (run.shown (turn :: turns)), 0)
      else if run.harness.context.overflow = .fail then (none, 0)
      else
        let (messages, dropped) := run.fit turns
        (messages, dropped + 1)

def Run.context (run : Run J) (history : Turns J) : Option (List (HarnessMessage J)) × Nat :=
  run.fit json (run.harness.context.selection.select history)

/-! ## Tool calls -/

inductive InvocationOutcome where
  | executed | refused | failed

/-- What one tool call did: what the model is shown, and what a trajectory records. -/
structure Invoked where
  outcome : InvocationOutcome
  shown : String
  reason : Option String := none
  output : Option String := none
  truncated : Bool := false
  errorClass : Option String := none

def Run.tool? (run : Run J) (id : String) : Option (HarnessToolView J) :=
  run.enabled.find? fun tool => tool.id = id

def State.refuse (state : State J) (shown reason : String) : State J × Invoked :=
  ({ state with refusedToolCalls := state.refusedToolCalls + 1 },
    { outcome := .refused, shown, reason := some reason })

/-- What the run makes of a tool's answer. -/
def Run.taken (run : Run J) (answer : ToolAnswer) (state : State J) : State J × Invoked :=
  match answer with
  | .raised name =>
      ({ state with failedToolCalls := state.failedToolCalls + 1 },
        { outcome := .failed, shown := "error: the tool failed (" ++ name ++ ")",
          reason := some "tool-raised", errorClass := some name })
  | .other =>
      ({ state with failedToolCalls := state.failedToolCalls + 1 },
        { outcome := .failed, shown := "error: the tool returned something other than text",
          reason := some "non-text-result" })
  | .text output =>
      let shown := match run.harness.context.maxToolResultTokens with
        | none => output
        | some limit => firstWords output limit
      (state, { outcome := .executed, shown, output := some output,
                truncated := decide (shown ≠ output) })

theorem Run.mem_enabled {run : Run J} {id : String} {tool : HarnessToolView J}
    (found : run.tool? id = some tool) : tool ∈ run.enabled :=
  List.mem_of_find?_eq_some found

/-- The implementation of an enabled tool. -/
def Run.function (run : Run J) (tool : HarnessToolView J) (enabled : tool ∈ run.enabled) :
    ToolFunction J :=
  (run.toolbox tool.id tool.version).get (run.implemented tool enabled)

/-- Run one tool call if it may run; otherwise say why not. -/
def Run.invoke (run : Run J) (call : HarnessToolCall J) (state : State J) : State J × Invoked :=
  match found : run.tool? call.tool with
  | none => state.refuse "error: that tool is not enabled for this harness" "not-enabled"
  | some tool =>
      match json.schemaViolations tool.inputSchema call.arguments with
      | [] =>
          let function := run.function tool (Run.mem_enabled found)
          run.taken (function state.executed.length call.arguments)
            { state with executed := state.executed ++ [(tool, call.arguments)] }
      | violations =>
          state.refuse ("error: invalid arguments: " ++ String.intercalate "; " violations)
            "invalid-arguments"

/-- A message appended to the turn that is under way. -/
def extendLast (message : HarnessMessage J) : Turns J → Turns J
  | [] => []
  | [turn] => [turn ++ [message]]
  | turn :: turns => turn :: extendLast message turns

/-- One tool call, and what the model is shown of it. -/
def Run.perform (run : Run J) (call : HarnessToolCall J) (state : State J) : State J :=
  let (state, invoked) := run.invoke json call { state with toolCalls := state.toolCalls + 1 }
  { state with history :=
      extendLast ⟨.tool, invoked.shown, [], some call.callId⟩ state.history }

abbrev Ended (J : Type) : Type := State J × TerminationReason

def Run.performAll (run : Run J) : List (HarnessToolCall J) → State J → Turn (State J) (Ended J)
  | [], state => .next state
  | call :: rest, state =>
      let budget := run.harness.stopping.maxToolCalls
      if run.cancelled state then .stop (state.polled, .cancelled)
      else if ∃ limit ∈ budget, limit ≤ state.toolCalls then
        .stop (state.polled, .toolCallBudget)
      else run.performAll rest (run.perform json call state.polled)

/-! ## The loop -/

/-- The script's entry for a turn. -/
def Run.respond (run : Run J) (turn : Nat) : Except String (HarnessModelReply J) :=
  match run.script[turn]? with
  | some reply => .ok reply
  | none => .error "ScriptExhaustedError"

def Run.outputTokens (run : Run J) (reply : HarnessModelReply J) : Nat :=
  tokens (run.harness.generation.bounded reply.text) + (reply.toolCalls.map (callTokens json)).sum

/-- A reply counted. -/
def Run.counted (run : Run J) (messages : List (HarnessMessage J)) (reply : HarnessModelReply J)
    (state : State J) : State J :=
  { state with
    turns := state.turns + 1
    promptTokens := state.promptTokens + run.size json messages
    outputTokens := state.outputTokens + run.outputTokens json reply }

/-- A reply as a turn of the conversation. -/
def Run.answered (run : Run J) (reply : HarnessModelReply J) (state : State J) : State J :=
  { state with history := state.history ++
      [[⟨.assistant, run.harness.generation.bounded reply.text, reply.toolCalls, none⟩]] }

/-- What follows a reply. -/
def Run.follow (run : Run J) (reply : HarnessModelReply J) (state : State J) :
    Turn (State J) (Ended J) :=
  let stopping := run.harness.stopping
  let text := run.harness.generation.bounded reply.text
  if ∃ limit ∈ stopping.maxTotalTokens, limit < state.promptTokens + state.outputTokens then
    .stop (state, .tokenBudget)
  else
    let state := run.answered reply state
    if reply.final ∧ .finalAnswer ∈ stopping.terminateOn then
      .stop ({ state with answer := some text }, .finalAnswer)
    else if reply.toolCalls = [] ∧ .noToolCall ∈ stopping.terminateOn then
      .stop ({ state with answer := some text }, .noToolCall)
    else run.performAll json reply.toolCalls state

/-- A model call, with the messages it is shown. -/
def Run.ask (run : Run J) (messages : List (HarnessMessage J)) (state : State J) :
    Turn (State J) (Ended J) :=
  let request := ⟨run.system, messages, run.enabled, run.harness.generation⟩
  let state := { state with requests := state.requests ++ [request] }
  match run.respond state.turns with
  | .error name => .stop ({ state with error := some name }, .modelError)
  | .ok reply => run.follow json reply (run.counted json messages reply state)

/-- One round of `_execute`. -/
def Run.round (run : Run J) (state : State J) : Turn (State J) (Ended J) :=
  if run.cancelled state then .stop (state.polled, .cancelled)
  else if run.harness.stopping.maxTurns ≤ state.turns then .stop (state.polled, .maxTurns)
  else
    let (messages, dropped) := run.context json state.history
    let state := { state.polled with contextTruncations := state.contextTruncations + dropped }
    match messages with
    | none => .stop (state, .contextOverflow)
    | some messages => run.ask json messages state

def Run.execute (run : Run J) : Option (Ended J) :=
  Loop.run (run.round json) (run.harness.stopping.maxTurns + 1) {}

end Xaytune.Harness
