import Xaytune.Harness.Runner

/-!
# The rounds of a harness run

What one round can do: stop before the model is asked, ask it in vain, or count its reply and go
on with the tool calls of it, of which it performs all or some.
-/

namespace Xaytune.Harness

open Xaytune.Library

variable {J : Type} {json : Json J} {run : Run J} {state later final : State J}

/-! ## Cutting texts -/

theorem tokens_firstWords (text : String) (limit : Nat) :
    tokens (firstWords text limit) ≤ limit := by
  unfold firstWords
  dsimp only
  split_ifs with short
  · exact short
  · have all : ∀ word ∈ (words isSpace text.toList).take limit, Word isSpace word := by
      intro word member
      exact word_of_mem_words (List.mem_of_mem_take member)
    have space : isSpace ' ' = true := by decide
    unfold tokens
    rw [String.toList_ofList, words_intercalate space all]
    exact List.length_take_le _ _

theorem tokens_bounded (generation : GenerationSettings) (text : String) :
    tokens (generation.bounded text) ≤ generation.maxOutputTokens :=
  tokens_firstWords _ _

/-! ## Tool calls -/

/-- What no tool call changes. -/
structure State.SameCall (before after : State J) : Prop where
  turns : after.turns = before.turns
  promptTokens : after.promptTokens = before.promptTokens
  outputTokens : after.outputTokens = before.outputTokens
  contextTruncations : after.contextTruncations = before.contextTruncations
  requests : after.requests = before.requests

theorem State.SameCall.refl (state : State J) : state.SameCall state := ⟨rfl, rfl, rfl, rfl, rfl⟩

theorem State.SameCall.trans {before between after : State J} (first : before.SameCall between)
    (second : between.SameCall after) : before.SameCall after where
  turns := second.turns.trans first.turns
  promptTokens := second.promptTokens.trans first.promptTokens
  outputTokens := second.outputTokens.trans first.outputTokens
  contextTruncations := second.contextTruncations.trans first.contextTruncations
  requests := second.requests.trans first.requests

/-- What an invocation does: it may run the function of an enabled tool whose schema accepts the
arguments, once. -/
structure Invokes (json : Json J) (run : Run J) (call : HarnessToolCall J)
    (before after : State J) : Prop where
  same : before.SameCall after
  history : after.history = before.history
  toolCalls : after.toolCalls = before.toolCalls
  executed : after.executed = before.executed ∨ ∃ tool ∈ run.enabled, tool.id = call.tool ∧
    json.schemaViolations tool.inputSchema call.arguments = [] ∧
    after.executed = before.executed ++ [(tool, call.arguments)]

theorem taken_eq (run : Run J) (answer : ToolAnswer) (state : State J) :
    state.SameCall (run.taken answer state).1 ∧ (run.taken answer state).1.history = state.history ∧
      (run.taken answer state).1.toolCalls = state.toolCalls ∧
      (run.taken answer state).1.executed = state.executed := by
  cases answer with
  | text output => exact ⟨.refl _, rfl, rfl, rfl⟩
  | raised name => exact ⟨⟨rfl, rfl, rfl, rfl, rfl⟩, rfl, rfl, rfl⟩
  | other => exact ⟨⟨rfl, rfl, rfl, rfl, rfl⟩, rfl, rfl, rfl⟩

theorem invokes (json : Json J) (run : Run J) (call : HarnessToolCall J) (state : State J) :
    Invokes json run call state (run.invoke json call state).1 := by
  unfold Run.invoke
  split
  · exact ⟨⟨rfl, rfl, rfl, rfl, rfl⟩, rfl, rfl, .inl rfl⟩
  · rename_i tool found
    split
    · rename_i accepted
      obtain ⟨same, history, toolCalls, executed⟩ := taken_eq run
        (run.function tool (Run.mem_enabled found) state.executed.length call.arguments)
        { state with executed := state.executed ++ [(tool, call.arguments)] }
      have isTool : tool.id = call.tool := by
        simpa using List.find?_some found
      exact ⟨⟨same.turns, same.promptTokens, same.outputTokens, same.contextTruncations,
        same.requests⟩, history, toolCalls,
        .inr ⟨tool, Run.mem_enabled found, isTool, accepted, executed⟩⟩
    · exact ⟨⟨rfl, rfl, rfl, rfl, rfl⟩, rfl, rfl, .inl rfl⟩

/-- What performing one call does. -/
structure Performed (json : Json J) (run : Run J) (call : HarnessToolCall J)
    (before after : State J) : Prop where
  same : before.SameCall after
  history : ∃ shown, after.history =
    extendLast ⟨.tool, shown, [], some call.callId⟩ before.history
  toolCalls : after.toolCalls = before.toolCalls + 1
  executed : after.executed = before.executed ∨ ∃ tool ∈ run.enabled, tool.id = call.tool ∧
    json.schemaViolations tool.inputSchema call.arguments = [] ∧
    after.executed = before.executed ++ [(tool, call.arguments)]

theorem performed (json : Json J) (run : Run J) (call : HarnessToolCall J) (state : State J) :
    Performed json run call state (run.perform json call state.polled) := by
  obtain ⟨same, history, toolCalls, executed⟩ :=
    invokes json run call { state.polled with toolCalls := state.polled.toolCalls + 1 }
  unfold Run.perform
  constructor
  · exact ⟨same.turns, same.promptTokens, same.outputTokens, same.contextTruncations,
      same.requests⟩
  · exact ⟨_, congrArg (extendLast _) history⟩
  · exact toolCalls
  · exact executed

/-- Some calls are performed one after another, each within the budget. -/
inductive Performs (json : Json J) (run : Run J) :
    List (HarnessToolCall J) → State J → State J → Prop
  | done (state : State J) : Performs json run [] state state
  | next {call : HarnessToolCall J} {rest : List (HarnessToolCall J)} {state later : State J}
      (allowed : ∀ limit ∈ run.harness.stopping.maxToolCalls, state.toolCalls < limit)
      (others : Performs json run rest (run.perform json call state.polled) later) :
      Performs json run (call :: rest) state later

theorem performs_of_next {calls : List (HarnessToolCall J)}
    (goes : run.performAll json calls state = .next later) :
    Performs json run calls state later := by
  induction calls generalizing state with
  | nil =>
      cases goes
      exact .done _
  | cons call rest ih =>
      rw [Run.performAll] at goes
      split_ifs at goes with cancelled spent
      apply Performs.next _ (ih goes)
      intro limit isLimit
      exact Nat.not_le.mp fun reached => spent ⟨limit, isLimit, reached⟩

/-- A round that stops between the calls has performed those before. -/
theorem performs_of_stop {calls : List (HarnessToolCall J)} {reason : TerminationReason}
    (stops : run.performAll json calls state = .stop (final, reason)) :
    ∃ done rest last, calls = done ++ rest ∧ Performs json run done state last ∧
      final = last.polled ∧ (reason = .cancelled ∨ reason = .toolCallBudget) := by
  induction calls generalizing state with
  | nil => cases stops
  | cons call rest ih =>
      rw [Run.performAll] at stops
      split_ifs at stops with cancelled spent
      · cases stops
        exact ⟨[], call :: rest, state, rfl, .done _, rfl, .inl rfl⟩
      · cases stops
        exact ⟨[], call :: rest, state, rfl, .done _, rfl, .inr rfl⟩
      · obtain ⟨done, others, last, split, performs, isFinal, isReason⟩ := ih stops
        refine ⟨call :: done, others, last, ?_, ?_, isFinal, isReason⟩
        · rw [split, List.cons_append]
        · apply Performs.next _ performs
          intro limit isLimit
          exact Nat.not_le.mp fun reached => spent ⟨limit, isLimit, reached⟩

theorem Performs.same {calls : List (HarnessToolCall J)}
    (performs : Performs json run calls state later) : state.SameCall later := by
  induction performs with
  | done state => exact .refl state
  | next allowed others ih => exact (performed json run _ _).same.trans ih

/-! ## Rounds -/

/-- The run asks the model in this round. -/
structure Asks (json : Json J) (run : Run J) (state : State J)
    (messages : List (HarnessMessage J)) (dropped : Nat) : Prop where
  going : run.cancelled state = false
  more : state.turns < run.harness.stopping.maxTurns
  shown : run.context json state.history = (some messages, dropped)

/-- The state in which the model is asked. -/
def Run.asked (run : Run J) (state : State J) (messages : List (HarnessMessage J))
    (dropped : Nat) : State J :=
  { state.polled with
    contextTruncations := state.contextTruncations + dropped
    requests := state.requests ++
      [⟨run.system, messages, run.enabled, run.harness.generation⟩] }

/-- The state in which its reply is counted. -/
def Run.replied (json : Json J) (run : Run J) (state : State J)
    (messages : List (HarnessMessage J)) (dropped : Nat) (reply : HarnessModelReply J) : State J :=
  run.counted json messages reply (run.asked state messages dropped)

theorem round_eq {messages : List (HarnessMessage J)} {dropped : Nat}
    (asks : Asks json run state messages dropped) :
    run.round json state = match run.respond state.turns with
      | .error name =>
          .stop ({ run.asked state messages dropped with error := some name }, .modelError)
      | .ok reply => run.follow json reply (run.replied json state messages dropped reply) := by
  unfold Run.round
  rw [if_neg (by simp [asks.going]), if_neg (Nat.not_le.mpr asks.more)]
  simp only [asks.shown]
  rfl

/-- A round either asks the model, or stops as it is. -/
theorem round_cases (json : Json J) (run : Run J) (state : State J) :
    (∃ messages dropped, Asks json run state messages dropped) ∨
      (∃ reason, run.round json state = .stop (state.polled, reason) ∧
        reason ≠ .contextOverflow) ∨
      ∃ dropped, run.context json state.history = (none, dropped) ∧
        state.turns < run.harness.stopping.maxTurns ∧
        run.round json state = .stop ({ state.polled with
          contextTruncations := state.contextTruncations + dropped }, .contextOverflow) := by
  by_cases cancelled : run.cancelled state = true
  · refine .inr (.inl ⟨.cancelled, ?_, by simp⟩)
    unfold Run.round
    rw [if_pos cancelled]
  · by_cases spent : run.harness.stopping.maxTurns ≤ state.turns
    · refine .inr (.inl ⟨.maxTurns, ?_, by simp⟩)
      unfold Run.round
      rw [if_neg cancelled, if_pos spent]
    · cases shown : run.context json state.history with
      | mk messages dropped =>
          cases messages with
          | none =>
              refine .inr (.inr ⟨dropped, rfl, Nat.not_le.mp spent, ?_⟩)
              unfold Run.round
              rw [if_neg cancelled, if_neg spent]
              simp only [shown]
          | some messages =>
              have going : run.cancelled state = false := Bool.not_eq_true _ ▸ cancelled
              exact .inl ⟨messages, dropped, going, Nat.not_le.mp spent, shown⟩

/-- The total is within the budget of tokens, where there is one. -/
def Run.WithinTokens (run : Run J) (state : State J) : Prop :=
  ∀ limit ∈ run.harness.stopping.maxTotalTokens, state.promptTokens + state.outputTokens ≤ limit

/-- A round that goes on has had a reply, within the budget, and performed all of its calls. -/
theorem round_next (goes : run.round json state = .next later) :
    ∃ messages dropped reply, Asks json run state messages dropped ∧
      run.respond state.turns = .ok reply ∧
      run.WithinTokens (run.replied json state messages dropped reply) ∧
      Performs json run reply.toolCalls
        (run.answered reply (run.replied json state messages dropped reply)) later := by
  rcases round_cases json run state with ⟨messages, dropped, asks⟩ | ⟨reason, stops, _⟩ |
    ⟨dropped, _, _, stops⟩
  · rw [round_eq asks] at goes
    cases responded : run.respond state.turns with
    | error name =>
        rw [responded] at goes
        cases goes
    | ok reply =>
        simp only [responded, Run.follow] at goes
        split_ifs at goes with spent final silent
        refine ⟨messages, dropped, reply, asks, rfl, ?_, performs_of_next goes⟩
        intro limit isLimit
        exact Nat.not_lt.mp fun beyond => spent ⟨limit, isLimit, beyond⟩
  · rw [stops] at goes
    cases goes
  · rw [stops] at goes
    cases goes

/-- How a round stops once a reply is counted. -/
inductive StopsWith (json : Json J) (run : Run J) (reply : HarnessModelReply J)
    (counted : State J) :
    State J → TerminationReason → Prop
  | spent {limit : Nat} (isLimit : run.harness.stopping.maxTotalTokens = some limit)
      (beyond : limit < counted.promptTokens + counted.outputTokens) :
      StopsWith json run reply counted counted .tokenBudget
  | answer {reason : TerminationReason} (within : run.WithinTokens counted)
      (reason_ne : reason ≠ .contextOverflow ∧ reason ≠ .modelError) :
      StopsWith json run reply counted { run.answered reply counted with
        answer := some (run.harness.generation.bounded reply.text) } reason
  | cut {done rest : List (HarnessToolCall J)} {last : State J} {reason : TerminationReason}
      (within : run.WithinTokens counted) (split : reply.toolCalls = done ++ rest)
      (performs : Performs json run done (run.answered reply counted) last)
      (reason_ne : reason ≠ .contextOverflow ∧ reason ≠ .modelError) :
      StopsWith json run reply counted last.polled reason

theorem stopsWith_of_follow {reply : HarnessModelReply J} {reason : TerminationReason}
    (stops : run.follow json reply state = .stop (final, reason)) :
    StopsWith json run reply state final reason := by
  unfold Run.follow at stops
  dsimp only at stops
  have within (unspent : ¬ ∃ limit ∈ run.harness.stopping.maxTotalTokens,
      limit < state.promptTokens + state.outputTokens) : run.WithinTokens state := by
    intro limit isLimit
    exact Nat.not_lt.mp fun beyond => unspent ⟨limit, isLimit, beyond⟩
  split_ifs at stops with spent isFinal silent
  · cases stops
    obtain ⟨limit, isLimit, beyond⟩ := spent
    exact .spent isLimit beyond
  · cases stops
    exact .answer (within spent) ⟨by simp, by simp⟩
  · cases stops
    exact .answer (within spent) ⟨by simp, by simp⟩
  · obtain ⟨done, rest, last, split, performs, rfl, isReason⟩ := performs_of_stop stops
    apply StopsWith.cut (within spent) split performs
    rcases isReason with rfl | rfl
    · exact ⟨by simp, by simp⟩
    · exact ⟨by simp, by simp⟩

/-- How a round stops. -/
inductive Stops (json : Json J) (run : Run J) (state : State J) :
    State J → TerminationReason → Prop
  | early {reason : TerminationReason} (reason_ne : reason ≠ .contextOverflow) :
      Stops json run state state.polled reason
  | overflow {dropped : Nat} (shown : run.context json state.history = (none, dropped))
      (more : state.turns < run.harness.stopping.maxTurns) :
      Stops json run state { state.polled with
        contextTruncations := state.contextTruncations + dropped } .contextOverflow
  | failed {messages : List (HarnessMessage J)} {dropped : Nat} {name : String}
      (asks : Asks json run state messages dropped) :
      Stops json run state { run.asked state messages dropped with error := some name } .modelError
  | replied {messages : List (HarnessMessage J)} {dropped : Nat} {reply : HarnessModelReply J}
      {final : State J} {reason : TerminationReason} (asks : Asks json run state messages dropped)
      (responded : run.respond state.turns = .ok reply)
      (follows : StopsWith json run reply (run.replied json state messages dropped reply) final
        reason) :
      Stops json run state final reason

theorem round_stop {reason : TerminationReason}
    (stops : run.round json state = .stop (final, reason)) : Stops json run state final reason := by
  rcases round_cases json run state with ⟨messages, dropped, asks⟩ | ⟨early, stopped, reason_ne⟩ |
    ⟨dropped, shown, more, stopped⟩
  · rw [round_eq asks] at stops
    cases responded : run.respond state.turns with
    | error name =>
        rw [responded] at stops
        cases stops
        exact .failed asks
    | ok reply =>
        simp only [responded] at stops
        exact .replied asks responded (stopsWith_of_follow stops)
  · rw [stopped] at stops
    cases stops
    exact .early reason_ne
  · rw [stopped] at stops
    cases stops
    exact .overflow shown more

theorem Performs.turns {calls : List (HarnessToolCall J)}
    (performs : Performs json run calls state later) : later.turns = state.turns :=
  performs.same.turns

/-- Every round that goes on is one turn more. -/
theorem turns_of_next (goes : run.round json state = .next later) :
    later.turns = state.turns + 1 ∧ state.turns < run.harness.stopping.maxTurns := by
  obtain ⟨messages, dropped, reply, asks, _, _, performs⟩ := round_next goes
  exact ⟨performs.turns, asks.more⟩

/-- The loop ends: no round goes on once all turns are taken. -/
theorem execute_isSome (json : Json J) (run : Run J) : (run.execute json).isSome = true := by
  apply Loop.run_isSome (I := fun _ => True)
    (fun state : State J => run.harness.stopping.maxTurns - state.turns) trivial
  · intro state later _ goes
    obtain ⟨more, below⟩ := turns_of_next goes
    exact ⟨trivial, by omega⟩
  · simp

/-- A run ends from a state it passed. -/
theorem ended_of_execute {reason : TerminationReason}
    (executed : run.execute json = some (final, reason)) :
    ∃ state, Loop.Visits (run.round json) {} state ∧ Stops json run state final reason := by
  obtain ⟨state, visited, stops⟩ := Loop.stops_of_run executed
  exact ⟨state, visited, round_stop stops⟩

theorem requests_of_visits (visited : Loop.Visits (run.round json) {} state) :
    state.requests.length = state.turns ∧ state.turns ≤ run.harness.stopping.maxTurns := by
  apply visited.invariant (I := fun state => state.requests.length = state.turns ∧
    state.turns ≤ run.harness.stopping.maxTurns)
  · exact ⟨rfl, Nat.zero_le _⟩
  · intro state later goes known
    obtain ⟨messages, dropped, reply, asks, _, _, performs⟩ := round_next goes
    obtain ⟨more, below⟩ := turns_of_next goes
    rw [performs.same.requests, more]
    constructor
    · change (state.requests ++ [_]).length = _
      rw [List.length_append, known.1]
      rfl
    · exact below

/-- A run makes no more model calls than it may. -/
theorem turns_of_stops {reason : TerminationReason}
    (visited : Loop.Visits (run.round json) {} state) (stops : Stops json run state final reason) :
    final.turns ≤ run.harness.stopping.maxTurns ∧
      final.requests.length ≤ run.harness.stopping.maxTurns := by
  obtain ⟨length, bounded⟩ := requests_of_visits visited
  have longer (messages : List (HarnessMessage J)) (dropped : Nat) (asks : state.turns + 1 ≤
      run.harness.stopping.maxTurns) : (run.asked state messages dropped).requests.length ≤
        run.harness.stopping.maxTurns := by
    simp only [Run.asked, List.length_append, length, List.length_singleton]
    exact asks
  cases stops with
  | early reason_ne => exact ⟨bounded, length ▸ bounded⟩
  | overflow shown more => exact ⟨bounded, length ▸ bounded⟩
  | @failed messages dropped name asks => exact ⟨bounded, longer messages dropped asks.more⟩
  | @replied messages dropped reply _ _ asks responded follows =>
      have requests := longer messages dropped asks.more
      cases follows with
      | spent isLimit beyond => exact ⟨asks.more, requests⟩
      | answer within reason_ne => exact ⟨asks.more, requests⟩
      | cut within split performs reason_ne =>
          have same := performs.same
          constructor
          · rw [State.polled, same.turns]
            exact asks.more
          · rw [State.polled, same.requests]
            exact requests

end Xaytune.Harness
