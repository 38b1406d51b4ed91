import Xaytune.Harness.Rounds

/-!
# What the model is shown

Every request shows the task and then whole turns only, the latest of the conversation, as many
as fit; a turn that is cut short ends the run and is never shown.
-/

namespace Xaytune.Harness

open Xaytune.Library

variable {J : Type} {json : Json J} {run : Run J} {state later final : State J}

/-! ## Turns -/

/-- A message that tells what a call did. -/
structure Answers (call : HarnessToolCall J) (message : HarnessMessage J) : Prop where
  role : message.role = .tool
  isCall : message.toolCallId = some call.callId

/-- A turn is a message of the model, and behind it one of every tool call it makes, in order. -/
def Whole (turn : List (HarnessMessage J)) : Prop :=
  ∃ text calls results, turn = ⟨.assistant, text, calls, none⟩ :: results ∧
    List.Forall₂ Answers calls results

/-- Every message of a tool is behind the message of the model that asked for it. -/
def AskedFor (messages : List (HarnessMessage J)) : Prop :=
  ∀ before message after, messages = before ++ message :: after → message.role = .tool →
    ∃ asking ∈ before, asking.role = .assistant ∧
      ∃ call ∈ asking.toolCalls, message.toolCallId = some call.callId

theorem exists_call_of_mem {calls : List (HarnessToolCall J)} {results : List (HarnessMessage J)}
    (answers : List.Forall₂ Answers calls results) {message : HarnessMessage J}
    (member : message ∈ results) : ∃ call ∈ calls, Answers call message := by
  induction answers with
  | nil => cases member
  | @cons call first calls results here others ih =>
      rcases List.mem_cons.mp member with rfl | later
      · exact ⟨call, List.mem_cons_self, here⟩
      · obtain ⟨other, isCall, answered⟩ := ih later
        exact ⟨other, List.mem_cons_of_mem _ isCall, answered⟩

theorem Whole.askedFor {turn : List (HarnessMessage J)} (whole : Whole turn) : AskedFor turn := by
  obtain ⟨text, calls, results, isTurn, answers⟩ := whole
  intro before message after split isTool
  rw [isTurn] at split
  cases before with
  | nil =>
      cases split
      cases isTool
  | cons first before =>
      rw [List.cons_append] at split
      obtain ⟨isFirst, others⟩ := List.cons.inj split
      have member : message ∈ results := by
        rw [others]
        exact List.mem_append_right _ List.mem_cons_self
      obtain ⟨call, isCall, answered⟩ := exists_call_of_mem answers member
      refine ⟨first, List.mem_cons_self, ?_⟩
      rw [← isFirst]
      exact ⟨rfl, call, isCall, answered.isCall⟩

theorem AskedFor.append {first second : List (HarnessMessage J)} (left : AskedFor first)
    (right : AskedFor second) : AskedFor (first ++ second) := by
  intro before message after split isTool
  rcases List.append_eq_append_iff.mp split with ⟨more, isBefore, rest⟩ | ⟨more, isFirst, rest⟩
  · obtain ⟨asking, member, asked⟩ := right more message after rest isTool
    rw [isBefore]
    exact ⟨asking, List.mem_append_right _ member, asked⟩
  · cases more with
    | nil =>
        obtain ⟨asking, member, asked⟩ := right [] message after rest.symm isTool
        cases member
    | cons other more =>
        rw [List.cons_append] at rest
        obtain ⟨isOther, _⟩ := List.cons.inj rest
        rw [← isOther] at isFirst
        exact left before message more isFirst isTool

theorem askedFor_flatten {turns : Turns J} (whole : ∀ turn ∈ turns, Whole turn) :
    AskedFor turns.flatten := by
  induction turns with
  | nil =>
      intro before message after split
      cases before with
      | nil => cases split
      | cons _ _ => cases split
  | cons turn turns ih =>
      rw [List.flatten_cons]
      apply (whole turn List.mem_cons_self).askedFor.append
      exact ih fun other member => whole other (List.mem_cons_of_mem _ member)

/-- What the model is shown is in order, when the turns are whole. -/
theorem askedFor_shown {turns : Turns J} (whole : ∀ turn ∈ turns, Whole turn) :
    AskedFor (run.shown turns) := by
  have task : AskedFor [run.taskMessage] := by
    intro before message after split isTool
    cases before with
    | nil =>
        cases split
        cases isTool
    | cons first before =>
        obtain ⟨_, rest⟩ := List.cons.inj split
        cases before with
        | nil => cases rest
        | cons _ _ => cases rest
  exact task.append (askedFor_flatten whole)

theorem extendLast_append (message : HarnessMessage J) (turns : Turns J)
    (turn : List (HarnessMessage J)) :
    extendLast message (turns ++ [turn]) = turns ++ [turn ++ [message]] := by
  induction turns with
  | nil => rfl
  | cons first turns ih =>
      cases turns with
      | nil => rfl
      | cons second turns =>
          simp only [List.cons_append] at ih ⊢
          rw [extendLast, ih]
          exact List.cons_ne_nil _ _

/-- Calls performed add their messages to the turn under way. -/
theorem Performs.history {calls : List (HarnessToolCall J)}
    (performs : Performs json run calls state later) {turns : Turns J}
    {turn : List (HarnessMessage J)} (isHistory : state.history = turns ++ [turn]) :
    ∃ results, later.history = turns ++ [turn ++ results] ∧ List.Forall₂ Answers calls results := by
  induction performs generalizing turn with
  | done state => exact ⟨[], by rw [isHistory, List.append_nil], .nil⟩
  | @next call rest state later allowed others ih =>
      obtain ⟨shown, extended⟩ := (performed json run call state).history
      rw [isHistory, extendLast_append] at extended
      obtain ⟨results, isLater, answers⟩ := ih extended
      refine ⟨⟨.tool, shown, [], some call.callId⟩ :: results, ?_, .cons ⟨rfl, rfl⟩ answers⟩
      rw [isLater, List.append_assoc, List.singleton_append]

/-! ## Tools -/

/-- The calls are within their budget, and functions ran for some of them only, each of an enabled
tool and with arguments that its schema accepts. -/
structure ToolsAllowed (json : Json J) (run : Run J) (toolCalls : Nat)
    (executed : List (HarnessToolView J × J)) : Prop where
  budget : ∀ limit ∈ run.harness.stopping.maxToolCalls, toolCalls ≤ limit
  among : executed.length ≤ toolCalls
  accepted : ∀ entry ∈ executed, entry.1 ∈ run.enabled ∧
    json.schemaViolations entry.1.inputSchema entry.2 = []

theorem Performs.toolsAllowed {calls : List (HarnessToolCall J)}
    (performs : Performs json run calls state later)
    (allowed : ToolsAllowed json run state.toolCalls state.executed) :
    ToolsAllowed json run later.toolCalls later.executed := by
  induction performs with
  | done state => exact allowed
  | @next call rest state later within others ih =>
      apply ih
      obtain ⟨same, history, toolCalls, executed⟩ := performed json run call state
      have counted := allowed.among
      constructor
      · intro limit isLimit
        have below := within limit isLimit
        omega
      · rcases executed with same | ⟨tool, _, _, _, appended⟩
        · rw [same]
          omega
        · rw [appended, List.length_append, List.length_singleton]
          omega
      · rcases executed with same | ⟨tool, enabled, _, accepted, appended⟩
        · rw [same]
          exact allowed.accepted
        · rw [appended]
          intro entry member
          rcases List.mem_append.mp member with earlier | new
          · exact allowed.accepted entry earlier
          · rw [List.mem_singleton.mp new]
            exact ⟨enabled, accepted⟩

/-! ## Contexts -/

/-- So many turns are dropped of those selected: the fewest that make the rest fit, or all of
them, and none where the run fails rather than dropping any. -/
structure TruncatesOldest (json : Json J) (run : Run J) (selected : Turns J) (dropped : Nat) :
    Prop where
  among : dropped ≤ selected.length
  needed : ∀ fewer < dropped,
    run.harness.context.maxContextTokens < run.size json (run.shown (selected.drop fewer))
  enough : run.harness.context.overflow = .truncateOldest → dropped < selected.length →
    run.size json (run.shown (selected.drop dropped)) ≤ run.harness.context.maxContextTokens
  failing : run.harness.context.overflow = .fail → dropped = 0

theorem truncatesOldest_of_fit {selected : Turns J} {messages : Option (List (HarnessMessage J))}
    {dropped : Nat} (shown : run.fit json selected = (messages, dropped)) :
    TruncatesOldest json run selected dropped ∧ ∀ fitting, messages = some fitting →
      fitting = run.shown (selected.drop dropped) ∧
        run.size json fitting ≤ run.harness.context.maxContextTokens := by
  induction selected generalizing messages dropped with
  | nil =>
      rw [Run.fit] at shown
      split_ifs at shown with fits
      · cases shown
        refine ⟨⟨le_rfl, by simp, by simp, fun _ => rfl⟩, ?_⟩
        intro fitting isFitting
        cases isFitting
        exact ⟨rfl, fits⟩
      · cases shown
        refine ⟨⟨le_rfl, by simp, by simp, fun _ => rfl⟩, ?_⟩
        intro fitting isFitting
        cases isFitting
  | cons turn turns ih =>
      rw [Run.fit] at shown
      split_ifs at shown with fits fail
      · cases shown
        refine ⟨⟨Nat.zero_le _, by simp, fun _ _ => fits, fun _ => rfl⟩, ?_⟩
        intro fitting isFitting
        cases isFitting
        exact ⟨rfl, fits⟩
      · cases shown
        refine ⟨⟨Nat.zero_le _, by simp, ?_, fun _ => rfl⟩, ?_⟩
        · intro truncates
          rw [fail] at truncates
          cases truncates
        · intro fitting isFitting
          cases isFitting
      · cases rest : run.fit json turns with
        | mk others count =>
            rw [rest] at shown
            cases shown
            obtain ⟨⟨among, needed, enough, failing⟩, fitting⟩ := ih rest
            refine ⟨⟨Nat.succ_le_succ among, ?_, ?_, fun isFail => absurd isFail fail⟩, fitting⟩
            · intro fewer less
              cases fewer with
              | zero => exact Nat.not_le.mp fits
              | succ fewer => exact needed fewer (Nat.lt_of_succ_lt_succ less)
            · intro truncates less
              exact enough truncates (Nat.lt_of_succ_lt_succ less)

theorem select_isSuffix (selection : ContextSelection) (history : Turns J) :
    (selection.select history).IsSuffix history := by
  cases selection with
  | fullHistory => exact List.suffix_rfl
  | recentTurns turns positive => exact List.drop_suffix _ _

/-- What a request shows of the conversation before it. -/
structure Shows (json : Json J) (run : Run J) (history : Turns J)
    (request : HarnessModelRequest J) (dropped : Nat) : Prop where
  messages : request.messages =
    run.shown ((run.harness.context.selection.select history).drop dropped)
  fits : run.size json request.messages ≤ run.harness.context.maxContextTokens
  whole : ∀ turn ∈ history, Whole turn

theorem Shows.askedFor {history : Turns J} {request : HarnessModelRequest J} {dropped : Nat}
    (shows : Shows json run history request dropped) : AskedFor request.messages := by
  rw [shows.messages]
  apply askedFor_shown
  intro turn member
  have selected : turn ∈ run.harness.context.selection.select history := List.mem_of_mem_drop member
  exact shows.whole turn ((select_isSuffix _ history).subset selected)

/-- For each call of the model, with the turns of the conversation before it: what was dropped of
them, and what was shown. -/
structure Logged (json : Json J) (run : Run J) (history : Turns J)
    (requests : List (HarnessModelRequest J)) (dropped : List Nat) : Prop where
  truncates : ∀ index count, dropped[index]? = some count →
    TruncatesOldest json run (run.harness.context.selection.select (history.take index)) count
  shows : ∀ index request, requests[index]? = some request →
    ∃ count, dropped[index]? = some count ∧ Shows json run (history.take index) request count

theorem getElem?_concat_eq_some {α : Type} {items : List α} {last item : α} {index : Nat} :
    (items ++ [last])[index]? = some item ↔
      items[index]? = some item ∨ index = items.length ∧ item = last := by
  rcases Nat.lt_trichotomy index items.length with before | here | behind
  · rw [List.getElem?_append_left before]
    simp [Nat.ne_of_lt before]
  · rw [here, List.getElem?_append_right le_rfl]
    simp [eq_comm]
  · rw [List.getElem?_append_right (Nat.le_of_lt behind), List.getElem?_eq_none behind.le]
    have beyond : index - items.length ≠ 0 := by omega
    simp [beyond, Nat.ne_of_gt behind]

theorem take_append_of_getElem? {α : Type} {dropped : List Nat} {history : List α} {turn : α}
    {index count : Nat} (length : dropped.length ≤ history.length + 1)
    (found : dropped[index]? = some count) :
    (history ++ [turn]).take index = history.take index := by
  have within : index < dropped.length := (List.getElem?_eq_some_iff.mp found).1
  apply List.take_append_of_le_length
  omega

theorem Logged.append {history : Turns J} {requests : List (HarnessModelRequest J)}
    {dropped : List Nat} (logged : Logged json run history requests dropped)
    (length : dropped.length ≤ history.length + 1) (turn : List (HarnessMessage J)) :
    Logged json run (history ++ [turn]) requests dropped where
  truncates := by
    intro index count found
    rw [take_append_of_getElem? length found]
    exact logged.truncates index count found
  shows := by
    intro index request found
    obtain ⟨count, isCount, shows⟩ := logged.shows index request found
    rw [take_append_of_getElem? length isCount]
    exact ⟨count, isCount, shows⟩

/-- One more context, for a request or in vain. -/
theorem Logged.context {history : Turns J} {requests : List (HarnessModelRequest J)}
    {dropped : List Nat} {count : Nat} {messages : Option (List (HarnessMessage J))}
    (logged : Logged json run history requests dropped)
    (length : dropped.length = history.length)
    (shown : run.context json history = (messages, count)) :
    Logged json run history requests (dropped ++ [count]) where
  truncates := by
    intro index other found
    rcases getElem?_concat_eq_some.mp found with earlier | ⟨here, isCount⟩
    · exact logged.truncates index other earlier
    · rw [here, isCount, length, List.take_length]
      exact (truncatesOldest_of_fit shown).1
  shows := by
    intro index request found
    obtain ⟨other, isCount, shows⟩ := logged.shows index request found
    exact ⟨other, getElem?_concat_eq_some.mpr (.inl isCount), shows⟩

/-- One more request, with the context made for it. -/
theorem Logged.request {history : Turns J} {requests : List (HarnessModelRequest J)}
    {dropped : List Nat} {count : Nat} {messages : List (HarnessMessage J)}
    {request : HarnessModelRequest J} (logged : Logged json run history requests dropped)
    (length : dropped.length = history.length) (requested : requests.length = history.length)
    (whole : ∀ turn ∈ history, Whole turn)
    (shown : run.context json history = (some messages, count))
    (isMessages : request.messages = messages) :
    Logged json run history (requests ++ [request]) (dropped ++ [count]) where
  truncates := (logged.context length shown).truncates
  shows := by
    intro index other found
    rcases getElem?_concat_eq_some.mp found with earlier | ⟨here, isRequest⟩
    · exact (logged.context length shown).shows index other earlier
    · obtain ⟨isShown, fits⟩ := (truncatesOldest_of_fit shown).2 messages rfl
      refine ⟨count, getElem?_concat_eq_some.mpr (.inr ⟨?_, rfl⟩), ?_⟩
      · rw [here, requested, length]
      · rw [here, isRequest, requested, List.take_length]
        exact ⟨isMessages.trans isShown, isMessages ▸ fits, whole⟩

/-! ## Runs -/

/-- What holds of the conversation between two rounds. -/
structure Conversing (json : Json J) (run : Run J) (state : State J) (dropped : List Nat) :
    Prop where
  contexts : dropped.length = state.history.length
  requests : state.requests.length = state.history.length
  truncations : state.contextTruncations = dropped.sum
  logged : Logged json run state.history state.requests dropped
  whole : ∀ turn ∈ state.history, Whole turn
  tools : ToolsAllowed json run state.toolCalls state.executed

theorem toolsAllowed_init : ToolsAllowed json run 0 [] where
  budget limit _ := Nat.zero_le limit
  among := le_rfl
  accepted := by
    intro entry member
    cases member

theorem conversing_init : Conversing json run {} [] where
  contexts := rfl
  requests := rfl
  truncations := rfl
  logged := ⟨by simp, by simp⟩
  whole := by
    intro turn member
    cases member
  tools := toolsAllowed_init

variable {dropped : List Nat} {messages : List (HarnessMessage J)} {count : Nat}
  {reply : HarnessModelReply J}

/-- The request that is made in this round is logged. -/
theorem Conversing.asked (conversing : Conversing json run state dropped)
    (asks : Asks json run state messages count) :
    Logged json run state.history (run.asked state messages count).requests (dropped ++ [count]) ∧
      (run.asked state messages count).contextTruncations = (dropped ++ [count]).sum ∧
      (dropped ++ [count]).length = (run.asked state messages count).requests.length := by
  refine ⟨?_, ?_, ?_⟩
  · exact conversing.logged.request conversing.contexts conversing.requests conversing.whole
      asks.shown rfl
  · rw [List.sum_append, List.sum_singleton, ← conversing.truncations]
    rfl
  · simp only [Run.asked, List.length_append, List.length_singleton, conversing.contexts,
      conversing.requests]

/-- Calls of a reply add to its turn what they answer, and keep all else. -/
theorem Performs.answered {calls : List (HarnessToolCall J)}
    (performs : Performs json run calls
      (run.answered reply (run.replied json state messages count reply)) later) :
    ∃ results, later.history = state.history ++
        [⟨.assistant, run.harness.generation.bounded reply.text, reply.toolCalls,
          none⟩ :: results] ∧
      List.Forall₂ Answers calls results ∧
      later.requests = (run.asked state messages count).requests ∧
      later.contextTruncations = (run.asked state messages count).contextTruncations := by
  have isHistory : (run.answered reply (run.replied json state messages count reply)).history =
      state.history ++ [[⟨.assistant, run.harness.generation.bounded reply.text, reply.toolCalls,
        none⟩]] := rfl
  obtain ⟨results, isLater, answers⟩ := performs.history isHistory
  exact ⟨results, isLater, answers, performs.same.requests, performs.same.contextTruncations⟩

theorem conversing_of_visits (visited : Loop.Visits (run.round json) {} state) :
    ∃ dropped, Conversing json run state dropped := by
  apply visited.invariant (I := fun state => ∃ dropped, Conversing json run state dropped)
  · exact ⟨[], conversing_init⟩
  · rintro state later goes ⟨dropped, conversing⟩
    obtain ⟨messages, count, reply, asks, _, _, performs⟩ := round_next goes
    obtain ⟨logged, sum, length⟩ := conversing.asked asks
    obtain ⟨results, isLater, answers, requests, truncations⟩ := performs.answered
    have contexts : (dropped ++ [count]).length = state.history.length + 1 := by
      rw [List.length_append, conversing.contexts, List.length_singleton]
    refine ⟨dropped ++ [count], ?_, ?_, ?_, ?_, ?_, ?_⟩
    · rw [isLater, contexts, List.length_append, List.length_singleton]
    · rw [requests, ← length, contexts, isLater, List.length_append, List.length_singleton]
    · rw [truncations, sum]
    · rw [isLater, requests]
      exact logged.append contexts.le _
    · rw [isLater]
      intro turn member
      rcases List.mem_append.mp member with earlier | new
      · exact conversing.whole turn earlier
      · rw [List.mem_singleton.mp new]
        exact ⟨_, _, results, rfl, answers⟩
    · exact performs.toolsAllowed conversing.tools

/-- What holds of the conversation at the end of a run. -/
structure Conversed (json : Json J) (run : Run J) (final : State J) (reason : TerminationReason)
    (dropped : List Nat) : Prop where
  contexts : dropped.length =
    final.requests.length + if reason = .contextOverflow then 1 else 0
  truncations : final.contextTruncations = dropped.sum
  logged : Logged json run final.history final.requests dropped
  tools : ToolsAllowed json run final.toolCalls final.executed

theorem Conversing.conversed {reason : TerminationReason}
    (conversing : Conversing json run state dropped) (stops : Stops json run state final reason) :
    ∃ dropped, Conversed json run final reason dropped := by
  cases stops with
  | early reason_ne =>
      refine ⟨dropped, ?_, conversing.truncations, conversing.logged, conversing.tools⟩
      rw [if_neg reason_ne, conversing.contexts, ← conversing.requests]
      rfl
  | @overflow count shown more =>
      refine ⟨dropped ++ [count], ?_, ?_, ?_, conversing.tools⟩
      · rw [List.length_append, conversing.contexts, ← conversing.requests]
        rfl
      · rw [List.sum_append, List.sum_singleton, ← conversing.truncations]
      · exact conversing.logged.context conversing.contexts shown
  | @failed messages count name asks =>
      obtain ⟨logged, sum, length⟩ := conversing.asked asks
      exact ⟨dropped ++ [count], length, sum, logged, conversing.tools⟩
  | @replied messages count reply _ _ asks responded follows =>
      obtain ⟨logged, sum, length⟩ := conversing.asked asks
      have contexts : (dropped ++ [count]).length ≤ state.history.length + 1 := by
        rw [List.length_append, conversing.contexts, List.length_singleton]
      cases follows with
      | spent isLimit beyond => exact ⟨dropped ++ [count], length, sum, logged, conversing.tools⟩
      | answer within reason_ne =>
          refine ⟨dropped ++ [count], ?_, sum, logged.append contexts _, conversing.tools⟩
          rw [if_neg reason_ne.1]
          exact length
      | cut within split performs reason_ne =>
          obtain ⟨results, isLast, _, requests, truncations⟩ := performs.answered
          refine ⟨dropped ++ [count], ?_, ?_, ?_, performs.toolsAllowed conversing.tools⟩
          · rw [if_neg reason_ne.1, State.polled, requests]
            exact length
          · rw [State.polled, truncations, sum]
          · rw [State.polled, isLast, requests]
            exact logged.append contexts _

/-- Every run ends, within its budgets of model calls and tool calls; a function runs only for an
enabled tool, with arguments its schema accepts.  Every request fits the context, and shows the
task and a suffix of whole turns of the conversation before it, with every message of a tool
behind the one that asked for it; and what is counted as truncated is what was dropped of the
selected turns, over all calls. -/
theorem runs_within_budgets_and_well_formed (json : Json J) (run : Run J) :
    ∃ final reason, run.execute json = some (final, reason) ∧
      final.requests.length ≤ run.harness.stopping.maxTurns ∧
      (∀ limit ∈ run.harness.stopping.maxToolCalls, final.toolCalls ≤ limit) ∧
      final.executed.length ≤ final.toolCalls ∧
      (∀ entry ∈ final.executed, entry.1 ∈ run.enabled ∧
        json.schemaViolations entry.1.inputSchema entry.2 = []) ∧
      ∃ dropped : List Nat,
        dropped.length = final.requests.length + (if reason = .contextOverflow then 1 else 0) ∧
        final.contextTruncations = dropped.sum ∧
        (∀ index count, dropped[index]? = some count →
          TruncatesOldest json run
            (run.harness.context.selection.select (final.history.take index)) count) ∧
        ∀ index request, final.requests[index]? = some request → ∃ count kept,
          dropped[index]? = some count ∧
          kept = (run.harness.context.selection.select (final.history.take index)).drop count ∧
          kept.IsSuffix (final.history.take index) ∧ (∀ turn ∈ kept, Whole turn) ∧
          request.messages = run.taskMessage :: kept.flatten ∧
          run.size json request.messages ≤ run.harness.context.maxContextTokens ∧
          AskedFor request.messages := by
  obtain ⟨⟨final, reason⟩, executed⟩ := Option.isSome_iff_exists.mp (execute_isSome json run)
  obtain ⟨ended, visited, stops⟩ := ended_of_execute executed
  obtain ⟨between, conversing⟩ := conversing_of_visits visited
  obtain ⟨dropped, contexts, truncations, logged, tools⟩ := conversing.conversed stops
  refine ⟨final, reason, executed, (turns_of_stops visited stops).2, tools.budget, tools.among,
    tools.accepted, dropped, contexts, truncations, logged.truncates, ?_⟩
  intro index request found
  obtain ⟨count, isCount, shows⟩ := logged.shows index request found
  have suffix : ((run.harness.context.selection.select (final.history.take index)).drop
      count).IsSuffix (final.history.take index) :=
    (List.drop_suffix _ _).trans (select_isSuffix _ _)
  refine ⟨count, _, isCount, rfl, suffix, ?_, shows.messages, shows.fits, shows.askedFor⟩
  intro turn member
  exact shows.whole turn (suffix.subset member)

end Xaytune.Harness
