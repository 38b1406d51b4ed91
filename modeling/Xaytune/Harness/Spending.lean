import Mathlib.Data.List.Dedup
import Mathlib.Data.List.Sort
import Xaytune.Harness.Rounds

/-!
# What an attempt spends

An attempt is reserved at the harness's limit of tokens, one prompt and one reply, since the run
looks at its total after each reply only.  The reply's text is cut to its limit, but the calls it
makes are counted too, and nothing limits those.
-/

namespace Xaytune.Harness

open Xaytune.Library

/-! ## The ledger -/

/-- An amount of work: reserved before it starts, or measured after it ends. -/
structure Spend where
  rounds : Nat := 0
  evaluations : Nat := 0
  attempts : Nat := 0
  modelCalls : List (String × Nat) := []
  tokens : List (String × Nat) := []
  deriving DecidableEq

def amount (amounts : List (String × Nat)) (key : String) : Nat :=
  ((amounts.find? fun entry => entry.1 = key).map Prod.snd).getD 0

def addAmounts (first second : List (String × Nat)) : List (String × Nat) :=
  let keys := (first.map Prod.fst ++ second.map Prod.fst).dedup.insertionSort (· ≤ ·)
  (keys.filter (· ≠ "")).map fun key => (key, amount first key + amount second key)

def Spend.plus (spend other : Spend) : Spend where
  rounds := spend.rounds + other.rounds
  evaluations := spend.evaluations + other.evaluations
  attempts := spend.attempts + other.attempts
  modelCalls := addAmounts spend.modelCalls other.modelCalls
  tokens := addAmounts spend.tokens other.tokens

def exceeding (name : String) (amounts limits : List (String × Nat)) : List String :=
  amounts.filterMap fun entry =>
    if amount limits entry.1 < entry.2 then some (name ++ "[" ++ entry.1 ++ "]") else none

/-- Every dimension where a spend is more than another. -/
def Spend.exceeds (spend other : Spend) : List String :=
  (if other.rounds < spend.rounds then ["rounds"] else []) ++
    (if other.evaluations < spend.evaluations then ["evaluations"] else []) ++
    (if other.attempts < spend.attempts then ["attempts"] else []) ++
    exceeding "model_calls" spend.modelCalls other.modelCalls ++
    exceeding "tokens" spend.tokens other.tokens

inductive UnitOfWork where
  | round | evaluation | attempt | judgeCall | providerCall
  deriving DecidableEq

/-- One unit of work and its worst case. -/
structure Reservation where
  unit : UnitOfWork
  label : String
  worstCase : Spend
  deriving DecidableEq

inductive SpendingError where
  | exceeded (unit : UnitOfWork) (label : String) (limits : List String)
  | notOpen
  | unenforceable (reasons : List String)

inductive EntryStatus where
  | notStarted | exceeded | unaccounted | settled

structure LedgerEntry where
  unit : UnitOfWork
  label : String
  status : EntryStatus
  reserved : Spend
  charged : Spend
  note : Option String := none

structure SpendingLedger where
  limits : Spend
  spent : Spend := {}
  entries : List LedgerEntry := []
  opened : Option Reservation := none

/-- Close a reservation: charge what was measured, or all of it if nothing was or it was more. -/
def SpendingLedger.settle (ledger : SpendingLedger) (reservation : Reservation)
    (measured : Option Spend) (note : Option String := none) :
    SpendingLedger × Except SpendingError Spend :=
  if ledger.opened ≠ some reservation then (ledger, .error .notOpen)
  else
    let beyond := match measured with
      | none => []
      | some spend => spend.exceeds reservation.worstCase
    let charged := match measured with
      | none => reservation.worstCase
      | some spend => if beyond = [] then spend else reservation.worstCase
    let status :=
      if beyond ≠ [] then .exceeded else if measured = none then .unaccounted else .settled
    let entry : LedgerEntry :=
      ⟨reservation.unit, reservation.label, status, reservation.worstCase, charged, note⟩
    ({ ledger with
        opened := none
        spent := ledger.spent.plus charged
        entries := ledger.entries ++ [entry] },
      if beyond = [] then .ok charged
      else .error (.exceeded reservation.unit reservation.label beyond))

/-- One task attempt's worst case. -/
def attemptReservation (harness : AgentHarnessSpec) (tokenUnit label : String) :
    Except SpendingError Reservation :=
  match harness.stopping.maxTotalTokens with
  | none => .error (.unenforceable
      ["a harness without stopping.max_total_tokens leaves its attempts unbounded"])
  | some limit =>
      let tokens :=
        limit + harness.context.maxContextTokens + harness.generation.maxOutputTokens
      .ok ⟨.attempt, label, { attempts := 1, modelCalls := [("agent", harness.stopping.maxTurns)],
                              tokens := [(tokenUnit, tokens)] }⟩

variable {J : Type}

/-- What an attempt's result measured. -/
def spendOfAttempt (tokenUnit : String) (final : State J) : Spend where
  attempts := 1
  modelCalls := [("agent", final.turns)]
  tokens := [(tokenUnit, final.promptTokens + final.outputTokens)]

theorem exceeding_eq_nil {name key : String} {spent limit : Nat} :
    exceeding name [(key, spent)] [(key, limit)] = [] ↔ spent ≤ limit := by
  have found : amount [(key, limit)] key = limit := by simp [amount]
  unfold exceeding
  rw [List.filterMap_cons, List.filterMap_nil, found]
  by_cases beyond : limit < spent
  · simp [beyond]
  · simpa [beyond] using Nat.not_lt.mp beyond

theorem spendOfAttempt_exceeds {tokenUnit : String} {turns tokens : Nat} {final : State J} :
    (spendOfAttempt tokenUnit final).exceeds
        { attempts := 1, modelCalls := [("agent", turns)], tokens := [(tokenUnit, tokens)] } = [] ↔
      final.turns ≤ turns ∧ final.promptTokens + final.outputTokens ≤ tokens := by
  unfold Spend.exceeds spendOfAttempt
  simp only [Nat.lt_irrefl, if_false, List.nil_append, List.append_eq_nil_iff, exceeding_eq_nil]

/-- An attempt that is settled raises exactly where it measured more than it had reserved. -/
theorem settle_ok {ledger : SpendingLedger} {reservation : Reservation} {spend : Spend}
    (opened : ledger.opened = some reservation) :
    (∃ charged, (ledger.settle reservation (some spend)).2 = .ok charged) ↔
      spend.exceeds reservation.worstCase = [] := by
  unfold SpendingLedger.settle
  rw [if_neg (not_not.mpr opened)]
  dsimp only
  split_ifs with within
  · simp [within]
  · simp [within]

/-! ## Every run -/

variable {json : Json J} {run : Run J} {state later final : State J} {limit : Nat}

/-- The tokens of the calls a reply makes. -/
def callsTokens (json : Json J) (reply : HarnessModelReply J) : Nat :=
  (reply.toolCalls.map (callTokens json)).sum

theorem withinTokens_of_visits (visited : Loop.Visits (run.round json) {} state) :
    run.WithinTokens state := by
  apply visited.invariant (I := run.WithinTokens)
  · intro limit _
    exact Nat.zero_le limit
  · intro state later goes _ limit isLimit
    obtain ⟨messages, dropped, reply, _, _, within, performs⟩ := round_next goes
    have bounded := within limit isLimit
    rw [performs.same.promptTokens, performs.same.outputTokens]
    exact bounded

theorem size_of_fit {turns : Turns J} {messages : List (HarnessMessage J)} {dropped : Nat}
    (shown : run.fit json turns = (some messages, dropped)) :
    run.size json messages ≤ run.harness.context.maxContextTokens := by
  induction turns generalizing dropped with
  | nil =>
      rw [Run.fit] at shown
      split_ifs at shown with fits
      · cases shown
        exact fits
      · cases shown
  | cons turn turns ih =>
      rw [Run.fit] at shown
      split_ifs at shown with fits fail
      · cases shown
        exact fits
      · cases shown
      · cases rest : run.fit json turns with
        | mk others count =>
            rw [rest] at shown
            cases shown
            exact ih rest

theorem Asks.size_le {messages : List (HarnessMessage J)} {dropped : Nat}
    (asks : Asks json run state messages dropped) :
    run.size json messages ≤ run.harness.context.maxContextTokens :=
  size_of_fit asks.shown

theorem mem_script {turn : Nat} {reply : HarnessModelReply J}
    (responded : run.respond turn = .ok reply) : reply ∈ run.script := by
  rw [Run.respond] at responded
  cases found : run.script[turn]? with
  | none =>
      rw [found] at responded
      cases responded
  | some entry =>
      rw [found] at responded
      cases responded
      exact List.mem_of_getElem? found

/-- A run's total at its end is that of a state it passed, or of the last reply it counted. -/
theorem total_of_stops {reason : TerminationReason}
    (stops : Stops json run state final reason) :
    final.promptTokens + final.outputTokens = state.promptTokens + state.outputTokens ∨
      ∃ messages dropped reply, Asks json run state messages dropped ∧
        run.respond state.turns = .ok reply ∧
        final.promptTokens + final.outputTokens = state.promptTokens + state.outputTokens +
          run.size json messages + run.outputTokens json reply := by
  cases stops with
  | early reason_ne => exact .inl rfl
  | overflow shown more => exact .inl rfl
  | failed asks => exact .inl rfl
  | @replied messages dropped reply _ _ asks responded follows =>
      have counted : (run.replied json state messages dropped reply).promptTokens +
          (run.replied json state messages dropped reply).outputTokens =
            state.promptTokens + state.outputTokens + run.size json messages +
              run.outputTokens json reply := by
        simp only [Run.replied, Run.counted, Run.asked, State.polled]
        omega
      refine .inr ⟨messages, dropped, reply, asks, responded, ?_⟩
      rw [← counted]
      cases follows with
      | spent isLimit beyond => rfl
      | answer within reason_ne => rfl
      | cut within split performs reason_ne =>
          have same := performs.same
          change _ + _ = _
          rw [State.polled, same.promptTokens, same.outputTokens]
          rfl

/-- A reply that is counted beyond the limit ends the run, with all that was counted. -/
theorem stops_beyond (limited : run.harness.stopping.maxTotalTokens = some limit)
    {messages : List (HarnessMessage J)} {dropped : Nat} {reply : HarnessModelReply J}
    (asks : Asks json run state messages dropped)
    (responded : run.respond state.turns = .ok reply)
    (beyond : limit < state.promptTokens + state.outputTokens + run.size json messages +
      run.outputTokens json reply) :
    run.round json state =
      .stop (run.replied json state messages dropped reply, .tokenBudget) := by
  rw [round_eq asks, responded]
  unfold Run.follow
  dsimp only
  apply if_pos
  refine ⟨limit, limited, ?_⟩
  simp only [Run.replied, Run.counted, Run.asked, State.polled]
  omega

/-- With the calls it makes, every reply is counted for no more than an output may have. -/
def GenerationSettings.Covers (generation : GenerationSettings) (json : Json J)
    (replies : List (HarnessModelReply J)) : Prop :=
  ∀ reply ∈ replies, tokens (generation.bounded reply.text) + callsTokens json reply ≤
    generation.maxOutputTokens

/-- The run ends within what is reserved for it, and its reservation is settled without an error. -/
def Run.WithinReservation (run : Run J) (json : Json J) : Prop :=
  ∀ limit final reason, run.harness.stopping.maxTotalTokens = some limit →
    run.execute json = some (final, reason) →
    final.promptTokens + final.outputTokens ≤
        limit + run.harness.context.maxContextTokens + run.harness.generation.maxOutputTokens ∧
      ∀ (tokenUnit label : String) (ledger : SpendingLedger) (reservation : Reservation),
        attemptReservation run.harness tokenUnit label = .ok reservation →
        ledger.opened = some reservation →
        ∃ charged, (ledger.settle reservation (some (spendOfAttempt tokenUnit final))).2 =
          .ok charged

theorem total_le_of_covers {reason : TerminationReason}
    (limited : run.harness.stopping.maxTotalTokens = some limit)
    (covers : run.harness.generation.Covers json run.script)
    (executed : run.execute json = some (final, reason)) :
    final.promptTokens + final.outputTokens ≤
      limit + run.harness.context.maxContextTokens + run.harness.generation.maxOutputTokens := by
  obtain ⟨ended, visited, stops⟩ := ended_of_execute executed
  have total := withinTokens_of_visits visited limit limited
  rcases total_of_stops stops with same | ⟨messages, dropped, reply, asks, responded, counted⟩
  · omega
  · have prompt := asks.size_le
    have output : run.outputTokens json reply ≤ run.harness.generation.maxOutputTokens :=
      covers reply (mem_script responded)
    omega

theorem withinReservation_of_covers (covers : run.harness.generation.Covers json run.script) :
    run.WithinReservation json := by
  intro limit final reason limited executed
  have bounded := total_le_of_covers limited covers executed
  refine ⟨bounded, ?_⟩
  intro tokenUnit label ledger reservation reserved opened
  obtain ⟨ended, visited, stops⟩ := ended_of_execute executed
  unfold attemptReservation at reserved
  simp only [limited] at reserved
  cases reserved
  rw [settle_ok opened, spendOfAttempt_exceeds]
  exact ⟨(turns_of_stops visited stops).1, bounded⟩

/-! ## A reply that is counted for more than an output -/

/-- A call that is refused, as the model is shown it. -/
def refusal (call : HarnessToolCall J) : HarnessMessage J :=
  ⟨.tool, "error: that tool is not enabled for this harness", [], some call.callId⟩

theorem invoke_unknown {call : HarnessToolCall J} (unknown : run.tool? call.tool = none) :
    run.invoke json call state =
      state.refuse "error: that tool is not enabled for this harness" "not-enabled" := by
  unfold Run.invoke
  split
  · rfl
  next found =>
    rw [unknown] at found
    cases found

/-- Where no tool is enabled and nothing ends a run between its calls, all of them are refused. -/
theorem performAll_refused (disabled : run.enabled = []) (uncancelled : run.cancel = none)
    (unlimited : run.harness.stopping.maxToolCalls = none) (calls : List (HarnessToolCall J))
    {turn : List (HarnessMessage J)} (history : state.history = [turn]) :
    ∃ later, run.performAll json calls state = .next later ∧ state.SameCall later ∧
      later.history = [turn ++ calls.map refusal] := by
  induction calls generalizing state turn with
  | nil => exact ⟨state, rfl, .refl _, by rw [history, List.map_nil, List.append_nil]⟩
  | cons call rest ih =>
      have unknown : run.tool? call.tool = none := by
        rw [Run.tool?, disabled]
        rfl
      have refused : (run.perform json call state.polled).history = [turn ++ [refusal call]] := by
        rw [Run.perform, invoke_unknown unknown]
        simp only [State.refuse, State.polled, history, extendLast]
        rfl
      obtain ⟨later, goes, same, shown⟩ := ih refused
      refine ⟨later, ?_, (performed json run call state).same.trans same, ?_⟩
      · rw [Run.performAll, if_neg (by simp [Run.cancelled, uncancelled]),
          if_neg (by simp [unlimited])]
        exact goes
      · rw [shown, List.map_cons, List.append_assoc, List.singleton_append]

section twice

variable (json : Json J) (generation : GenerationSettings) (reply : HarnessModelReply J)

/-- The turn of a reply whose calls are all refused. -/
def refusedTurn : List (HarnessMessage J) :=
  ⟨.assistant, generation.bounded reply.text, reply.toolCalls, none⟩ ::
    reply.toolCalls.map refusal

/-- The model makes the reply twice. The first time it is counted up to the limit of tokens, and
the second time the prompt has all the context it may have. -/
def replyTwice : Run J where
  harness :=
    { generation
      context :=
        { maxContextTokens := 2 + ((refusedTurn generation reply).map (messageTokens json)).sum
          overflow := .fail
          context := by omega }
      stopping :=
        { maxTurns := 2
          maxTotalTokens :=
            some (2 + (tokens (generation.bounded reply.text) + callsTokens json reply))
          terminateOn := [.finalAnswer]
          turns := by decide } }
  system := "Answer."
  task := "Go."
  enabled := []
  script := [reply, reply]
  toolbox _ _ := none
  implemented := nofun

end twice

section beyond

variable {generation : GenerationSettings} {reply : HarnessModelReply J}

theorem size_shown (kept : Turns J) :
    (replyTwice json generation reply).size json ((replyTwice json generation reply).shown kept) =
      2 + (kept.flatten.map (messageTokens json)).sum := by
  have words : tokens "Answer." = 1 ∧ tokens "Go." = 1 := by decide
  simp only [Run.size, Run.fixedTokens, Run.shown, Run.taskMessage, replyTwice, List.map_cons,
    List.map_nil, List.sum_cons, List.sum_nil, messageTokens, words]
  omega

/-- A reply that makes no calls is counted for no more than an output. -/
theorem not_final_of_beyond (beyond : generation.maxOutputTokens <
    tokens (generation.bounded reply.text) + callsTokens json reply) :
    reply.toolCalls ≠ [] ∧ reply.final = false := by
  have calls : reply.toolCalls ≠ [] := by
    intro none
    have text := tokens_bounded generation reply.text
    rw [callsTokens, none] at beyond
    simp only [List.map_nil, List.sum_nil] at beyond
    omega
  exact ⟨calls, Bool.not_eq_true _ ▸ fun final => calls (reply.coherent final)⟩

theorem asks_first : Asks json (replyTwice json generation reply) {}
    ((replyTwice json generation reply).shown []) 0 := by
  refine ⟨rfl, Nat.zero_lt_two, ?_⟩
  have short : (replyTwice json generation reply).size json
      ((replyTwice json generation reply).shown []) ≤
        (replyTwice json generation reply).harness.context.maxContextTokens := by
    rw [size_shown]
    exact Nat.le_add_right 2 _
  exact if_pos short

/-- The first round is counted up to the limit, and goes on with all calls refused. -/
theorem first_round (beyond : generation.maxOutputTokens <
    tokens (generation.bounded reply.text) + callsTokens json reply) :
    ∃ later, (replyTwice json generation reply).round json {} = .next later ∧ later.turns = 1 ∧
      later.promptTokens + later.outputTokens =
        2 + (tokens (generation.bounded reply.text) + callsTokens json reply) ∧
      later.history = [refusedTurn generation reply] := by
  obtain ⟨calls, notFinal⟩ := not_final_of_beyond beyond
  let run := replyTwice json generation reply
  let counted := run.replied json {} (run.shown []) 0 reply
  have total : counted.promptTokens + counted.outputTokens =
      2 + (tokens (generation.bounded reply.text) + callsTokens json reply) := by
    have prompt : run.size json (run.shown []) = 2 := by
      rw [size_shown]
      rfl
    simp only [counted, Run.replied, Run.counted, Run.asked, State.polled, prompt]
    rw [Nat.zero_add, Nat.zero_add]
    rfl
  have opened : (run.answered reply counted).history =
      [[⟨.assistant, generation.bounded reply.text, reply.toolCalls, none⟩]] := rfl
  obtain ⟨later, goes, same, history⟩ :=
    @performAll_refused J json run _ rfl rfl rfl reply.toolCalls _ opened
  refine ⟨later, ?_, same.turns, ?_, history⟩
  · rw [round_eq asks_first]
    change run.follow json reply counted = .next later
    have within : ¬ ∃ limit ∈ run.harness.stopping.maxTotalTokens,
        limit < counted.promptTokens + counted.outputTokens := by
      rintro ⟨limit, isLimit, more⟩
      cases isLimit
      omega
    simp only [Run.follow, if_neg within, notFinal, calls]
    exact goes
  · rw [same.promptTokens, same.outputTokens]
    exact total

/-- The second round is counted beyond the reservation. -/
theorem replyTwice_beyond (beyond : generation.maxOutputTokens <
    tokens (generation.bounded reply.text) + callsTokens json reply) :
    ¬ (replyTwice json generation reply).WithinReservation json := by
  obtain ⟨later, goes, turns, total, history⟩ := first_round beyond
  let run := replyTwice json generation reply
  let messages := run.shown [refusedTurn generation reply]
  have size : run.size json messages = run.harness.context.maxContextTokens := by
    rw [size_shown, List.flatten_singleton]
    rfl
  have asks : Asks json run later messages 0 := by
    refine ⟨rfl, ?_, ?_⟩
    · rw [turns]
      exact Nat.one_lt_two
    · rw [history]
      exact if_pos (Nat.le_of_eq size)
  have responded : run.respond later.turns = .ok reply := by
    rw [turns]
    rfl
  have output : run.outputTokens json reply =
      tokens (generation.bounded reply.text) + callsTokens json reply := rfl
  have counted : (run.replied json later messages 0 reply).promptTokens +
      (run.replied json later messages 0 reply).outputTokens =
        later.promptTokens + later.outputTokens + run.size json messages +
          run.outputTokens json reply := by
    simp only [Run.replied, Run.counted, Run.asked, State.polled]
    omega
  have stops := stops_beyond rfl asks responded (by omega)
  have second : Loop.run (run.round json) (1 + 1) later =
      some (run.replied json later messages 0 reply, .tokenBudget) := by
    rw [Loop.run, stops]
  intro within
  have bounded : (run.replied json later messages 0 reply).promptTokens +
      (run.replied json later messages 0 reply).outputTokens ≤
        2 + (tokens (generation.bounded reply.text) + callsTokens json reply) +
          run.harness.context.maxContextTokens + generation.maxOutputTokens :=
    (within _ _ _ rfl ((Loop.run_next goes).trans second)).1
  omega

end beyond

/-- A run makes no more model calls than it may. All attempts with these replies end within what
was reserved for them, under every harness with these generation settings and a limit of tokens,
with every toolbox and whenever they are cancelled, exactly where none of the replies is counted
for more than an output may have. -/
theorem attempt_within_reservation_iff (json : Json J) (generation : GenerationSettings)
    (replies : List (HarnessModelReply J)) :
    (∀ run : Run J, ∃ final reason, run.execute json = some (final, reason) ∧
      final.requests.length ≤ run.harness.stopping.maxTurns) ∧
      ((∀ run : Run J, run.harness.generation = generation → run.script ⊆ replies →
        run.WithinReservation json) ↔ generation.Covers json replies) := by
  refine ⟨fun run => ?_, ?_, ?_⟩
  · obtain ⟨⟨final, reason⟩, executed⟩ := Option.isSome_iff_exists.mp (execute_isSome json run)
    obtain ⟨ended, visited, stops⟩ := ended_of_execute executed
    exact ⟨final, reason, executed, (turns_of_stops visited stops).2⟩
  · intro within reply member
    by_contra beyond
    refine replyTwice_beyond (Nat.not_le.mp beyond) (within _ rfl ?_)
    intro other isOther
    rcases List.mem_pair.mp isOther with rfl | rfl <;> exact member
  · rintro covers run rfl subset
    exact withinReservation_of_covers fun reply member => covers reply (subset member)

/-! ## A reply that calls a tool -/

namespace Sample

/-- Flat objects of texts. -/
def dumps (object : List (String × String)) : String :=
  "\x7b" ++ String.intercalate ", "
    (object.map fun entry => "\"" ++ entry.1 ++ "\": \"" ++ entry.2 ++ "\"") ++ "\x7d"

def flat : Json (List (String × String)) where
  dumps := dumps
  schemaViolations _ _ := []

def harness : AgentHarnessSpec where
  generation := { maxOutputTokens := 1, outputs := by decide, stops := by simp }
  context := { maxContextTokens := 2, overflow := .fail, context := by decide }
  stopping := { maxTurns := 3, maxTotalTokens := some 2, terminateOn := [.finalAnswer],
                turns := by decide }

/-- A run whose model answers as the script says; no tool is enabled. -/
def running (script : List (HarnessModelReply (List (String × String)))) :
    Run (List (String × String)) where
  harness := harness
  system := "Answer."
  task := "Go."
  enabled := []
  script := script
  toolbox _ _ := none
  implemented := by simp

/-- No text, and a call with an argument of six words. -/
def calls : HarnessModelReply (List (String × String)) where
  toolCalls := [⟨"call-1", "write", [("text", "one two three four five six")]⟩]
  coherent := by decide
  once := by decide

/-- A call, and the answer behind it. -/
def replies : List (HarnessModelReply (List (String × String))) :=
  [{ text := "Wait", toolCalls := [⟨"call-1", "write", [("text", "one")]⟩]
     coherent := by decide, once := by decide },
    { text := "Done", final := true, coherent := fun _ => rfl, once := List.nodup_nil }]

def writer : HarnessToolView (List (String × String)) := ⟨"write", "1", "Writes.", none, []⟩

/-- A run with a tool, whose replies are counted for at most four tokens. -/
def writing : Run (List (String × String)) where
  harness :=
    { generation := { maxOutputTokens := 4, outputs := by decide, stops := by simp }
      context := { maxContextTokens := 20, overflow := .fail, context := by decide }
      stopping := { maxTurns := 3, maxTotalTokens := some 40, terminateOn := [.finalAnswer],
                    turns := by decide } }
  system := "Answer."
  task := "Go."
  enabled := [writer]
  script := replies
  toolbox _ _ := some fun _ _ => .text "written"
  implemented _ _ := rfl

end Sample

/-- A run that calls a tool and answers ends within its reservation. -/
theorem attempt_within_reservation_iff_writing :
    (∃ final, Sample.writing.execute Sample.flat = some (final, .finalAnswer) ∧
      final.executed = [(Sample.writer, [("text", "one")])] ∧ final.turns = 2) ∧
      Sample.writing.WithinReservation Sample.flat := by
  refine ⟨⟨_, rfl, rfl, rfl⟩, ?_⟩
  refine (attempt_within_reservation_iff Sample.flat Sample.writing.harness.generation
    Sample.replies).2.mpr ?_ Sample.writing rfl (List.Subset.refl _)
  intro reply member
  rcases List.mem_pair.mp member with rfl | rfl <;> decide

/-- One call with a long argument is counted beyond the reservation. -/
theorem call_beyond_reservation :
    ∃ final, (Sample.running [Sample.calls]).execute Sample.flat = some (final, .tokenBudget) ∧
      2 + Sample.harness.context.maxContextTokens + Sample.harness.generation.maxOutputTokens <
        final.promptTokens + final.outputTokens ∧
      ∀ (ledger : SpendingLedger) (reservation : Reservation),
        attemptReservation Sample.harness "tokens(whitespace-v1)" "attempt" = .ok reservation →
        ledger.opened = some reservation →
        ∃ limits, (ledger.settle reservation
          (some (spendOfAttempt "tokens(whitespace-v1)" final))).2 =
            .error (.exceeded .attempt "attempt" limits) := by
  refine ⟨_, rfl, ?_, ?_⟩
  · decide
  · intro ledger reservation reserved opened
    cases reserved
    unfold SpendingLedger.settle
    rw [if_neg (not_not.mpr opened)]
    exact ⟨_, rfl⟩

end Xaytune.Harness
