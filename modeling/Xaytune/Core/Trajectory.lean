import Mathlib.Algebra.Ring.Nat
import Mathlib.Data.List.Sort
import Xaytune.Core.AgentExecution
import Xaytune.Core.Fingerprint

/-!
# What one harness execution did

The events of an attempt, the chunks that hold them, the sealed manifest that names the
chunks, and the two checks a history passes: that its events are one attempt's ordered,
causal history, and that they agree with the result the attempt publishes.
-/

namespace Xaytune.Trajectory

abbrev AttemptId := String

/-! ## The recording -/

inductive Abandonment where
  | writerLost | recordingFailed | secretDetected | resultUnpublished
  | resultPublishedByAnotherAttempt | unverifiableTail | postCommitEvidenceLost
  deriving DecidableEq

structure WriterIdentity where
  name : String
  version : String
  deriving DecidableEq

inductive Tier where
  | ordinary | restricted
  deriving DecidableEq

inductive ReplayLevel where
  | none | recordedResponses
  deriving DecidableEq

inductive Readers where
  | experiment | owner
  deriving DecidableEq

structure TierPolicy where
  retentionSeconds : Option Nat
  readers : Readers
  deriving DecidableEq

/-- How an attempt is recorded, its chunk bounds within their fixed ranges. -/
structure TrajectoryRecordingSpec where
  maxEvents : Nat
  maxBytes : Nat
  replay : ReplayLevel
  redactionPolicyDigest : Option Digest
  ordinary : TierPolicy
  restricted : TierPolicy
  writer : WriterIdentity
  events_bounded : 1 ≤ maxEvents ∧ maxEvents ≤ 10000
  bytes_bounded : 4 * 1024 ≤ maxBytes ∧ maxBytes ≤ 16 * 1024 * 1024
  deriving DecidableEq

/-! ## Content -/

/-- What happened to a piece of content when it was captured. -/
inductive ContentSlot where
  | captured (tier : Tier) (digest : Digest) (size : Nat) (mediaType : String)
  | redacted (rule : String) (secret : Bool) (removedDigest : Option Digest)
  | notProvided
  deriving DecidableEq

/-! ## Attribution -/

structure TrajectoryTask where
  taskId : String
  revision : Option Core.Text
  taskFingerprint : Option Digest
  deriving DecidableEq

/-- What an attempt instance executed. -/
structure TrajectoryAttribution where
  requestDigest : Digest
  executionFingerprint : Digest
  harnessFingerprint : Digest
  task : TrajectoryTask
  seed : Int
  replicate : Nat
  assignmentCohort : Option Digest
  experimentId : Option Core.Text
  nodeId : Option Core.Text
  runId : Option Core.Text
  attemptId : Option Core.Text
  attemptOrdinal : Option Nat
  deriving DecidableEq

/-- The texts that no pattern and no length binds: a lone surrogate may stand in them. -/
def TrajectoryAttribution.texts (attribution : TrajectoryAttribution) : List Core.Text :=
  attribution.task.revision.toList ++ attribution.experimentId.toList ++
    attribution.nodeId.toList ++ attribution.runId.toList ++ attribution.attemptId.toList

/-- The first thing persisted for an attempt instance. -/
structure TrajectoryOpenRecord where
  trajectoryId : AttemptId
  attribution : TrajectoryAttribution
  writer : WriterIdentity
  runner : WriterIdentity
  recording : TrajectoryRecordingSpec
  secretsRegistered : Nat
  secretSources : List String
  openedAt : Option String
  deriving DecidableEq

/-! ## Events -/

inductive ContextRule where
  | fullHistory | recentTurns
  deriving DecidableEq

inductive CallOutcome where
  | replied | failed | cancelled
  deriving DecidableEq

inductive ToolOutcome where
  | executed | refused | failed
  deriving DecidableEq

inductive ToolReason where
  | notEnabled | invalidArguments | toolRaised | nonTextResult
  deriving DecidableEq

def ToolReason.isRefusal : ToolReason → Bool
  | notEnabled | invalidArguments => true
  | toolRaised | nonTextResult => false

inductive DropRule where
  | recentTurns | truncateOldest
  deriving DecidableEq

inductive ErrorCode where
  | secretDetected | recordingFailed
  deriving DecidableEq

inductive EventBody where
  | runStarted (attribution : TrajectoryAttribution) (runner writer : WriterIdentity)
      (effectiveTools : List Core.Text) (configurationDigest : Digest)
  | modelCallStarted (turn : Nat) (request : ContentSlot) (messagesDigest toolsDigest : Digest)
      (contextRule : ContextRule) (messagesShown : Nat)
  | modelCallFinished (outcome : CallOutcome) (reply : Option ContentSlot)
      (errorClass : Option String) (promptTokens outputTokens : Nat)
      (toolCallsRequested : List Core.Text) (outputTruncated : Bool) (latencyMs : Option Nat)
  | toolCallStarted (callId tool : String) (version : Option Core.Text) (arguments : ContentSlot)
  | toolCallFinished (outcome : ToolOutcome) (reason : Option ToolReason)
      (output : Option ContentSlot) (shown : ContentSlot) (truncated : Bool)
      (errorClass : Option String)
  | contextChanged (rule : DropRule) (turnsDropped : Nat) (beforeDigest afterDigest : Digest)
  | errorObserved (code : ErrorCode) (role : Option String)
  | runTerminated (termination : TerminationReason) (completed : Bool)
      (answer : Option ContentSlot) (errorClass : Option String) (resultDigest : Digest)
  deriving DecidableEq

inductive EventKind where
  | runStarted | modelCallStarted | modelCallFinished | toolCallStarted | toolCallFinished
  | contextChanged | errorObserved | runTerminated
  deriving DecidableEq

def EventKind.text : EventKind → String
  | runStarted => "run-started"
  | modelCallStarted => "model-call-started"
  | modelCallFinished => "model-call-finished"
  | toolCallStarted => "tool-call-started"
  | toolCallFinished => "tool-call-finished"
  | contextChanged => "context-changed"
  | errorObserved => "error-observed"
  | runTerminated => "run-terminated"

def EventBody.kind : EventBody → EventKind
  | runStarted .. => .runStarted
  | modelCallStarted .. => .modelCallStarted
  | modelCallFinished .. => .modelCallFinished
  | toolCallStarted .. => .toolCallStarted
  | toolCallFinished .. => .toolCallFinished
  | contextChanged .. => .contextChanged
  | errorObserved .. => .errorObserved
  | runTerminated .. => .runTerminated

def isClassHead (letter : Char) : Bool := letter.isAlpha || letter == '_'

def isClassLetter (letter : Char) : Bool := letter.isAlphanum || letter == '_' || letter == '.'

/-- The names an exception class is recorded by. -/
def isClassName (name : String) : Bool :=
  match name.toList with
  | [] => false
  | letter :: letters =>
      isClassHead letter && letters.all isClassLetter && letters.length ≤ 199

/-- A text of one to two hundred letters. -/
def isLabel (text : String) : Bool := 1 ≤ text.length && text.length ≤ 200

/-- Every reason an event's own fields do not cohere. -/
def EventBody.incoherences : EventBody → List String
  | runStarted .. | modelCallStarted .. => []
  | modelCallFinished outcome reply errorClass promptTokens outputTokens toolCallsRequested _ _ =>
      (if errorClass.all isClassName then [] else ["error_class is not a class name"]) ++
      (if reply.isSome = (outcome = .replied) then []
        else ["a reply is recorded exactly when the model replied"]) ++
      (if errorClass.isSome = (outcome = .failed) then []
        else ["an error class is recorded exactly when the call failed"]) ++
      (if outcome ≠ .replied ∧
          (promptTokens ≠ 0 ∨ outputTokens ≠ 0 ∨ toolCallsRequested ≠ []) then
        ["only a reply counts tokens or requests tool calls"] else [])
  | toolCallStarted callId tool _ _ =>
      if isLabel callId && isLabel tool then [] else ["a call id and a tool are 1 to 200 letters"]
  | toolCallFinished outcome reason output _ _ errorClass =>
      (if errorClass.all isClassName then [] else ["error_class is not a class name"]) ++
      (if output.isSome = (outcome = .executed) then []
        else ["a tool output is recorded exactly when the tool executed"]) ++
      (if outcome = .executed ∧ reason.isSome then
        ["an executed tool call has no refusal or failure reason"] else []) ++
      (if outcome = .refused ∧ ¬ reason.any ToolReason.isRefusal then
        ["a refused tool call names its refusal"] else []) ++
      (if outcome = .failed ∧ ¬ reason.any (fun reason => !reason.isRefusal) then
        ["a failed tool call names its failure"] else []) ++
      (if errorClass.isSome = (reason = some .toolRaised) then []
        else ["an error class is recorded exactly when the tool raised"])
  | contextChanged _ turnsDropped _ _ =>
      if 1 ≤ turnsDropped then [] else ["turns_dropped is at least 1"]
  | errorObserved _ role =>
      if role.all (fun role => role.length ≤ 200) then [] else ["a role is at most 200 letters"]
  | runTerminated termination completed answer errorClass _ =>
      (if errorClass.all isClassName then [] else ["error_class is not a class name"]) ++
      (if completed = termination.completes then []
        else ["completed holds exactly for a completing termination"]) ++
      (if answer.isSome = completed then []
        else ["only a completed run has an answer, and every completed run has one"]) ++
      (if errorClass.isSome = (termination = .modelError) then []
        else ["only a model-error run records an error class, and it always does"])

/-- One event. Its id is derived from the trajectory and the sequence, so it is not kept apart. -/
structure TrajectoryEvent where
  trajectoryId : AttemptId
  sequence : Nat
  parent : Option Nat
  emittedAt : Option Core.Text
  body : EventBody
  coherent : body.incoherences = []
  earlier : ∀ place ∈ parent, place < sequence
  first : body.kind = .runStarted → sequence = 0 ∧ parent = none
  deriving DecidableEq

def TrajectoryEvent.kind (event : TrajectoryEvent) : EventKind := event.body.kind

/-- The texts that no pattern and no length binds. -/
def EventBody.texts : EventBody → List Core.Text
  | runStarted attribution _ _ effectiveTools _ => attribution.texts ++ effectiveTools
  | modelCallFinished _ _ _ _ _ toolCallsRequested _ _ => toolCallsRequested
  | toolCallStarted _ _ version _ => version.toList
  | modelCallStarted .. | toolCallFinished .. | contextChanged .. | errorObserved ..
  | runTerminated .. => []

/-- Whether UTF-8 has bytes for a text: no code point of it is a surrogate. -/
def isUnicode (text : Core.Text) : Bool :=
  text.all fun point => point.val < 0xd800 || 0xe000 ≤ point.val

def TrajectoryEvent.isUnicode (event : TrajectoryEvent) : Bool :=
  (event.emittedAt.toList ++ event.body.texts).all Trajectory.isUnicode

/-! ## Chunks -/

/-- One immutable chunk, by digest, and where it sits in the chain. -/
structure ChunkRef where
  index : Nat
  firstSequence : Nat
  lastSequence : Nat
  digest : Digest
  previous : Option Digest
  bytes : Nat
  events : Nat
  nonempty : 0 < bytes ∧ 0 < events
  forward : firstSequence ≤ lastSequence
  counted : events = lastSequence - firstSequence + 1
  deriving DecidableEq

/-- The chunks rolled so far. -/
structure TrajectoryProgress where
  trajectoryId : AttemptId
  chunks : List ChunkRef := []
  deriving DecidableEq

structure ChunkHeader where
  chunk : Nat
  previous : Option Digest
  trajectoryId : AttemptId
  deriving DecidableEq

/-! ## The manifest -/

inductive ContentField where
  | answer | arguments | output | reply | request | shown
  deriving DecidableEq

def ContentField.text : ContentField → String
  | answer => "answer"
  | arguments => "arguments"
  | output => "output"
  | reply => "reply"
  | request => "request"
  | shown => "shown"

/-- The place of a field among the fields, in the order of their names. -/
def ContentField.rank : ContentField → Nat
  | answer => 0
  | arguments => 1
  | output => 2
  | reply => 3
  | request => 4
  | shown => 5

/-- One content slot an event names. -/
structure ContentReference where
  sequence : Nat
  field : ContentField
  slot : ContentSlot
  deriving DecidableEq

/-- The content slots of an event, in the order of their fields. -/
def EventBody.contents : EventBody → List (ContentField × ContentSlot)
  | modelCallStarted _ request _ _ _ _ => [(.request, request)]
  | modelCallFinished _ reply _ _ _ _ _ _ => reply.toList.map (fun slot => (.reply, slot))
  | toolCallStarted _ _ _ arguments => [(.arguments, arguments)]
  | toolCallFinished _ _ output shown _ _ =>
      output.toList.map (fun slot => (.output, slot)) ++ [(.shown, shown)]
  | runTerminated _ _ answer _ _ => answer.toList.map (fun slot => (.answer, slot))
  | runStarted .. | contextChanged .. | errorObserved .. => []

/-- Every content slot the events name, in (sequence, field) order. -/
def contentReferences (events : List TrajectoryEvent) : List ContentReference :=
  events.flatMap fun event =>
    event.body.contents.map fun content => ⟨event.sequence, content.1, content.2⟩

inductive Completeness where
  | complete | partially
  deriving DecidableEq

/-- Everything a manifest says except its fingerprint, before it is validated. -/
structure TrajectoryManifestBody where
  trajectoryId : AttemptId
  attribution : TrajectoryAttribution
  writer : WriterIdentity
  runner : WriterIdentity
  recording : TrajectoryRecordingSpec
  chunks : List ChunkRef
  content : List ContentReference
  completeness : Completeness
  abandonment : Option Abandonment
  termination : Option TerminationReason
  resultDigest : Option Digest
  unattestedResult : Option Digest
  tornTailBytes : Nat
  sealedAt : String
  deriving DecidableEq

/-- Every chunk continues the one before it, from an expected sequence and digest on. -/
def chunkProblems : (position expectedNext : Nat) → (previous : Option Digest) → List ChunkRef →
    List String
  | _, _, _, [] => []
  | position, expectedNext, previous, chunk :: chunks =>
      (if chunk.index ≠ position then [s!"chunk {position} is indexed {chunk.index}"] else []) ++
      (if chunk.firstSequence ≠ expectedNext then
        [s!"chunk {position} does not continue the previous chunk's range"] else []) ++
      (if chunk.previous ≠ previous then
        [s!"chunk {position} does not name the previous chunk's digest"] else []) ++
      chunkProblems (position + 1) (chunk.lastSequence + 1) (some chunk.digest) chunks

/-- The first sequence behind the chunks. -/
def nextSequence (chunks : List ChunkRef) : Nat :=
  match chunks.getLast? with
  | none => 0
  | some chunk => chunk.lastSequence + 1

def ContentReference.key (reference : ContentReference) : Nat × ContentField :=
  (reference.sequence, reference.field)

def ContentReference.before (left right : Nat × ContentField) : Prop :=
  left.1 < right.1 ∨ (left.1 = right.1 ∧ left.2.rank ≤ right.2.rank)

instance : DecidableRel ContentReference.before := fun left right =>
  inferInstanceAs (Decidable (left.1 < right.1 ∨ (left.1 = right.1 ∧ left.2.rank ≤ right.2.rank)))

/-- No slot is listed twice, and none names an event that is not recorded. -/
def contentProblems (expectedNext : Nat) : (seen : List (Nat × ContentField)) →
    List ContentReference → List String
  | _, [] => []
  | seen, reference :: references =>
      (if reference.key ∈ seen then
        [s!"content {reference.field.text} at sequence {reference.sequence} is listed twice"]
        else []) ++
      (if expectedNext ≤ reference.sequence then
        [s!"content names sequence {reference.sequence}, beyond the recorded events"] else []) ++
      contentProblems expectedNext (reference.key :: seen) references

/-- Every way a manifest does not agree with itself. -/
def manifestProblems (m : TrajectoryManifestBody) : List String :=
  (match m.completeness with
    | .complete =>
        (if m.abandonment.isSome then ["a complete trajectory has no abandonment reason"]
          else []) ++
        (if m.resultDigest.isNone ∨ m.termination.isNone then
          ["a complete trajectory attests a result and its termination"] else []) ++
        (if m.chunks.isEmpty then ["a complete trajectory has chunks"] else [])
    | .partially =>
        (if m.abandonment.isNone then ["a partial trajectory names its abandonment reason"]
          else []) ++
        (if m.resultDigest.isSome then ["a partial trajectory attests no result"] else [])) ++
  (if m.unattestedResult.isSome ≠ decide (m.abandonment = some .postCommitEvidenceLost) then
    ["an unattested result is named exactly when post-commit evidence was lost"] else []) ++
  chunkProblems 0 0 none m.chunks ++
  contentProblems (nextSequence m.chunks) [] m.content ++
  (if m.content.map ContentReference.key ≠
      (m.content.map ContentReference.key).dedup.insertionSort ContentReference.before then
    ["the content table is in (sequence, field) order"] else [])

/-- A manifest body that agrees with itself: no other can be built. -/
structure ManifestBody extends TrajectoryManifestBody where
  consistent : manifestProblems toTrajectoryManifestBody = []
  deriving DecidableEq

/-- What a sealed trajectory is fingerprinted by: no locators, timestamps or availability. -/
structure TrajectoryIdentity where
  trajectoryId : AttemptId
  attribution : TrajectoryAttribution
  writer : WriterIdentity
  runner : WriterIdentity
  recording : Digest
  chunks : List Digest
  content : List ContentReference
  completeness : Completeness
  abandonment : Option Abandonment
  termination : Option TerminationReason
  resultDigest : Option Digest
  unattestedResult : Option Digest
  tornTailBytes : Nat

/-- The fingerprints of the records: a recording spec's and a sealed trajectory's. -/
structure Fingerprints where
  recording : TrajectoryRecordingSpec → Digest
  trajectory : TrajectoryIdentity → Digest

def trajectoryIdentityV1 (fingerprints : Fingerprints) (m : TrajectoryManifestBody) :
    TrajectoryIdentity where
  trajectoryId := m.trajectoryId
  attribution := m.attribution
  writer := m.writer
  runner := m.runner
  recording := fingerprints.recording m.recording
  chunks := m.chunks.map ChunkRef.digest
  content := m.content
  completeness := m.completeness
  abandonment := m.abandonment
  termination := m.termination
  resultDigest := m.resultDigest
  unattestedResult := m.unattestedResult
  tornTailBytes := m.tornTailBytes

/-- A sealed trajectory: consistent, and fingerprinted by its own identity. -/
structure TrajectoryManifest (fingerprints : Fingerprints) extends ManifestBody where
  trajectoryFingerprint : Digest
  fingerprinted : trajectoryFingerprint =
    fingerprints.trajectory (trajectoryIdentityV1 fingerprints toTrajectoryManifestBody)
  deriving DecidableEq

/-- The body with the fingerprint of its identity. -/
def ManifestBody.seal (fingerprints : Fingerprints) (body : ManifestBody) :
    TrajectoryManifest fingerprints where
  toManifestBody := body
  trajectoryFingerprint := fingerprints.trajectory
    (trajectoryIdentityV1 fingerprints body.toTrajectoryManifestBody)
  fingerprinted := rfl

/-! ## One attempt's ordered, causal history -/

/-- The kinds an event of a kind may follow. -/
def parentKinds : EventKind → EventKind → Bool
  | .modelCallStarted, parent | .contextChanged, parent =>
      parent ∈ [.runStarted, .modelCallFinished, .toolCallFinished, .contextChanged]
  | .modelCallFinished, parent => parent = .modelCallStarted
  | .toolCallStarted, parent => parent = .modelCallFinished
  | .toolCallFinished, parent => parent = .toolCallStarted
  | .errorObserved, parent | .runTerminated, parent => parent ≠ .runTerminated
  | .runStarted, _ => false

def EventBody.requested : EventBody → List Core.Text
  | modelCallFinished _ _ _ _ _ requested _ _ => requested
  | _ => []

def EventBody.startedCall : EventBody → Option Core.Text
  | toolCallStarted callId _ _ _ => some (Core.spell callId.toList)
  | _ => none

/-- The kinds that finish a call. -/
def EventKind.finishes : EventKind → Bool
  | modelCallFinished | toolCallFinished => true
  | _ => false

/-- What is wrong with an event behind the events before it, given the calls already finished. -/
def eventRefusals (before : List TrajectoryEvent) (finished : List Nat)
    (event : TrajectoryEvent) : List String :=
  let position := before.length
  if position = 0 then
    if event.kind ≠ .runStarted then ["the first event is run-started"] else []
  else if event.kind = .runStarted then [s!"run-started appears again at {position}"]
  else
    (if before.getLast?.any (fun last => last.kind = .runTerminated) then
      [s!"event {position} follows run-terminated"] else []) ++
    match event.parent.bind (fun place => before[place]?.map (place, ·)) with
    | none => [s!"event {position} names no earlier parent"]
    | some (place, parent) =>
        if ¬ parentKinds event.kind parent.kind then
          [s!"event {position} ({event.kind.text}) cannot follow a {parent.kind.text}"]
        else
          (if event.kind.finishes ∧ place ∈ finished then
            [s!"event {position} finishes a call that was already finished"] else []) ++
          (if event.body.startedCall.any (fun call => call ∉ parent.body.requested) then
            [s!"event {position} starts a tool call its model turn did not request"] else [])

/-- The calls finished once an event is read. -/
def finishedBy (before : List TrajectoryEvent) (finished : List Nat) (event : TrajectoryEvent) :
    List Nat :=
  match event.parent.bind (fun place => before[place]?.map (place, ·)) with
  | some (place, parent) =>
      if before ≠ [] ∧ event.kind.finishes ∧ parentKinds event.kind parent.kind then
        place :: finished else finished
  | none => finished

def refusalsFrom (trajectoryId : AttemptId) : (before : List TrajectoryEvent) →
    (finished : List Nat) → List TrajectoryEvent → List String
  | _, _, [] => []
  | before, finished, event :: events =>
      (if event.trajectoryId ≠ trajectoryId then
        [s!"event {before.length} belongs to another trajectory"] else []) ++
      if event.sequence ≠ before.length then
        [s!"sequence gap: expected {before.length}, found {event.sequence}"]
      else
        eventRefusals before finished event ++
          refusalsFrom trajectoryId (before ++ [event]) (finishedBy before finished event) events

/-- Every way the events fail to be one attempt's ordered, causal history. -/
def structuralRefusals (trajectoryId : AttemptId) (events : List TrajectoryEvent) : List String :=
  refusalsFrom trajectoryId [] [] events

/-! ## Agreement with the result -/

/-- A value the events and the result both state. -/
inductive Stated where
  | count (number : Nat)
  | flag (holds : Bool)
  | text (text : String)
  | none
  deriving DecidableEq

namespace Stated

def ofText : Option String → Stated
  | some spelled => text spelled
  | Option.none => none

/-- The value as it is shown in a message. -/
def shown : Stated → String
  | count number => toString number
  | flag true => "True"
  | flag false => "False"
  | text spelled => "'" ++ spelled ++ "'"
  | none => "None"

end Stated

namespace EventBody

/-- The tokens of a reply: shown, then answered. -/
def tokens : EventBody → Option (Nat × Nat)
  | modelCallFinished .replied _ _ promptTokens outputTokens _ _ _ =>
      some (promptTokens, outputTokens)
  | _ => none

def toolOutcome : EventBody → Option ToolOutcome
  | toolCallFinished outcome _ _ _ _ _ => some outcome
  | _ => none

/-- The turns left out because the context overflowed. -/
def truncated : EventBody → Nat
  | contextChanged .truncateOldest turnsDropped _ _ => turnsDropped
  | _ => 0

end EventBody

/-- How a run ended, as its terminating event states it. -/
structure Terminated where
  termination : TerminationReason
  completed : Bool
  answer : Option ContentSlot
  errorClass : Option String
  resultDigest : Digest

def EventBody.terminated : EventBody → Option Terminated
  | runTerminated termination completed answer errorClass resultDigest =>
      some ⟨termination, completed, answer, errorClass, resultDigest⟩
  | _ => none

/-- The first terminating event. -/
def terminatedOf (events : List TrajectoryEvent) : Option Terminated :=
  events.findSome? fun event => event.body.terminated

/-- What the events say the run did. -/
def counts (events : List TrajectoryEvent) : List (String × Stated) :=
  let replies := events.filterMap fun event => event.body.tokens
  let finishes := events.filterMap fun event => event.body.toolOutcome
  let terminated := terminatedOf events
  [("turns", .count replies.length),
    ("tool_calls", .count (events.countP fun event => event.kind = .toolCallStarted)),
    ("refused_tool_calls", .count (finishes.count .refused)),
    ("failed_tool_calls", .count (finishes.count .failed)),
    ("context_truncations", .count (events.map fun event => event.body.truncated).sum),
    ("prompt_tokens", .count (replies.map Prod.fst).sum),
    ("output_tokens", .count (replies.map Prod.snd).sum),
    ("termination", .ofText (terminated.map fun ending => ending.termination.text)),
    ("completed", terminated.elim .none fun ending => .flag ending.completed),
    ("error", .ofText (terminated.bind Terminated.errorClass))]

/-- What the result says of the same. -/
def HarnessRunFields.stated (result : HarnessRunFields) : List Stated :=
  [.count result.turns, .count result.toolCalls, .count result.refusedToolCalls,
    .count result.failedToolCalls, .count result.contextTruncations, .count result.promptTokens,
    .count result.outputTokens, .text result.termination.text, .flag result.completed,
    .ofText result.error]

/-- Every field on which the events and the result disagree. The answer is compared by digest. -/
def resultDisagreements (digestOfText : String → Digest) (events : List TrajectoryEvent)
    (result : HarnessRunResult) : List String :=
  (((counts events).zip result.stated).filterMap fun (⟨name, value⟩, stated) =>
    if stated = value then none
    else some (name ++ ": the events say " ++ value.shown ++ ", the result " ++ stated.shown)) ++
  (let replies := events.filterMap fun event => event.body.tokens
    if result.totalTokens ≠ (replies.map Prod.fst).sum + (replies.map Prod.snd).sum then
      ["total_tokens: not the events' prompt plus output tokens"] else []) ++
  match result.answer, (terminatedOf events).bind Terminated.answer with
  | none, none => []
  | none, some _ => ["answer: the events record one, the result has none"]
  | some answer, some (.captured _ digest _ _) =>
      if digest = digestOfText answer then []
      else ["answer: its digest differs from the captured answer"]
  | some _, _ => ["answer: the result has one the events did not capture"]

end Xaytune.Trajectory
