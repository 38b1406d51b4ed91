import Xaytune.Library.Delimited
import Xaytune.Runtimes.Supervision

/-!
# Relaying what a worker reports

The worker appends lines to its observations file; the launcher reads what is new on every turn
of its loop, wraps each valid record into an envelope of its own stream, and records an incident
for what it cannot read or wrap. The reader advances before it parses and keeps the bytes behind
the last newline for its next read.
-/

namespace Xaytune.Runtimes

abbrev Bytes : Type := List UInt8

/-- What `json.loads` makes of a text. A `ValueError` is an integer past the digit limit, a
`RecursionError` nesting past the interpreter's. -/
inductive Loaded (Value : Type) where
  | value (value : Value)
  | jsonDecodeError (text : String)
  | valueError
  | recursionError

/-- What the adapter of the target's observations makes of a value. -/
inductive Validated (Record : Type) where
  | record (record : Record)
  | validationError (text : String)
  | recursionError

/-- What `model_dump_json` makes of an envelope. -/
inductive Dumped where
  | json
  | valueError (text : String)
  | recursionError
  deriving DecidableEq

inductive TargetKind where
  | trainingAttempt
  | evaluationAttempt

inductive TelemetryProtocol where
  | v1alpha2
  | v1alpha3
  deriving DecidableEq

def TelemetryProtocol.text : TelemetryProtocol → String
  | .v1alpha2 => "xaytune.telemetry/v1alpha2"
  | .v1alpha3 => "xaytune.telemetry/v1alpha3"

/-- The correlation a worker claims for its record, as far as an envelope checks it. -/
structure CorrelationContext where
  runId : Option String
  attemptId : Option String
  evaluationRunId : Option String
  evaluationAttemptId : Option String
  streamGeneration : Option Nat

/-- A plan's target and contract, and the libraries that read and write its records. A record is
asked for its context and, when it is an `EvaluationCompleted`, whether it carries metrics.
`wrapped` words a refused envelope. -/
structure Telemetry (Value Record : Type) where
  kind : TargetKind
  target : String
  protocol : TelemetryProtocol
  path : String
  decodeError : Bytes → String
  loads : String → Loaded Value
  validate : Value → Validated Record
  context : Record → Option CorrelationContext
  completed : Record → Option Bool
  wrapped : String → Record → String
  dump : Record → Dumped

/-- `bytes.strip` leaves nothing. -/
def blank (raw : Bytes) : Bool := raw.all fun byte => byte = 32 || (9 ≤ byte && byte ≤ 13)

inductive Parsed (Record : Type) where
  | record (record : Record)
  | corrupt (reason : String)
  | raised
  deriving DecidableEq

/-- The loop variables of `read_new`. -/
structure Batch (Record : Type) where
  linesRead : Nat
  records : List Record
  failures : List (Nat × String)

structure AppendOnlyJsonlReader where
  offset : Nat
  tail : Bytes
  linesRead : Nat

def AppendOnlyJsonlReader.pendingBytes (reader : AppendOnlyJsonlReader) : Nat := reader.tail.length

/-- A corrupt batch carries its valid records, the numbers of the other lines and its own text. -/
inductive ReadNew (Record : Type) where
  | records (records : List Record)
  | corrupt (records : List Record) (lineNumbers : List Nat) (text : String)
  | raised

/-- What stands behind the first `": "` of a text. -/
def behindColon : List Char → Option (List Char)
  | [] => none
  | [_] => none
  | first :: second :: rest =>
      if first = ':' ∧ second = ' ' then some rest else behindColon (second :: rest)

/-- The text of a `CorruptRecordError`. -/
def corruptText (path : String) (lineNumber : Nat) (reason : String) : String :=
  path ++ " line " ++ toString lineNumber ++ " is not a valid record: " ++ reason

/-- The text of the error `read_new` raises for the failures of a batch. -/
def batchText (path : String) (first : Nat × String) (others : Nat) : String :=
  let text := corruptText path first.1 first.2
  let reason := ((behindColon text.toList).map String.ofList).getD text
  corruptText path first.1
    (if 0 < others then reason ++ " (and " ++ toString others ++ " more)" else reason)

namespace Telemetry

variable {Value Record : Type} (telemetry : Telemetry Value Record)

def parse (raw : Bytes) : Parsed Record :=
  match String.fromUTF8? ⟨raw.toArray⟩ with
  | none => .corrupt (telemetry.decodeError raw)
  | some text =>
      match telemetry.loads text with
      | .jsonDecodeError text => .corrupt text
      | .valueError | .recursionError => .raised
      | .value value =>
          match telemetry.validate value with
          | .record record => .record record
          | .validationError text => .corrupt text
          | .recursionError => .raised

/-- The loop of `read_new`; `false` tells that an exception left it. -/
def readLines : List Bytes → Batch Record → Batch Record × Bool
  | [], batch => (batch, true)
  | raw :: rest, ⟨linesRead, records, failures⟩ =>
      if blank raw then readLines rest ⟨linesRead + 1, records, failures⟩
      else
        match telemetry.parse raw with
        | .record record => readLines rest ⟨linesRead + 1, records ++ [record], failures⟩
        | .corrupt reason =>
            readLines rest ⟨linesRead + 1, records, failures ++ [(linesRead + 1, reason)]⟩
        | .raised => (⟨linesRead + 1, records, failures⟩, false)

/-- How `read_new` ends behind its loop. -/
def readResult (batch : Batch Record) : ReadNew Record :=
  match batch.failures with
  | [] => .records batch.records
  | first :: others =>
      .corrupt batch.records (first.1 :: others.map Prod.fst)
        (batchText telemetry.path first others.length)

def readNew (file : Option Bytes) (reader : AppendOnlyJsonlReader) :
    AppendOnlyJsonlReader × ReadNew Record :=
  match file.map (List.drop reader.offset) with
  | none | some [] => (reader, .records [])
  | some chunk =>
      let pieces := Library.cut 10 (reader.tail ++ chunk)
      let batch := telemetry.readLines pieces.1 ⟨reader.linesRead, [], []⟩
      (⟨reader.offset + chunk.length, pieces.2, batch.1.linesRead⟩,
        if batch.2 then telemetry.readResult batch.1 else .raised)

/-- `EvaluationCompleted` carries its metrics exactly when v1alpha3 says so. -/
def completionError (record : Record) : Option String :=
  match telemetry.completed record with
  | none => none
  | some metrics =>
      if telemetry.protocol = .v1alpha3 ∧ metrics = false then
        some "an EvaluationCompleted under xaytune.telemetry/v1alpha3 must carry its metrics: they are the evaluation's result, and a completion without them would leave a successful evaluation that measured nothing"
      else if telemetry.protocol ≠ .v1alpha3 ∧ metrics = true then
        some ("an EvaluationCompleted under " ++ telemetry.protocol.text ++
          " carries no metrics; inline results are xaytune.telemetry/v1alpha3, and the same version with a different payload would not be the same protocol")
      else none

/-- The checks an envelope makes of the context it is given. -/
def contextError (generation : Nat) (context : CorrelationContext) : Option String :=
  if context.streamGeneration.isSome ∧ context.streamGeneration ≠ some generation then
    some "context and envelope generations disagree"
  else
    match telemetry.kind with
    | .trainingAttempt =>
        if context.evaluationAttemptId.isSome ∨ context.evaluationRunId.isSome then
          some "training telemetry cannot claim evaluation context"
        else if context.attemptId.isSome ∧ context.attemptId ≠ some telemetry.target then
          some "context attempt and envelope target disagree"
        else none
    | .evaluationAttempt =>
        if context.attemptId.isSome ∨ context.runId.isSome then
          some "evaluation telemetry cannot claim training context"
        else if context.evaluationAttemptId.isSome ∧
            context.evaluationAttemptId ≠ some telemetry.target then
          some "context attempt and envelope target disagree"
        else none

/-- Why a record cannot be enveloped. Its payload is of the target's own family, which
`emit_observation` chooses by the kind the envelope compares it with. -/
def envelopeError (generation : Nat) (record : Record) : Option String :=
  match telemetry.completionError record with
  | some text => some text
  | none => (telemetry.context record).bind (telemetry.contextError generation)

/-- How `emit_observation` ends. -/
inductive Emitted where
  | written
  | valueError (text : String)
  | recursionError

/-- `emit_observation`: the sequence moves on between the envelope and its text. -/
def emitObservation (record : Record) (writer : EventWriter) (files : Files Record) :
    (EventWriter × Files Record) × Emitted :=
  match telemetry.envelopeError writer.generation record with
  | some text => ((writer, files), .valueError (telemetry.wrapped text record))
  | none =>
      match telemetry.dump record with
      | .json => (emit (.observed record) writer files, .written)
      | .valueError text =>
          (({ writer with sequence := writer.sequence + 1 }, files), .valueError text)
      | .recursionError =>
          (({ writer with sequence := writer.sequence + 1 }, files), .recursionError)

def invalidIncident (text : String) : Relayed Record :=
  .incident "invalid-observation"
    ("the worker reported an observation this target cannot carry: " ++ text)

def corruptIncident (lineNumbers : List Nat) (text : String) : Relayed Record :=
  .incident "corrupt-observation"
    ("lines " ++ String.intercalate ", " (lineNumbers.map toString) ++
      " of the worker's observations were not valid records: " ++ text)

def truncatedIncident (pendingBytes : Nat) : Relayed Record :=
  .incident "truncated-observation"
    ("the worker exited mid-write, leaving " ++ toString pendingBytes ++
      " bytes that were never a complete record")

/-- The loop of `relay_observations`; `false` tells that an exception left it. -/
def relayRecords : List Record → EventWriter × Files Record → (EventWriter × Files Record) × Bool
  | [], stream => (stream, true)
  | record :: rest, stream =>
      match telemetry.emitObservation record stream.1 stream.2 with
      | (stream, .written) => relayRecords rest stream
      | (stream, .valueError text) =>
          relayRecords rest (emit (invalidIncident text).payload stream.1 stream.2)
      | (stream, .recursionError) => (stream, false)

end Telemetry

/-- How far the launcher is with its worker. -/
inductive Watch where
  | waiting
  | finished
  | raised
  deriving DecidableEq

/-- The observations file, the worker behind it and the launcher in front of it. -/
structure Relay (Record : Type) where
  observations : Option Bytes
  exited : Bool
  reader : AppendOnlyJsonlReader
  writer : EventWriter
  files : Files Record
  watch : Watch

inductive RelayMove where
  | append (bytes : Bytes)
  | exit
  | poll
  | drain

namespace Relay

variable {Value Record : Type} (telemetry : Telemetry Value Record)

def put (stream : EventWriter × Files Record) (relay : Relay Record) : Relay Record :=
  { relay with writer := stream.1, files := stream.2 }

def emit (relayed : Relayed Record) (relay : Relay Record) : Relay Record :=
  relay.put (Runtimes.emit relayed.payload relay.writer relay.files)

/-- `relay_observations`. -/
def relayObservations (relay : Relay Record) : Relay Record :=
  let read := telemetry.readNew relay.observations relay.reader
  let relay := { relay with reader := read.1 }
  match read.2 with
  | .raised => { relay with watch := .raised }
  | .records records =>
      match telemetry.relayRecords records (relay.writer, relay.files) with
      | (stream, true) => relay.put stream
      | (stream, false) => { relay.put stream with watch := .raised }
  | .corrupt records lineNumbers text =>
      match telemetry.relayRecords records (relay.writer, relay.files) with
      | (stream, true) => (relay.put stream).emit (Telemetry.corruptIncident lineNumbers text)
      | (stream, false) => { relay.put stream with watch := .raised }

/-- What `_supervise` does once the worker has exited. -/
def drain (relay : Relay Record) : Relay Record :=
  let relay := relay.relayObservations telemetry
  match relay.watch with
  | .waiting =>
      if relay.reader.pendingBytes = 0 then { relay with watch := .finished }
      else
        { relay.emit (Telemetry.truncatedIncident relay.reader.pendingBytes) with
          watch := .finished }
  | .finished | .raised => relay

/-- A poll may have seen the worker run just before it exited. -/
def step : RelayMove → Relay Record → Relay Record
  | .append bytes, relay =>
      if relay.exited then relay
      else { relay with observations := some (relay.observations.getD [] ++ bytes) }
  | .exit, relay => { relay with exited := true }
  | .poll, relay => if relay.watch = .waiting then relay.relayObservations telemetry else relay
  | .drain, relay =>
      if relay.watch = .waiting ∧ relay.exited then relay.drain telemetry else relay

/-- The worker has been announced, and has written nothing yet. -/
def start (pid : Nat) (cancelRequest : Bool) : Relay Record :=
  let files : Files Record := .fresh cancelRequest
  let stream := Runtimes.emit (.workerReady pid) (.open files.events) files
  { observations := none, exited := false, reader := ⟨0, [], 0⟩, writer := stream.1
    files := stream.2, watch := .waiting }

end Relay

/-! ## The relay as its supervisor's step -/

variable {Value Record : Type} {telemetry : Telemetry Value Record}

/-- The stream goes on with what is relayed. -/
def Adds (relayed : List (Relayed Record)) (files later : Files Record) : Prop :=
  later.events.map Event.payload = files.events.map Event.payload ++ relayed.map Relayed.payload

theorem emitAll_adds (relayed : List (Relayed Record)) (writer : EventWriter)
    (files : Files Record) :
    Adds relayed files (emitAll (relayed.map Relayed.payload) writer files).2 :=
  emitAll_payloads ..

theorem Adds.trans {relayed more : List (Relayed Record)} {files later last : Files Record}
    (adds : Adds relayed files later) (further : Adds more later last) :
    Adds (relayed ++ more) files last := by
  rw [Adds, List.map_append, ← List.append_assoc, ← adds]
  exact further

theorem Telemetry.relayRecords_adds (records : List Record) (stream : EventWriter × Files Record) :
    ∃ relayed, Adds relayed stream.2 (telemetry.relayRecords records stream).1.2 := by
  induction records generalizing stream with
  | nil => exact ⟨[], by simp [Adds, relayRecords]⟩
  | cons record rest ih =>
      obtain ⟨writer, files⟩ := stream
      simp only [relayRecords, emitObservation]
      cases telemetry.envelopeError writer.generation record with
      | some text =>
          obtain ⟨relayed, adds⟩ := ih _
          exact ⟨_, (emitAll_adds [invalidIncident (telemetry.wrapped text record)] _ _).trans adds⟩
      | none =>
          cases telemetry.dump record with
          | json =>
              obtain ⟨relayed, adds⟩ := ih _
              exact ⟨_, (emitAll_adds [.observation record] _ _).trans adds⟩
          | valueError text =>
              obtain ⟨relayed, adds⟩ := ih _
              exact ⟨_, (emitAll_adds [invalidIncident text] _ _).trans adds⟩
          | recursionError => exact ⟨[], by simp [Adds]⟩

theorem Relay.relayObservations_adds (relay : Relay Record) :
    ∃ relayed, Adds relayed relay.files (relay.relayObservations telemetry).files := by
  have recorded := fun records =>
    telemetry.relayRecords_adds records (relay.writer, relay.files)
  simp only [relayObservations]
  cases (telemetry.readNew relay.observations relay.reader).2 with
  | raised => exact ⟨[], by simp [Adds]⟩
  | records records =>
      obtain ⟨relayed, adds⟩ := recorded records
      rcases sent : telemetry.relayRecords records (relay.writer, relay.files) with ⟨stream, done⟩
      rw [sent] at adds
      simp only [sent]
      cases done with
      | true | false => exact ⟨relayed, adds⟩
  | corrupt records lineNumbers text =>
      obtain ⟨relayed, adds⟩ := recorded records
      rcases sent : telemetry.relayRecords records (relay.writer, relay.files) with ⟨stream, done⟩
      rw [sent] at adds
      simp only [sent]
      cases done with
      | true =>
          exact ⟨_, adds.trans (emitAll_adds [Telemetry.corruptIncident lineNumbers text] _ _)⟩
      | false => exact ⟨relayed, adds⟩

/-- A turn of the relay is a step of its supervisor: both add the same to the stream, and an
exception that leaves the one ends the other. -/
theorem Relay.relayObservations_supervised {relay after : Relay Record}
    (turned : relay.relayObservations telemetry = after) : ∃ relayed,
    Adds relayed relay.files after.files ∧
    ∀ (spawned : Except String Nat) (self : Supervisor) (signalled : Bool) (code : Int),
      let step := self.step ⟨spawned, relayed, after.reader.pendingBytes, after.watch = .raised⟩
        relay.files
      (self.phase = .relaying signalled → Adds relayed relay.files step.2 ∧
        step.1.phase = if after.watch = .raised then .raised else .looking signalled) ∧
      (self.phase = .draining signalled code → Adds relayed relay.files step.2 ∧
        step.1.phase = if after.watch = .raised then .raised else .truncating signalled code) := by
  obtain ⟨relayed, adds⟩ : ∃ relayed,
      Adds relayed relay.files (relay.relayObservations telemetry).files :=
    relay.relayObservations_adds
  refine ⟨relayed, turned ▸ adds, ?_⟩
  intro spawned self signalled code
  constructor
  · intro relaying
    simp only [Supervisor.step, relaying, decide_eq_true_eq]
    exact ⟨emitAll_adds .., rfl⟩
  · intro draining
    simp only [Supervisor.step, draining, decide_eq_true_eq]
    exact ⟨emitAll_adds .., rfl⟩

end Xaytune.Runtimes
