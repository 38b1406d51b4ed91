import Xaytune.Runtimes.Observations

/-!
# Every observation is relayed once

A line is tame when reading it and writing its envelope raise nothing that the launcher does not
catch. While the worker's lines are tame, every read hands on what stands behind the last one:
each valid record in its place, one incident for each record that cannot be enveloped, and one
that names the lines that could not be read.
-/

namespace Xaytune.Runtimes

open Xaytune.Library

namespace Telemetry

variable {Value Record : Type} (telemetry : Telemetry Value Record)

/-- The record a complete line holds. -/
def recordOf (raw : Bytes) : Option Record :=
  if blank raw then none
  else
    match telemetry.parse raw with
    | .record record => some record
    | .corrupt _ | .raised => none

/-- The record a complete line adds to the stream as an observation. -/
def carried (generation : Nat) (raw : Bytes) : Option Record :=
  (telemetry.recordOf raw).filter fun record =>
    (telemetry.envelopeError generation record).isNone

/-- Why a complete line does not parse. -/
def unreadable (raw : Bytes) : Option String :=
  if blank raw then none
  else
    match telemetry.parse raw with
    | .corrupt reason => some reason
    | .record _ | .raised => none

/-- The lines that do not parse, with their numbers behind those read before. -/
def unreadableLines (before : Nat) : List Bytes → List (Nat × String)
  | [] => []
  | raw :: rest =>
      ((telemetry.unreadable raw).map (before + 1, ·)).toList ++ unreadableLines (before + 1) rest

/-- Nothing that the line makes the launcher do raises past its handlers, and a record that can
be enveloped can be written out. -/
def tame (generation : Nat) (raw : Bytes) : Bool :=
  blank raw ||
    match telemetry.parse raw with
    | .corrupt _ => true
    | .raised => false
    | .record record =>
        (telemetry.envelopeError generation record).isSome || telemetry.dump record = .json

/-- What the stream is told of a record. -/
def relayedRecord (generation : Nat) (record : Record) : Relayed Record :=
  match telemetry.envelopeError generation record with
  | some text => invalidIncident (telemetry.wrapped text record)
  | none => .observation record

def relayedFailures (failures : List (Nat × String)) : List (Relayed Record) :=
  match failures with
  | [] => []
  | first :: others =>
      [corruptIncident (first.1 :: others.map Prod.fst)
        (batchText telemetry.path first others.length)]

/-- What the stream is told of the lines behind those read before. -/
def relayedLines (generation before : Nat) (lines : List Bytes) : List (Relayed Record) :=
  (lines.filterMap telemetry.recordOf).map (telemetry.relayedRecord generation) ++
    telemetry.relayedFailures (telemetry.unreadableLines before lines)

variable {telemetry} {generation before : Nat} {raw : Bytes} {record : Record} {reason : String}

theorem parse_of_recordOf (found : telemetry.recordOf raw = some record) :
    blank raw = false ∧ telemetry.parse raw = .record record := by
  unfold recordOf at found
  split_ifs at found with isBlank
  cases parsed : telemetry.parse raw with
  | record other =>
      simp only [parsed, Option.some.injEq] at found
      exact ⟨by simpa using isBlank, by rw [found]⟩
  | corrupt _ => simp [parsed] at found
  | raised => simp [parsed] at found

theorem dump_of_tame (quiet : telemetry.tame generation raw = true)
    (found : telemetry.recordOf raw = some record)
    (enveloped : telemetry.envelopeError generation record = none) :
    telemetry.dump record = .json := by
  obtain ⟨filled, parsed⟩ := parse_of_recordOf found
  simpa [tame, filled, parsed, enveloped] using quiet

/-- Reading tame lines keeps their records in order and notes the other lines by number. -/
theorem readLines_of_tame {lines : List Bytes}
    (quiet : ∀ raw ∈ lines, telemetry.tame generation raw = true) (batch : Batch Record) :
    telemetry.readLines lines batch =
      (⟨batch.linesRead + lines.length, batch.records ++ lines.filterMap telemetry.recordOf,
        batch.failures ++ telemetry.unreadableLines batch.linesRead lines⟩, true) := by
  induction lines generalizing batch with
  | nil => simp [readLines, unreadableLines]
  | cons raw rest ih =>
      obtain ⟨linesRead, records, failures⟩ := batch
      have rests := ih fun raw member => quiet raw (List.mem_cons_of_mem _ member)
      have first := quiet raw List.mem_cons_self
      by_cases isBlank : blank raw = true
      · simp only [readLines, isBlank, if_true, rests, unreadableLines, unreadable]
        simp [recordOf, isBlank, Nat.add_comm, Nat.add_left_comm]
      · cases parsed : telemetry.parse raw with
        | record | corrupt =>
            simp only [readLines, isBlank, parsed, rests, unreadableLines, unreadable]
            simp [recordOf, isBlank, parsed, Nat.add_comm, Nat.add_left_comm]
        | raised => simp [tame, isBlank, parsed] at first

/-- Records whose envelopes can be written are relayed one by one. -/
theorem relayRecords_of_writable {records : List Record} {writer : EventWriter}
    {files : Files Record} (isGeneration : writer.generation = generation)
    (writable : ∀ record ∈ records, telemetry.envelopeError generation record = none →
      telemetry.dump record = .json) :
    telemetry.relayRecords records (writer, files) =
      (emitAll (records.map fun record => (telemetry.relayedRecord generation record).payload)
        writer files, true) := by
  induction records generalizing writer files with
  | nil => rfl
  | cons record rest ih =>
      have rests := fun record member => writable record (List.mem_cons_of_mem _ member)
      rw [List.map_cons, emitAll_cons]
      cases enveloped : telemetry.envelopeError generation record with
      | some text =>
          simp only [relayRecords, emitObservation, isGeneration, enveloped, relayedRecord]
          exact ih isGeneration rests
      | none =>
          have json := writable record List.mem_cons_self enveloped
          simp only [relayRecords, emitObservation, isGeneration, enveloped, json, relayedRecord]
          exact ih isGeneration rests

theorem mem_unreadableLines {lines : List Bytes} {number : Nat} :
    (number, reason) ∈ telemetry.unreadableLines before lines ↔
      ∃ index raw, lines[index]? = some raw ∧ number = before + index + 1 ∧
        telemetry.unreadable raw = some reason := by
  induction lines generalizing before with
  | nil => simp [unreadableLines]
  | cons raw rest ih =>
      simp only [unreadableLines, List.mem_append, Option.mem_toList, Option.map_eq_some_iff, ih]
      constructor
      · rintro (⟨why, found, same⟩ | ⟨index, other, at_, rfl, found⟩)
        · obtain ⟨rfl, rfl⟩ := Prod.mk.inj same
          exact ⟨0, raw, rfl, rfl, found⟩
        · exact ⟨index + 1, other, at_, by omega, found⟩
      · rintro ⟨index, other, at_, rfl, found⟩
        cases index with
        | zero =>
            obtain rfl := Option.some.inj at_
            exact .inl ⟨reason, found, rfl⟩
        | succ index => exact .inr ⟨index, other, at_, by omega, found⟩

end Telemetry

section emitAll

variable {Record : Type} (payloads : List (Payload Record)) {writer : EventWriter}
  {files : Files Record}

/-- The stream's sequence numbers are those the writer has given out, in order. -/
def Gapless (writer : EventWriter) (files : Files Record) : Prop :=
  files.events.map Event.sequence = List.range writer.sequence

theorem Gapless.emitAll (gapless : Gapless writer files) :
    Gapless (emitAll payloads writer files).1 (emitAll payloads writer files).2 := by
  induction payloads generalizing writer files with
  | nil => exact gapless
  | cons payload rest ih =>
      rw [emitAll_cons]
      apply ih
      simp only [Gapless, emit, List.map_append, List.range_succ]
      rw [gapless]
      rfl

@[simp]
theorem emitAll_generation : (emitAll payloads writer files).1.generation = writer.generation := by
  induction payloads generalizing writer files with
  | nil => rfl
  | cons payload rest ih =>
      rw [emitAll_cons, ih]
      rfl

theorem emitAll_append (more : List (Payload Record)) :
    emitAll (payloads ++ more) writer files =
      emitAll more (emitAll payloads writer files).1 (emitAll payloads writer files).2 := by
  simp [emitAll, List.foldl_append]

end emitAll

namespace Relay

variable {Value Record : Type} {telemetry : Telemetry Value Record} {relay : Relay Record}

def file (relay : Relay Record) : Bytes := relay.observations.getD []

/-- The complete lines of the file. -/
def lines (relay : Relay Record) : List Bytes := (cut 10 relay.file).1

/-- The complete lines the launcher has read. -/
def linesRead (relay : Relay Record) : List Bytes :=
  (cut 10 (relay.file.take relay.reader.offset)).1

/-- Where the reader stands in the file. -/
structure Placed (relay : Relay Record) : Prop where
  offset : relay.reader.offset ≤ relay.file.length
  tail : relay.reader.tail = (cut 10 (relay.file.take relay.reader.offset)).2
  count : relay.reader.linesRead = relay.linesRead.length

/-- The lines a read finds behind those read before. -/
def fresh (relay : Relay Record) : List Bytes := relay.lines.drop relay.reader.linesRead

theorem Placed.cut_file (placed : relay.Placed) :
    cut 10 relay.file = (relay.linesRead ++
      (cut 10 (relay.reader.tail ++ relay.file.drop relay.reader.offset)).1,
      (cut 10 (relay.reader.tail ++ relay.file.drop relay.reader.offset)).2) := by
  conv_lhs => rw [← List.take_append_drop relay.reader.offset relay.file, cut_append]
  rw [placed.tail]
  rfl

theorem Placed.fresh_eq (placed : relay.Placed) :
    relay.fresh = (cut 10 (relay.reader.tail ++ relay.file.drop relay.reader.offset)).1 := by
  rw [fresh, lines, placed.cut_file, placed.count]
  exact List.drop_left

theorem Placed.lines_eq (placed : relay.Placed) : relay.lines = relay.linesRead ++ relay.fresh := by
  rw [placed.fresh_eq, lines, placed.cut_file]

theorem Placed.readNew (placed : relay.Placed) {generation : Nat}
    (quiet : ∀ raw ∈ relay.fresh, telemetry.tame generation raw = true) :
    telemetry.readNew relay.observations relay.reader =
      (⟨relay.file.length, (cut 10 relay.file).2, relay.lines.length⟩,
        telemetry.readResult ⟨relay.lines.length, relay.fresh.filterMap telemetry.recordOf,
          telemetry.unreadableLines relay.reader.linesRead relay.fresh⟩) := by
  have total : relay.lines.length = relay.reader.linesRead + relay.fresh.length := by
    rw [placed.lines_eq, List.length_append, placed.count]
  by_cases nothing : relay.file.drop relay.reader.offset = []
  · have fresh : relay.fresh = [] := by
      rw [placed.fresh_eq, nothing, List.append_nil, placed.tail, cut_behind]
    have offset : relay.reader.offset = relay.file.length :=
      Nat.le_antisymm placed.offset (List.drop_eq_nil_iff.mp nothing)
    have behind : (cut 10 relay.file).2 = relay.reader.tail := by
      rw [placed.tail, offset, List.take_length]
    have idle : telemetry.readNew relay.observations relay.reader =
        (relay.reader, .records []) := by
      unfold Telemetry.readNew
      cases observations : relay.observations with
      | none => rfl
      | some bytes =>
          have bytes_nothing : bytes.drop relay.reader.offset = [] := by
            simpa only [file, observations, Option.getD_some] using nothing
          simp only [Option.map_some, bytes_nothing]
    rw [idle, total, fresh, ← offset, behind]
    rfl
  · obtain ⟨bytes, observations⟩ : ∃ bytes, relay.observations = some bytes := by
      apply Option.ne_none_iff_exists'.mp
      intro missing
      simp [file, missing] at nothing
    have file_eq : relay.file = bytes := by simp [file, observations]
    rw [file_eq] at nothing
    obtain ⟨byte, rest, chunk⟩ := List.exists_cons_of_ne_nil nothing
    have long : relay.reader.offset + (byte :: rest).length = relay.file.length := by
      rw [← chunk, List.length_drop, file_eq]
      have := placed.offset
      rw [file_eq] at this
      omega
    unfold Telemetry.readNew
    simp only [observations, Option.map_some, chunk]
    rw [← chunk, ← file_eq, ← placed.fresh_eq, Telemetry.readLines_of_tame quiet]
    simp only [List.nil_append, if_true, total]
    rw [file_eq, chunk, long, file_eq, ← file_eq, placed.cut_file, file_eq, chunk]

/-- What the read of tame lines makes of a launcher that is in place. -/
def told (telemetry : Telemetry Value Record) (relay : Relay Record) : List (Relayed Record) :=
  telemetry.relayedLines relay.writer.generation relay.reader.linesRead relay.fresh

/-- The launcher behind a read that raised nothing. -/
def relayed (telemetry : Telemetry Value Record) (relay : Relay Record) : Relay Record :=
  { relay with
    reader := ⟨relay.file.length, (cut 10 relay.file).2, relay.lines.length⟩ }.put
    (emitAll ((relay.told telemetry).map Relayed.payload) relay.writer relay.files)

/-- Reading tame lines raises nothing, and tells the stream of each of them. -/
theorem Placed.relayObservations (placed : relay.Placed)
    (quiet : ∀ raw ∈ relay.fresh, telemetry.tame relay.writer.generation raw = true) :
    relay.relayObservations telemetry = relay.relayed telemetry := by
  have writable : ∀ record ∈ relay.fresh.filterMap telemetry.recordOf,
      telemetry.envelopeError relay.writer.generation record = none →
        telemetry.dump record = .json := by
    intro record member enveloped
    obtain ⟨raw, isFresh, found⟩ := List.mem_filterMap.mp member
    exact Telemetry.dump_of_tame (quiet raw isFresh) found enveloped
  have relayed := fun files => @Telemetry.relayRecords_of_writable _ _ telemetry _ _ _ files rfl
    writable
  unfold Relay.relayObservations
  rw [placed.readNew quiet]
  simp only [Telemetry.readResult, Relay.relayed, told, Telemetry.relayedLines]
  cases failures : telemetry.unreadableLines relay.reader.linesRead relay.fresh with
  | nil =>
      simp only [relayed, Telemetry.relayedFailures, List.append_nil, List.map_map]
      rfl
  | cons first others =>
      simp only [relayed, Telemetry.relayedFailures, List.map_append, List.map_map,
        emitAll_append]
      rfl

def observation : Payload Record → Option Record
  | .observed record => some record
  | .workerReady _ | .incidentObserved _ _ _ _ => none

def isTruncated : Payload Record → Bool
  | .incidentObserved reason _ _ _ => reason = "truncated-observation"
  | .workerReady _ | .observed _ => false

/-- The records the stream holds as observations. -/
def observed (relay : Relay Record) : List Record :=
  (relay.files.events.map Event.payload).filterMap observation

/-- How many incidents tell of a line that was cut off. -/
def truncations (relay : Relay Record) : Nat :=
  (relay.files.events.map Event.payload).countP isTruncated

theorem observations_relayedFailures (failures : List (Nat × String)) :
    ((telemetry.relayedFailures failures).map Relayed.payload).filterMap observation = [] := by
  cases failures <;> rfl

theorem observations_relayedRecords (generation : Nat) (lines : List Bytes) :
    ((lines.filterMap telemetry.recordOf).map fun record =>
        (telemetry.relayedRecord generation record).payload).filterMap observation =
      lines.filterMap (telemetry.carried generation) := by
  rw [List.filterMap_map, List.filterMap_filterMap]
  apply List.filterMap_congr
  intro raw _
  cases found : telemetry.recordOf raw with
  | none => simp [Telemetry.carried, found]
  | some record =>
      cases enveloped : telemetry.envelopeError generation record <;>
        simp [Telemetry.carried, found, Telemetry.relayedRecord, enveloped, observation,
          Telemetry.invalidIncident, Relayed.payload, Option.filter_some]

theorem observations_told : ((relay.told telemetry).map Relayed.payload).filterMap observation =
    relay.fresh.filterMap (telemetry.carried relay.writer.generation) := by
  rw [told, Telemetry.relayedLines, List.map_append, List.filterMap_append, List.map_map,
    observations_relayedFailures, List.append_nil]
  exact observations_relayedRecords _ _

theorem not_truncated_told (payload : Payload Record)
    (member : payload ∈ (relay.told telemetry).map Relayed.payload) :
    isTruncated payload = false := by
  simp only [told, Telemetry.relayedLines, List.map_append, List.mem_append, List.map_map,
    List.mem_map] at member
  rcases member with ⟨record, _, rfl⟩ | ⟨relayed, failing, rfl⟩
  · cases enveloped : telemetry.envelopeError relay.writer.generation record <;>
      simp [Telemetry.relayedRecord, enveloped, isTruncated, Telemetry.invalidIncident,
        Relayed.payload]
  · cases failures : telemetry.unreadableLines relay.reader.linesRead relay.fresh with
    | nil => simp [Telemetry.relayedFailures, failures] at failing
    | cons first others =>
        simp only [Telemetry.relayedFailures, failures, List.mem_singleton] at failing
        simp [failing, Telemetry.corruptIncident, Relayed.payload, isTruncated]

theorem observed_relayed : (relay.relayed telemetry).observed =
    relay.observed ++ relay.fresh.filterMap (telemetry.carried relay.writer.generation) := by
  simp only [observed, relayed, put, emitAll_payloads, List.filterMap_append, observations_told]

theorem truncations_relayed : (relay.relayed telemetry).truncations = relay.truncations := by
  have quiet : ((relay.told telemetry).map Relayed.payload).countP isTruncated = 0 := by
    apply List.countP_eq_zero.mpr
    intro payload member
    simp [not_truncated_told payload member]
  simp only [truncations, relayed, put, emitAll_payloads, List.countP_append, quiet, Nat.add_zero]

/-- What holds in front of every move of a worker whose lines are tame. -/
structure Sound (telemetry : Telemetry Value Record) (relay : Relay Record) : Prop where
  alive : relay.watch ≠ .raised
  placed : relay.Placed
  quiet : ∀ raw ∈ relay.lines, telemetry.tame relay.writer.generation raw = true
  observed : relay.observed =
    relay.linesRead.filterMap (telemetry.carried relay.writer.generation)
  gapless : Gapless relay.writer relay.files
  waiting : relay.watch = .waiting → relay.truncations = 0
  finished : relay.watch = .finished → relay.exited = true ∧
    relay.reader.offset = relay.file.length ∧
    relay.truncations = if (cut 10 relay.file).2 = [] then 0 else 1

theorem relayed_placed : (relay.relayed telemetry).Placed := by
  constructor
  · exact Nat.le_refl _
  · simp [relayed, put, file]
  · simp [relayed, put, linesRead, lines, file]

theorem linesRead_relayed : (relay.relayed telemetry).linesRead = relay.lines := by
  simp [relayed, put, linesRead, lines, file]

/-- A read keeps everything but the end of the watch. -/
theorem Sound.relayed (sound : relay.Sound telemetry) (waiting : relay.watch = .waiting) :
    (relay.relayed telemetry).Sound telemetry := by
  have generation : (relay.relayed telemetry).writer.generation = relay.writer.generation :=
    emitAll_generation _
  refine ⟨sound.alive, relayed_placed, ?_, ?_, sound.gapless.emitAll _, ?_, ?_⟩
  · rw [generation]
    exact sound.quiet
  · rw [observed_relayed, generation, linesRead_relayed, sound.placed.lines_eq,
      List.filterMap_append, sound.observed]
  · intro _
    rw [truncations_relayed]
    exact sound.waiting waiting
  · intro finished
    cases waiting.symm.trans finished

theorem Sound.fresh (sound : relay.Sound telemetry) :
    ∀ raw ∈ relay.fresh, telemetry.tame relay.writer.generation raw = true :=
  fun raw member => sound.quiet raw (List.mem_of_mem_drop member)

/-- The launcher behind the last read tells of a line that was cut off, and is done. -/
def drained (telemetry : Telemetry Value Record) (relay : Relay Record) : Relay Record :=
  { relay.relayed telemetry with watch := .finished }.put
    (emitAll (if (cut 10 relay.file).2 = [] then []
        else [(Telemetry.truncatedIncident (cut 10 relay.file).2.length).payload])
      (relay.relayed telemetry).writer (relay.relayed telemetry).files)

theorem Sound.drain_eq (sound : relay.Sound telemetry) (waiting : relay.watch = .waiting) :
    relay.drain telemetry = relay.drained telemetry := by
  have watch : (relay.relayed telemetry).watch = .waiting := waiting
  have pending : (relay.relayed telemetry).reader.pendingBytes = (cut 10 relay.file).2.length := rfl
  simp only [drain, sound.placed.relayObservations sound.fresh, watch, pending,
    List.length_eq_zero_iff, drained]
  split_ifs <;> rfl

theorem Sound.drained (sound : relay.Sound telemetry) (waiting : relay.watch = .waiting)
    (exited : relay.exited = true) : (relay.drained telemetry).Sound telemetry := by
  have relayed := sound.relayed waiting
  have generation : (relay.drained telemetry).writer.generation =
      (relay.relayed telemetry).writer.generation := emitAll_generation _
  refine ⟨nofun, ⟨relayed.placed.offset, relayed.placed.tail, relayed.placed.count⟩, ?_, ?_,
    relayed.gapless.emitAll _, nofun, ?_⟩
  · rw [generation]
    exact relayed.quiet
  · have read : (relay.drained telemetry).linesRead = (relay.relayed telemetry).linesRead := rfl
    rw [generation, read, ← relayed.observed]
    simp only [Relay.observed, Relay.drained, put, emitAll_payloads, List.filterMap_append]
    split_ifs <;> simp [observation, Telemetry.truncatedIncident, Relayed.payload]
  · intro _
    have before := relayed.waiting waiting
    simp only [truncations] at before
    refine ⟨exited, rfl, ?_⟩
    have file : (relay.drained telemetry).file = relay.file := rfl
    rw [file]
    simp only [truncations, Relay.drained, put, emitAll_payloads, List.countP_append, before]
    split_ifs <;> simp [isTruncated, Telemetry.truncatedIncident, Relayed.payload]

/-- The worker only completes tame lines. -/
def Tame (telemetry : Telemetry Value Record) (relay : Relay Record) : RelayMove → Prop
  | .append bytes => ∀ raw ∈ (cut 10 (relay.file ++ bytes)).1,
      telemetry.tame relay.writer.generation raw = true
  | .exit | .poll | .drain => True

instance (telemetry : Telemetry Value Record) (relay : Relay Record) (move : RelayMove) :
    Decidable (relay.Tame telemetry move) :=
  match move with
  | .append _ => inferInstanceAs (Decidable (∀ _ ∈ _, _))
  | .exit | .poll | .drain => .isTrue trivial

theorem Sound.append (sound : relay.Sound telemetry) {bytes : Bytes}
    (tame : relay.Tame telemetry (.append bytes)) :
    (relay.step telemetry (.append bytes)).Sound telemetry := by
  simp only [step]
  split_ifs with exited
  · exact sound
  · have same : (relay.file ++ bytes).take relay.reader.offset =
        relay.file.take relay.reader.offset :=
      List.take_append_of_le_length sound.placed.offset
    refine ⟨sound.alive, ⟨?_, ?_, ?_⟩, tame, ?_, sound.gapless, sound.waiting, ?_⟩
    · exact Nat.le_trans sound.placed.offset (by simp [file])
    · exact sound.placed.tail.trans (by rw [← same]; rfl)
    · exact sound.placed.count.trans (by rw [linesRead, ← same]; rfl)
    · exact sound.observed.trans (by rw [linesRead, ← same]; rfl)
    · intro finished
      exact absurd (sound.finished finished).1 exited

theorem Sound.start (telemetry : Telemetry Value Record) (pid : Nat) (cancelRequest : Bool) :
    (Relay.start pid cancelRequest).Sound telemetry where
  alive := nofun
  placed := ⟨Nat.le_refl _, rfl, rfl⟩
  quiet := nofun
  observed := rfl
  gapless := rfl
  waiting := fun _ => rfl
  finished := nofun

theorem Sound.step (sound : relay.Sound telemetry) (move : RelayMove)
    (tame : relay.Tame telemetry move) : (relay.step telemetry move).Sound telemetry := by
  cases move with
  | append bytes => exact sound.append tame
  | exit =>
      refine ⟨sound.alive, ⟨sound.placed.offset, sound.placed.tail, sound.placed.count⟩,
        sound.quiet, sound.observed, sound.gapless, sound.waiting, ?_⟩
      intro finished
      exact ⟨rfl, (sound.finished finished).2⟩
  | poll =>
      simp only [Relay.step]
      split_ifs with waiting
      · rw [sound.placed.relayObservations sound.fresh]
        exact sound.relayed waiting
      · exact sound
  | drain =>
      simp only [Relay.step]
      split_ifs with due
      · rw [sound.drain_eq due.1]
        exact sound.drained due.1 due.2
      · exact sound

end Relay

open Relay

variable {Value Record : Type} {telemetry : Telemetry Value Record} {relay : Relay Record}

theorem Relay.Sound.of_reaches {pid : Nat} {cancelRequest : Bool}
    (reached : Reaches (Relay.step telemetry) (Tame telemetry) (Relay.start pid cancelRequest)
      relay) : relay.Sound telemetry := by
  apply reached.invariant (.start telemetry pid cancelRequest)
  intro relay move sound tame
  exact sound.step move tame

/-- A read from which the stream learns of every line behind those read before. -/
theorem Relay.Sound.read (sound : relay.Sound telemetry) {move : RelayMove}
    (reads : move = .poll ∨ move = .drain ∧ relay.exited = true)
    (waiting : relay.watch = .waiting) :
    ∃ more, (relay.step telemetry move).files.events.map Event.payload =
      relay.files.events.map Event.payload ++
        (relay.told telemetry ++ more).map Relayed.payload := by
  rcases reads with rfl | ⟨rfl, exited⟩
  · refine ⟨[], ?_⟩
    simp only [Relay.step, waiting, if_true, sound.placed.relayObservations sound.fresh,
      Relay.relayed, put, emitAll_payloads, List.append_nil]
  · refine ⟨if (cut 10 relay.file).2 = [] then []
      else [Telemetry.truncatedIncident (cut 10 relay.file).2.length], ?_⟩
    simp only [Relay.step, waiting, exited, and_self, if_true, sound.drain_eq waiting,
      Relay.drained, put, emitAll_payloads, Relay.relayed, List.map_append, List.append_assoc]
    split_ifs <;> rfl

theorem Telemetry.mem_relayedFailures {failures : List (Nat × String)} {number : Nat}
    {reason : String} (member : (number, reason) ∈ failures) :
    ∃ numbers text, number ∈ numbers ∧
      Telemetry.corruptIncident numbers text ∈ telemetry.relayedFailures failures := by
  cases failures with
  | nil => cases member
  | cons first others =>
      exact ⟨_, _, List.mem_map_of_mem (f := Prod.fst) member, List.mem_singleton_self _⟩

/-- The line with a number that has not been read is among the fresh ones. -/
theorem Relay.fresh_getElem {number : Nat} {raw : Bytes}
    (unread : relay.reader.linesRead < number) (line : relay.lines[number - 1]? = some raw) :
    relay.fresh[number - 1 - relay.reader.linesRead]? = some raw := by
  rw [fresh, List.getElem?_drop, ← line]
  congr 1
  omega

theorem Relay.told_unreadable {number : Nat} {raw : Bytes} {reason : String}
    (unread : relay.reader.linesRead < number) (line : relay.lines[number - 1]? = some raw)
    (corrupt : telemetry.unreadable raw = some reason) :
    ∃ numbers text, number ∈ numbers ∧
      Telemetry.corruptIncident numbers text ∈ relay.told telemetry := by
  have failing : (number, reason) ∈
      telemetry.unreadableLines relay.reader.linesRead relay.fresh :=
    Telemetry.mem_unreadableLines.mpr
      ⟨_, raw, fresh_getElem unread line, by omega, corrupt⟩
  obtain ⟨numbers, text, named, member⟩ := Telemetry.mem_relayedFailures failing
  exact ⟨numbers, text, named, List.mem_append_right _ member⟩

theorem Relay.told_refused {number : Nat} {raw : Bytes} {record : Record} {text : String}
    (unread : relay.reader.linesRead < number) (line : relay.lines[number - 1]? = some raw)
    (found : telemetry.recordOf raw = some record)
    (refused : telemetry.envelopeError relay.writer.generation record = some text) :
    Telemetry.invalidIncident (telemetry.wrapped text record) ∈ relay.told telemetry := by
  apply List.mem_append_left
  have member : record ∈ relay.fresh.filterMap telemetry.recordOf :=
    List.mem_filterMap.mpr ⟨raw, List.mem_of_getElem? (fresh_getElem unread line), found⟩
  have relayed : telemetry.relayedRecord relay.writer.generation record =
      Telemetry.invalidIncident (telemetry.wrapped text record) := by
    simp only [Telemetry.relayedRecord, refused]
  rw [← relayed]
  exact List.mem_map_of_mem member

/-- Along every run of a worker whose complete lines are tame: the relay never raises; the
observations of the stream are the lines read that hold a record that can be enveloped, once and
in order, and in the end all of them; every other line that is not blank makes the read that
finds it append an incident, which names the line's number if it did not parse; an incomplete last
line makes exactly one incident; and the stream is numbered without gap or repeat. -/
theorem observations_relayed_once {pid : Nat} {cancelRequest : Bool}
    (reached : Reaches (Relay.step telemetry) (Tame telemetry) (Relay.start pid cancelRequest)
      relay) :
    relay.watch ≠ .raised ∧
    relay.observed = relay.linesRead.filterMap (telemetry.carried relay.writer.generation) ∧
    (relay.watch = .finished →
      relay.observed = relay.lines.filterMap (telemetry.carried relay.writer.generation) ∧
      relay.truncations = if (cut 10 relay.file).2 = [] then 0 else 1) ∧
    (∀ move, move = .poll ∨ move = .drain ∧ relay.exited = true → relay.watch = .waiting →
      ∃ appended : List (Relayed Record),
        (relay.step telemetry move).files.events.map Event.payload =
          relay.files.events.map Event.payload ++ appended.map Relayed.payload ∧
        ∀ number raw, relay.reader.linesRead < number → relay.lines[number - 1]? = some raw →
          (∀ reason, telemetry.unreadable raw = some reason → ∃ numbers text,
            number ∈ numbers ∧ Telemetry.corruptIncident numbers text ∈ appended) ∧
          (∀ record text, telemetry.recordOf raw = some record →
            telemetry.envelopeError relay.writer.generation record = some text →
            Telemetry.invalidIncident (telemetry.wrapped text record) ∈ appended)) ∧
    relay.files.events.map Event.sequence = List.range relay.files.events.length := by
  have sound := Sound.of_reaches reached
  refine ⟨sound.alive, sound.observed, ?_, ?_, ?_⟩
  · intro finished
    obtain ⟨-, offset, truncations⟩ := sound.finished finished
    refine ⟨sound.observed.trans ?_, truncations⟩
    rw [linesRead, offset, List.take_length]
    rfl
  · intro move reads waiting
    obtain ⟨more, appended⟩ := sound.read reads waiting
    refine ⟨_, appended, ?_⟩
    intro number raw unread line
    constructor
    · intro reason corrupt
      obtain ⟨numbers, text, named, member⟩ := told_unreadable unread line corrupt
      exact ⟨numbers, text, named, List.mem_append_left _ member⟩
    · intro record text found refused
      exact List.mem_append_left _ (told_refused unread line found refused)
  · have sequences := sound.gapless
    have long := congrArg List.length sequences
    rw [List.length_map, List.length_range] at long
    rw [long]
    exact sequences

/-- A training worker's telemetry, as far as the runs below read it: objects are records, longer
integers than the digit limit raise, and anything else is no JSON. -/
def lineTelemetry : Telemetry String String where
  kind := .trainingAttempt
  target := "attempt"
  protocol := .v1alpha2
  path := "observations.jsonl"
  decodeError := fun _ => "'utf-8' codec can't decode byte 0xff in position 0: invalid start byte"
  loads := fun text =>
    if text.toList.head? = some '\x7b' then .value text
    else if text.toList.all Char.isDigit ∧ 4300 < text.length then .valueError
    else .jsonDecodeError "Expecting value: line 1 column 1 (char 0)"
  validate := .record
  context := fun _ => none
  completed := fun _ => none
  wrapped := fun text _ => text
  dump := fun _ => .json

def startedLine : String :=
  "\x7b\"observed_at\": \"2026-01-01T00:00:00Z\", \"observation\": \x7b\"type\": \"TrainingStarted\"\x7d\x7d"

def bytesOf (text : String) : Bytes := text.toUTF8.data.toList

/-- A record cut in two, a line that is no JSON, and the beginning of a third. -/
def reportedRun : List RelayMove :=
  [.append ((bytesOf startedLine).take 20), .poll,
    .append ((bytesOf startedLine).drop 20 ++ 10 :: bytesOf "garbage" ++ 10 :: bytesOf "\x7b"),
    .poll, .exit, .drain]

theorem observations_relayed_once_reported :
    ∃ relay : Relay String,
      Reaches (Relay.step lineTelemetry) (Tame lineTelemetry) (Relay.start 41 false) relay ∧
        relay.watch = .finished ∧ relay.observed = [startedLine] ∧ relay.truncations = 1 := by
  have permitted : Permits (Relay.step lineTelemetry) (Tame lineTelemetry) reportedRun
      (Relay.start 41 false) := by
    decide
  have reached := Reaches.start.follow reportedRun permitted
  have ended : ∀ relay ∈ [follow (Relay.step lineTelemetry) reportedRun (Relay.start 41 false)],
      relay.watch = .finished ∧
        relay.lines.filterMap (lineTelemetry.carried relay.writer.generation) = [startedLine] ∧
        (cut 10 relay.file).2 ≠ [] := by
    decide
  generalize follow (Relay.step lineTelemetry) reportedRun (Relay.start 41 false) = relay
    at reached ended
  obtain ⟨finished, lines, rest⟩ := ended relay List.mem_cons_self
  obtain ⟨observed, truncations⟩ := (observations_relayed_once reached).2.2.1 finished
  exact ⟨relay, reached, finished, observed.trans lines, truncations.trans (if_neg rest)⟩

def longInteger (digits : Nat) : String := String.ofList (List.replicate digits '9')

theorem bytesOf_longInteger (digits : Nat) :
    bytesOf (longInteger digits) = List.replicate digits 57 := by
  have encoded : bytesOf (longInteger digits) =
      (List.replicate digits '9').flatMap String.utf8EncodeChar := by
    simp [bytesOf, longInteger, String.toUTF8, List.utf8Encode]
  rw [encoded]
  clear encoded
  induction digits with
  | zero => rfl
  | succ digits ih =>
      rw [List.replicate_succ, List.flatMap_cons, List.replicate_succ,
        show String.utf8EncodeChar '9' = [57] by decide]
      simpa using ih

theorem parse_longInteger {digits : Nat} (long : 4300 < digits) :
    lineTelemetry.parse (bytesOf (longInteger digits)) = .raised := by
  have decoded : String.fromUTF8? ⟨(bytesOf (longInteger digits)).toArray⟩ =
      some (longInteger digits) := by
    simp only [bytesOf, String.fromUTF8?]
    exact dif_pos (longInteger digits).isValidUTF8
  have loaded : lineTelemetry.loads (longInteger digits) = .valueError := by
    have digit : Char.isDigit '9' = true := by decide
    simp [lineTelemetry, longInteger, List.head?_replicate, digit, long]
  simp [Telemetry.parse, decoded, loaded]

/-- A record, and behind it an integer of so many digits. -/
def longFile (digits : Nat) : Bytes :=
  bytesOf startedLine ++ 10 :: (bytesOf (longInteger digits) ++ [10])

theorem cut_longFile (digits : Nat) :
    cut 10 (longFile digits) = ([bytesOf startedLine, bytesOf (longInteger digits)], []) := by
  have unbroken : (bytesOf startedLine).all (fun byte => decide (byte ≠ 10)) = true := by
    decide
  have plain : ∀ byte ∈ bytesOf startedLine, byte ≠ 10 := fun byte member =>
    of_decide_eq_true (List.all_eq_true.mp unbroken byte member)
  have plain' : ∀ byte ∈ bytesOf (longInteger digits), byte ≠ 10 := by
    intro byte member
    rw [bytesOf_longInteger] at member
    rw [List.eq_of_mem_replicate member]
    decide
  rw [longFile, cut_plain plain, cut_plain plain']
  rfl

theorem carried_startedLine :
    lineTelemetry.carried 0 (bytesOf startedLine) = some startedLine := by
  decide

/-- The launcher that has been told of a worker, with a file in front of it. -/
def facing (file : Bytes) : Relay String :=
  Relay.step lineTelemetry (.append file) (Relay.start 41 false)

theorem raised_by_longFile {digits : Nat} (long : 4300 < digits) :
    (facing (longFile digits)).relayObservations lineTelemetry =
      { facing (longFile digits) with
        reader := ⟨(longFile digits).length, [], 2⟩, watch := .raised } := by
  have parsed : lineTelemetry.parse (bytesOf startedLine) = .record startedLine := by
    decide
  have filled : blank (bytesOf startedLine) = false := by decide
  have raised := parse_longInteger long
  have filled' : blank (bytesOf (longInteger digits)) = false := by
    have some_digits : digits ≠ 0 := by omega
    simp [bytesOf_longInteger, blank, some_digits]
  have read : lineTelemetry.readNew (some (longFile digits)) ⟨0, [], 0⟩ =
      (⟨(longFile digits).length, [], 2⟩, .raised) := by
    obtain ⟨byte, rest, chunk⟩ : ∃ byte rest, longFile digits = byte :: rest :=
      List.exists_cons_of_ne_nil (by simp [longFile])
    have pieces := cut_longFile digits
    rw [chunk] at pieces
    simp [Telemetry.readNew, chunk, pieces, Telemetry.readLines, filled, parsed, filled', raised]
  have observations : (facing (longFile digits)).observations = some (longFile digits) := rfl
  have reader : (facing (longFile digits)).reader = ⟨0, [], 0⟩ := rfl
  simp only [Relay.relayObservations, observations, reader, read]

/-- The read that finds the integer raises, and the record in front of it is lost. -/
theorem record_lost {digits : Nat} (long : 4300 < digits) :
    ∃ relay : Relay String,
      Reaches (Relay.step lineTelemetry) (fun _ _ => True) (Relay.start 41 false) relay ∧
        startedLine ∈ relay.linesRead.filterMap (lineTelemetry.carried 0) ∧
        relay.watch = .raised ∧ relay.observed = [] := by
  have reached : Reaches (Relay.step lineTelemetry) (fun _ _ => True) (Relay.start 41 false)
      ((facing (longFile digits)).relayObservations lineTelemetry) :=
    Reaches.start.follow [RelayMove.append (longFile digits), .poll] ⟨trivial, trivial, trivial⟩
  have raised := raised_by_longFile long
  have lines : ((facing (longFile digits)).relayObservations lineTelemetry).linesRead =
      [bytesOf startedLine, bytesOf (longInteger digits)] := by
    have file : (facing (longFile digits)).file = longFile digits := rfl
    rw [raised, Relay.linesRead]
    simp only [Relay.file] at file ⊢
    rw [file, List.take_length, cut_longFile]
  refine ⟨_, reached, ?_, ?_, ?_⟩
  · rw [lines]
    exact List.mem_filterMap.mpr ⟨_, List.mem_cons_self, carried_startedLine⟩
  · rw [raised]
  · rw [raised]
    rfl

theorem raised_by_a_long_integer :
    ∃ relay : Relay String,
      Reaches (Relay.step lineTelemetry) (fun _ _ => True) (Relay.start 41 false) relay ∧
        startedLine ∈ relay.linesRead.filterMap (lineTelemetry.carried 0) ∧
        relay.watch = .raised ∧ relay.observed = [] :=
  @record_lost 4301 (by decide)

end Xaytune.Runtimes
