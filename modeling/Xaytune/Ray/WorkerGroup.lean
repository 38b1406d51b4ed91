import Mathlib.Logic.Function.Basic
import Xaytune.Library.System
import Xaytune.Runtimes.Workload

/-!
# A training plan as a worker group

`run_rank` on every rank and `drive` over them, a step at a time. They meet only in files: a
rank announces that it is about to spawn before it looks for a cancellation, the driver looks
for announcements after it has seen the cancellation, and a rank that fails leaves a marker that
makes the others stop their workers. The group's ending is read back from the ranks' records.
-/

namespace Xaytune.Ray

open Xaytune.Runtimes

inductive Reason where
  | cancel
  | group
  deriving DecidableEq

/-- A rank's finished record; a key its writer leaves out is `none`. -/
structure RankFinished where
  exitCode : Option Int
  signal : Option Int
  cancelled : Option Bool
  neverStarted : Option Bool
  stoppedBy : Option Reason
  spawnError : Option String
  deriving DecidableEq

/-- Where a rank stands in `run_rank`; a rank that is not placed waits. -/
inductive RankPhase where
  | waiting
  | announcing
  | checkingCancel
  | checkingAbort
  | rechecking
  | recordingNever (cancelled : Bool)
  | starting
  | abortingSpawn
  | markingSpawn
  | recordingSpawnError
  | recordingStart
  | polling
  | lookingCancel
  | lookingAbort
  | signalling (reason : Reason)
  | sleeping
  | aborting (code : Int)
  | marking (code : Int)
  | recording (code : Int)
  | done
  | gone
  deriving DecidableEq

/-- One rank: its process, its worker and its files. `kept` is what kept its worker from being
started, `stoppedBy` the local of `_wait`. -/
structure Rank where
  phase : RankPhase
  child : Option Worker
  spawnError : Option String
  kept : Option Reason
  stoppedBy : Option Reason
  spawning : Bool
  started : Option Nat
  finished : Option RankFinished

def Rank.unplaced : Rank := ⟨.waiting, none, none, none, none, false, none, none⟩

/-- The text of the `OSError` that `Popen` raises. -/
abbrev SpawnError : Type := { text : String // text ≠ "" }

structure Marks where
  cancelRequest : Bool
  abort : Bool

namespace Rank

def goTo (phase : RankPhase) (rank : Rank) : Rank := { rank with phase }

def record (finished : RankFinished) (rank : Rank) : Rank :=
  { rank with phase := .done, finished := some finished }

def startWorker (spawned : Except SpawnError Nat) (rank : Rank) : Rank :=
  match spawned with
  | .error error => { rank with phase := .abortingSpawn, spawnError := some error.val }
  | .ok pid => { rank with phase := .recordingStart, child := some (.start pid) }

/-- `child.poll()`, and what follows a worker that has ended. -/
def pollWorker (rank : Rank) (worker : Worker) : Rank :=
  match worker.poll with
  | (worker, none) =>
      { rank with
        phase := if rank.stoppedBy = none then .lookingCancel else .sleeping
        child := some worker }
  | (worker, some code) =>
      { rank with
        phase := if code ≠ 0 ∧ rank.stoppedBy = none then .aborting code else .recording code
        child := some worker }

def signalWorker (reason : Reason) (rank : Rank) (worker : Worker) : Rank :=
  { rank with
    phase := .sleeping
    child := some worker.killpg.1
    stoppedBy := if worker.killpg.2 then some reason else rank.stoppedBy }

def exitRecord (code : Int) (stoppedBy : Option Reason) : RankFinished :=
  ⟨some code, if code < 0 then some (-code) else none, some (stoppedBy = some .cancel), none,
    stoppedBy, none⟩

/-- The next step of `run_rank`, with the markers it may leave. -/
def step (spawned : Except SpawnError Nat) (rank : Rank) (marks : Marks) : Rank × Marks :=
  match rank.phase with
  | .waiting => (rank.goTo .announcing, marks)
  | .announcing => ({ rank with phase := .checkingCancel, spawning := true }, marks)
  | .checkingCancel =>
      if marks.cancelRequest then
        ({ rank with phase := .rechecking, kept := some .cancel }, marks)
      else (rank.goTo .checkingAbort, marks)
  | .checkingAbort =>
      if marks.abort then ({ rank with phase := .rechecking, kept := some .group }, marks)
      else (rank.goTo .starting, marks)
  | .rechecking => (rank.goTo (.recordingNever marks.cancelRequest), marks)
  | .recordingNever cancelled =>
      (rank.record ⟨none, none, some cancelled, some true, none, none⟩, marks)
  | .starting => (rank.startWorker spawned, marks)
  | .abortingSpawn =>
      (rank.goTo (if marks.abort then .recordingSpawnError else .markingSpawn), marks)
  | .markingSpawn => (rank.goTo .recordingSpawnError, { marks with abort := true })
  | .recordingSpawnError =>
      (rank.record ⟨none, none, none, none, none, rank.spawnError⟩, marks)
  | .recordingStart =>
      ({ rank with phase := .polling, started := rank.child.map Worker.pid }, marks)
  | .polling =>
      match rank.child with
      | none => (rank, marks)
      | some worker => (rank.pollWorker worker, marks)
  | .lookingCancel =>
      (rank.goTo (if marks.cancelRequest then .signalling .cancel else .lookingAbort), marks)
  | .lookingAbort =>
      (rank.goTo (if marks.abort then .signalling .group else .sleeping), marks)
  | .signalling reason =>
      match rank.child with
      | none => (rank, marks)
      | some worker => (rank.signalWorker reason worker, marks)
  | .sleeping => (rank.goTo .polling, marks)
  | .aborting code => (rank.goTo (if marks.abort then .recording code else .marking code), marks)
  | .marking code => (rank.goTo (.recording code), { marks with abort := true })
  | .recording code => (rank.record (exitRecord code rank.stoppedBy), marks)
  | .done => (rank, marks)
  | .gone => (rank, marks)

def exitWorker (code : Int) (rank : Rank) : Rank :=
  { rank with child := rank.child.map (Worker.exit code) }

end Rank

/-- The group as Ray Train runs it. -/
inductive GroupState where
  | unborn
  | running
  | ended
  | failed (error : String)
  deriving DecidableEq

structure GroupFinished extends Finished where
  failedRank : Option Nat
  groupFailed : Option Bool
  deriving DecidableEq

/-- A rank's record fails the group: the rank failed, and nobody stopped it. -/
def RankFinished.failing (record : RankFinished) : Bool :=
  record.stoppedBy.isNone &&
    ((record.exitCode.isSome && record.exitCode != some 0) ||
      (record.spawnError.isSome && record.spawnError != some ""))

/-- The first rank whose record fails the group. -/
def failingFrom : Nat → List (Option RankFinished) → Option (Nat × RankFinished)
  | _, [] => none
  | rank, none :: rest => failingFrom (rank + 1) rest
  | rank, some record :: rest =>
      if record.failing then some (rank, record) else failingFrom (rank + 1) rest

def anyCancelled (records : List (Option RankFinished)) : Bool :=
  records.any fun record => record.any fun record => record.cancelled = some true

def allNeverStarted (records : List (Option RankFinished)) : Bool :=
  records.all fun record => record.all fun record => record.neverStarted = some true

def failingReason (record : RankFinished) : String :=
  if record.spawnError.isSome ∧ record.spawnError ≠ some "" then "spawn-failed"
  else if record.exitCode.any (0 < ·) then "nonzero-exit"
  else "signalled"

/-- `_outcome`: the group's ending, from every rank's record and the group's own fate. -/
def outcome (records : List (Option RankFinished)) (failure : Option String) (generation : Nat) :
    GroupFinished :=
  match failingFrom 0 records, failure with
  | some (rank, record), _ =>
      { exitCode := record.exitCode, signal := record.signal, cancelled := some false
        neverStarted := none, spawnError := record.spawnError, generation
        failedRank := some rank, groupFailed := none }
  | none, some _ =>
      { exitCode := some 1, signal := none, cancelled := some false, neverStarted := none
        spawnError := none, generation, failedRank := none, groupFailed := some true }
  | none, none =>
      if anyCancelled records then
        { exitCode := none, signal := none, cancelled := some true
          neverStarted := some (allNeverStarted records), spawnError := none, generation
          failedRank := none, groupFailed := none }
      else
        { exitCode := some 0, signal := none, cancelled := some false, neverStarted := none
          spawnError := none, generation, failedRank := none, groupFailed := none }

/-- The incident `_outcome` emits for a failure. -/
def outcomeIncidents {Record : Type} (records : List (Option RankFinished))
    (failure : Option String) : List (Payload Record) :=
  match failingFrom 0 records, failure with
  | some (_, record), _ => [.incidentObserved (failingReason record) none record.exitCode none]
  | none, some error =>
      [.incidentObserved "worker-group-failed"
        (some ("Ray Train's worker group failed: " ++ error)) none none]
  | none, none => []

/-- The exit code of the Ray job; a process exit code is never negative. -/
def jobCode (record : GroupFinished) : Int :=
  if record.cancelled = some true ∨ record.exitCode = some 0 then 0
  else
    match record.exitCode with
    | some code => if 0 < code then code else 1
    | none => 1

def neverStartedGroup (generation : Nat) : GroupFinished :=
  { exitCode := none, signal := none, cancelled := some true, neverStarted := some true
    spawnError := none, generation, failedRank := none, groupFailed := none }

/-- Where the driver stands in `drive`. `last` tells the readiness test behind the loop from the
one inside it; a test over all ranks reads one rank's file at a step. -/
inductive DriverPhase where
  | opening
  | checking
  | configuring
  | launching
  | watching
  | lookingStarted (last : Bool) (rank : Nat)
  | readying (last : Bool)
  | announcing (last : Bool)
  | relaying
  | lookingCancel
  | lookingSpawning (rank : Nat)
  | finishingNever
  | joining
  | settling
  | aborting
  | marking
  | awaiting
  | relayingLast
  | truncating
  | reading (records : List (Option RankFinished))
  | concluding (records : List (Option RankFinished))
  | finishing (record : GroupFinished)
  | returned (code : Int)
  | raised
  deriving DecidableEq

structure Driver where
  phase : DriverPhase
  writer : EventWriter
  ready : Bool
  failure : Option String

/-- The workload directory, the driver, the ranks and the group. `failed` tells that the group
failed before its ending was recorded. -/
structure Group (Record : Type) where
  marks : Marks
  started : Bool
  finished : Option GroupFinished
  events : List (Event Record)
  driver : Driver
  ranks : Nat → Rank
  group : GroupState
  failed : Bool

/-- What a step of the driver finds around it: what a read of rank 0's observations relays, the
bytes it leaves behind, whether an exception then leaves it, and whether the ranks were awaited. -/
structure DriverGiven (Record : Type) where
  relayed : List (Relayed Record)
  pendingBytes : Nat
  raised : Bool
  awaited : Bool

variable {Record : Type}

def emitTo (payload : Payload Record) (writer : EventWriter) (events : List (Event Record)) :
    List (Event Record) :=
  events ++ [⟨writer.generation, writer.sequence, payload⟩]

namespace Group

def goTo (phase : DriverPhase) (group : Group Record) : Group Record :=
  { group with driver := { group.driver with phase } }

/-- Emits events one after the other, then goes on. -/
def emit : List (Payload Record) → Group Record → Group Record
  | [], group => group
  | payload :: rest, group =>
      emit rest
        { group with
          events := emitTo payload group.driver.writer group.events
          driver :=
            { group.driver with
              writer := { group.driver.writer with sequence := group.driver.writer.sequence +
                1 } } }

def finish (record : GroupFinished) (group : Group Record) : Group Record :=
  { group with finished := some record }.goTo (.returned (jobCode record))

def truncatedIncident (pendingBytes : Nat) : Payload Record :=
  .incidentObserved "truncated-observation"
    (some ("rank 0's worker exited mid-write, leaving " ++ toString pendingBytes ++
      " bytes that were never a complete record")) none none

def generation (group : Group Record) : Nat := group.driver.writer.generation

/-- What follows a readiness test that failed or was not made. -/
def notReady (last : Bool) : DriverPhase := if last then .reading [] else .lookingCancel

/-- What follows once the group is ready. -/
def whenReady (last : Bool) : DriverPhase := if last then .relayingLast else .relaying

/-- The next step of `drive` over `size` ranks. -/
def drive (size : Nat) (given : DriverGiven Record) (group : Group Record) : Group Record :=
  match group.driver.phase with
  | .opening =>
      { group with
        driver := { group.driver with phase := .checking, writer := .open group.events } }
  | .checking =>
      group.goTo (if group.marks.cancelRequest then .finishingNever else .configuring)
  | .configuring => group.goTo .launching
  | .launching => { group with group := .running }.goTo .watching
  | .watching =>
      match group.group with
      | .running =>
          group.goTo (if group.driver.ready then .relaying else .lookingStarted false 0)
      | .ended => group.goTo .settling
      | .failed error =>
          { group with driver := { group.driver with phase := .settling, failure := some error } }
      | .unborn => group
  | .lookingStarted last rank =>
      if rank < size then
        group.goTo
          (if (group.ranks rank).started.isSome then .lookingStarted last (rank + 1)
            else notReady last)
      else group.goTo (.readying last)
  | .readying last => { group with started := true }.goTo (.announcing last)
  | .announcing last =>
      let told := group.emit [.workerReady ((group.ranks 0).started.getD 0)]
      { told with driver := { told.driver with phase := whenReady last, ready := true } }
  | .relaying =>
      (group.emit (given.relayed.map Relayed.payload)).goTo
        (if given.raised then .raised else .lookingCancel)
  | .lookingCancel =>
      group.goTo (if group.marks.cancelRequest then .lookingSpawning 0 else .joining)
  | .lookingSpawning rank =>
      if rank < size then
        group.goTo (if (group.ranks rank).spawning then .joining else .lookingSpawning (rank + 1))
      else group.goTo .finishingNever
  | .finishingNever => group.finish (neverStartedGroup group.generation)
  | .joining => group.goTo .watching
  | .settling =>
      group.goTo
        (if group.driver.failure.isSome then .aborting
          else if group.driver.ready then .relayingLast else .lookingStarted true 0)
  | .aborting => group.goTo (if group.marks.abort then .awaiting else .marking)
  | .marking => { group with marks := { group.marks with abort := true } }.goTo .awaiting
  | .awaiting =>
      group.goTo
        (if given.awaited then
          if group.driver.ready then .relayingLast else .lookingStarted true 0
        else .awaiting)
  | .relayingLast =>
      (group.emit (given.relayed.map Relayed.payload)).goTo
        (if given.raised then .raised else .truncating)
  | .truncating =>
      (group.emit (if given.pendingBytes = 0 then []
        else [truncatedIncident given.pendingBytes])).goTo (.reading [])
  | .reading records =>
      if records.length < size then
        group.goTo (.reading (records ++ [(group.ranks records.length).finished]))
      else group.goTo (.concluding records)
  | .concluding records =>
      (group.emit (outcomeIncidents records group.driver.failure)).goTo
        (.finishing (outcome records group.driver.failure group.generation))
  | .finishing record => group.finish record
  | .returned _ | .raised => group

def putRank (number : Nat) (rank : Rank) (group : Group Record) : Group Record :=
  { group with ranks := Function.update group.ranks number rank }

/-- A step of the rank, which is placed only once the group runs. -/
def rankStep (number : Nat) (spawned : Except SpawnError Nat) (group : Group Record) :
    Group Record :=
  if (group.ranks number).phase = .waiting ∧ group.group = .unborn then group
  else
    { group with marks := ((group.ranks number).step spawned group.marks).2 }.putRank number
      ((group.ranks number).step spawned group.marks).1

/-- `group.run` returns once every rank has. -/
def endGroup (size : Nat) (group : Group Record) : Group Record :=
  if group.group = .running ∧ ∀ number < size, (group.ranks number).phase = .done then
    { group with group := .ended }
  else group

/-- `group.run` raises: a rank whose process died, a placement that could not be made. -/
def failGroup (error : String) (group : Group Record) : Group Record :=
  if group.group = .running then
    { group with group := .failed error, failed := group.failed || group.finished.isNone }
  else group

def start (cancelRequest : Bool) : Group Record where
  marks := ⟨cancelRequest, false⟩
  started := false
  finished := none
  events := []
  driver := ⟨.opening, ⟨0, 0⟩, false, none⟩
  ranks := fun _ => .unplaced
  group := .unborn
  failed := false

end Group

/-- What may happen next in a group. -/
inductive GroupMove (Record : Type) where
  | drive (given : DriverGiven Record)
  | rank (number : Nat) (spawned : Except SpawnError Nat)
  | exit (number : Nat) (code : Int)
  | die (number : Nat)
  | requestCancel
  | endGroup
  | failGroup (error : String)

namespace Group

def step (size : Nat) : GroupMove Record → Group Record → Group Record
  | .drive given, group => group.drive size given
  | .rank number spawned, group =>
      if number < size then group.rankStep number spawned else group
  | .exit number code, group => group.putRank number ((group.ranks number).exitWorker code)
  | .die number, group =>
      if (group.ranks number).phase = .done then group
      else group.putRank number ((group.ranks number).goTo .gone)
  | .requestCancel, group => { group with marks := { group.marks with cancelRequest := true } }
  | .endGroup, group => group.endGroup size
  | .failGroup error, group => group.failGroup error

end Group

end Xaytune.Ray
