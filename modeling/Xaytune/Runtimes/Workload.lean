import Mathlib.Data.List.Basic

/-!
# A workload's directory and its worker

The files the supervisor of one workload keeps in its directory, the worker process it starts
and reaps, and how an ending is classified from the finished record alone. A child that has
exited stays in the process table until its parent polls it, and a signal sent to it in between
succeeds without effect.
-/

namespace Xaytune.Runtimes

inductive Life where
  | running
  | exited (code : Int)
  | reaped (code : Int)
  deriving DecidableEq

/-- A worker process. For each `SIGTERM` sent to its group, `signals` tells whether the worker
was still running. -/
structure Worker where
  pid : Nat
  life : Life
  signals : List Bool
  deriving DecidableEq

namespace Worker

def start (pid : Nat) : Worker := ⟨pid, .running, []⟩

/-- `Popen.poll`, which reaps a child that has exited. -/
def poll (worker : Worker) : Worker × Option Int :=
  match worker.life with
  | .running => (worker, none)
  | .exited code => ({ worker with life := .reaped code }, some code)
  | .reaped code => (worker, some code)

/-- `os.killpg(pid, SIGTERM)`, and whether it found the group. -/
def killpg (worker : Worker) : Worker × Bool :=
  match worker.life with
  | .running => ({ worker with signals := worker.signals ++ [true] }, true)
  | .exited _ => ({ worker with signals := worker.signals ++ [false] }, true)
  | .reaped _ => (worker, false)

/-- The worker's own exit, by itself or because of a signal. -/
def exit (code : Int) (worker : Worker) : Worker :=
  match worker.life with
  | .running => { worker with life := .exited code }
  | .exited _ => worker
  | .reaped _ => worker

/-- The worker ended, and no signal had reached it while it ran. -/
def EndedByItself (worker : Worker) (code : Int) : Prop :=
  (worker.life = .exited code ∨ worker.life = .reaped code) ∧ true ∉ worker.signals

variable {worker : Worker} {code final : Int}

@[simp]
theorem exit_signals : (worker.exit code).signals = worker.signals := by
  unfold exit
  split <;> rfl

theorem exit_of_ended (ended : worker.life ≠ .running) : worker.exit code = worker := by
  unfold exit
  split
  · rename_i running
    exact absurd running ended
  · rfl
  · rfl

theorem exit_unreaped (unreaped : worker.life ≠ .reaped final) :
    (worker.exit code).life ≠ .reaped final := by
  unfold exit
  split
  · simp
  · exact unreaped
  · exact unreaped

theorem EndedByItself.not_running (ended : worker.EndedByItself final) :
    worker.life ≠ .running := by
  rcases ended.1 with life | life
  · simp [life]
  · simp [life]

theorem EndedByItself.exit (ended : worker.EndedByItself final) :
    (worker.exit code).EndedByItself final := by
  rw [exit_of_ended ended.not_running]
  exact ended

theorem EndedByItself.poll (ended : worker.EndedByItself final) :
    worker.poll.1.EndedByItself final := by
  obtain ⟨life | life, unsignalled⟩ := ended
  · simp only [Worker.poll, life]
    exact ⟨.inr rfl, unsignalled⟩
  · simp only [Worker.poll, life]
    exact ⟨.inr life, unsignalled⟩

theorem EndedByItself.killpg (ended : worker.EndedByItself final) :
    worker.killpg.1.EndedByItself final := by
  obtain ⟨life | life, unsignalled⟩ := ended
  · simp only [Worker.killpg, life]
    exact ⟨.inl rfl, by simpa using unsignalled⟩
  · simp only [Worker.killpg, life]
    exact ⟨.inr life, unsignalled⟩

end Worker

/-- The finished record; a key the writer leaves out is `none`. -/
structure Finished where
  exitCode : Option Int
  signal : Option Int
  cancelled : Option Bool
  neverStarted : Option Bool
  spawnError : Option String
  generation : Nat
  deriving DecidableEq

inductive RuntimeState where
  | pending
  | queued
  | starting
  | running
  | succeeded
  | failed
  | cancelled
  | preempted
  | unknown
  deriving DecidableEq

structure RuntimeStatus where
  state : RuntimeState
  exitCode : Option Int
  detail : Option String
  deriving DecidableEq

def terminatedBySignal (code : Option Int) : Option String :=
  match code with
  | some code => if code < 0 then some ("terminated by signal " ++ toString (-code)) else none
  | none => none

/-- The ending, from what was observed and not from what was asked for. -/
def finishedStatus (finished : Finished) : RuntimeStatus :=
  match finished.spawnError with
  | some error => ⟨.failed, none, some ("the worker could not be started: " ++ error)⟩
  | none =>
      { state :=
          if finished.cancelled = some true then .cancelled
          else if finished.exitCode = some 0 then .succeeded
          else .failed
        exitCode := finished.exitCode
        detail := terminatedBySignal finished.exitCode }

inductive Payload (Record : Type) where
  | workerReady (pid : Nat)
  | incidentObserved (reason : String) (detail : Option String) (exitCode : Option Int)
      (cancelled : Option Bool)
  | observed (record : Record)

/-- What a read of the worker's observations adds to the stream. -/
inductive Relayed (Record : Type) where
  | observation (record : Record)
  | incident (reason detail : String)

def Relayed.payload {Record : Type} : Relayed Record → Payload Record
  | .observation record => .observed record
  | .incident reason detail => .incidentObserved reason (some detail) none none

structure Event (Record : Type) where
  generation : Nat
  sequence : Nat
  payload : Payload Record

/-- The one assigner of sequence numbers for a target. -/
structure EventWriter where
  generation : Nat
  sequence : Nat
  deriving DecidableEq

structure Started where
  pid : Nat
  launcherPid : Nat
  generation : Nat

/-- The files of one workload directory that its supervisor reads and writes. -/
structure Files (Record : Type) where
  cancelRequest : Bool
  workerConfig : Bool
  started : Option Started
  finished : Option Finished
  events : List (Event Record)

variable {Record : Type}

def nextGeneration (events : List (Event Record)) : Nat :=
  events.foldl (fun highest event => max highest (event.generation + 1)) 0

def EventWriter.open (events : List (Event Record)) : EventWriter := ⟨nextGeneration events, 0⟩

/-- Appends one event under the next sequence number. -/
def emit (payload : Payload Record) (writer : EventWriter) (files : Files Record) :
    EventWriter × Files Record :=
  ({ writer with sequence := writer.sequence + 1 },
    { files with events := files.events ++ [⟨writer.generation, writer.sequence, payload⟩] })

def emitAll (payloads : List (Payload Record)) (writer : EventWriter) (files : Files Record) :
    EventWriter × Files Record :=
  payloads.foldl (fun state payload => emit payload state.1 state.2) (writer, files)

/-- The files of a workload whose supervisor has not begun. -/
def Files.fresh (cancelRequest : Bool) : Files Record := ⟨cancelRequest, false, none, none, []⟩

section emit

variable (payload : Payload Record) (payloads : List (Payload Record)) (writer : EventWriter)
  (files : Files Record)

@[simp]
theorem emit_cancelRequest : (emit payload writer files).2.cancelRequest = files.cancelRequest :=
  rfl

@[simp]
theorem emit_finished : (emit payload writer files).2.finished = files.finished := rfl

theorem emitAll_cons : emitAll (payload :: payloads) writer files =
    emitAll payloads (emit payload writer files).1 (emit payload writer files).2 := rfl

@[simp]
theorem emitAll_cancelRequest :
    (emitAll payloads writer files).2.cancelRequest = files.cancelRequest := by
  induction payloads generalizing writer files with
  | nil => rfl
  | cons payload payloads ih => rw [emitAll_cons, ih, emit_cancelRequest]

@[simp]
theorem emitAll_finished : (emitAll payloads writer files).2.finished = files.finished := by
  induction payloads generalizing writer files with
  | nil => rfl
  | cons payload payloads ih => rw [emitAll_cons, ih, emit_finished]

theorem emitAll_payloads : (emitAll payloads writer files).2.events.map Event.payload =
    files.events.map Event.payload ++ payloads := by
  induction payloads generalizing writer files with
  | nil => simp [emitAll]
  | cons payload rest ih =>
      rw [emitAll_cons, ih]
      simp [emit]

end emit

end Xaytune.Runtimes
