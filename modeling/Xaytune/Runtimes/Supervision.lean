import Xaytune.Library.System
import Xaytune.Runtimes.Workload

/-!
# Supervising one workload

`supervise_workload`, a step at a time: the check for a cancellation, the start of the worker,
the loop that polls it and delivers the cancellation, and the record of how it ended. The worker
exits and `cancel.request` appears between any two of these steps. An exception that leaves a read
of the worker's observations ends the supervisor without a record.
-/

namespace Xaytune.Runtimes

variable {Record : Type}

/-- Where a supervisor stands in `supervise_workload`. `signalled` is the local of
`_wait_honouring_cancellation`, `code` the child's return code. -/
inductive Phase where
  | opening
  | checking
  | neverStarting
  | configuring
  | starting
  | spawnFailed (error : String)
  | recordingSpawnError (error : String)
  | surviving
  | recordingStart
  | announcing
  | polling (signalled : Bool)
  | relaying (signalled : Bool)
  | looking (signalled : Bool)
  | signalling
  | sleeping (signalled : Bool)
  | draining (signalled : Bool) (code : Int)
  | truncating (signalled : Bool) (code : Int)
  | reporting (signalled : Bool) (code : Int)
  | finishing (signalled : Bool) (code : Int)
  | returned (code : Int)
  | raised
  deriving DecidableEq

/-- A supervisor process, with the worker it started. `early` tells that `cancel.request` was
there before the worker was started, or kept it from starting. -/
structure Supervisor where
  pid : Nat
  phase : Phase
  writer : EventWriter
  handler : Bool
  child : Option Worker
  early : Bool
  deriving DecidableEq

def Supervisor.begin (pid : Nat) : Supervisor := ⟨pid, .opening, ⟨0, 0⟩, false, none, false⟩

/-- What a step finds around it: the answer of `Popen`, what a read of the worker's observations
relays, the bytes that read leaves behind, and whether an exception then leaves it. -/
structure Given (Record : Type) where
  spawned : Except String Nat
  relayed : List (Relayed Record)
  pendingBytes : Nat
  raised : Bool

def neverStartedRecord (generation : Nat) : Finished :=
  ⟨none, none, some true, some true, none, generation⟩

def spawnErrorRecord (error : String) (generation : Nat) : Finished :=
  ⟨none, none, none, none, some error, generation⟩

def exitRecord (signalled : Bool) (code : Int) (generation : Nat) : Finished :=
  ⟨some code, if code < 0 then some (-code) else none, some signalled, none, none, generation⟩

def truncatedIncident (pendingBytes : Nat) : Payload Record :=
  .incidentObserved "truncated-observation"
    (some ("the worker exited mid-write, leaving " ++ toString pendingBytes ++
      " bytes that were never a complete record")) none none

def exitIncident (signalled : Bool) (code : Int) : Payload Record :=
  .incidentObserved (if 0 < code then "nonzero-exit" else "signalled") none (some code)
    (some signalled)

namespace Supervisor

def goTo (phase : Phase) (self : Supervisor) : Supervisor := { self with phase }

/-- Emits events on the way to the next phase. -/
def emitting (payloads : List (Payload Record)) (phase : Phase) (self : Supervisor)
    (files : Files Record) : Supervisor × Files Record :=
  ({ self with phase, writer := (emitAll payloads self.writer files).1 },
    (emitAll payloads self.writer files).2)

/-- Writes the finished record and returns. -/
def finish (record : Finished) (code : Int) (self : Supervisor) (files : Files Record) :
    Supervisor × Files Record :=
  (self.goTo (.returned code), { files with finished := some record })

def startWorker (spawned : Except String Nat) (self : Supervisor) (files : Files Record) :
    Supervisor :=
  match spawned with
  | .error error => self.goTo (.spawnFailed error)
  | .ok pid =>
      { self with
        phase := .surviving
        child := some (.start pid)
        early := self.early || files.cancelRequest }

def pollWorker (signalled : Bool) (self : Supervisor) (worker : Worker) : Supervisor :=
  match worker.poll with
  | (worker, none) => { self with phase := .relaying signalled, child := some worker }
  | (worker, some code) => { self with phase := .draining signalled code, child := some worker }

/-- `os.killpg`; a group that is gone means nothing was delivered. -/
def signalWorker (self : Supervisor) (worker : Worker) : Supervisor :=
  { self with phase := .sleeping worker.killpg.2, child := some worker.killpg.1 }

/-- The next step of `supervise_workload`. -/
def step (given : Given Record) (self : Supervisor) (files : Files Record) :
    Supervisor × Files Record :=
  match self.phase with
  | .opening => ({ self with phase := .checking, writer := .open files.events }, files)
  | .checking =>
      if files.cancelRequest then ({ self with phase := .neverStarting, early := true }, files)
      else (self.goTo .configuring, files)
  | .neverStarting => self.finish (neverStartedRecord self.writer.generation) 0 files
  | .configuring => (self.goTo .starting, { files with workerConfig := true })
  | .starting => (self.startWorker given.spawned files, files)
  | .spawnFailed error =>
      self.emitting [.incidentObserved "spawn-failed" (some error) none none]
        (.recordingSpawnError error) files
  | .recordingSpawnError error =>
      self.finish (spawnErrorRecord error self.writer.generation) 127 files
  | .surviving => ({ self with phase := .recordingStart, handler := true }, files)
  | .recordingStart =>
      match self.child with
      | none => (self, files)
      | some worker =>
          (self.goTo .announcing,
            { files with started := some ⟨worker.pid, self.pid, self.writer.generation⟩ })
  | .announcing =>
      match self.child with
      | none => (self, files)
      | some worker => self.emitting [.workerReady worker.pid] (.polling false) files
  | .polling signalled =>
      match self.child with
      | none => (self, files)
      | some worker => (self.pollWorker signalled worker, files)
  | .relaying signalled =>
      self.emitting (given.relayed.map Relayed.payload)
        (if given.raised then .raised else .looking signalled) files
  | .looking signalled =>
      if signalled = false ∧ files.cancelRequest = true then (self.goTo .signalling, files)
      else (self.goTo (.sleeping signalled), files)
  | .signalling =>
      match self.child with
      | none => (self, files)
      | some worker => (self.signalWorker worker, files)
  | .sleeping signalled => (self.goTo (.polling signalled), files)
  | .draining signalled code =>
      self.emitting (given.relayed.map Relayed.payload)
        (if given.raised then .raised else .truncating signalled code) files
  | .truncating signalled code =>
      self.emitting (if given.pendingBytes = 0 then [] else [truncatedIncident given.pendingBytes])
        (.reporting signalled code) files
  | .reporting signalled code =>
      self.emitting (if code = 0 then [] else [exitIncident signalled code])
        (.finishing signalled code) files
  | .finishing signalled code =>
      self.finish (exitRecord signalled code self.writer.generation) code files
  | .returned _ | .raised => (self, files)

def exitWorker (code : Int) (self : Supervisor) : Supervisor :=
  { self with child := self.child.map (Worker.exit code) }

end Supervisor

/-- The phases from which a worker may still be started. -/
def Phase.mayStart : Phase → Bool
  | .opening | .checking | .configuring | .starting => true
  | _ => false

/-- The process has come to its end. -/
def Supervisor.exited (self : Supervisor) : Bool :=
  match self.phase with
  | .returned _ | .raised => true
  | _ => false

/-- On the way to a record of a worker never started, once a cancellation is requested. -/
def Supervisor.barred (self : Supervisor) : Bool :=
  match self.phase with
  | .opening | .checking | .neverStarting | .returned _ => true
  | _ => false

/-- Whether this step of the supervisor starts its worker. -/
def starts (given : Given Record) (self : Supervisor) : Bool :=
  match self.phase, given.spawned with
  | .starting, .ok _ => true
  | _, _ => false

namespace Supervisor

variable (given : Given Record) (self : Supervisor) (files : Files Record)

theorem pollWorker_phase (signalled : Bool) (worker : Worker) :
    (self.pollWorker signalled worker).phase.mayStart = false := by
  simp only [pollWorker]
  split <;> rfl

theorem startWorker_phase (spawned : Except String Nat) :
    (self.startWorker spawned files).phase.mayStart = false := by
  cases spawned with
  | error error => rfl
  | ok pid => rfl

theorem step_cancelRequest : (self.step given files).2.cancelRequest = files.cancelRequest := by
  unfold step
  split <;> (try split) <;> simp [emitting, finish]

/-- Once a supervisor is past its worker's start it stays there. -/
theorem step_mayStart (past : self.phase.mayStart = false) :
    (self.step given files).1.phase.mayStart = false := by
  cases phase : self.phase with
  | opening | checking | configuring | starting => simp [phase, Phase.mayStart] at past
  | polling signalled =>
      cases child : self.child with
      | none => simp [step, phase, child, Phase.mayStart]
      | some worker => simpa [step, phase, child] using self.pollWorker_phase signalled worker
  | recordingStart | announcing | signalling =>
      cases child : self.child with
      | none => simp [step, phase, child, Phase.mayStart]
      | some worker => simp [step, phase, child, Phase.mayStart, goTo, emitting, signalWorker]
  | looking signalled =>
      simp only [step, phase]
      split_ifs <;> rfl
  | relaying signalled | draining signalled =>
      simp only [step, phase, emitting]
      split_ifs <;> rfl
  | _ => simp [step, phase, Phase.mayStart, goTo, emitting, finish]

theorem step_exited (ended : self.exited = true) : self.step given files = (self, files) := by
  cases phase : self.phase with
  | returned | raised => simp only [step, phase]
  | _ => simp [exited, phase] at ended

/-- A supervisor that finds the request starts no worker. -/
theorem step_barred (requested : files.cancelRequest = true) (isBarred : self.barred = true) :
    (self.step given files).1.barred = true ∧ (self.step given files).1.child = self.child := by
  cases phase : self.phase with
  | opening | neverStarting | returned => simp [step, phase, barred, finish, goTo]
  | checking => simp [step, phase, barred, requested]
  | _ => simp [barred, phase] at isBarred

theorem mayStart_of_starts (started : starts given self = true) : self.phase.mayStart = true := by
  cases phase : self.phase with
  | starting => rfl
  | _ => simp [starts, phase] at started

theorem past_of_starts (started : starts given self = true) :
    (self.step given files).1.phase.mayStart = false := by
  cases phase : self.phase with
  | starting =>
      simp only [step, phase]
      exact self.startWorker_phase files given.spawned
  | _ => simp [starts, phase] at started

end Supervisor

end Xaytune.Runtimes
