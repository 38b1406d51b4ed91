import Xaytune.Runtimes.Supervision

/-!
# What the finished record tells about the worker

One workload under supervision, with its worker exiting at any moment and `cancel.request`
written at any moment. The supervisor tests that the worker runs and signals it in two system
calls; a worker that exits in between is signalled in vain and recorded as cancelled. Along
every run in which this does not happen, the record tells a cancellation from an ending of the
worker's own.
-/

namespace Xaytune.Runtimes

open Xaytune.Library (Reaches)

variable {Record : Type}

structure Supervised (Record : Type) where
  self : Supervisor
  files : Files Record

inductive Move (Record : Type) where
  | supervise (given : Given Record)
  | exit (code : Int)
  | requestCancel

namespace Supervised

def step : Move Record → Supervised Record → Supervised Record
  | .supervise given, state =>
      ⟨(state.self.step given state.files).1, (state.self.step given state.files).2⟩
  | .exit code, state => { state with self := state.self.exitWorker code }
  | .requestCancel, state => { state with files := { state.files with cancelRequest := true } }

def start (pid : Nat) (cancelRequest : Bool) : Supervised Record :=
  ⟨.begin pid, .fresh cancelRequest⟩

def Running (state : Supervised Record) : Prop :=
  ∃ worker, state.self.child = some worker ∧ worker.life = .running

/-- No signal is sent to a worker that has exited since it was polled, and a worker that was
started after the request for its cancellation does not end before it is signalled. -/
def Timely (state : Supervised Record) : Move Record → Prop
  | .supervise _ =>
      (state.self.phase = .signalling → state.Running) ∧
        (state.self.phase = .polling false → state.self.early = true → state.Running)
  | .exit _ => True
  | .requestCancel => True

def signals (state : Supervised Record) : List Bool :=
  match state.self.child with
  | some worker => worker.signals
  | none => []

/-- The worker as each phase has left it. -/
def Attended (self : Supervisor) (signalled : Bool) : Prop :=
  ∃ worker, self.child = some worker ∧ (∀ code, worker.life ≠ .reaped code) ∧
    worker.signals = if signalled then [true] else []

def Ended (self : Supervisor) (signalled : Bool) (code : Int) : Prop :=
  ∃ worker, self.child = some worker ∧ worker.life = .reaped code ∧
    (worker.signals = if signalled then [true] else []) ∧ (self.early = true → signalled = true)

/-- What a finished record says when it tells the truth about the worker. -/
structure Truthful (state : Supervised Record) (record : Finished) : Prop where
  cancelled : record.cancelled = some true ↔ state.self.early = true ∨ true ∈ state.signals
  byItself : ∀ worker code, state.self.child = some worker → worker.EndedByItself code →
    finishedStatus record =
      ⟨if code = 0 then .succeeded else .failed, some code, terminatedBySignal (some code)⟩
  signalledOnce : state.signals.length ≤ 1

/-- What holds in each phase of a timely run. -/
def Holds (state : Supervised Record) : Prop :=
  match state.self.phase with
  | .opening | .checking | .configuring | .starting | .spawnFailed _ | .recordingSpawnError _ =>
      state.self.child = none ∧ state.self.early = false ∧ state.files.finished = none
  | .neverStarting =>
      state.self.child = none ∧ state.self.early = true ∧ state.files.finished = none
  | .surviving | .recordingStart | .announcing | .signalling =>
      Attended state.self false ∧ state.files.finished = none
  | .polling signalled | .relaying signalled | .looking signalled | .sleeping signalled =>
      Attended state.self signalled ∧ state.files.finished = none
  | .draining signalled code | .truncating signalled code | .reporting signalled code
  | .finishing signalled code =>
      Ended state.self signalled code ∧ state.files.finished = none
  | .returned _ => (∃ record, state.files.finished = some record ∧ Truthful state record) ∧
      ∀ code, state.self.exitWorker code = state.self
  | .raised => state.files.finished = none ∧ state.signals.length ≤ 1

variable {state : Supervised Record} {self : Supervisor} {signalled : Bool} {code : Int}

theorem Ended.truthful {phase : Phase} {files : Files Record} {generation : Nat}
    (ended : Ended self signalled code) :
    Truthful ⟨{ self with phase }, files⟩ (exitRecord signalled code generation) := by
  obtain ⟨worker, child, life, signals, early⟩ := ended
  constructor
  · cases signalled with
    | false => simpa [exitRecord, Supervised.signals, child, signals] using early
    | true => simp [exitRecord, Supervised.signals, child, signals]
  · rintro other final same ⟨life', unsignalled⟩
    obtain rfl : worker = other := Option.some.inj (child.symm.trans same)
    have ends : code = final := by
      rcases life' with life' | life'
      · rw [life] at life'
        cases life'
      · rw [life] at life'
        cases life'
        rfl
    subst ends
    cases signalled with
    | true => simp [signals] at unsignalled
    | false => simp [finishedStatus, exitRecord]
  · cases signalled with
    | false => simp [Supervised.signals, child, signals]
    | true => simp [Supervised.signals, child, signals]

theorem truthful_neverStarted {phase : Phase} {files : Files Record} {generation : Nat}
    (unborn : self.child = none) (early : self.early = true) :
    Truthful ⟨{ self with phase }, files⟩ (neverStartedRecord generation) := by
  constructor
  · simp [neverStartedRecord, early]
  · intro worker code child
    simp [unborn] at child
  · simp [Supervised.signals, unborn]

theorem truthful_spawnError {phase : Phase} {files : Files Record} {generation : Nat}
    {error : String} (unborn : self.child = none) (early : self.early = false) :
    Truthful ⟨{ self with phase }, files⟩ (spawnErrorRecord error generation) := by
  constructor
  · simp [spawnErrorRecord, early, Supervised.signals, unborn]
  · intro worker code child
    simp [unborn] at child
  · simp [Supervised.signals, unborn]

/-- A poll finds the worker running, or reaps the code it exited with. -/
theorem Attended.poll {worker : Worker} (attended : Attended self signalled)
    (child : self.child = some worker)
    (timely : signalled = false → self.early = true → worker.life = .running) :
    (self.pollWorker signalled worker).phase = .relaying signalled ∧
        Attended (self.pollWorker signalled worker) signalled ∨
      ∃ code, (self.pollWorker signalled worker).phase = .draining signalled code ∧
        Ended (self.pollWorker signalled worker) signalled code := by
  obtain ⟨other, same, alive, signals⟩ := attended
  obtain rfl : worker = other := Option.some.inj (child.symm.trans same)
  cases life : worker.life with
  | running =>
      left
      simp only [Supervisor.pollWorker, Worker.poll, life, Attended, true_and]
      exact ⟨worker, rfl, alive, signals⟩
  | exited code =>
      right
      refine ⟨code, ?_, ?_⟩
      · simp [Supervisor.pollWorker, Worker.poll, life]
      · simp only [Supervisor.pollWorker, Worker.poll, life, Ended]
        refine ⟨_, rfl, rfl, signals, ?_⟩
        intro early
        cases signalled with
        | true => rfl
        | false =>
            rw [timely rfl early] at life
            cases life
  | reaped code => exact absurd life (alive code)

theorem Attended.signal {worker : Worker} (attended : Attended self false)
    (child : self.child = some worker) (running : worker.life = .running) :
    (self.signalWorker worker).phase = .sleeping true ∧
      Attended (self.signalWorker worker) true := by
  obtain ⟨other, same, alive, signals⟩ := attended
  obtain rfl : worker = other := Option.some.inj (child.symm.trans same)
  have killed : worker.killpg = ({ worker with signals := worker.signals ++ [true] }, true) := by
    simp [Worker.killpg, running]
  simp only [Supervisor.signalWorker, killed, true_and]
  exact ⟨_, rfl, alive, by simp [signals]⟩

theorem exit_of_none (unborn : self.child = none) {phase : Phase} :
    (self.goTo phase).exitWorker code = self.goTo phase := by
  have child : (self.goTo phase).child = none := unborn
  simp only [Supervisor.exitWorker, child, Option.map_none]
  exact congrArg (fun child => { self.goTo phase with child }) child.symm

theorem Ended.exit {final : Int} (ended : Ended self signalled final) (code : Int) :
    self.exitWorker code = self := by
  obtain ⟨worker, child, life, -⟩ := ended
  simp only [Supervisor.exitWorker, child, Option.map_some, Worker.exit, life]
  exact congrArg (fun child => { self with child }) child.symm

theorem Attended.signals_le (attended : Attended self signalled) (files : Files Record) :
    (Supervised.signals ⟨self, files⟩).length ≤ 1 := by
  obtain ⟨worker, child, -, signals⟩ := attended
  cases signalled with
  | false => simp [Supervised.signals, child, signals]
  | true => simp [Supervised.signals, child, signals]

theorem Ended.signals_le (ended : Ended self signalled code) (files : Files Record) :
    (Supervised.signals ⟨self, files⟩).length ≤ 1 := by
  obtain ⟨worker, child, -, signals, -⟩ := ended
  cases signalled with
  | false => simp [Supervised.signals, child, signals]
  | true => simp [Supervised.signals, child, signals]

theorem Holds.supervise {given : Given Record} (holds : Holds state)
    (timely : Timely state (.supervise given)) : Holds (state.step (.supervise given)) := by
  obtain ⟨⟨pid, phase, writer, handler, child, early⟩, files⟩ := state
  cases phase with
  | opening | configuring | spawnFailed | surviving | sleeping | returned | raised => exact holds
  | checking =>
      obtain ⟨unborn, notEarly, unfinished⟩ := holds
      simp only [step, Supervisor.step]
      split_ifs
      · exact ⟨unborn, rfl, unfinished⟩
      · exact ⟨unborn, notEarly, unfinished⟩
  | neverStarting =>
      obtain ⟨unborn, isEarly, -⟩ := holds
      exact ⟨⟨_, rfl, truthful_neverStarted unborn isEarly⟩, fun _ => exit_of_none unborn⟩
  | starting =>
      obtain ⟨unborn, notEarly, unfinished⟩ := holds
      simp only [step, Supervisor.step, Supervisor.startWorker]
      split
      · exact ⟨unborn, notEarly, unfinished⟩
      · exact ⟨⟨_, rfl, fun _ => Life.noConfusion, rfl⟩, unfinished⟩
  | recordingSpawnError error =>
      obtain ⟨unborn, notEarly, -⟩ := holds
      exact ⟨⟨_, rfl, truthful_spawnError unborn notEarly⟩, fun _ => exit_of_none unborn⟩
  | recordingStart | announcing =>
      obtain ⟨⟨worker, rfl, attended⟩, unfinished⟩ := holds
      exact ⟨⟨worker, rfl, attended⟩, unfinished⟩
  | polling signalled =>
      obtain ⟨attended, unfinished⟩ := holds
      have kept := attended
      obtain ⟨worker, rfl, -⟩ := kept
      have runs : signalled = false → early = true → worker.life = .running := by
        rintro rfl isEarly
        obtain ⟨other, same, running⟩ := timely.2 rfl isEarly
        cases same
        exact running
      simp only [step, Supervisor.step, Holds]
      rcases attended.poll rfl runs with ⟨relays, attended⟩ | ⟨code, drains, ended⟩
      · rw [relays]
        exact ⟨attended, unfinished⟩
      · rw [drains]
        exact ⟨ended, unfinished⟩
  | relaying signalled =>
      obtain ⟨attended, unfinished⟩ := holds
      simp only [step, Supervisor.step, Supervisor.emitting]
      split_ifs
      · exact ⟨by simpa using unfinished, attended.signals_le files⟩
      · exact ⟨attended, by simpa using unfinished⟩
  | looking signalled =>
      simp only [step, Supervisor.step]
      split_ifs with seen
      · obtain ⟨rfl, -⟩ := seen
        exact holds
      · exact holds
  | signalling =>
      obtain ⟨attended, unfinished⟩ := holds
      obtain ⟨worker, rfl, running⟩ := timely.1 rfl
      obtain ⟨sleeps, signalled⟩ := attended.signal rfl running
      simp only [step, Supervisor.step, Holds]
      rw [sleeps]
      exact ⟨signalled, unfinished⟩
  | draining signalled code =>
      obtain ⟨ended, unfinished⟩ := holds
      simp only [step, Supervisor.step, Supervisor.emitting]
      split_ifs
      · exact ⟨by simpa using unfinished, ended.signals_le files⟩
      · exact ⟨ended, by simpa using unfinished⟩
  | truncating | reporting =>
      obtain ⟨ended, unfinished⟩ := holds
      exact ⟨ended, by simpa [step, Supervisor.step, Supervisor.emitting] using unfinished⟩
  | finishing signalled code =>
      obtain ⟨ended, -⟩ := holds
      have shut : Ended (Supervisor.goTo (.returned code)
          ⟨pid, .finishing signalled code, writer, handler, child, early⟩) signalled code := ended
      exact ⟨⟨_, rfl, ended.truthful⟩, shut.exit⟩

theorem Attended.exit (attended : Attended self signalled) (code : Int) :
    Attended (self.exitWorker code) signalled := by
  obtain ⟨worker, child, alive, signals⟩ := attended
  exact ⟨worker.exit code, by simp [Supervisor.exitWorker, child],
    fun final => Worker.exit_unreaped (alive final), by rw [Worker.exit_signals, signals]⟩

theorem signals_exit (state : Supervised Record) (code : Int) :
    (state.step (.exit code)).signals = state.signals := by
  cases child : state.self.child with
  | none => simp [step, signals, Supervisor.exitWorker, child]
  | some worker => simp [step, signals, Supervisor.exitWorker, child]

theorem Holds.exit (holds : Holds state) (code : Int) : Holds (state.step (.exit code)) := by
  obtain ⟨⟨pid, phase, writer, handler, child, early⟩, files⟩ := state
  cases phase with
  | opening | checking | configuring | starting | spawnFailed _ | recordingSpawnError _
  | neverStarting =>
      obtain ⟨unborn, early, unfinished⟩ := holds
      refine ⟨?_, early, unfinished⟩
      simpa only [step, Supervisor.exitWorker, Option.map_eq_none_iff] using unborn
  | surviving | recordingStart | announcing | signalling | polling _ | relaying _ | looking _
  | sleeping _ =>
      obtain ⟨attended, unfinished⟩ := holds
      exact ⟨attended.exit code, unfinished⟩
  | draining signalled final | truncating signalled final | reporting signalled final
  | finishing signalled final =>
      obtain ⟨ended, unfinished⟩ := holds
      simp only [step, ended.exit code]
      exact ⟨ended, unfinished⟩
  | returned final =>
      simp only [step, holds.2 code]
      exact holds
  | raised =>
      refine ⟨holds.1, ?_⟩
      rw [signals_exit]
      exact holds.2

theorem Holds.requestCancel (holds : Holds state) : Holds (state.step .requestCancel) := by
  obtain ⟨⟨pid, phase, writer, handler, child, early⟩, files⟩ := state
  cases phase with
  | returned final =>
      obtain ⟨⟨record, finished, truthful⟩, settled⟩ := holds
      exact ⟨⟨record, finished, truthful.cancelled, truthful.byItself, truthful.signalledOnce⟩,
        settled⟩
  | _ => exact holds

theorem Holds.of_reaches {pid : Nat} {cancelRequest : Bool}
    (reached : Reaches step Timely (start pid cancelRequest) state) : Holds state := by
  apply reached.invariant
  · exact ⟨rfl, rfl, rfl⟩
  · intro state move holds timely
    cases move with
    | supervise given => exact holds.supervise timely
    | exit code => exact holds.exit code
    | requestCancel => exact holds.requestCancel

theorem Holds.truthful {record : Finished} (holds : Holds state)
    (finished : state.files.finished = some record) : Truthful state record := by
  obtain ⟨⟨pid, phase, writer, handler, child, early⟩, files⟩ := state
  cases phase with
  | returned final =>
      obtain ⟨⟨written, same, truthful⟩, -⟩ := holds
      obtain rfl : written = record := Option.some.inj (same.symm.trans finished)
      exact truthful
  | opening | checking | configuring | starting | spawnFailed _ | recordingSpawnError _
  | neverStarting =>
      obtain ⟨-, -, unfinished⟩ := holds
      cases unfinished.symm.trans finished
  | raised => cases holds.1.symm.trans finished
  | _ =>
      obtain ⟨-, unfinished⟩ := holds
      cases unfinished.symm.trans finished

theorem Holds.signals_le (holds : Holds state) : state.signals.length ≤ 1 := by
  obtain ⟨⟨pid, phase, writer, handler, child, early⟩, files⟩ := state
  cases phase with
  | opening | checking | configuring | starting | spawnFailed _ | recordingSpawnError _
  | neverStarting =>
      obtain ⟨unborn, -⟩ := holds
      cases unborn
      exact Nat.zero_le 1
  | surviving | recordingStart | announcing | signalling | polling _ | relaying _ | looking _
  | sleeping _ => exact holds.1.signals_le files
  | draining _ _ | truncating _ _ | reporting _ _ | finishing _ _ => exact holds.1.signals_le files
  | returned final =>
      obtain ⟨⟨record, finished, truthful⟩, settled⟩ := holds
      exact truthful.signalledOnce
  | raised => exact holds.2

instance (state : Supervised Record) : Decidable state.Running :=
  decidable_of_iff (state.self.child.any fun worker => worker.life = .running) (by
    simp [Running, Option.any_eq_true])

instance (state : Supervised Record) (move : Move Record) : Decidable (state.Timely move) :=
  match move with
  | .supervise _ => inferInstanceAs (Decidable (_ ∧ _))
  | .exit _ => .isTrue trivial
  | .requestCancel => .isTrue trivial

end Supervised

open Supervised

/-- Along every timely run at most one signal is sent, and the finished record says cancelled
exactly when the request was there before the worker or `SIGTERM` reached the worker running;
a worker that ended by itself is reported by its exit code. -/
theorem finished_tells_cancellation {pid : Nat} {cancelRequest : Bool} {state : Supervised Record}
    (reached : Reaches step Timely (start pid cancelRequest) state) :
    state.signals.length ≤ 1 ∧ ∀ record, state.files.finished = some record →
      (record.cancelled = some true ↔ state.self.early = true ∨ true ∈ state.signals) ∧
      ∀ worker code, state.self.child = some worker → worker.EndedByItself code →
        finishedStatus record =
          ⟨if code = 0 then .succeeded else .failed, some code,
            terminatedBySignal (some code)⟩ := by
  have holds := Holds.of_reaches reached
  constructor
  · exact holds.signals_le
  · intro record finished
    have truthful := holds.truthful finished
    exact ⟨truthful.cancelled, truthful.byItself⟩

/-- The request is seen while the worker runs; it is signalled and shuts down with code 0. -/
def signalledInTime : List (Move String) :=
  List.replicate 8 (.supervise ⟨.ok 41, [], 0, false⟩) ++
    [.requestCancel, .supervise ⟨.ok 41, [], 0, false⟩, .supervise ⟨.ok 41, [], 0, false⟩,
      .supervise ⟨.ok 41, [], 0, false⟩, .exit 0] ++
    List.replicate 6 (.supervise ⟨.ok 41, [], 0, false⟩)

theorem finished_tells_cancellation_signalled :
    ∃ state : Supervised String, Reaches step Timely (start 7 false) state ∧
      state.files.finished = some (exitRecord true 0 0) ∧ state.signals = [true] ∧
      (finishedStatus (exitRecord true 0 0)).state = .cancelled ∧
      ((exitRecord true 0 0).cancelled = some true ↔
        state.self.early = true ∨ true ∈ state.signals) := by
  have reached : Reaches step Timely (start 7 false)
      (Library.follow step signalledInTime (start 7 false)) :=
    Reaches.start.follow signalledInTime (by decide)
  have finished : (Library.follow step signalledInTime (start 7 false)).files.finished =
      some (exitRecord true 0 0) := by decide
  exact ⟨_, reached, finished, by decide, by decide,
    ((finished_tells_cancellation reached).2 _ finished).1⟩

/-- The worker ends by itself after the poll that found it running, before it is signalled. -/
def signalledInVain : List (Move String) :=
  List.replicate 8 (.supervise ⟨.ok 41, [], 0, false⟩) ++ [.requestCancel, .exit 0] ++
    List.replicate 9 (.supervise ⟨.ok 41, [], 0, false⟩)

/-- A finished training run recorded as cancelled: the signal reached nothing. -/
theorem cancelled_after_its_own_exit :
    ∃ (state : Supervised String) (record : Finished) (worker : Worker),
      Reaches step (fun _ _ => True) (start 7 false) state ∧
      state.files.finished = some record ∧ state.self.child = some worker ∧
      worker.EndedByItself 0 ∧ state.self.early = false ∧ true ∉ state.signals ∧
      record.cancelled = some true ∧ (finishedStatus record).state = .cancelled := by
  have reached : Reaches step (fun _ _ => True) (start 7 false)
      (Library.follow step signalledInVain (start 7 false)) :=
    Reaches.start.follow signalledInVain (by decide)
  refine ⟨_, exitRecord true 0 0, ⟨41, .reaped 0, [false]⟩, reached, by decide, by decide, ?_,
    by decide, by decide, rfl, by decide⟩
  exact ⟨.inr rfl, by decide⟩

end Xaytune.Runtimes
