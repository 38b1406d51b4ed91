import Mathlib.Logic.Basic

/-!
# Programs that act through calls

A program is done, or it makes a call and goes on with the answer, which may be an error. A
machine says what each call does to a state, and what a crash in the middle of a call may leave
behind. `Program.Keeps` is the condition under which every state a crash can leave satisfies one
property and every finished run another; an action adds a memory of its own, which survives an
error that is raised and caught. `Action.MayLeave` says that some crash does leave such a state.
-/

namespace Xaytune.Library

inductive Program (Call : Type) (Answer : Call → Type) (E α : Type) : Type where
  | done (value : α)
  | call (request : Call) (next : Except E (Answer request) → Program Call Answer E α)

structure Machine (Call : Type) (Answer : Call → Type) (E S : Type) where
  perform : S → (request : Call) → S × Except E (Answer request)
  torn : S → Call → S → Prop

variable {Call : Type} {Answer : Call → Type} {E S α β σ : Type}

namespace Program

def bind (program : Program Call Answer E α) (next : α → Program Call Answer E β) :
    Program Call Answer E β :=
  match program with
  | .done value => next value
  | .call request rest => .call request fun answer => (rest answer).bind next

/-- The state a finished run leaves, and its value. -/
def exec (machine : Machine Call Answer E S) : Program Call Answer E α → S → S × α
  | .done value, state => (state, value)
  | .call request next, state =>
      (next (machine.perform state request).2).exec machine (machine.perform state request).1

/-- The states a crash may leave: before a call, inside one, or behind some of them. -/
inductive Crash (machine : Machine Call Answer E S) :
    Program Call Answer E α → S → S → Prop
  | here (program : Program Call Answer E α) (state : S) : Crash machine program state state
  | inside {request : Call} {next : Except E (Answer request) → Program Call Answer E α}
      {state left : S} (torn : machine.torn state request left) :
      Crash machine (.call request next) state left
  | later {request : Call} {next : Except E (Answer request) → Program Call Answer E α}
      {state left : S}
      (rest : Crash machine (next (machine.perform state request).2)
        (machine.perform state request).1 left) :
      Crash machine (.call request next) state left

/-- Every state a crash can leave satisfies `safe`, and every finished run `post`. -/
def Keeps (machine : Machine Call Answer E S) (safe : S → Prop) (post : S → α → Prop) :
    Program Call Answer E α → S → Prop
  | .done value, state => post state value
  | .call request next, state =>
      safe state ∧ (∀ left, machine.torn state request left → safe left) ∧
        (next (machine.perform state request).2).Keeps machine safe post
          (machine.perform state request).1

variable {machine : Machine Call Answer E S} {safe safe' : S → Prop} {post post' : S → α → Prop}
  {program : Program Call Answer E α} {state left : S}

theorem Keeps.mono (keeps : program.Keeps machine safe post state)
    (weaker : ∀ state, safe state → safe' state)
    (weakens : ∀ state value, post state value → post' state value) :
    program.Keeps machine safe' post' state := by
  induction program generalizing state with
  | done value => exact weakens state value keeps
  | call request next ih =>
      obtain ⟨here, inside, rest⟩ := keeps
      exact ⟨weaker state here, fun left torn => weaker left (inside left torn), ih _ rest⟩

theorem keeps_bind {next : α → Program Call Answer E β} {post : S → β → Prop} :
    (program.bind next).Keeps machine safe post state ↔
      program.Keeps machine safe (fun state value => (next value).Keeps machine safe post state)
        state := by
  induction program generalizing state with
  | done value => exact Iff.rfl
  | call request rest ih => exact and_congr_right fun _ => and_congr_right fun _ => ih _

theorem exec_bind {next : α → Program Call Answer E β} :
    (program.bind next).exec machine state =
      (next (program.exec machine state).2).exec machine (program.exec machine state).1 := by
  induction program generalizing state with
  | done value => rfl
  | call request rest ih => exact ih _

theorem Keeps.exec (keeps : program.Keeps machine safe post state) :
    post (program.exec machine state).1 (program.exec machine state).2 := by
  induction program generalizing state with
  | done value => exact keeps
  | call request next ih => exact ih _ keeps.2.2

theorem Keeps.crash (keeps : program.Keeps machine safe post state)
    (ends : ∀ state value, post state value → safe state)
    (crashed : program.Crash machine state left) : safe left := by
  induction crashed with
  | here program state =>
      cases program with
      | done value => exact ends state value keeps
      | call request next => exact keeps.1
  | inside torn => exact keeps.2.1 _ torn
  | later rest ih => exact ih keeps.2.2

/-- A crash in the first of two programs. -/
theorem Crash.before {next : α → Program Call Answer E β}
    (crashed : program.Crash machine state left) :
    (program.bind next).Crash machine state left := by
  induction crashed with
  | here program state => exact .here _ state
  | inside torn => exact .inside torn
  | later _ ih => exact .later ih

/-- A crash in the second of two programs, the first of which has finished. -/
theorem Crash.behind {next : α → Program Call Answer E β}
    (crashed : (next (program.exec machine state).2).Crash machine
      (program.exec machine state).1 left) :
    (program.bind next).Crash machine state left := by
  induction program generalizing state with
  | done value => exact crashed
  | call request rest ih => exact .later (ih _ crashed)

end Program

/-- A program with a memory, which an error leaves as it is. -/
def Action (Call : Type) (Answer : Call → Type) (E σ α : Type) : Type :=
  σ → Program Call Answer E (Except E α × σ)

namespace Action

instance : Monad (Action Call Answer E σ) where
  pure value := fun memory => .done (.ok value, memory)
  bind action next := fun memory => (action memory).bind fun
    | (.ok value, memory) => next value memory
    | (.error error, memory) => .done (.error error, memory)

instance : MonadExceptOf E (Action Call Answer E σ) where
  throw error := fun memory => .done (.error error, memory)
  tryCatch action handler := fun memory => (action memory).bind fun
    | (.ok value, memory) => .done (.ok value, memory)
    | (.error error, memory) => handler error memory

instance : MonadStateOf σ (Action Call Answer E σ) where
  get := fun memory => .done (.ok memory, memory)
  set memory := fun _ => .done (.ok (), memory)
  modifyGet change := fun memory => .done (.ok (change memory).1, (change memory).2)

def ask (request : Call) : Action Call Answer E σ (Answer request) :=
  fun memory => .call request fun answer => .done (answer, memory)

/-- The action's outcome, error or not. -/
def attempt (action : Action Call Answer E σ α) : Action Call Answer E σ (Except E α) :=
  fun memory => (action memory).bind fun (outcome, memory) => .done (.ok outcome, memory)

/-- Every state a crash can leave satisfies `safe`, and outcome, memory and state at the end
satisfy `post`. -/
def Keeps (machine : Machine Call Answer E S) (safe : S → Prop)
    (post : Except E α → σ → S → Prop) (action : Action Call Answer E σ α) (memory : σ)
    (state : S) : Prop :=
  (action memory).Keeps machine safe (fun state outcome => post outcome.1 outcome.2 state) state

variable {machine : Machine Call Answer E S} {safe safe' : S → Prop}
  {post post' : Except E α → σ → S → Prop} {mid : Except E α → σ → S → Prop}
  {action : Action Call Answer E σ α} {memory : σ} {state : S}

theorem Keeps.mono (keeps : action.Keeps machine safe post memory state)
    (weaker : ∀ state, safe state → safe' state)
    (weakens : ∀ outcome memory state, post outcome memory state → post' outcome memory state) :
    action.Keeps machine safe' post' memory state :=
  Program.Keeps.mono keeps weaker fun _ _ => weakens _ _ _

theorem Keeps.weaken (keeps : action.Keeps machine safe post memory state)
    (weakens : ∀ outcome memory state, post outcome memory state → post' outcome memory state) :
    action.Keeps machine safe post' memory state :=
  keeps.mono (fun _ => id) weakens

@[simp]
theorem keeps_pure {value : α} :
    (pure value : Action Call Answer E σ α).Keeps machine safe post memory state ↔
      post (.ok value) memory state :=
  Iff.rfl

@[simp]
theorem keeps_throw {error : E} :
    (throw error : Action Call Answer E σ α).Keeps machine safe post memory state ↔
      post (.error error) memory state :=
  Iff.rfl

theorem keeps_ask {request : Call} {post : Except E (Answer request) → σ → S → Prop} :
    (ask request : Action Call Answer E σ _).Keeps machine safe post memory state ↔
      safe state ∧ (∀ left, machine.torn state request left → safe left) ∧
        post (machine.perform state request).2 memory (machine.perform state request).1 :=
  Iff.rfl

@[simp]
theorem keeps_get {post : Except E σ → σ → S → Prop} :
    (get : Action Call Answer E σ σ).Keeps machine safe post memory state ↔
      post (.ok memory) memory state :=
  Iff.rfl

@[simp]
theorem keeps_modify {change : σ → σ} {post : Except E PUnit → σ → S → Prop} :
    (modify change : Action Call Answer E σ PUnit).Keeps machine safe post memory state ↔
      post (.ok ⟨⟩) (change memory) state :=
  Iff.rfl

theorem keeps_bind {next : α → Action Call Answer E σ β} {post : Except E β → σ → S → Prop} :
    (action >>= next).Keeps machine safe post memory state ↔
      action.Keeps machine safe (fun
        | .ok value, memory, state => (next value).Keeps machine safe post memory state
        | .error error, memory, state => post (.error error) memory state) memory state := by
  refine Program.keeps_bind.trans ?_
  constructor
  · intro keeps
    refine Program.Keeps.mono keeps (fun _ => id) ?_
    rintro state ⟨outcome, memory⟩ holds
    cases outcome with
    | ok value => exact holds
    | error error => exact holds
  · intro keeps
    refine Program.Keeps.mono keeps (fun _ => id) ?_
    rintro state ⟨outcome, memory⟩ holds
    cases outcome with
    | ok value => exact holds
    | error error => exact holds

theorem Keeps.bind {next : α → Action Call Answer E σ β} {post : Except E β → σ → S → Prop}
    (first : action.Keeps machine safe mid memory state)
    (rest : ∀ value memory state, mid (.ok value) memory state →
      (next value).Keeps machine safe post memory state)
    (fails : ∀ error memory state, mid (.error error) memory state →
      post (.error error) memory state) :
    (action >>= next).Keeps machine safe post memory state := by
  refine keeps_bind.mpr (first.weaken ?_)
  intro outcome memory state holds
  cases outcome with
  | ok value => exact rest value memory state holds
  | error error => exact fails error memory state holds

theorem Keeps.tryCatch {handler : E → Action Call Answer E σ α}
    (first : action.Keeps machine safe mid memory state)
    (fine : ∀ value memory state, mid (.ok value) memory state → post (.ok value) memory state)
    (caught : ∀ error memory state, mid (.error error) memory state →
      (handler error).Keeps machine safe post memory state) :
    (tryCatch action handler).Keeps machine safe post memory state := by
  refine Program.keeps_bind.mpr (Program.Keeps.mono first (fun _ => id) ?_)
  rintro state ⟨outcome, memory⟩ holds
  cases outcome with
  | ok value => exact fine value memory state holds
  | error error => exact caught error memory state holds

theorem keeps_attempt {post : Except E (Except E α) → σ → S → Prop} :
    action.attempt.Keeps machine safe post memory state ↔
      action.Keeps machine safe (fun outcome memory state => post (.ok outcome) memory state)
        memory state :=
  Program.keeps_bind

/-! ## What a crash may leave -/

/-- Some crash of the action leaves a state with a property. -/
def MayLeave (machine : Machine Call Answer E S) (reached : S → Prop)
    (action : Action Call Answer E σ α) (memory : σ) (state : S) : Prop :=
  ∃ left, (action memory).Crash machine state left ∧ reached left

section MayLeave

variable {reached : S → Prop} {next : α → Action Call Answer E σ β}

theorem mayLeave_here (holds : reached state) : action.MayLeave machine reached memory state :=
  ⟨state, .here _ _, holds⟩

theorem mayLeave_torn {request : Call} {left : S} (torn : machine.torn state request left)
    (holds : reached left) :
    (ask request : Action Call Answer E σ _).MayLeave machine reached memory state :=
  ⟨left, .inside torn, holds⟩

theorem MayLeave.bind (leaves : action.MayLeave machine reached memory state) :
    (action >>= next).MayLeave machine reached memory state :=
  leaves.imp fun _ both => ⟨both.1.before, both.2⟩

theorem MayLeave.attempt (leaves : action.MayLeave machine reached memory state) :
    action.attempt.MayLeave machine reached memory state :=
  leaves.imp fun _ both => ⟨both.1.before, both.2⟩

theorem MayLeave.tryCatch {handler : E → Action Call Answer E σ α}
    (leaves : action.MayLeave machine reached memory state) :
    (tryCatch action handler).MayLeave machine reached memory state :=
  leaves.imp fun _ both => ⟨both.1.before, both.2⟩

/-- Behind a finished action, a crash of the next one is a crash of both. -/
theorem mayLeave_bind
    (finishes : action.Keeps machine (fun _ => True) (fun outcome memory state =>
      ∃ value, outcome = .ok value ∧ (next value).MayLeave machine reached memory state)
        memory state) :
    (action >>= next).MayLeave machine reached memory state := by
  obtain ⟨value, isOk, left, crashed, holds⟩ := Program.Keeps.exec finishes
  refine ⟨left, Program.Crash.behind ?_, holds⟩
  generalize (action memory).exec machine state = ran at isOk crashed
  obtain ⟨state, outcome, memory⟩ := ran
  subst isOk
  exact crashed

end MayLeave

end Action

end Xaytune.Library
