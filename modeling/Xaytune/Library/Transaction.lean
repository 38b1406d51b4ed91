import Mathlib.Logic.Relation

/-!
# Transactions

A transaction reads and writes a state and either commits with a value or
raises; a transaction that raises is rolled back, so its caller keeps the state
it started from. `Ensures` is partial correctness for one starting state: what
holds of the value and of the state at every commit. Its rules take a do-block
apart one statement at a time.
-/

namespace Xaytune.Library

/-- A computation over the state `σ` that commits a value or raises an `ε`. -/
def Transaction (σ ε α : Type) : Type := σ → Except ε (α × σ)

namespace Transaction

variable {σ ε α β : Type}

instance : Monad (Transaction σ ε) where
  pure a := fun s => .ok (a, s)
  bind m f := fun s =>
    match m s with
    | .error e => .error e
    | .ok (a, s') => f a s'

theorem bind_apply (m : Transaction σ ε α) (f : α → Transaction σ ε β) (s : σ) :
    (m >>= f) s =
      match m s with
      | .error e => .error e
      | .ok (a, s') => f a s' :=
  rfl

/-- A value computed from the state. -/
def read (f : σ → α) : Transaction σ ε α := fun s => .ok (f s, s)

/-- Change the state. -/
def write (f : σ → σ) : Transaction σ ε Unit := fun s => .ok ((), f s)

/-- Raise. -/
def refuse (e : ε) : Transaction σ ε α := fun _ => .error e

/-- Raise `e` unless the condition holds. -/
def require (condition : Bool) (e : ε) : Transaction σ ε Unit := fun s =>
  if condition then .ok ((), s) else .error e

/-- The value of an option; `none` raises `e`. -/
def expect (value : Option α) (e : ε) : Transaction σ ε α := fun s =>
  match value with
  | none => .error e
  | some a => .ok (a, s)

/-- Run `m` on every element, in order. -/
def forEach : List β → (β → Transaction σ ε Unit) → Transaction σ ε Unit
  | [], _ => pure ()
  | item :: rest, m => do
      m item
      forEach rest m

/-! ## One statement at a time -/

@[simp] theorem pure_apply (a : α) (s : σ) : (pure a : Transaction σ ε α) s = .ok (a, s) := rfl

@[simp] theorem read_apply (f : σ → α) (s : σ) :
    (read f : Transaction σ ε α) s = .ok (f s, s) :=
  rfl

@[simp] theorem write_apply (f : σ → σ) (s : σ) :
    (write f : Transaction σ ε Unit) s = .ok ((), f s) :=
  rfl

@[simp] theorem require_apply (condition : Bool) (e : ε) (s : σ) :
    (require condition e : Transaction σ ε Unit) s =
      if condition then .ok ((), s) else .error e :=
  rfl

@[simp] theorem expect_some (a : α) (e : ε) (s : σ) :
    (expect (some a) e : Transaction σ ε α) s = .ok (a, s) :=
  rfl

@[simp] theorem expect_none (e : ε) (s : σ) : (expect none e : Transaction σ ε α) s = .error e :=
  rfl

/-- The state a caller is left with: what was committed, or what it started from. -/
def settle (m : Transaction σ ε α) (s : σ) : σ :=
  match m s with
  | .ok (_, s') => s'
  | .error _ => s

/-! ## Partial correctness -/

/-- Whenever `m` commits from `s`, the value and the new state satisfy `post`. -/
def Ensures (m : Transaction σ ε α) (s : σ) (post : α → σ → Prop) : Prop :=
  ∀ a s', m s = .ok (a, s') → post a s'

theorem Ensures.mono {m : Transaction σ ε α} {s : σ} {post weaker : α → σ → Prop}
    (ensured : m.Ensures s post) (weaken : ∀ a s', post a s' → weaker a s') : m.Ensures s weaker :=
  fun a s' ran => weaken a s' (ensured a s' ran)

theorem ensures_pure {a : α} {s : σ} {post : α → σ → Prop} :
    (pure a : Transaction σ ε α).Ensures s post ↔ post a s := by
  constructor
  · intro ensured
    exact ensured a s rfl
  · rintro holds _ _ ⟨⟩
    exact holds

theorem ensures_bind {m : Transaction σ ε α} {f : α → Transaction σ ε β} {s : σ}
    {post : β → σ → Prop} :
    (m >>= f).Ensures s post ↔ m.Ensures s fun a s' => (f a).Ensures s' post := by
  constructor
  · intro ensured a s' ran b s'' ranRest
    refine ensured b s'' ?_
    rw [bind_apply, ran]
    exact ranRest
  · intro ensured b s'' ran
    rw [bind_apply] at ran
    cases first : m s with
    | error e =>
        rw [first] at ran
        cases ran
    | ok result =>
        rw [first] at ran
        exact ensured result.1 result.2 first b s'' ran

theorem ensures_read {f : σ → α} {s : σ} {post : α → σ → Prop} :
    (read f : Transaction σ ε α).Ensures s post ↔ post (f s) s := by
  constructor
  · intro ensured
    exact ensured _ s rfl
  · rintro holds _ _ ⟨⟩
    exact holds

theorem ensures_write {f : σ → σ} {s : σ} {post : Unit → σ → Prop} :
    (write f : Transaction σ ε Unit).Ensures s post ↔ post () (f s) := by
  constructor
  · intro ensured
    exact ensured () _ rfl
  · rintro holds _ _ ⟨⟩
    exact holds

theorem ensures_refuse {e : ε} {s : σ} {post : α → σ → Prop} :
    (refuse e : Transaction σ ε α).Ensures s post ↔ True := by
  refine iff_of_true ?_ trivial
  intro _ _ ran
  cases ran

theorem ensures_require {condition : Bool} {e : ε} {s : σ} {post : Unit → σ → Prop} :
    (require condition e : Transaction σ ε Unit).Ensures s post ↔
    (condition = true → post () s) := by
  cases condition with
  | false =>
      refine iff_of_true ?_ (by simp)
      intro _ _ ran
      cases ran
  | true =>
      constructor
      · intro ensured _
        exact ensured () s rfl
      · rintro holds _ _ ⟨⟩
        exact holds rfl

theorem ensures_expect {value : Option α} {e : ε} {s : σ} {post : α → σ → Prop} :
    (expect value e : Transaction σ ε α).Ensures s post ↔ ∀ a, value = some a → post a s := by
  cases value with
  | none =>
      refine iff_of_true ?_ (by simp)
      intro _ _ ran
      cases ran
  | some found =>
      constructor
      · rintro ensured _ ⟨⟩
        exact ensured found s rfl
      · rintro holds _ _ ⟨⟩
        exact holds found rfl

theorem ensures_ite {condition : Prop} [Decidable condition] {m n : Transaction σ ε α} {s : σ}
    {post : α → σ → Prop} :
    (if condition then m else n).Ensures s post ↔
      (condition → m.Ensures s post) ∧ (¬ condition → n.Ensures s post) := by
  by_cases holds : condition <;> simp [holds]

/-- A transaction that never commits raises. -/
theorem Ensures.refuses {m : Transaction σ ε α} {s : σ} (never : m.Ensures s fun _ _ => False) :
    ∃ e, m s = .error e := by
  cases ran : m s with
  | error e => exact ⟨e, rfl⟩
  | ok result => exact (never result.1 result.2 ran).elim

/-! ## Total correctness -/

/-- From `s`, the transaction commits `a` and leaves `s'`. -/
def Yields (m : Transaction σ ε α) (s : σ) (a : α) (s' : σ) : Prop := m s = .ok (a, s')

section Yields

variable {m : Transaction σ ε α} {f : α → Transaction σ ε β} {s s' s'' : σ} {a : α} {b : β}

theorem yields_pure (a : α) (s : σ) : (pure a : Transaction σ ε α).Yields s a s := rfl

theorem Yields.bind (first : m.Yields s a s') (rest : (f a).Yields s' b s'') :
    (m >>= f).Yields s b s'' := by
  unfold Yields at first
  unfold Yields
  rw [bind_apply, first]
  exact rest

theorem yields_read {g : σ → α} (rest : (f (g s)).Yields s b s') :
    (read g >>= f : Transaction σ ε β).Yields s b s' := rest

theorem yields_require {condition : Bool} {e : ε} (holds : condition = true) (s : σ) :
    (require condition e : Transaction σ ε Unit).Yields s () s := by
  unfold Yields
  rw [require_apply, if_pos holds]

theorem yields_expect {value : Option α} {e : ε} (found : value = some a) (s : σ) :
    (expect value e : Transaction σ ε α).Yields s a s := by
  subst found
  rfl

/-- A loop whose rounds leave the state alone leaves it alone. -/
theorem yields_forEach {items : List β} {m : β → Transaction σ ε Unit}
    (round : ∀ item ∈ items, (m item).Yields s () s) : (forEach items m).Yields s () s := by
  induction items with
  | nil => exact yields_pure () s
  | cons item rest ih =>
      refine (round item List.mem_cons_self).bind (ih ?_)
      exact fun other member => round other (List.mem_cons_of_mem item member)

/-- A transaction that leaves the state alone leaves its caller's alone. -/
theorem Yields.settle (yields : m.Yields s a s') : m.settle s = s' := by
  unfold Yields at yields
  unfold Transaction.settle
  rw [yields]

end Yields

end Transaction

/-! ## Sessions -/

/-- A call that commits several transactions: what was committed before it raises stays. -/
def Session (σ ε α : Type) : Type := σ → Except ε α × σ

namespace Session

variable {σ ε α β : Type}

instance : Monad (Session σ ε) where
  pure a := fun s => (.ok a, s)
  bind m f := fun s =>
    match m s with
    | (.error e, s') => (.error e, s')
    | (.ok a, s') => f a s'

/-- One transaction of the call. -/
def commit (m : Transaction σ ε α) : Session σ ε α := fun s =>
  match m s with
  | .error e => (.error e, s)
  | .ok (a, s') => (.ok a, s')

/-- A value read between the transactions. -/
def read (f : σ → α) : Session σ ε α := fun s => (.ok (f s), s)

/-- Raise. -/
def refuse (e : ε) : Session σ ε α := fun s => (.error e, s)

/-- Run `m` on every element, in order. -/
def forEach : List β → (β → Session σ ε Unit) → Session σ ε Unit
  | [], _ => pure ()
  | item :: rest, m => do
      m item
      forEach rest m

/-- The state the caller is left with. -/
def settle (m : Session σ ε α) (s : σ) : σ := (m s).2

theorem commit_settle (m : Transaction σ ε α) (s : σ) :
    (commit m).settle s = Transaction.settle m s := by
  unfold settle commit Transaction.settle
  cases m s <;> rfl

theorem read_bind_settle (g : σ → α) (f : α → Session σ ε β) (s : σ) :
    (read g >>= f).settle s = (f (g s)).settle s := rfl

section Relations

variable {related : σ → σ → Prop} {m : Session σ ε α} {f : α → Session σ ε β} {s : σ}

/-- A call raises in its first part, or ends as its second part does. -/
theorem bind_settle (m : Session σ ε α) (f : α → Session σ ε β) (s : σ) :
    (m >>= f).settle s = m.settle s ∨ ∃ a, (m >>= f).settle s = (f a).settle (m.settle s) := by
  cases ran : m s with
  | mk result s' =>
      cases result with
      | error e =>
          refine .inl ?_
          simp only [settle, Bind.bind, ran]
      | ok a =>
          refine .inr ⟨a, ?_⟩
          simp only [settle, Bind.bind, ran]

/-- A relation that composes relates a call's states when it relates each of its parts'. -/
theorem bind_related (trans : ∀ s₁ s₂ s₃, related s₁ s₂ → related s₂ s₃ → related s₁ s₃)
    (first : related s (m.settle s))
    (rest : ∀ a, related (m.settle s) ((f a).settle (m.settle s))) :
    related s ((m >>= f).settle s) := by
  rcases bind_settle m f s with raised | ⟨a, continued⟩
  · rwa [raised]
  · rw [continued]
    exact trans _ _ _ first (rest a)

theorem forEach_related (refl : ∀ s, related s s)
    (trans : ∀ s₁ s₂ s₃, related s₁ s₂ → related s₂ s₃ → related s₁ s₃)
    {items : List β} {m : β → Session σ ε Unit}
    (each : ∀ item ∈ items, ∀ s, related s ((m item).settle s)) (s : σ) :
    related s ((forEach items m).settle s) := by
  induction items generalizing s with
  | nil => exact refl s
  | cons item rest ih =>
      refine bind_related trans (each item List.mem_cons_self s) fun _ => ih ?_ _
      exact fun other member => each other (List.mem_cons_of_mem item member)

end Relations

end Session

end Xaytune.Library
