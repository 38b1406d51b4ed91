import Xaytune.Library.Transaction

/-!
# Transactions as chains of legal steps

A transaction that changes a state in several statements is legal when each
statement is a step of a relation. Some statements leave something to be done
before the commit, so a step goes from one debt to another beside the states.
`Performs` says that every commit of a transaction is such a chain; what the
steps keep, `sound`, may be used at every point of the transaction.
-/

namespace Xaytune.Library

variable {σ ε δ α β : Type}

/-- The chains of a step relation on a state and what is still owed there. -/
inductive Steps (step : δ → σ → δ → σ → Prop) (d : δ) (s : σ) : δ → σ → Prop
  | refl : Steps step d s d s
  | tail {d₁ d₂ : δ} {s₁ s₂ : σ} (chain : Steps step d s d₁ s₁) (last : step d₁ s₁ d₂ s₂) :
      Steps step d s d₂ s₂

namespace Steps

variable {step : δ → σ → δ → σ → Prop} {d d₁ d₂ : δ} {s s₁ s₂ : σ}

theorem trans (first : Steps step d s d₁ s₁) (second : Steps step d₁ s₁ d₂ s₂) :
    Steps step d s d₂ s₂ := by
  induction second with
  | refl => exact first
  | tail _ last ih => exact ih.tail last

/-- What every step keeps is kept by a chain. -/
theorem invariant {I : δ → σ → Prop} (chain : Steps step d s d₁ s₁) (start : I d s)
    (kept : ∀ d s d' s', step d s d' s' → I d s → I d' s') : I d₁ s₁ := by
  induction chain with
  | refl => exact start
  | tail _ last ih => exact kept _ _ _ _ last ih

/-- A relation between states that every step is in, and that composes, holds of a chain. -/
theorem relates {related : σ → σ → Prop} (chain : Steps step d s d₁ s₁) (refl : ∀ s, related s s)
    (trans : ∀ s₁ s₂ s₃, related s₁ s₂ → related s₂ s₃ → related s₁ s₃)
    (each : ∀ d s d' s', step d s d' s' → related s s') : related s s₁ := by
  induction chain with
  | refl => exact refl s
  | tail _ last ih => exact trans _ _ _ ih (each _ _ _ _ last)

end Steps

/-- Every commit of `m` from debt `d` at `s` is a chain of steps, to a debt and state in `post`. -/
def Performs (step : δ → σ → δ → σ → Prop) (sound : δ → σ → Prop) (m : Transaction σ ε α) (d : δ)
    (s : σ) (post : α → δ → σ → Prop) : Prop :=
  sound d s → m.Ensures s fun a s' => ∃ d', Steps step d s d' s' ∧ sound d' s' ∧ post a d' s'

namespace Performs

variable {step : δ → σ → δ → σ → Prop} {sound : δ → σ → Prop} {m : Transaction σ ε α}
  {f : α → Transaction σ ε β} {d : δ} {s : σ} {post : α → δ → σ → Prop}
  {done : β → δ → σ → Prop}

/-- What is sound where a transaction starts may be used in it. -/
theorem assume (use : sound d s → Performs step sound m d s post) :
    Performs step sound m d s post :=
  fun holds => use holds holds

theorem mono {weaker : α → δ → σ → Prop} (performed : Performs step sound m d s post)
    (weaken : ∀ a d' s', post a d' s' → weaker a d' s') : Performs step sound m d s weaker := by
  intro holds a s' ran
  obtain ⟨d', chain, kept, holds⟩ := performed holds a s' ran
  exact ⟨d', chain, kept, weaken a d' s' holds⟩

/-- What every step keeps holds where the transaction ends. -/
theorem keeps {I : δ → σ → Prop} (performed : Performs step sound m d s post) (start : I d s)
    (kept : ∀ d s d' s', step d s d' s' → I d s → I d' s') :
    Performs step sound m d s fun a d' s' => post a d' s' ∧ I d' s' := by
  intro holds a s' ran
  obtain ⟨d', chain, isSound, reached⟩ := performed holds a s' ran
  exact ⟨d', chain, isSound, reached, chain.invariant start kept⟩

theorem pure {a : α} (holds : post a d s) :
    Performs step sound (Pure.pure a : Transaction σ ε α) d s post := by
  intro start
  exact Transaction.ensures_pure.mpr ⟨d, .refl, start, holds⟩

theorem bind
    (performed : Performs step sound m d s fun a d' s' => Performs step sound (f a) d' s' done) :
    Performs step sound (m >>= f) d s done := by
  intro start
  refine Transaction.ensures_bind.mpr ?_
  intro a s' ran b s'' ranRest
  obtain ⟨d', chain, kept, rest⟩ := performed start a s' ran
  obtain ⟨d'', chain', kept', holds⟩ := rest kept b s'' ranRest
  exact ⟨d'', chain.trans chain', kept', holds⟩

/-- A statement that raises performs nothing. -/
theorem refuse {e : ε} :
    Performs step sound (Transaction.refuse e : Transaction σ ε α) d s post := by
  intro _
  exact Transaction.ensures_refuse.mpr trivial

theorem value {g : σ → α} (holds : post (g s) d s) :
    Performs step sound (Transaction.read g : Transaction σ ε α) d s post := by
  intro start
  exact Transaction.ensures_read.mpr ⟨d, .refl, start, holds⟩

/-- A write that is one step. -/
theorem write {g : σ → σ} {d' : δ} {post : Unit → δ → σ → Prop}
    (legal : step d s d' (g s)) (kept : sound d s → sound d' (g s)) (holds : post () d' (g s)) :
    Performs step sound (Transaction.write g : Transaction σ ε Unit) d s post := by
  intro start
  exact Transaction.ensures_write.mpr ⟨d', .tail .refl legal, kept start, holds⟩

theorem check {condition : Bool} {e : ε} {post : Unit → δ → σ → Prop}
    (holds : condition = true → post () d s) :
    Performs step sound (Transaction.require condition e : Transaction σ ε Unit) d s post := by
  intro start
  refine Transaction.ensures_require.mpr ?_
  intro met
  exact ⟨d, .refl, start, holds met⟩

theorem found {found : Option α} {e : ε} (holds : ∀ a, found = some a → post a d s) :
    Performs step sound (Transaction.expect found e : Transaction σ ε α) d s post := by
  intro start
  refine Transaction.ensures_expect.mpr ?_
  intro a isSome
  exact ⟨d, .refl, start, holds a isSome⟩

/-! ## Statements in sequence -/

theorem read {g : σ → α} (rest : Performs step sound (f (g s)) d s done) :
    Performs step sound (Transaction.read g >>= f) d s done :=
  .bind (.value rest)

theorem require {condition : Bool} {e : ε} {f : Unit → Transaction σ ε β}
    (rest : condition = true → Performs step sound (f ()) d s done) :
    Performs step sound (Transaction.require condition e >>= f) d s done :=
  .bind (.check rest)

theorem expect {found : Option α} {e : ε}
    (rest : ∀ a, found = some a → Performs step sound (f a) d s done) :
    Performs step sound (Transaction.expect found e >>= f) d s done :=
  .bind (.found rest)

theorem next {a : α} (rest : Performs step sound (f a) d s done) :
    Performs step sound ((Pure.pure a : Transaction σ ε α) >>= f) d s done :=
  .bind (.pure rest)

theorem ite {condition : Prop} [Decidable condition] {n : Transaction σ ε α}
    (holds : condition → Performs step sound m d s post)
    (fails : ¬ condition → Performs step sound n d s post) :
    Performs step sound (if condition then m else n) d s post := by
  by_cases condition
  · rw [if_pos ‹_›]
    exact holds ‹_›
  · rw [if_neg ‹_›]
    exact fails ‹_›

theorem dite {condition : Prop} [Decidable condition] {m : condition → Transaction σ ε α}
    {n : ¬ condition → Transaction σ ε α}
    (holds : ∀ met, Performs step sound (m met) d s post)
    (fails : ∀ unmet, Performs step sound (n unmet) d s post) :
    Performs step sound (if met : condition then m met else n met) d s post := by
  by_cases met : condition
  · rw [dif_pos met]
    exact holds met
  · rw [dif_neg met]
    exact fails met

/-- A loop: `inv` is about the elements still to come. -/
theorem forEach {items : List α} {m : α → Transaction σ ε Unit} {post : Unit → δ → σ → Prop}
    (inv : List α → δ → σ → Prop) (start : inv items d s)
    (round : ∀ item rest d s, inv (item :: rest) d s →
      Performs step sound (m item) d s fun _ d' s' => inv rest d' s')
    (finish : ∀ d s, inv [] d s → post () d s) :
    Performs step sound (Transaction.forEach items m) d s post := by
  induction items generalizing d s with
  | nil => exact .pure (finish d s start)
  | cons item rest ih =>
      refine .bind ((round item rest d s start).mono ?_)
      intro _ d' s' kept
      exact ih kept

/-- A loop of checks: what each of them establishes holds of all elements. -/
theorem forEachCheck {items : List α} {m : α → Transaction σ ε Unit}
    {post : Unit → δ → σ → Prop} (holdsOf : α → Prop)
    (each : ∀ item (post : Unit → δ → σ → Prop), (holdsOf item → post () d s) →
      Performs step sound (m item) d s post)
    (finish : (∀ item ∈ items, holdsOf item) → post () d s) :
    Performs step sound (Transaction.forEach items m) d s post := by
  induction items with
  | nil => exact .pure (finish fun _ member => absurd member List.not_mem_nil)
  | cons item rest ih =>
      refine .bind (each item _ fun here => ih fun others => finish ?_)
      intro other member
      rcases List.mem_cons.mp member with rfl | member
      · exact here
      · exact others other member

end Performs

end Xaytune.Library
