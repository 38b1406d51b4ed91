import Mathlib.Order.Defs.PartialOrder

/-!
# Loops

A `while True` loop takes turns from state to state until one of them returns.
`Visits` are the states a loop passes through; a measure that every turn lowers
bounds how many there are.
-/

namespace Xaytune.Library

variable {σ ρ : Type}

/-- One round of a loop: it goes on, or it returns. -/
inductive Turn (σ ρ : Type) where
  | next (state : σ)
  | stop (result : ρ)

namespace Loop

/-- The loop, for at most so many rounds. -/
def run (turn : σ → Turn σ ρ) : Nat → σ → Option ρ
  | 0, _ => none
  | fuel + 1, state =>
      match turn state with
      | .next later => run turn fuel later
      | .stop result => some result

/-- The states a loop passes through. -/
inductive Visits (turn : σ → Turn σ ρ) (start : σ) : σ → Prop
  | here : Visits turn start start
  | next {state later : σ} (visited : Visits turn start state) (goes : turn state = .next later) :
      Visits turn start later

variable {turn : σ → Turn σ ρ} {start state later : σ} {result : ρ} {fuel : Nat}

namespace Visits

theorem trans (first : Visits turn start state) (second : Visits turn state later) :
    Visits turn start later := by
  induction second with
  | here => exact first
  | next _ goes ih => exact ih.next goes

/-- What holds at the start and is kept by every turn holds of every state passed. -/
theorem invariant {I : σ → Prop} (visited : Visits turn start state) (init : I start)
    (kept : ∀ state later, turn state = .next later → I state → I later) : I state := by
  induction visited with
  | here => exact init
  | next _ goes ih => exact kept _ _ goes ih

/-- A loop passes through the states of another whose turns it takes too. -/
theorem mono {turn' : σ → Turn σ ρ} (visited : Visits turn start state)
    (goes : ∀ state later, Visits turn start state → turn state = .next later →
      turn' state = .next later) : Visits turn' start state := by
  induction visited with
  | here => exact .here
  | next before here ih => exact ih.next (goes _ _ before here)

/-- A loop that has passed a state and has not ended there goes on from it. -/
theorem head (visited : Visits turn state later) :
    later = state ∨ ∃ middle, turn state = .next middle ∧ Visits turn middle later := by
  induction visited with
  | here => exact .inl rfl
  | next _ goes ih =>
      rcases ih with rfl | ⟨middle, first, rest⟩
      · exact .inr ⟨_, goes, .here⟩
      · exact .inr ⟨middle, first, rest.next goes⟩

/-- Every state a loop passes leads to where it ends. -/
theorem to_stop (visited : Visits turn start state) (ended : Visits turn start later)
    (stops : turn later = .stop result) : Visits turn state later := by
  induction visited with
  | here => exact ended
  | next _ goes ih =>
      rcases ih.head with rfl | ⟨middle, first, rest⟩
      · rw [goes] at stops
        cases stops
      · rw [goes] at first
        cases first
        exact rest

/-- A loop ends at one state. -/
theorem stop_unique {result' : ρ} (visited : Visits turn start state)
    (stops : turn state = .stop result) (visited' : Visits turn start later)
    (stops' : turn later = .stop result') : state = later := by
  rcases (visited.to_stop visited' stops').head with same | ⟨_, goes, _⟩
  · exact same.symm
  · rw [stops] at goes
    cases goes

end Visits

theorem run_next (goes : turn state = .next later) :
    run turn (fuel + 1) state = run turn fuel later := by
  rw [run, goes]

/-- A loop that returns does so at a state it passes. -/
theorem stops_of_run (ran : run turn fuel start = some result) :
    ∃ state, Visits turn start state ∧ turn state = .stop result := by
  induction fuel generalizing start with
  | zero => cases ran
  | succ fuel ih =>
      cases here : turn start with
      | next later =>
          rw [run_next here] at ran
          obtain ⟨state, visited, stops⟩ := ih ran
          exact ⟨state, (Visits.here.next here).trans visited, stops⟩
      | stop answer =>
          rw [run, here] at ran
          exact ⟨start, .here, by rw [here, Option.some.inj ran]⟩

/-- A measure every turn lowers, where an invariant holds, bounds the rounds a loop takes. -/
theorem run_isSome {I : σ → Prop} (measure : σ → Nat) (init : I start)
    (lowers : ∀ state later, I state → turn state = .next later →
      I later ∧ measure later < measure state)
    (enough : measure start < fuel) : (run turn fuel start).isSome = true := by
  induction fuel generalizing start with
  | zero => cases enough
  | succ fuel ih =>
      cases here : turn start with
      | next later =>
          rw [run_next here]
          obtain ⟨kept, lower⟩ := lowers start later init here
          exact ih kept (by omega)
      | stop answer =>
          rw [run, here]
          rfl

end Loop

end Xaytune.Library
