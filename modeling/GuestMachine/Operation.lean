/-! # Operations that may be refused

An operation that is refused halfway leaves its state as it is at that point.
Whether that is the state from before is for a proof to say, so the state comes
back from every operation, also from one that fails.
-/

namespace GuestMachine

/-- An operation on a state of type `σ`, refused with an error of type `ε`. What
    it did before it was refused stays. -/
abbrev Operation := EStateM

namespace Operation

/-- A question that nothing depends on but its answer. -/
def ofExcept (e : Except ε α) : Operation ε σ α := fun state =>
  match e with
  | .ok a => .ok a state
  | .error e => .error e state

/-- Work on a part of the state. -/
def within (view : σ → τ) (put : σ → τ → σ) (wrap : ε → ε') (action : Operation ε τ α) :
    Operation ε' σ α := fun state =>
  match action (view state) with
  | .ok a part => .ok a (put state part)
  | .error e part => .error (wrap e) (put state part)

/-- Clean up after a refusal, which stands. -/
def undoneBy (action : Operation ε σ α) (cleanup : Operation ε σ Unit) : Operation ε σ α :=
  fun state =>
    match action state with
    | .ok a after => .ok a after
    | .error e after => (do cleanup; throw e : Operation ε σ α) after

/-- The answer and the state, for a caller that has no use for the state after a
    refusal. -/
def outcome (action : Operation ε σ α) (state : σ) : Except ε (α × σ) :=
  match action state with
  | .ok a after => .ok (a, after)
  | .error e _ => .error e

/-- The state alone. -/
def result (action : Operation ε σ Unit) (state : σ) : Except ε σ :=
  match action state with
  | .ok () after => .ok after
  | .error e _ => .error e

/-- Whether the operation was accepted, and the state either way. -/
def attempt (action : Operation ε σ Unit) (state : σ) : Bool × σ :=
  match action state with
  | .ok () after => (true, after)
  | .error _ after => (false, after)

end Operation

end GuestMachine
