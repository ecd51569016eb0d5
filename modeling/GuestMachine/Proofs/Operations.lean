import GuestMachine.Operation

/-! # What a refusal leaves

An operation is atomic if it leaves the state as it was whenever it is refused.
It is so if everything that can be refused comes before everything that changes
the state. What an atomic operation does is known from its outcome alone. Two
operations, also on states of different types, are alike if they have the same
outcome and leave related states whatever the outcome is.
-/

namespace GuestMachine

/-- The state a computation ends in, also if it fails. -/
def outcomeState : EStateM.Result ε σ α → σ
  | .ok _ s => s
  | .error _ s => s

theorem exceptBind_eq_ok {ε α β : Type} {x : Except ε α} {f : α → Except ε β} {b : β}
    (ended : x >>= f = .ok b) : ∃ a, x = .ok a ∧ f a = .ok b := by
  cases x with
  | error e => cases ended
  | ok a => exact ⟨a, rfl, ended⟩

theorem mapError_eq_ok {ε ε' α : Type} {f : ε → ε'} {x : Except ε α} {a : α}
    (ended : x.mapError f = .ok a) : x = .ok a := by
  cases x with
  | error e => cases ended
  | ok b =>
      cases ended
      rfl

theorem mapError_id {ε α : Type} (x : Except ε α) : x.mapError id = x := by
  cases x <;> rfl

namespace Operation

variable {ε ε' σ τ α β : Type}

theorem ofExcept_ok_bind (a : α) (next : α → Operation ε σ β) (state : σ) :
    (ofExcept (.ok a) >>= next) state = next a state := rfl

theorem outcome_of_ok {action : Operation ε σ α} {state after : σ} {a : α}
    (acted : action state = .ok a after) : action.outcome state = .ok (a, after) := by
  rw [outcome, acted]

theorem result_of_ok {action : Operation ε σ Unit} {state after : σ}
    (acted : action state = .ok () after) : action.result state = .ok after := by
  rw [result, acted]

theorem get_bind (next : σ → Operation ε σ β) (state : σ) :
    (get >>= next) state = next state state := rfl

theorem bind_of_ok {action : Operation ε σ α} {next : α → Operation ε σ β} {state middle : σ}
    {a : α} (acted : action state = .ok a middle) : (action >>= next) state = next a middle := by
  change EStateM.bind action next state = _
  rw [EStateM.bind.eq_1, acted]

theorem bind_of_error {action : Operation ε σ α} {next : α → Operation ε σ β} {state after : σ}
    {e : ε} (refused : action state = .error e after) :
    (action >>= next) state = .error e after := by
  change EStateM.bind action next state = _
  rw [EStateM.bind.eq_1, refused]

theorem outcome_bind (action : Operation ε σ α) (next : α → Operation ε σ β) (state : σ) :
    (action >>= next).outcome state =
      (action.outcome state).bind fun (a, after) => (next a).outcome after := by
  cases acted : action state with
  | ok a after =>
      rw [outcome, outcome, bind_of_ok acted, acted]
      rfl
  | error e after =>
      rw [outcome, outcome, bind_of_error acted, acted]
      rfl

theorem outcome_get_bind (next : σ → Operation ε σ β) (state : σ) :
    (get >>= next).outcome state = (next state).outcome state := rfl

theorem outcome_ofExcept_bind (e : Except ε α) (next : α → Operation ε σ β) (state : σ) :
    (ofExcept e >>= next).outcome state = e.bind fun a => (next a).outcome state := by
  cases e with
  | ok a => rfl
  | error e => rfl

theorem outcome_within (view : σ → τ) (put : σ → τ → σ) (wrap : ε → ε')
    (action : Operation ε τ α) (state : σ) :
    (within view put wrap action).outcome state =
      ((action.outcome (view state)).map fun (a, part) => (a, put state part)).mapError wrap := by
  rw [outcome, within, outcome]
  cases action (view state) with
  | ok a part => rfl
  | error e part => rfl

/-- The rest of the state is as `put` leaves it, also after a refusal. -/
theorem outcomeState_within (view : σ → τ) (put : σ → τ → σ) (wrap : ε → ε')
    (action : Operation ε τ α) (state : σ) :
    outcomeState (within view put wrap action state) =
      put state (outcomeState (action (view state))) := by
  rw [within]
  cases action (view state) <;> rfl

theorem within_eq_ok {view : σ → τ} {put : σ → τ → σ} {wrap : ε → ε'} {action : Operation ε τ α}
    {state after : σ} {a : α} (acted : within view put wrap action state = .ok a after) :
    ∃ part, action (view state) = .ok a part ∧ after = put state part := by
  rw [within] at acted
  split at acted
  · rename_i part done
    cases acted
    exact ⟨part, done, rfl⟩
  · cases acted

theorem within_of_ok {view : σ → τ} {put : σ → τ → σ} {wrap : ε → ε'} {action : Operation ε τ α}
    {state : σ} {part : τ} {a : α} (acted : action (view state) = .ok a part) :
    within view put wrap action state = .ok a (put state part) := by
  rw [within, acted]

theorem bind_eq_ok {action : Operation ε σ α} {next : α → Operation ε σ β} {state after : σ} {b : β}
    (ended : (action >>= next) state = .ok b after) :
    ∃ a middle, action state = .ok a middle ∧ next a middle = .ok b after := by
  cases acted : action state with
  | ok a middle =>
      rw [bind_of_ok acted] at ended
      exact ⟨a, middle, rfl, ended⟩
  | error e middle =>
      rw [bind_of_error acted] at ended
      cases ended

theorem bind_eq_error {action : Operation ε σ α} {next : α → Operation ε σ β} {state after : σ}
    {e : ε} (refused : (action >>= next) state = .error e after) :
    action state = .error e after ∨
      ∃ a middle, action state = .ok a middle ∧ next a middle = .error e after := by
  cases acted : action state with
  | ok a middle =>
      rw [bind_of_ok acted] at refused
      exact .inr ⟨a, middle, rfl, refused⟩
  | error e' middle =>
      rw [bind_of_error acted] at refused
      cases refused
      exact .inl rfl

theorem result_eq (action : Operation ε σ Unit) (state : σ) :
    action.result state = (action.outcome state).map Prod.snd := by
  rw [result, outcome]
  cases action state with
  | ok a after => rfl
  | error e after => rfl

/-- If the operation is refused, it has done nothing. -/
def Atomic (action : Operation ε σ α) : Prop :=
  ∀ state e after, action state = .error e after → after = state

/-- The operation is never refused. -/
def Accepted (action : Operation ε σ α) : Prop :=
  ∀ state, ∃ a after, action state = .ok a after

theorem pure_accepted (a : α) : Accepted (pure a : Operation ε σ α) :=
  fun state => ⟨a, state, rfl⟩

theorem modify_accepted (f : σ → σ) : Accepted (modify f : Operation ε σ PUnit) :=
  fun state => ⟨(), f state, rfl⟩

theorem get_accepted : Accepted (get : Operation ε σ σ) :=
  fun state => ⟨state, state, rfl⟩

theorem Accepted.bind {action : Operation ε σ α} {next : α → Operation ε σ β}
    (accepted : Accepted action) (rest : ∀ a, Accepted (next a)) : Accepted (action >>= next) := by
  intro state
  obtain ⟨a, middle, acted⟩ := accepted state
  obtain ⟨b, after, done⟩ := rest a middle
  exact ⟨b, after, (bind_of_ok acted).trans done⟩

theorem Accepted.atomic {action : Operation ε σ α} (accepted : Accepted action) :
    Atomic action := by
  intro state e after refused
  obtain ⟨a, middle, acted⟩ := accepted state
  cases acted.symm.trans refused

theorem throw_atomic (e : ε) : Atomic (throw e : Operation ε σ α) := by
  intro state e' after refused
  cases refused
  rfl

theorem ofExcept_atomic (e : Except ε α) : Atomic (ofExcept e : Operation ε σ α) := by
  intro state e' after refused
  cases e with
  | ok a => cases refused
  | error e =>
      cases refused
      rfl

/-- A question comes before what depends on the answer. -/
theorem Atomic.ofExcept_bind {e : Except ε α} {next : α → Operation ε σ β}
    (atomic : ∀ a, e = .ok a → Atomic (next a)) : Atomic (ofExcept e >>= next) := by
  intro state e' after refused
  cases e with
  | ok a => exact atomic a rfl state e' after refused
  | error e =>
      cases refused
      rfl

theorem Atomic.get_bind {next : σ → Operation ε σ β} (atomic : ∀ state, Atomic (next state)) :
    Atomic (get >>= next) :=
  fun state e after refused => atomic state state e after refused

/-- What is not refused once the first step is accepted may come last. -/
theorem Atomic.bind_settled {action : Operation ε σ α} {next : α → Operation ε σ β}
    (atomic : Atomic action)
    (settled : ∀ state a middle, action state = .ok a middle →
      ∃ b after, next a middle = .ok b after) :
    Atomic (action >>= next) := by
  intro state e after refused
  rcases bind_eq_error refused with stopped | ⟨a, middle, acted, later⟩
  · exact atomic state e after stopped
  · obtain ⟨b, done, accepts⟩ := settled state a middle acted
    cases accepts.symm.trans later

theorem Atomic.bind_accepted {action : Operation ε σ α} {next : α → Operation ε σ β}
    (atomic : Atomic action) (accepted : ∀ a, Accepted (next a)) : Atomic (action >>= next) :=
  atomic.bind_settled fun _ a middle _ => accepted a middle

theorem Atomic.map {action : Operation ε σ α} (atomic : Atomic action) (f : α → β) :
    Atomic (do let a ← action; return f a) :=
  atomic.bind_accepted fun _ => pure_accepted _

theorem Atomic.within {action : Operation ε τ α} (atomic : Atomic action) {view : σ → τ}
    {put : σ → τ → σ} (wrap : ε → ε') (same : ∀ state, put state (view state) = state) :
    Atomic (within view put wrap action) := by
  intro state e after refused
  rw [Operation.within] at refused
  split at refused
  · cases refused
  · rename_i stopped
    cases refused
    rw [atomic _ _ _ stopped, same]

/-- The outcome of an operation, with the state from before for a refusal. -/
def settle (state : σ) : Except ε (α × σ) → EStateM.Result ε σ α
  | .ok (a, after) => .ok a after
  | .error e => .error e state

theorem Atomic.run_eq {action : Operation ε σ α} (atomic : Atomic action) (state : σ) :
    action state = settle state (action.outcome state) := by
  rw [outcome]
  cases acted : action state with
  | ok a after => rfl
  | error e after => rw [atomic state e after acted, settle]

theorem Atomic.run_eq_result {action : Operation ε σ Unit} (atomic : Atomic action) (state : σ) :
    action state = settle state ((action.result state).map ((), ·)) := by
  rw [result]
  cases acted : action state with
  | ok a after => rfl
  | error e after =>
      rw [atomic state e after acted]
      rfl

theorem Atomic.attempt_eq {action : Operation ε σ Unit} (atomic : Atomic action) (state : σ) :
    action.attempt state = match action.result state with
      | .ok after => (true, after)
      | .error _ => (false, state) := by
  rw [attempt, result]
  cases acted : action state with
  | ok a after => rfl
  | error e after => rw [atomic state e after acted]

theorem Atomic.outcomeState_eq {action : Operation ε σ α} (atomic : Atomic action) (state : σ) :
    outcomeState (action state) = match action.outcome state with
      | .ok (_, after) => after
      | .error _ => state := by
  rw [outcome]
  cases acted : action state with
  | ok a after => rfl
  | error e after => exact atomic state e after acted

/-- An answer in either case, and the state that the operation leaves. -/
def answer {ρ : Type} (accepted : α → ρ) (refused : ε → ρ) (action : Operation ε σ α)
    (state : σ) : ρ × σ :=
  match action state with
  | .ok a after => (accepted a, after)
  | .error e after => (refused e, after)

theorem Atomic.answer_eq {ρ : Type} {action : Operation ε σ α} (atomic : Atomic action)
    (accepted : α → ρ) (refused : ε → ρ) (state : σ) :
    action.answer accepted refused state = match action.outcome state with
      | .ok (a, after) => (accepted a, after)
      | .error e => (refused e, state) := by
  rw [answer, outcome]
  cases acted : action state with
  | ok a after => rfl
  | error e after => rw [atomic state e after acted]

end Operation

variable {ε σ τ α β : Type} {related : σ → τ → Prop}

/-- The same answer, and related states. -/
def AnswerAlike (related : σ → τ → Prop) (x : α × σ) (y : α × τ) : Prop :=
  x.1 = y.1 ∧ related x.2 y.2

theorem AnswerAlike.split {x : α × σ} {y : α × τ} (alike : AnswerAlike related x y) :
    ∃ a s t, x = (a, s) ∧ y = (a, t) ∧ related s t :=
  ⟨x.1, x.2, y.2, rfl, Prod.ext alike.1.symm rfl, alike.2⟩

/-- The same value or the same failure, and related states. -/
def OutcomeAlike (related : σ → τ → Prop) :
    EStateM.Result ε σ α → EStateM.Result ε τ α → Prop
  | .ok a s, .ok b t => a = b ∧ related s t
  | .error e s, .error f t => e = f ∧ related s t
  | _, _ => False

/-- Two computations that have the same outcome from related states. -/
def Alike (related : σ → τ → Prop) (x : EStateM ε σ α) (y : EStateM ε τ α) : Prop :=
  ∀ s t, related s t → OutcomeAlike related (x s) (y t)

theorem OutcomeAlike.cases {x : EStateM.Result ε σ α} {y : EStateM.Result ε τ α}
    (alike : OutcomeAlike related x y) :
    (∃ a s t, x = .ok a s ∧ y = .ok a t ∧ related s t) ∨
      ∃ e s t, x = .error e s ∧ y = .error e t ∧ related s t := by
  cases x with
  | ok a s =>
      cases y with
      | ok b t =>
          obtain ⟨rfl, same⟩ := alike
          exact .inl ⟨a, s, t, rfl, rfl, same⟩
      | error e t => exact alike.elim
  | error e s =>
      cases y with
      | ok b t => exact alike.elim
      | error f t =>
          obtain ⟨rfl, same⟩ := alike
          exact .inr ⟨e, s, t, rfl, rfl, same⟩

namespace Alike

theorem of_eq (x : EStateM ε σ α) : Alike Eq x x := by
  rintro s _ rfl
  cases x s with
  | ok a s' => exact ⟨rfl, rfl⟩
  | error e s' => exact ⟨rfl, rfl⟩

theorem pure (a : α) : Alike related (pure a : EStateM ε σ α) (pure a : EStateM ε τ α) :=
  fun _ _ same => ⟨rfl, same⟩

theorem bind {x : EStateM ε σ α} {y : EStateM ε τ α} {f : α → EStateM ε σ β}
    {g : α → EStateM ε τ β} (first : Alike related x y) (next : ∀ a, Alike related (f a) (g a)) :
    Alike related (x >>= f) (y >>= g) := by
  intro s t same
  rcases (first s t same).cases with ⟨a, s', t', hx, hy, same'⟩ | ⟨e, s', t', hx, hy, same'⟩
  · rw [Operation.bind_of_ok hx, Operation.bind_of_ok hy]
    exact next a s' t' same'
  · rw [Operation.bind_of_error hx, Operation.bind_of_error hy]
    exact ⟨rfl, same'⟩

end Alike

end GuestMachine
