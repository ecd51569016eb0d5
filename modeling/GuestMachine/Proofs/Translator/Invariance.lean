import GuestMachine.Proofs.Translator.Agreement

/-! # Invariants of the environment

What every hook preserves, every instruction preserves. A supervisor call runs
the operating system, which may do anything, so it is left out, and so are the
hooks that belong to block boundaries and not to instructions.
-/

namespace GuestMachine.A64

/-- The hooks that instructions use, supervisor calls apart, preserve `inv`. -/
structure Environment.Preserves (inv : σ → Prop) (env : Environment σ) : Prop where
  read : ∀ w addr s, inv s → inv (env.read w addr s).2
  write : ∀ w addr value s, inv s → inv (env.write w addr value s).2
  exclusiveRead : ∀ w pc addr s, inv s → inv (outcomeState (env.exclusiveRead w pc addr s))
  exclusiveWrite : ∀ w pc addr value s, inv s →
    inv (outcomeState (env.exclusiveWrite w pc addr value s))
  clearExclusive : ∀ s, inv s → inv (env.clearExclusive s)
  raise : ∀ pc event s, inv s → inv (outcomeState (env.raise pc event s))
  dataCache : ∀ pc op addr s, inv s → inv (outcomeState (env.dataCache pc op addr s))
  instructionCache : ∀ pc op addr s, inv s → inv (outcomeState (env.instructionCache pc op addr s))
  instructionBarrier : ∀ pc s, inv s → inv (outcomeState (env.instructionBarrier pc s))
  fallback : ∀ pc opcode s, inv s → inv (outcomeState (env.fallback pc opcode s))
  counter : ∀ s, inv s → inv (env.counter s).2

/-- The environment with idle hooks in place of those that are left out. -/
def Environment.withoutCalls (env : Environment σ) : Environment σ :=
  { env with
    readCode := fun _ s => (none, s)
    callSupervisor := fun _ => pure ()
    takeInvalidations := fun s => ([], s)
    takeHalts := fun s => (0, s) }

variable {env : Environment σ} {inv : σ → Prop}

theorem execute_withoutCalls (env : Environment σ) (cntfrq : UInt64) (pc : Address)
    {instruction : Instruction} (noCall : ∀ imm, instruction ≠ .svc imm) :
    execute env.withoutCalls cntfrq pc instruction = execute env cntfrq pc instruction := by
  cases instruction with
  | svc imm => exact absurd rfl (noCall imm)
  | _ => rfl

theorem AnswerAlike.of_invariant {f : σ → α × σ} (keeps : ∀ s, inv s → inv (f s).2) (s t : σ)
    (same : s = t ∧ inv s) : AnswerAlike (fun s t => s = t ∧ inv s) (f s) (f t) := by
  obtain ⟨rfl, holds⟩ := same
  exact ⟨rfl, rfl, keeps s holds⟩

theorem Alike.of_invariant {x : EStateM ε σ α} (keeps : ∀ s, inv s → inv (outcomeState (x s))) :
    Alike (fun s t => s = t ∧ inv s) x x := by
  rintro s _ ⟨rfl, holds⟩
  have after := keeps s holds
  cases ended : x s with
  | ok a s' =>
      rw [ended] at after
      exact ⟨rfl, rfl, after⟩
  | error e s' =>
      rw [ended] at after
      exact ⟨rfl, rfl, after⟩

theorem Environment.Preserves.agree (keeps : env.Preserves inv) :
    env.withoutCalls.Agree (fun s t => s = t ∧ inv s) env.withoutCalls where
  readCode _ := AnswerAlike.of_invariant fun _ holds => holds
  read w addr := AnswerAlike.of_invariant (keeps.read w addr)
  write w addr value := AnswerAlike.of_invariant (keeps.write w addr value)
  exclusiveRead w pc addr := Alike.of_invariant (keeps.exclusiveRead w pc addr)
  exclusiveWrite w pc addr value := Alike.of_invariant (keeps.exclusiveWrite w pc addr value)
  clearExclusive := by
    rintro s _ ⟨rfl, holds⟩
    exact ⟨rfl, keeps.clearExclusive s holds⟩
  callSupervisor _ := .pure ()
  raise pc event := Alike.of_invariant (keeps.raise pc event)
  dataCache pc op addr := Alike.of_invariant (keeps.dataCache pc op addr)
  instructionCache pc op addr := Alike.of_invariant (keeps.instructionCache pc op addr)
  instructionBarrier pc := Alike.of_invariant (keeps.instructionBarrier pc)
  fallback pc opcode := Alike.of_invariant (keeps.fallback pc opcode)
  counter := AnswerAlike.of_invariant keeps.counter
  takeInvalidations := AnswerAlike.of_invariant fun _ holds => holds
  takeHalts := AnswerAlike.of_invariant fun _ holds => holds

theorem execute_preserves (keeps : env.Preserves inv) (cntfrq : UInt64) (pc : Address)
    {instruction : Instruction} (noCall : ∀ imm, instruction ≠ .svc imm) {cpu : Cpu σ}
    (holds : inv cpu.env) : inv (outcomeState (execute env cntfrq pc instruction cpu)).env := by
  have alike := execute_alike keeps.agree cntfrq pc instruction cpu cpu ⟨rfl, rfl, holds⟩
  rw [execute_withoutCalls env cntfrq pc noCall] at alike
  rcases alike.cases with
    ⟨flow, after, _, here, _, _, _, kept⟩ | ⟨error, after, _, here, _, _, _, kept⟩
  · rw [here]
    exact kept
  · rw [here]
    exact kept

end GuestMachine.A64
