import GuestMachine.Proofs.Translator.Invariance

/-! # Invariants of a run

What every hook preserves, supervisor calls and block boundaries included,
holds up to the boundary at which a run takes a halt request. Taking one may
end the invariant, so it is stated for the moment before.
-/

namespace GuestMachine

open A64

variable {σ : Type} {env : Environment σ} {inv : σ → Prop}

namespace A64

/-- Whatever its outcome, the computation takes the environment one step further. -/
def Exec.Steps (related : σ → σ → Prop) (action : Exec σ α) : Prop :=
  ∀ cpu, related cpu.env (outcomeState (action cpu)).env

section

variable {related : σ → σ → Prop}

theorem Exec.Steps.bind (trans : ∀ s t u, related s t → related t u → related s u)
    {action : Exec σ α} {next : α → Exec σ β} (steps : Exec.Steps related action)
    (next_steps : ∀ a, Exec.Steps related (next a)) : Exec.Steps related (action >>= next) := by
  intro cpu
  have first := steps cpu
  cases ended : action cpu with
  | ok a after =>
      rw [ended] at first
      rw [Operation.bind_of_ok ended]
      exact trans _ _ _ first (next_steps a after)
  | error e after =>
      rw [ended] at first
      rw [Operation.bind_of_error ended]
      exact first

theorem Exec.Steps.hook {f : σ → α × σ} (steps : ∀ s, related s (f s).2) :
    Exec.Steps related (Exec.hook f) :=
  fun cpu => steps cpu.env

end

/-- The environment with halt requests left alone. -/
def Environment.withoutHalts (env : Environment σ) : Environment σ :=
  { env with takeHalts := fun s => (0, s) }

/-- All hooks preserve `inv`, but the one that takes halt requests only as long
    as there is none. -/
structure Environment.PreservesUntilHalt (inv : σ → Prop) (env : Environment σ) : Prop
    extends env.Preserves inv where
  readCode : ∀ addr s, inv s → inv (env.readCode addr s).2
  callSupervisor : ∀ number cpu, inv cpu.env → inv (outcomeState (env.callSupervisor number cpu)).env
  takeInvalidations : ∀ s, inv s → inv (env.takeInvalidations s).2
  takeHalts : ∀ s, inv s → (env.takeHalts s).1 = 0 → inv (env.takeHalts s).2

theorem Environment.PreservesUntilHalt.agree (keeps : env.PreservesUntilHalt inv) :
    env.withoutHalts.Agree (fun s t => s = t ∧ inv s) env.withoutHalts where
  readCode addr := AnswerAlike.of_invariant (keeps.readCode addr)
  read := keeps.toPreserves.agree.read
  write := keeps.toPreserves.agree.write
  exclusiveRead := keeps.toPreserves.agree.exclusiveRead
  exclusiveWrite := keeps.toPreserves.agree.exclusiveWrite
  clearExclusive := keeps.toPreserves.agree.clearExclusive
  callSupervisor number := by
    rintro cpu ⟨_, _⟩ ⟨rfl, rfl, holds⟩
    have after := keeps.callSupervisor number cpu holds
    change OutcomeAlike _ (env.callSupervisor number cpu) (env.callSupervisor number cpu)
    cases ended : env.callSupervisor number cpu with
    | ok a cpu' =>
        rw [ended] at after
        exact ⟨rfl, rfl, rfl, after⟩
    | error e cpu' =>
        rw [ended] at after
        exact ⟨rfl, rfl, rfl, after⟩
  raise := keeps.toPreserves.agree.raise
  dataCache := keeps.toPreserves.agree.dataCache
  instructionCache := keeps.toPreserves.agree.instructionCache
  instructionBarrier := keeps.toPreserves.agree.instructionBarrier
  fallback := keeps.toPreserves.agree.fallback
  counter := keeps.toPreserves.agree.counter
  takeInvalidations := AnswerAlike.of_invariant keeps.takeInvalidations
  takeHalts := AnswerAlike.of_invariant fun _ holds => holds

end A64

namespace Translator

theorem Block.translate_withoutHalts (env : Environment σ) (limit : Nat) (pc : Address) (s : σ) :
    Block.translate env.withoutHalts limit pc s = Block.translate env limit pc s := by
  have decodeFrom (pc : Address) (s : σ) (limit : Nat) :
      Block.decodeFrom env.withoutHalts pc limit s = Block.decodeFrom env pc limit s := by
    induction limit generalizing pc s with
    | zero => rfl
    | succ limit ih =>
        simp only [Block.decodeFrom, ih]
        rfl
  rw [Block.translate, Block.translate, decodeFrom]

theorem runInstructions_withoutHalts (env : Environment σ) (cntfrq : UInt64) (pc : Address)
    (instructions : List Instruction) (cpu : Cpu σ) :
    runInstructions env.withoutHalts cntfrq pc instructions cpu =
      runInstructions env cntfrq pc instructions cpu := by
  induction instructions generalizing pc cpu with
  | nil => rfl
  | cons instruction rest ih =>
      simp only [runInstructions, ih]
      rfl

theorem enterBlock_withoutHalts (env : Environment σ) (config : TranslatorConfig)
    (session : Session σ) :
    enterBlock env.withoutHalts config session = enterBlock env config session := by
  simp only [enterBlock, blockAt, runBlock, Block.translate_withoutHalts,
    runInstructions_withoutHalts]
  rfl

theorem enterBlock_preserves (keeps : env.PreservesUntilHalt inv) (config : TranslatorConfig)
    {session : Session σ} (holds : inv session.cpu.env) :
    inv (enterBlock env config session).2.cpu.env := by
  have same : SessionAlike (fun s t => s = t ∧ inv s) Eq session session := ⟨⟨rfl, rfl, holds⟩, rfl⟩
  have entered := enterBlock_alike keeps.agree config (fun exit c d same => by rw [same])
    (blockAt_alike keeps.agree config.maxBlockInstructions session.cpu.pc same) rfl
  rw [enterBlock_withoutHalts] at entered
  exact entered.2.cpu.2.2

/-- The invariant holds, or did before the halt request that this result reports
    was taken. -/
def EndsWithin (inv : σ → Prop) (env : Environment σ) : Option RunResult → σ → Prop
  | some (.halted bits), s => ∃ before, inv before ∧ env.takeHalts before = (bits, s)
  | _, s => inv s

theorem endsWithin_enterBlock {config : TranslatorConfig} {session : Session σ}
    (holds : inv (enterBlock env config session).2.cpu.env) :
    EndsWithin inv env (enterBlock env config session).1
      (enterBlock env config session).2.cpu.env := by
  revert holds
  rw [enterBlock]
  dsimp only
  split
  · exact id
  · rename_i block session' _
    intro holds
    dsimp only
    cases (runBlock env config.cntfrq block session').1 with
    | none => exact holds
    | some error => exact holds

theorem round_endsWithin (keeps : env.PreservesUntilHalt inv) (config : TranslatorConfig)
    {session : Session σ} (holds : inv session.cpu.env) :
    EndsWithin inv env (round env config session).1 (round env config session).2.cpu.env := by
  have drained := keeps.takeInvalidations _ holds
  rw [round, atBoundary]
  dsimp only
  split
  · exact ⟨_, drained, rfl⟩
  · rename_i idle
    exact endsWithin_enterBlock (enterBlock_preserves keeps config
      (keeps.takeHalts _ drained (Decidable.not_not.mp idle)))

theorem run_endsWithin (keeps : env.PreservesUntilHalt inv) (config : TranslatorConfig)
    (rounds : Nat) {session : Session σ} (holds : inv session.cpu.env) :
    EndsWithin inv env (some (run env config rounds session).1)
      (run env config rounds session).2.cpu.env := by
  induction rounds generalizing session with
  | zero => exact holds
  | succ rounds ih =>
      have kept := round_endsWithin keeps config holds
      rw [run]
      cases ended : round env config session with
      | mk result? after =>
          rw [ended] at kept
          cases result? with
          | some result => exact kept
          | none => exact ih kept

end Translator

end GuestMachine
