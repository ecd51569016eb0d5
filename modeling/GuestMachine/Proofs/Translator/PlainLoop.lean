import GuestMachine.Proofs.Translator.Agreement

/-! # One instruction at a time

The plain loop: look at the halt requests, fetch one word at the PC, decode it,
execute it. No blocks, no cache. It is what a run of the translator is compared
with, and like a run it does the same against environments that agree.
-/

namespace GuestMachine

open A64 Translator

namespace Translator

/-- Where an instruction at `pc` leaves the core. -/
def settle (pc : Address) : EStateM.Result CpuError (Cpu σ) Flow → Option RunResult × Cpu σ
  | .ok (.jump target) cpu => (none, cpu.setPc target)
  | .ok _ cpu => (none, cpu)
  | .error error cpu => (some (.faulted error), cpu.setPc pc)

/-- Fetch, decode and execute the word at the PC, unless a halt is requested.
    `none` means that the loop goes on. -/
def plainStep (env : Environment σ) (cntfrq : UInt64) (cpu : Cpu σ) : Option RunResult × Cpu σ :=
  let (halts, s) := env.takeHalts cpu.env
  if halts ≠ 0 then (some (.halted halts), { cpu with env := s })
  else
    let pc := cpu.pc
    match env.readCode pc s with
    | (none, s) =>
        match env.raise pc .noExecuteFault s with
        | .ok () s =>
            (some (.faulted (.unhandledException pc .noExecuteFault)), { cpu with env := s })
        | .error error s => (some (.faulted error), { cpu with env := s })
    | (some word, s) =>
        settle pc (execute env cntfrq pc (decode word) ({ cpu with env := s }.setPc (pc + 4)))

/-- Up to `steps` instructions. -/
def runPlain (env : Environment σ) (cntfrq : UInt64) : (steps : Nat) → Cpu σ → RunResult × Cpu σ
  | 0, cpu => (.outOfRounds, cpu)
  | steps + 1, cpu =>
      match plainStep env cntfrq cpu with
      | (some result, cpu) => (result, cpu)
      | (none, cpu) => runPlain env cntfrq steps cpu

section

variable {env : Environment σ} {cntfrq : UInt64} {cpu after : Cpu σ} {result : RunResult}

theorem settle_ne_outOfRounds {pc : Address} {outcome : EStateM.Result CpuError (Cpu σ) Flow}
    (ended : settle pc outcome = (some result, after)) : result ≠ .outOfRounds := by
  rintro rfl
  cases outcome with
  | ok flow cpu =>
      cases flow with
      | _ => cases ended
  | error error cpu => cases ended

theorem plainStep_ne_outOfRounds (ended : plainStep env cntfrq cpu = (some result, after)) :
    result ≠ .outOfRounds := by
  rw [plainStep] at ended
  dsimp only at ended
  split at ended
  · cases ended
    exact RunResult.noConfusion
  · split at ended
    · split at ended
      · cases ended
        exact RunResult.noConfusion
      · cases ended
        exact RunResult.noConfusion
    · exact settle_ne_outOfRounds ended

theorem runPlain_add (m n : Nat) (running : runPlain env cntfrq m cpu = (.outOfRounds, after)) :
    runPlain env cntfrq (m + n) cpu = runPlain env cntfrq n after := by
  induction m generalizing cpu with
  | zero =>
      cases running
      rw [Nat.zero_add]
  | succ m ih =>
      rw [Nat.succ_add]
      rw [runPlain] at running ⊢
      cases step : plainStep env cntfrq cpu with
      | mk result? next =>
          rw [step] at running
          cases result? with
          | some result =>
              cases running
              exact absurd rfl (plainStep_ne_outOfRounds step)
          | none => exact ih running

/-- A run that has ended does not change with more steps. -/
theorem runPlain_ended (m n : Nat) (ended : runPlain env cntfrq m cpu = (result, after))
    (final : result ≠ .outOfRounds) : runPlain env cntfrq (m + n) cpu = (result, after) := by
  induction m generalizing cpu with
  | zero =>
      cases ended
      exact absurd rfl final
  | succ m ih =>
      rw [Nat.succ_add]
      rw [runPlain] at ended ⊢
      cases step : plainStep env cntfrq cpu with
      | mk result? next =>
          rw [step] at ended
          cases result? with
          | some result => exact ended
          | none => exact ih ended

theorem runPlain_unique {m n : Nat} {result' : RunResult}
    (ended : (runPlain env cntfrq m cpu).1 = result) (final : result ≠ .outOfRounds)
    (ended' : runPlain env cntfrq n cpu = (result', after)) (final' : result' ≠ .outOfRounds) :
    result = result' ∧ (runPlain env cntfrq m cpu).2 = after := by
  have longer := runPlain_ended m n (Prod.ext ended rfl) final
  rw [Nat.add_comm, runPlain_ended n m ended' final'] at longer
  exact ⟨(congrArg Prod.fst longer).symm, (congrArg Prod.snd longer).symm⟩

theorem round_ne_outOfRounds {config : TranslatorConfig} {S T : Session σ}
    (ended : round env config S = (some result, T)) : result ≠ .outOfRounds := by
  rw [round] at ended
  dsimp only at ended
  split at ended
  · cases ended
    exact RunResult.noConfusion
  · rw [enterBlock] at ended
    dsimp only at ended
    split at ended
    · cases ended
      exact RunResult.noConfusion
    · obtain ⟨error, _, rfl⟩ := Option.map_eq_some_iff.mp (congrArg Prod.fst ended)
      exact RunResult.noConfusion

end

end Translator

section

variable {left : Environment σ} {right : Environment τ} {related : σ → τ → Prop}

theorem A64.CpuAlike.setPc {c : Cpu σ} {d : Cpu τ} (same : CpuAlike related c d) (pc : Address) :
    CpuAlike related (c.setPc pc) (d.setPc pc) := by
  obtain ⟨context, env⟩ := same
  exact ⟨by rw [Cpu.setPc, Cpu.setPc, context], env⟩

theorem settle_alike (pc : Address) {x : EStateM.Result CpuError (Cpu σ) Flow}
    {y : EStateM.Result CpuError (Cpu τ) Flow} (outcome : OutcomeAlike (CpuAlike related) x y) :
    AnswerAlike (CpuAlike related) (settle pc x) (settle pc y) := by
  rcases outcome.cases with ⟨flow, c, d, rfl, rfl, after⟩ | ⟨error, c, d, rfl, rfl, after⟩
  · cases flow with
    | jump target => exact ⟨rfl, after.setPc target⟩
    | _ => exact ⟨rfl, after⟩
  · exact ⟨rfl, after.setPc pc⟩

theorem plainStep_alike (agree : left.Agree related right) (cntfrq : UInt64) {c : Cpu σ} {d : Cpu τ}
    (same : CpuAlike related c d) :
    AnswerAlike (CpuAlike related) (plainStep left cntfrq c) (plainStep right cntfrq d) := by
  obtain ⟨context, env⟩ := same
  have pc : c.pc = d.pc := by rw [Cpu.pc, Cpu.pc, context]
  obtain ⟨halts, s, t, hs, ht, env⟩ := (agree.takeHalts _ _ env).split
  obtain ⟨word?, s', t', hs', ht', env'⟩ := (agree.readCode c.pc s t env).split
  simp only [plainStep, hs, ht, ← pc, hs', ht']
  split
  · exact ⟨rfl, context, env⟩
  · cases word? with
    | none =>
        rcases (agree.raise c.pc .noExecuteFault s' t' env').cases with
          ⟨_, s'', t'', hs'', ht'', env''⟩ | ⟨error, s'', t'', hs'', ht'', env''⟩
        · simp only [hs'', ht'']
          exact ⟨rfl, context, env''⟩
        · simp only [hs'', ht'']
          exact ⟨rfl, context, env''⟩
    | some word =>
        have fetched : CpuAlike related { c with env := s' } { d with env := t' } := ⟨context, env'⟩
        exact settle_alike c.pc (execute_alike agree cntfrq c.pc (decode word) _ _
          (A64.CpuAlike.setPc fetched (c.pc + 4)))

theorem runPlain_alike (agree : left.Agree related right) (cntfrq : UInt64) (steps : Nat)
    {c : Cpu σ} {d : Cpu τ} (same : CpuAlike related c d) :
    AnswerAlike (CpuAlike related) (runPlain left cntfrq steps c) (runPlain right cntfrq steps d) := by
  induction steps generalizing c d with
  | zero => exact ⟨rfl, same⟩
  | succ steps ih =>
      obtain ⟨result?, c', d', hc, hd, after⟩ := (plainStep_alike agree cntfrq same).split
      rw [runPlain, runPlain, hc, hd]
      cases result? with
      | some result => exact ⟨rfl, after⟩
      | none => exact ih after

end

end GuestMachine
