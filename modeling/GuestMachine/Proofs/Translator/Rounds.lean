import GuestMachine.Proofs.Translator.PlainLoop

/-! # Rounds of a run

Which blocks a run enters, and how a run goes on where one with fewer rounds
left off. A run that is out of rounds is at a block boundary.
-/

namespace GuestMachine.Translator

open A64

variable {σ : Type} {env : Environment σ} {config : TranslatorConfig} {S T : Session σ}

/-- Where the next block begins, unless a halt is requested at this boundary. -/
def nextBlock? (env : Environment σ) (session : Session σ) : Option Address :=
  let ((_, halts), atBlock) := atBoundary env session
  if halts ≠ 0 then none else some atBlock.cpu.pc

/-- The addresses of the blocks that a run enters, in order. -/
def entered (env : Environment σ) (config : TranslatorConfig) :
    (rounds : Nat) → Session σ → List Address
  | 0, _ => []
  | rounds + 1, session =>
      (nextBlock? env session).toList ++
        match round env config session with
        | (some _, _) => []
        | (none, session) => entered env config rounds session

/-- A boundary with a halt request ends the run before another block. -/
theorem run_of_halts (config : TranslatorConfig) (requested : (atBoundary env S).1.2 ≠ 0)
    (rounds : Nat) :
    run env config (rounds + 1) S =
        (.halted (atBoundary env S).1.2, (atBoundary env S).2) ∧
      entered env config (rounds + 1) S = [] := by
  have halted : round env config S =
      (some (.halted (atBoundary env S).1.2), (atBoundary env S).2) := by
    rw [round]
    exact if_pos requested
  have next : nextBlock? env S = none := if_pos requested
  rw [run, entered, halted, next]
  exact ⟨rfl, rfl⟩

/-- More rounds go on from where fewer ended. -/
theorem run_add (m n : Nat) (running : run env config m S = (.outOfRounds, T)) :
    run env config (m + n) S = run env config n T ∧
      entered env config (m + n) S = entered env config m S ++ entered env config n T := by
  induction m generalizing S with
  | zero =>
      cases running
      rw [Nat.zero_add]
      exact ⟨rfl, rfl⟩
  | succ m ih =>
      rw [Nat.succ_add]
      rw [run] at running ⊢
      rw [entered, entered]
      cases step : round env config S with
      | mk result? next =>
          rw [step] at running
          cases result? with
          | some result =>
              cases running
              exact absurd rfl (round_ne_outOfRounds step)
          | none =>
              obtain ⟨same, blocks⟩ := ih running
              exact ⟨same, by simp only [blocks, List.append_assoc]⟩

end GuestMachine.Translator
