import GuestMachine.Proofs.Board.HaltRequests
import GuestMachine.Proofs.Translator.Interference
import GuestMachine.Proofs.Translator.Rounds

/-! # Bursts amid others

Other cores, other host threads and the operating system go on while a core runs
a burst. The burst is the same as without them, with a move of theirs before
each step that looks at the machine.
-/

namespace GuestMachine

open A64

namespace Core

variable {κ β : Type} {os : OperatingSystem κ} {act : Machine κ × β → Machine κ × β} {core : Core}

/-- The start of a burst: the core's reservation is dropped and the ranges that
    wait for it are applied. -/
def enterAmid (act : Machine κ × β → Machine κ × β) (core : Core) (p : Machine κ × β) :
    Session (Machine κ × β) :=
  let (machine, b) := act p
  let machine := machine.mapBoard fun board => board.clearExclusive core.index core.monitor
  let (machine, b) := act (machine, b)
  let (ranges, machine) := machine.onBoard (·.takeInvalidations core.index)
  { cpu := { context := core.context, env := (machine, b) }
    cache := core.cache.invalidateAll ranges }

/-- The core after a run. -/
def leave (core : Core) (result : RunResult) (session : Session (Machine κ × β)) :
    BurstResult × Core × Machine κ × β :=
  let (machine, b) := session.cpu.env
  let (result, core, machine) :=
    { core with context := session.cpu.context, cache := session.cache }.finish machine result
  (result, core, machine, b)

/-- Run guest code as `execute` does, while others move. -/
def executeAmid (os : OperatingSystem κ) (act : Machine κ × β → Machine κ × β) (rounds : Nat)
    (core : Core) (p : Machine κ × β) : BurstResult × Core × Machine κ × β :=
  if core.state = .stopped then (.faulted (.coreStopped core.index), core, p)
  else
    let (result, session) := Translator.run ((core.environment os).amid act) core.translatorConfig
      rounds (core.enterAmid act p)
    core.leave result session

/-- The addresses of the blocks of guest code that this burst enters. -/
def enteredAmid (os : OperatingSystem κ) (act : Machine κ × β → Machine κ × β) (rounds : Nat)
    (core : Core) (p : Machine κ × β) : List Address :=
  if core.state = .stopped then []
  else
    Translator.entered ((core.environment os).amid act) core.translatorConfig rounds
      (core.enterAmid act p)

/-- A burst amid others who leave the machine alone is one without them. -/
theorem execute_eq_executeAmid (act : Machine κ × β → Machine κ × β)
    (silent : ∀ p, (act p).1 = p.1) (rounds : Nat) (core : Core) (p : Machine κ × β) :
    core.execute os rounds p.1 =
      let amid := core.executeAmid os act rounds p
      (amid.1, amid.2.1, amid.2.2.1) := by
  rw [executeAmid, execute]
  split
  · rfl
  · have start : Translator.SessionAlike Beside Eq (core.enterAmid act p)
        { cpu := { context := core.context, env := (core.enterAmid act p).cpu.env.1 }
          cache := (core.enterAmid act p).cache } := ⟨⟨rfl, rfl⟩, rfl⟩
    obtain ⟨result, S, T, here, there, ⟨context, env⟩, cache⟩ :=
      (Translator.run_alike ((core.environment os).amid_agree silent) core.translatorConfig rounds
        start).split
    dsimp only [Beside] at env
    simp only [enterAmid, silent] at there
    simp only [here, there, leave, env, context, cache]

/-- What the others, the callbacks and the service calls preserve holds when a burst
    is about to end. -/
theorem executeAmid_keeps (inv : Machine κ × β → Prop) (acts : ∀ p, inv p → inv (act p))
    (steps : ∀ machine b board, core.Does machine.board board → inv (machine, b) →
      inv ({ machine with board }, b))
    (calls : ∀ b number cpu, inv (cpu.env, b) →
      inv ((outcomeState ((core.environment os).callSupervisor number cpu)).env, b))
    (rounds : Nat) {p : Machine κ × β} (holds : inv p) :
    ∃ before, inv (before, (core.executeAmid os act rounds p).2.2.2) ∧
      core.EndsFrom before (core.executeAmid os act rounds p).1
        (core.executeAmid os act rounds p).2.1 (core.executeAmid os act rounds p).2.2.1 := by
  rw [executeAmid]
  split
  · rename_i stopped
    exact ⟨p.1, holds, rfl, rfl, rfl, rfl, rfl, nofun, nofun, by simp [stopped]⟩
  · let session := core.enterAmid act p
    have keeps (b : β) := environment_preserves (steps · b) (calls b)
    have start : inv session.cpu.env :=
      steps _ _ _ .drain (acts _ (steps _ _ _ .clearExclusive (acts p holds)))
    have ended := Translator.run_endsWithin (.amid acts keeps) core.translatorConfig rounds start
    generalize Translator.run ((core.environment os).amid act) core.translatorConfig rounds
      (core.enterAmid act p) = ran at ended ⊢
    obtain ⟨result, ⟨⟨context, after, b⟩, cache⟩⟩ := ran
    have before : ∃ before, inv (before, b) ∧ core.TookFrom before result after := by
      cases result with
      | halted bits =>
          obtain ⟨before, held, taken⟩ := ended
          have moved := acts before held
          injection taken with bits rest
          injection rest with machine others
          subst others
          exact ⟨(act before).1, moved, Prod.ext bits machine⟩
      | faulted error => exact ⟨after, ended, rfl⟩
      | outOfRounds => exact ⟨after, ended, rfl⟩
    obtain ⟨before, holds, ended⟩ := before
    have finished := finish_endsFrom { core with context, cache } ended
    exact ⟨before, holds, finished.index, finished.line, finished.os, finished.lines,
      finished.manager, finished.reason, finished.paused, finished.idle⟩

end Core

end GuestMachine
