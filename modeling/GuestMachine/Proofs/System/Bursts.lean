import GuestMachine.Proofs.Kernel.ServiceCalls
import GuestMachine.Proofs.Board.BurstsAmidOthers

/-! # What a burst can do

Guest code reaches the kernel by supervisor calls only. Everything else that it
does stays on the board, where it can add halt requests but takes none back.
-/

namespace GuestMachine

open A64

namespace Core

variable {core : Core} {inv : Machine Kernel → Prop}

/-- What board and supervisor calls preserve holds when a burst is about to
    end. -/
theorem execute_keeps
    (continues : ∀ before after, Machine.Continues before after → inv before → inv after)
    (calls : ∀ before after, Follows core.index before after → inv before →
      inv (after.mapBoard (·.requestHalt core.line HaltReason.supervisorCall.bit)))
    (rounds : Nat) {machine : Machine Kernel} (holds : inv machine) :
    ∃ before, inv before ∧
      core.EndsFrom before (core.execute Kernel.operatingSystem rounds machine).1
        (core.execute Kernel.operatingSystem rounds machine).2.1
        (core.execute Kernel.operatingSystem rounds machine).2.2 := by
  have served (number : UInt32) (cpu : Cpu (Machine Kernel)) (holds : inv cpu.env) :
      inv (outcomeState ((core.environment Kernel.operatingSystem).callSupervisor number cpu)).env := by
    obtain ⟨after, served, follows⟩ := Kernel.serviceCall_serves core.index number cpu
    have called : (core.environment Kernel.operatingSystem).callSupervisor number cpu = _ :=
      Operation.bind_of_ok served
    rw [called]
    exact calls _ _ follows holds
  have quiet := executeAmid_keeps (fun p : Machine Kernel × Unit => inv p.1) (fun _ => id)
    (fun _ _ _ does => continues _ _ does.continues) (fun _ => served) rounds
    (p := (machine, ())) holds
  rw [execute_eq_executeAmid id (fun _ => rfl) rounds core (machine, ())]
  exact quiet

end Core

end GuestMachine
