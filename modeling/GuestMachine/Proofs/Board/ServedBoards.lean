import GuestMachine.Cpu.CallLog
import GuestMachine.Proofs.Board.Attention
import GuestMachine.Proofs.Board.CoreReservations

/-! # What service calls leave of a board

An operating system acts on the board while it serves a call. As long as it takes
no halt request and makes no reservation there, a core can rely on both.
-/

namespace GuestMachine

open A64

variable {κ α γ : Type}

/-- Whatever its outcome, the computation leaves the board as a service call may. -/
def A64.Exec.ServesBoard (action : Exec (Machine κ) α) : Prop :=
  Exec.Steps (fun before after => Board.Served before.board after.board) action

namespace A64.Exec.ServesBoard

theorem bind {action : Exec (Machine κ) α} {next : α → Exec (Machine κ) γ}
    (serves : action.ServesBoard) (serves' : ∀ a, (next a).ServesBoard) :
    (action >>= next).ServesBoard :=
  Exec.Steps.bind (fun _ _ _ => .trans) serves serves'

theorem conditional {condition : Prop} [Decidable condition] {action : Exec (Machine κ) α}
    {next : Exec (Machine κ) γ} (serves : action.ServesBoard) (serves' : next.ServesBoard) :
    (if condition then action >>= fun _ => next else next).ServesBoard := by
  split
  · exact serves.bind fun _ => serves'
  · exact serves'

end A64.Exec.ServesBoard

namespace OperatingSystem

variable {os : OperatingSystem κ}

/-- Service calls leave the board as they may. -/
def ServesBoard (os : OperatingSystem κ) : Prop :=
  ∀ caller number, (os.serviceCall caller number).ServesBoard

theorem ServesBoard.onlyAsks (serves : os.ServesBoard) (index : CoreIndex) (line : Nat) :
    os.OnlyAsks index line :=
  fun number cpu => (serves index number cpu).toGrow.asks line

theorem ServesBoard.reservesNothing (serves : os.ServesBoard) : os.ReservesNothing :=
  fun caller number cpu => (serves caller number cpu).reserves

end OperatingSystem

namespace CallLog

theorem haltCore_served (core : CoreIndex) (reason : HaltReason) (machine : Machine CallLog) :
    Board.Served machine.board (haltCore core reason machine).board := by
  rw [haltCore]
  split
  · exact .requestHalt machine.board _ reason
  · exact .refl machine.board

theorem reply_servesBoard (number : UInt32) : (reply number).ServesBoard := by
  intro cpu
  rw [reply, Exec.onContext, Operation.within]
  split <;> exact .refl _

/-- Guest code may halt its own core by a service call. -/
theorem servesBoard : operatingSystem.ServesBoard := by
  intro caller number
  have noted : (Exec.hook fun machine : Machine CallLog => ((), machine.mapOs fun log =>
      { log with calls := log.calls.push (caller, number) })).ServesBoard :=
    .hook fun machine => .refl machine.board
  have halts (reason : HaltReason) :
      (Exec.hook fun machine => ((), haltCore caller reason machine)).ServesBoard :=
    .hook (haltCore_served caller reason)
  refine noted.bind fun _ => .conditional (fun cpu => ?_)
    (.conditional (halts .breakLoop) (.conditional (halts .stopped) (reply_servesBoard number)))
  dsimp only
  split <;> exact .refl _

end CallLog

end GuestMachine
