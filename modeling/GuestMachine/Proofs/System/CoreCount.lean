import GuestMachine.Proofs.System.ThreadLedger

/-! # The number of cores

A kernel is made for a number of cores and never learns of another one.
-/

namespace GuestMachine

open Kernel

namespace Kernel

variable {kernel made after : Kernel} {process : GuestProcess} {thread : GuestThread}
  {id : ThreadId} {core : CoreIndex}

theorem coreCount_modifyListed (kernel : Kernel) (pid : ProcessId)
    (f : GuestProcess → GuestProcess) : (kernel.modifyListed pid f).coreCount = kernel.coreCount := by
  rw [modifyListed]
  split <;> rfl

theorem coreCount_destroyThread (kernel : Kernel) (thread : GuestThread) :
    (kernel.destroyThread thread).coreCount = kernel.coreCount :=
  coreCount_modifyListed kernel ..

theorem coreCount_terminateThread (kernel : Kernel) (thread : GuestThread) :
    (kernel.terminateThread thread).coreCount = kernel.coreCount := by
  rw [terminateThread]
  split
  · split
    · exact coreCount_modifyListed ..
    · exact coreCount_modifyListed ..
  · exact coreCount_modifyListed ..

theorem coreCount_releaseObject (kernel : Kernel) (process : GuestProcess) (object : KernelObject) :
    (kernel.releaseObject process object).coreCount = kernel.coreCount := by
  cases object with
  | process pid => rfl
  | thread id =>
      rw [releaseObject]
      split
      · split <;> rfl
      · rfl

theorem coreCount_endApplication (kernel : Kernel) :
    kernel.endApplication.coreCount = kernel.coreCount := by
  rw [endApplication]
  cases kernel.application <;> rfl

theorem coreCount_of_startThread (starts : kernel.startThread thread = .ok after) :
    after.coreCount = kernel.coreCount := by
  obtain ⟨_, scheduler, _, rfl⟩ := startThread_eq_ok starts
  exact coreCount_modifyListed ..

theorem Creates.coreCount (creates : kernel.Creates process id made) :
    made.coreCount = kernel.coreCount := by
  obtain ⟨_, _, _, _, rfl⟩ := creates.eq
  rfl

theorem Served.coreCount (served : Served core kernel after) : after.coreCount = kernel.coreCount := by
  cases served with
  | unchanged | resized | requested | prioritised | prioritisedIdle => rfl
  | created _ creates => exact creates.coreCount
  | opened _ creates => exact creates.coreCount
  | takenBack _ creates => exact (coreCount_destroyThread ..).trans creates.coreCount
  | started _ starts => exact coreCount_of_startThread starts
  | closed => exact coreCount_releaseObject ..
  | exited => exact coreCount_endApplication _

theorem Queued.coreCount (queued : Queued kernel after) : after.coreCount = kernel.coreCount := by
  cases queued with
  | unchanged => rfl
  | created _ creates => exact creates.coreCount
  | takenBack _ creates => exact (coreCount_destroyThread ..).trans creates.coreCount
  | opened _ creates => exact creates.coreCount
  | started _ creates _ _ _ starts => exact (coreCount_of_startThread starts).trans creates.coreCount

end Kernel

namespace Core

variable {core : Core} {machine : Machine Kernel}

theorem coreCount_current (core : Core) (machine : Machine Kernel) :
    (core.current machine).2.2.os.coreCount = machine.os.coreCount := by
  rw [current]
  split
  · rfl
  · rw [pick]
    dsimp only
    split <;> rfl

theorem coreCount_execute (core : Core) (rounds : Nat) (machine : Machine Kernel) :
    (core.execute Kernel.operatingSystem rounds machine).2.2.os.coreCount =
      machine.os.coreCount := by
  have continues (before after : Machine Kernel) (same : Machine.Continues before after)
      (count : before.os.coreCount = machine.os.coreCount) :
      after.os.coreCount = machine.os.coreCount := by
    rw [same.os]
    exact count
  have calls (before after : Machine Kernel) (follows : Follows core.index before after)
      (count : before.os.coreCount = machine.os.coreCount) :
      after.os.coreCount = machine.os.coreCount :=
    follows.os.coreCount.trans count
  obtain ⟨before, kept, ended⟩ := execute_keeps continues calls rounds rfl
  rw [ended.os]
  exact kept

theorem coreCount_retire (core : Core) (thread : GuestThread) (machine : Machine Kernel) :
    (core.retire thread machine).os.coreCount = machine.os.coreCount := by
  have gone : ((machine.os.setCurrent core.index none).terminateThread thread).coreCount =
      machine.os.coreCount := coreCount_terminateThread ..
  rw [retire]
  split
  · rw [Machine.exitProcess_os]
    exact (coreCount_endApplication _).trans gone
  · exact gone

theorem coreCount_serveSwitch (core : Core) (thread : GuestThread) (machine : Machine Kernel) :
    (core.serveSwitch thread machine).os.coreCount = machine.os.coreCount := by
  rw [serveSwitch]
  dsimp only
  split
  · rfl
  · rfl
  · rfl
  · exact coreCount_retire ..

theorem coreCount_step (rounds : Nat) (core : Core) (machine : Machine Kernel) :
    (core.step rounds machine).2.2.os.coreCount = machine.os.coreCount := by
  have picked := core.coreCount_current machine
  refine step_cases (P := fun _ after => after.os.coreCount = machine.os.coreCount) rfl ?_ ?_
  · intro loaded middle nobody
    rw [nobody] at picked
    exact picked
  · intro thread loaded middle outcome core' after current ran
    have stays := loaded.coreCount_execute rounds middle
    rw [current] at picked
    rw [ran] at stays
    have same := stays.trans picked
    exact ⟨same, (core'.coreCount_serveSwitch thread after).trans same, same, same⟩

end Core

theorem KernelStep.coreCount_perform (step : KernelStep) (machine : Machine Kernel) :
    (step.perform machine).os.coreCount = machine.os.coreCount := by
  have forCurrent {core : Core} {f : GuestThread → Machine Kernel → Machine Kernel}
      (same : ∀ thread, (f thread machine).os.coreCount = machine.os.coreCount) :
      (KernelStep.forCurrent core f machine).os.coreCount = machine.os.coreCount := by
    rw [KernelStep.forCurrent]
    split
    · exact same _
    · rfl
  cases step with
  | call core number context =>
      obtain ⟨after, served, follows⟩ :=
        Kernel.serviceCall_serves core number { context, env := machine }
      simp only [perform, served]
      exact follows.os.coreCount
  | create entry argument stackTop priority idealCore =>
      simp only [perform_create]
      split
      · split
        · rename_i create
          exact Creates.coreCount ⟨_, _, _, _, _, _, _, create⟩
        · rfl
      · rfl
  | start id =>
      simp only [perform_start]
      split
      · rename_i started
        obtain ⟨thread, _, starts⟩ := exceptBind_eq_ok started
        exact coreCount_of_startThread starts
      · rfl
  | startMain loader priority stackSize =>
      exact (Handoff.startApplication_queued { loader, machine } priority stackSize).coreCount
  | resume core => exact core.coreCount_current machine
  | serveSwitch core => exact forCurrent fun thread => core.coreCount_serveSwitch thread machine
  | giveWay core => exact forCurrent fun _ => rfl
  | release core => exact forCurrent fun _ => rfl
  | step rounds core => exact core.coreCount_step rounds machine
  | setBoard board => rfl

end GuestMachine
