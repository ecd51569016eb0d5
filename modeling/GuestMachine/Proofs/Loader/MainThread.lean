import GuestMachine.Loader.Handoff
import GuestMachine.Proofs.Kernel.Bookkeeping
import GuestMachine.Proofs.Loader.HandoffSteps

/-! # What starting an application can do

A thread is created, a handle to it opened, and it is started. Wherever that
breaks off, the kernel is in one of a few states, and the records of the
threads are consistent.
-/

namespace GuestMachine

open A64

/-- A handle to the main thread is left with process and thread. -/
def Kernel.handOver (kernel : Kernel) (pid : ProcessId) (holder : GuestProcess) (id : ThreadId)
    (handle : Handle) : Kernel :=
  (kernel.modifyProcess pid fun _ => holder).modifyThread id (·.setRegister 1 handle.toUInt64)

/-- What starting an application can make of a kernel, also if it fails. -/
inductive Kernel.Queued (kernel : Kernel) : Kernel → Prop where
  | unchanged : Queued kernel kernel
  /-- The thread is created, but not known afterwards. -/
  | created {number : ProcessId} {process : GuestProcess} {id : ThreadId} {made : Kernel}
      (found : kernel.processes.find? number = some process)
      (creates : kernel.Creates process id made) :
      Queued kernel made
  | takenBack {number : ProcessId} {process : GuestProcess} {id : ThreadId} {made : Kernel}
      {thread : GuestThread} (found : kernel.processes.find? number = some process)
      (creates : kernel.Creates process id made)
      (known : made.threads.find? id = some thread) :
      Queued kernel (made.destroyThread thread)
  | opened {number : ProcessId} {process holder holder' : GuestProcess} {id : ThreadId}
      {made : Kernel} {handle : Handle} (found : kernel.processes.find? number = some process)
      (creates : kernel.Creates process id made)
      (holds : made.processes.find? process.pid = some holder)
      (opens : holder.addHandle (.thread id) = .ok (handle, holder')) :
      Queued kernel (made.handOver process.pid holder' id handle)
  | started {number : ProcessId} {process holder holder' : GuestProcess} {id : ThreadId}
      {made after : Kernel} {handle : Handle} {thread : GuestThread}
      (found : kernel.processes.find? number = some process)
      (creates : kernel.Creates process id made)
      (holds : made.processes.find? process.pid = some holder)
      (known : made.threads.find? id = some thread)
      (opens : holder.addHandle (.thread id) = .ok (handle, holder'))
      (starts : (made.handOver process.pid holder' id handle).startThread thread = .ok after) :
      Queued kernel after

namespace HandoffM

section

variable {β γ : Type} {view : Handoff → γ}

/-- The step leaves alone what `view` shows. -/
def Keeps (view : Handoff → γ) (action : HandoffM α) : Prop :=
  ∀ handoff, view (outcomeState (action handoff)) = view handoff

theorem pure_keeps (a : α) : Keeps view (pure a : HandoffM α) :=
  fun _ => rfl

theorem throw_keeps (error : EngineError) : Keeps view (throw error : HandoffM α) :=
  fun _ => rfl

theorem ofExcept_keeps (e : Except ε α) (wrap : ε → EngineError) : Keeps view (ofExcept e wrap) := by
  intro handoff
  cases e with
  | ok a => rfl
  | error e => rfl

theorem Keeps.bind {x : HandoffM α} {f : α → HandoffM β} (first : Keeps view x)
    (next : ∀ a, Keeps view (f a)) : Keeps view (x >>= f) := by
  intro handoff
  have same := first handoff
  cases ended : x handoff with
  | error e after =>
      rw [ended] at same
      rw [Operation.bind_of_error ended]
      exact same
  | ok a after =>
      rw [ended] at same
      rw [Operation.bind_of_ok ended]
      exact (next a after).trans same

/-- Cleaning up is part of the step. -/
theorem Keeps.undoneBy {x : HandoffM α} {cleanup : HandoffM Unit} (first : Keeps view x)
    (next : Keeps view cleanup) : Keeps view (x.undoneBy cleanup) := by
  intro handoff
  have same := first handoff
  rw [Operation.undoneBy]
  cases ended : x handoff with
  | ok a after =>
      rw [ended] at same
      exact same
  | error e after =>
      rw [ended] at same
      have undone : Keeps view (do cleanup; throw e : HandoffM α) := next.bind fun _ => throw_keeps e
      exact (undone after).trans same

theorem getKernel_keeps : Keeps view getKernel :=
  fun _ => rfl

theorem getLoader_keeps : Keeps view getLoader :=
  fun _ => rfl

theorem getMemory_keeps : Keeps view getMemory :=
  fun _ => rfl

theorem requireProcess_keeps : Keeps view requireProcess := by
  refine getLoader_keeps.bind fun _ => getKernel_keeps.bind fun _ => ?_
  split
  · exact pure_keeps _
  · exact throw_keeps _

end

/-- The step leaves the kernel alone. -/
abbrev Quiet (action : HandoffM α) : Prop :=
  Keeps (·.machine.os) action

/-- The step leaves the halt lines alone. -/
abbrev KeepsHalts (action : HandoffM α) : Prop :=
  Keeps (·.machine.board.halts) action

theorem onMemory_quiet (action : MemoryM α) : Quiet (onMemory action) := by
  intro handoff
  rw [onMemory, Operation.outcomeState_within]
  rfl

theorem onMemory_keepsHalts (action : MemoryM α) : KeepsHalts (onMemory action) := by
  intro handoff
  rw [onMemory, Operation.outcomeState_within]
  rfl

theorem map_quiet (addr : Address) (size : UInt64) (flags : PageFlags) :
    Quiet (HandoffM.map addr size flags) :=
  onMemory_quiet _

theorem unmap_quiet (addr : Address) (size : UInt64) : Quiet (unmap addr size) :=
  onMemory_quiet _

theorem onKernelMemory_keepsHalts (action : KernelMemoryM α) :
    KeepsHalts (onKernel (KernelM.onKernelMemory action)) := by
  intro handoff
  rw [onKernel, Operation.outcomeState_within, KernelM.onKernelMemory,
    Operation.outcomeState_within]

theorem onProcess_keepsHalts (pid : ProcessId) (process : GuestProcess) (action : ProcessM α) :
    KeepsHalts (onKernel (KernelM.onProcess pid process action)) := by
  intro handoff
  rw [onKernel, Operation.outcomeState_within, KernelM.onProcess, Operation.outcomeState_within]
  rfl

theorem onKernel_keepsHalts (action : KernelStateM α) :
    KeepsHalts (onKernel (KernelM.onKernel action)) := by
  intro handoff
  rw [onKernel, Operation.outcomeState_within, KernelM.onKernel, Operation.outcomeState_within]

theorem modifyKernel_keepsHalts (f : Kernel → Kernel) : KeepsHalts (modifyKernel f) :=
  fun _ => rfl

variable {handoff : Handoff} {P : Kernel → Prop}

/-- What the step leaves of the kernel, also if it fails, satisfies `P`. -/
def Leaves (P : Kernel → Prop) (handoff : Handoff) (action : HandoffM α) : Prop :=
  P (outcomeState (action handoff)).machine.os

theorem Keeps.leaves {action : HandoffM α} (quiet : Quiet action) (holds : P handoff.machine.os) :
    Leaves P handoff action := by
  have same : (outcomeState (action handoff)).machine.os = handoff.machine.os := quiet handoff
  rwa [Leaves, same]

theorem Keeps.bind_leaves {x : HandoffM α} {f : α → HandoffM β} (quiet : Quiet x)
    (holds : P handoff.machine.os)
    (next : ∀ a after, x handoff = .ok a after → after.machine.os = handoff.machine.os →
      Leaves P after (f a)) :
    Leaves P handoff (x >>= f) := by
  have same := quiet handoff
  rw [Leaves]
  cases ended : x handoff with
  | error e after =>
      rw [ended] at same
      change after.machine.os = _ at same
      rw [Operation.bind_of_error ended, outcomeState, same]
      exact holds
  | ok a after =>
      rw [ended] at same
      rw [Operation.bind_of_ok ended]
      exact next a after ended same

theorem getKernel_leaves {f : Kernel → HandoffM α}
    (next : Leaves P handoff (f handoff.machine.os)) : Leaves P handoff (getKernel >>= f) :=
  next

theorem getLoader_leaves {f : Loader → HandoffM α} (next : Leaves P handoff (f handoff.loader)) :
    Leaves P handoff (getLoader >>= f) :=
  next

theorem getMemory_leaves {f : AddressSpace → HandoffM α}
    (next : Leaves P handoff (f handoff.machine.board.memory)) :
    Leaves P handoff (getMemory >>= f) :=
  next

theorem modifyKernel_leaves {g : Kernel → Kernel} {f : Unit → HandoffM α}
    (next : Leaves P { handoff with machine := handoff.machine.mapOs g } (f ())) :
    Leaves P handoff (modifyKernel g >>= f) :=
  next

theorem Leaves.of_ok {x : HandoffM α} {f : α → HandoffM β} {a : α} {middle : Handoff}
    (done : x handoff = .ok a middle) (next : Leaves P middle (f a)) :
    Leaves P handoff (x >>= f) := by
  rw [Leaves, Operation.bind_of_ok done]
  exact next

theorem Leaves.of_error {x : HandoffM α} {f : α → HandoffM β} {e : EngineError} {left : Handoff}
    (failed : x handoff = .error e left) (holds : P left.machine.os) :
    Leaves P handoff (x >>= f) := by
  rw [Leaves, Operation.bind_of_error failed]
  exact holds

theorem requireProcess_leaves {f : GuestProcess → HandoffM α} (holds : P handoff.machine.os)
    (next : ∀ number process, handoff.machine.os.processes.find? number = some process →
      Leaves P handoff (f process)) :
    Leaves P handoff (requireProcess >>= f) := by
  rw [requireProcess, bind_assoc]
  apply getLoader_leaves
  rw [bind_assoc]
  apply getKernel_leaves
  split
  · rename_i process known
    obtain ⟨number, _, found⟩ := Option.bind_eq_some_iff.mp known
    exact next number process found
  · exact holds

end HandoffM

namespace Handoff

open HandoffM

variable {handoff : Handoff}

theorem queueMainThread_queued {kernel : Kernel} {process : GuestProcess} {number : ProcessId}
    {id : ThreadId} (found : kernel.processes.find? number = some process)
    (creates : kernel.Creates process id handoff.machine.os) :
    Leaves (Kernel.Queued kernel) handoff (startApplication.queueMainThread process.pid id) := by
  have created := Kernel.Queued.created found creates
  rw [startApplication.queueMainThread]
  apply getKernel_leaves
  split
  · rename_i holder holds
    apply getKernel_leaves
    split
    · rename_i thread known
      have opened := addHandle_eq process.pid holder thread id handoff
      cases opens : holder.addHandle (.thread id) with
      | error e =>
          rw [opens] at opened
          exact .of_error opened (.takenBack found creates known)
      | ok result =>
          obtain ⟨handle, holder'⟩ := result
          rw [opens] at opened
          refine .of_ok opened (modifyKernel_leaves ?_)
          have started := startThread_eq thread { handoff with
            machine := { handoff.machine with
              os := handoff.machine.os.handOver process.pid holder' id handle } }
          dsimp only at started
          split at started
          · rename_i after starts
            exact .of_ok started (.started found creates holds known opens starts)
          · exact .of_error started (.opened found creates holds opens)
    · exact created
  · exact created

theorem startApplication_queued (handoff : Handoff) (priority : UInt32) (stackSize : UInt64) :
    Leaves (Kernel.Queued handoff.machine.os) handoff (startApplication priority stackSize) := by
  have refused : Kernel.Queued handoff.machine.os handoff.machine.os := .unchanged
  rw [startApplication]
  refine requireProcess_leaves refused fun number process found => ?_
  apply getLoader_leaves
  split
  · rename_i entry _
    split
    · rename_i size _
      apply getMemory_leaves
      split
      · rename_i bottom _
        refine (map_quiet _ _ _).bind_leaves refused fun _ mapped _ same => ?_
        apply getLoader_leaves
        rw [← same] at found refused ⊢
        have made := createThread_eq process entry 0 bottom size priority
          mapped.loader.metadata.mainCore mapped
        split at made
        · rename_i id made memory create
          exact .of_ok made (queueMainThread_queued found ⟨_, _, _, _, _, _, _, create⟩)
        · rename_i e _
          have undone : Quiet (do unmap bottom size; throw (.kernel e) : HandoffM ThreadId) :=
            (unmap_quiet _ _).bind fun _ => throw_keeps _
          have kept := undone mapped
          cases failed : (do unmap bottom size; throw (.kernel e) : HandoffM ThreadId) mapped with
          | ok id after =>
              obtain ⟨_, _, _, thrown⟩ := Operation.bind_eq_ok failed
              cases thrown
          | error e' left =>
              rw [failed] at kept
              change left.machine.os = mapped.machine.os at kept
              refine .of_error (made.trans failed) ?_
              rw [kept]
              exact refused
      · exact refused
    · exact refused
  · exact refused

theorem queueMainThread_keepsHalts (pid : ProcessId) (id : ThreadId) :
    KeepsHalts (startApplication.queueMainThread pid id) := by
  refine getKernel_keeps.bind fun _ => ?_
  split
  · refine getKernel_keeps.bind fun _ => ?_
    split
    · refine ((onProcess_keepsHalts _ _ _).undoneBy (modifyKernel_keepsHalts _)).bind fun _ => ?_
      refine (modifyKernel_keepsHalts _).bind fun _ => (onKernel_keepsHalts _).bind fun _ => ?_
      exact pure_keeps id
    · exact throw_keeps _
  · exact throw_keeps _

theorem startApplication_keepsHalts (priority : UInt32) (stackSize : UInt64) :
    KeepsHalts (startApplication priority stackSize) := by
  refine requireProcess_keeps.bind fun process => getLoader_keeps.bind fun _ => ?_
  split
  · split
    · refine getMemory_keeps.bind fun _ => ?_
      split
      · refine (onMemory_keepsHalts _).bind fun _ => getLoader_keeps.bind fun _ => ?_
        refine ((onKernelMemory_keepsHalts _).undoneBy (onMemory_keepsHalts _)).bind fun _ => ?_
        exact queueMainThread_keepsHalts _ _
      · exact throw_keeps _
    · exact throw_keeps _
  · exact throw_keeps _

end Handoff

namespace Kernel

variable {pid : ProcessId} {kernel made after : Kernel} {process held holder : GuestProcess}
  {id : ThreadId} {thread thread' : GuestThread} {handle : Handle}

theorem Created.carried_handOver (created : Created pid kernel process id thread made held)
    (opens : held.addHandle (.thread id) = .ok (handle, holder)) :
    Carried pid kernel process (made.handOver pid holder id handle) holder := by
  have opened := created.carried_addHandle opens
  exact opened.trans (opened.hosts.carried_setRegister id 1 handle.toUInt64)

theorem Created.get_handOver (created : Created pid kernel process id thread made held)
    (known : made.threads.find? id = some thread')
    (room : (made.handOver pid holder id handle).threads.slots.size ≤ 2 ^ 64) :
    (made.handOver pid holder id handle).threads.get? id =
      some (thread'.setRegister 1 handle.toUInt64) := by
  have room := created.room ((ObjectTable.size_modify ..).ge.trans room)
  apply ObjectTable.get?_eq_some_iff.mpr
  change (made.threads.modify id _).isListed id ∧ (made.threads.modify id _).find? id = _
  rw [ObjectTable.isListed_modify, ObjectTable.find?_modify, if_pos rfl]
  exact ⟨created.listed room, congrArg (Option.map _) known⟩

theorem Created.carried_startThread (created : Created pid kernel process id thread made held)
    (known : made.threads.find? id = some thread')
    (opens : held.addHandle (.thread id) = .ok (handle, holder))
    (starts : (made.handOver pid holder id handle).startThread thread' = .ok after) :
    ∃ process', Carried pid kernel process after process' := by
  obtain ⟨number, owner⟩ := created.hosts.own id thread' known
  have opened := created.carried_handOver opens
  have current (room : (made.handOver pid holder id handle).threads.slots.size ≤ 2 ^ 64) :
      (made.handOver pid holder id handle).threads.get? thread'.id =
        some (thread'.setRegister 1 handle.toUInt64) := by
    rw [number]
    exact created.get_handOver known room
  obtain ⟨process', started⟩ := opened.hosts.carried_startThread owner
    (fun room => ⟨_, current room, rfl, rfl⟩) starts
  exact ⟨process', opened.trans started⟩

theorem Queued.carries (queued : Queued kernel after) : Carries pid kernel after := by
  intro process hosts
  cases queued with
  | unchanged => exact Carries.refl kernel process hosts
  | created found creates =>
      cases hosts.eq_of_find found
      obtain ⟨thread, held, created⟩ := hosts.created creates
      exact ⟨held, created.carried⟩
  | takenBack found creates known =>
      cases hosts.eq_of_find found
      obtain ⟨thread, held, created⟩ := hosts.created creates
      exact created.carried_destroyThread known
  | opened found creates holds opens =>
      cases hosts.eq_of_find found
      obtain ⟨thread, held, created⟩ := hosts.created creates
      cases created.hosts.eq_of_find holds
      rw [hosts.number]
      exact ⟨_, created.carried_handOver opens⟩
  | started found creates holds known opens starts =>
      cases hosts.eq_of_find found
      obtain ⟨thread, held, created⟩ := hosts.created creates
      cases created.hosts.eq_of_find holds
      rw [hosts.number] at starts
      exact created.carried_startThread known opens starts

end Kernel

end GuestMachine
