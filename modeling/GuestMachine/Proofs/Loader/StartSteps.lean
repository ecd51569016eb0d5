import GuestMachine.Proofs.Loader.EntryPoint
import GuestMachine.Proofs.Loader.RefusedStart

/-! # What a start is made of

A start that goes through has found a place for the stack, mapped it, created a
thread that has its stack there, opened a handle to it and queued it. Later
proofs take a start apart with what is proved here, and never open it.
-/

namespace GuestMachine

namespace HandoffM

variable {α β : Type} {handoff : Handoff}

/-- When the step succeeds, `P` holds of the result and of what it leaves. -/
def Returns (P : α → Handoff → Prop) (handoff : Handoff) (action : HandoffM α) : Prop :=
  ∀ a after, action handoff = .ok a after → P a after

theorem throw_returns (P : α → Handoff → Prop) (e : EngineError) :
    Returns P handoff (throw e : HandoffM α) := by
  intro a after done
  cases done

theorem Returns.bind {P : β → Handoff → Prop} {x : HandoffM α} {f : α → HandoffM β}
    (next : ∀ a middle, x handoff = .ok a middle → Returns P middle (f a)) :
    Returns P handoff (x >>= f) := by
  intro b after done
  obtain ⟨a, middle, first, rest⟩ := Operation.bind_eq_ok done
  exact next a middle first b after rest

theorem requireProcess_eq_ok {process : GuestProcess} {after : Handoff}
    (required : requireProcess handoff = .ok process after) :
    after = handoff ∧ ∃ number, handoff.machine.os.processes.find? number = some process := by
  rw [requireProcess_eq] at required
  split at required
  · rename_i process known
    cases required
    obtain ⟨number, _, found⟩ := Option.bind_eq_some_iff.mp known
    exact ⟨rfl, number, found⟩
  · cases required

theorem map_eq_ok {addr : Address} {size : UInt64} {flags : PageFlags} {after : Handoff}
    (mapped : HandoffM.map addr size flags handoff = .ok () after) :
    ∃ memory, handoff.machine.board.memory.map addr size flags = .ok memory ∧
      after = handoff.withMemory memory := by
  rw [map_eq] at mapped
  split at mapped
  · rename_i memory maps
    cases mapped
    exact ⟨memory, maps, rfl⟩
  · cases mapped

end HandoffM

namespace Handoff

open HandoffM

/-- The thread is known and goes to the scheduler, with a handle to itself. -/
inductive Queues (handoff : Handoff) (pid : ProcessId) (id : ThreadId) : Handoff → Prop where
  | intro {holder holder' : GuestProcess} {thread : GuestThread} {handle : Handle} {queued : Kernel}
      (holds : handoff.machine.os.processes.find? pid = some holder)
      (known : handoff.machine.os.threads.find? id = some thread)
      (opens : holder.addHandle (.thread id) = .ok (handle, holder'))
      (starts : (handoff.machine.os.handOver pid holder' id handle).startThread thread =
        .ok queued) :
      Queues handoff pid id { handoff with machine := { handoff.machine with os := queued } }

/-- The steps of a start. The process is the one of the loader, which need not
    be the application to the kernel. -/
inductive Starts (handoff : Handoff) (priority : UInt32) (stackSize : UInt64) (id : ThreadId) :
    Handoff → Prop where
  | intro {number : ProcessId} {process : GuestProcess} {entry bottom : Address} {size : UInt64}
      {stack memory : AddressSpace} {made : Kernel} {after : Handoff}
      (found : handoff.machine.os.processes.find? number = some process)
      (entered : handoff.loader.entry = some entry)
      (rounded : pageAlignUp? stackSize = some size)
      (positive : 0 < size)
      (area : handoff.machine.board.memory.findFreeArea Layout.stackBase Layout.stackSize size =
        .found bottom)
      (maps : handoff.machine.board.memory.map bottom size PageFlags.rw = .ok stack)
      (create : handoff.machine.os.createThread stack process entry 0 (bottom + size) priority
        handoff.loader.metadata.mainCore = .ok (id, made, memory))
      (queues : (handoff.withThread made memory).Queues process.pid id after) :
      Starts handoff priority stackSize id after

variable {handoff : Handoff} {pid : ProcessId} {id : ThreadId}

theorem queueMainThread_returns :
    Returns (fun made after => made = id ∧ handoff.Queues pid id after) handoff
      (startApplication.queueMainThread pid id) := by
  rw [startApplication.queueMainThread]
  refine .bind fun _ _ got => ?_
  cases got
  split
  · rename_i holder holds
    refine .bind fun _ _ got => ?_
    cases got
    split
    · rename_i thread known
      refine .bind fun handle _ opened => .bind fun _ _ handed => .bind fun _ _ started => ?_
      rw [addHandle_eq] at opened
      split at opened
      · rename_i opens
        cases opened
        cases handed
        rw [startThread_eq] at started
        split at started
        · rename_i queued starts
          cases started
          intro made after done
          cases done
          exact ⟨rfl, .intro holds known opens starts⟩
        · cases started
      · cases opened
    · exact throw_returns _ _
  · exact throw_returns _ _

theorem stackArea?_eq_some {memory : AddressSpace} {size : UInt64} {bottom : Address}
    (area : stackArea? memory size = some bottom) :
    memory.findFreeArea Layout.stackBase Layout.stackSize size = .found bottom := by
  unfold stackArea? at area
  split at area
  · rename_i found
    cases area
    exact found
  · cases area

theorem startApplication_returns (priority : UInt32) (stackSize : UInt64) :
    Returns (handoff.Starts priority stackSize) handoff (startApplication priority stackSize) := by
  rw [startApplication]
  refine .bind fun process _ required => .bind fun _ _ got => ?_
  obtain ⟨rfl, number, found⟩ := requireProcess_eq_ok required
  cases got
  split
  · rename_i entry entered
    split
    · rename_i size sized
      obtain ⟨rounded, positive⟩ := Option.filter_eq_some_iff.mp sized
      refine .bind fun _ _ got => ?_
      cases got
      split
      · rename_i bottom area
        refine .bind fun _ _ mapped => .bind fun _ _ got => ?_
        obtain ⟨stack, maps, rfl⟩ := map_eq_ok mapped
        cases got
        refine .bind fun id _ created number after queued => ?_
        rw [createThread_eq] at created
        split at created
        · rename_i made memory create
          cases created
          obtain ⟨rfl, queues⟩ := queueMainThread_returns number after queued
          exact .intro found entered rounded (of_decide_eq_true positive)
            (stackArea?_eq_some area) maps create queues
        · obtain ⟨_, _, _, thrown⟩ := Operation.bind_eq_ok created
          cases thrown
      · exact throw_returns _ _
    · exact throw_returns _ _
  · exact throw_returns _ _

end Handoff

end GuestMachine
