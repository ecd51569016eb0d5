import GuestMachine.Proofs.Kernel.Refusals
import GuestMachine.Proofs.Loader.HandoffSteps

/-! # A main thread that is not started

Starting an application maps a stack, creates a thread, opens a handle to it and
hands it to the scheduler. Whatever stands in the way, the kernel is as it was
then, and so is memory unless the process has no handle left: the thread is
taken back in that case, but its stack stays mapped.
-/

namespace GuestMachine

namespace AddressSpace

/-- The same pages are mapped, with the same permissions and bytes. -/
structure SameContents (before after : AddressSpace) : Prop where
  flags : ∀ page, after.flags? page = before.flags? page
  bytes : ∀ i, after.byte? i = before.byte? i

theorem SameContents.refl (space : AddressSpace) : space.SameContents space :=
  ⟨fun _ => rfl, fun _ => rfl⟩

/-- What was just mapped can be unmapped. -/
theorem unmap_of_map {space mapped : AddressSpace} {addr : Address} {size : UInt64}
    {flags : PageFlags} (maps : space.map addr size flags = .ok mapped) :
    ∃ left, mapped.unmap addr size = .ok left ∧ space.SameContents left := by
  obtain ⟨span, request, filled⟩ := Filled.of_map maps
  have whole : (span.pages.find? fun page => (mapped.flags? page).isNone) = none := by
    rw [List.find?_eq_none]
    intro page member
    rw [filled.flags, if_pos (PageSpan.mem_pages.mp member)]
    simp
  rw [unmap_eq, request]
  simp only [bind, Except.bind, whole]
  refine ⟨_, rfl, ?_, ?_⟩
  · intro page
    simp only [flags?, getElem?_foldl_erase, PageSpan.mem_pages]
    split
    · rename_i inside
      exact (filled.fresh page inside).symm
    · rename_i outside
      exact (filled.flags page).trans (if_neg outside)
  · intro i
    simp only [byte?, getElem?_foldl_erase, PageSpan.mem_pages]
    split
    · rename_i inside
      exact (byte?_eq_none_iff.mpr (filled.fresh _ inside)).symm
    · rename_i outside
      exact (filled.bytes i).trans (if_neg outside)

end AddressSpace

namespace Handoff

open HandoffM

variable {handoff : Handoff} {P : EngineError → Handoff → Prop}

/-- A start that fails has changed nothing, or has unmapped the stack again, or has
    created a thread that it could not queue. -/
theorem startApplication_fails {priority : UInt32} {stackSize : UInt64}
    (undone : ∀ e memory, handoff.machine.board.memory.SameContents memory →
      P e (handoff.withMemory memory))
    (unqueued : ∀ number process bottom size stack entry id made memory,
      handoff.machine.os.processes.find? number = some process →
      handoff.machine.board.memory.map bottom size PageFlags.rw = .ok stack →
      handoff.machine.os.createThread stack process entry 0 (bottom + size) priority
        handoff.loader.metadata.mainCore = .ok (id, made, memory) →
      Fails P (handoff.withThread made memory)
        (startApplication.queueMainThread process.pid id)) :
    Fails P handoff (startApplication priority stackSize) := by
  have unchanged (e : EngineError) : P e handoff := undone e _ (.refl _)
  rw [startApplication]
  refine requireProcess_fails (unchanged _) fun number process found => ?_
  apply getLoader_fails
  split
  · rename_i entry _
    split
    · rename_i size _
      apply getMemory_fails
      split
      · rename_i bottom _
        refine map_fails (fun e => unchanged _) fun stack maps => ?_
        apply getLoader_fails
        have made := createThread_eq process entry 0 bottom size priority
          (handoff.withMemory stack).loader.metadata.mainCore (handoff.withMemory stack)
        intro e after failed
        dsimp only at failed
        split at made
        · rename_i id made' memory create
          rw [Operation.bind_of_ok made] at failed
          exact unqueued number process bottom size stack entry id made' memory found maps create
            e after failed
        · rename_i e' _
          obtain ⟨left, unmaps, same⟩ := AddressSpace.unmap_of_map maps
          have undoes := unmap_eq bottom size (handoff.withMemory stack)
          rw [show (handoff.withMemory stack).machine.board.memory = stack from rfl, unmaps] at undoes
          rw [Operation.bind_of_ok undoes] at made
          rw [Operation.bind_of_error made] at failed
          cases failed
          exact undone _ left same
      · exact throw_fails (unchanged _)
    · exact throw_fails (unchanged _)
  · exact throw_fails (unchanged _)

end Handoff

/-- The scheduler refuses no thread that it does not have yet. -/
theorem Scheduler.add_of_idle {s : Scheduler} {id : ThreadId} {priority : UInt32}
    {coreMask : UInt64} {level : Priority} (valid : Priority.ofWord priority = .ok level)
    (mask : coreMask ≠ 0) (idle : s.threads[id]? = none) :
    ∃ s', s.add id priority coreMask = .ok s' := by
  have absent : s.threads.contains id = false := by
    rw [Std.TreeMap.contains_eq_isSome_getElem?, idle]
    rfl
  simp only [add_eq, valid, Except.bind, mask, if_false, absent, Bool.false_eq_true]
  exact ⟨_, rfl⟩

namespace Kernel

variable {kernel : Kernel} {pid : ProcessId} {process : GuestProcess}

theorem startThread_of_idle {thread : GuestThread} {level : Priority}
    (state : thread.state = .created) (valid : Priority.ofWord thread.priority = .ok level)
    (mask : thread.coreMask ≠ 0) (idle : kernel.scheduler.threads[thread.id]? = none) :
    ∃ after, kernel.startThread thread = .ok after := by
  obtain ⟨scheduler, added⟩ := Scheduler.add_of_idle valid mask idle
  rw [startThread_eq, if_neg (not_not_intro state), added]
  exact ⟨_, rfl⟩

end Kernel

theorem GuestProcess.addHandle_eq_error {process : GuestProcess} {object : KernelObject}
    {e : KernelError} (refused : process.addHandle object = .error e) :
    HandleTable.capacity ≤ process.handles.size ∧ e = .resourceLimit := by
  rw [addHandle_eq, HandleTable.add_eq] at refused
  split at refused
  · rename_i full
    cases refused
    exact ⟨full, rfl⟩
  · cases refused

namespace Handoff

open HandoffM

variable {handoff : Handoff} {P : EngineError → Handoff → Prop}

/-- A thread just created is only not queued for want of a handle. -/
theorem queueMainThread_fails {kernel : Kernel} {pid : ProcessId} {process : GuestProcess}
    {stack memory : AddressSpace} {entry : Address} {argument : UInt64} {stackTop : Address}
    {priority : UInt32} {idealCore : Int32} {id : ThreadId} (hosts : kernel.Hosts pid process)
    (room : kernel.threads.slots.size < 2 ^ 64)
    (idle : kernel.scheduler.threads[kernel.threads.nextId]? = none)
    (create : kernel.createThread stack process entry argument stackTop priority idealCore =
      .ok (id, handoff.machine.os, memory))
    (full : ∀ thread, HandleTable.capacity ≤ process.handles.size →
      handoff.machine.os.threads.find? id = some thread →
        P (.kernel .resourceLimit)
          { handoff with machine := handoff.machine.mapOs (·.destroyThread thread) }) :
    Fails P handoff (startApplication.queueMainThread process.pid id) := by
  obtain ⟨slot, held, params, takes, startable, owner, _, rfl, made⟩ :=
    Kernel.createThread_eq_ok create
  obtain ⟨tlsSlots, rfl⟩ := takes.same
  cases hosts.number
  obtain ⟨known, holds⟩ := hosts.finds_inserted room made
  rw [startApplication.queueMainThread]
  apply getKernel_fails
  rw [holds]
  apply getKernel_fails
  rw [known]
  dsimp only
  intro e after failed
  have opened := addHandle_eq process.pid
    (GuestProcess.addThread { process with tlsSlots } kernel.threads.nextId)
    (.ofParams kernel.threads.nextId params) kernel.threads.nextId handoff
  split at opened
  · rename_i handle holder opens
    obtain ⟨level, valid⟩ := startable.priority
    let handed := handoff.machine.os.handOver process.pid holder kernel.threads.nextId handle
    have unscheduled : handed.scheduler.threads[kernel.threads.nextId]? = none := by
      dsimp only [handed]
      rw [made]
      exact idle
    have starts : ∃ after,
        handed.startThread (.ofParams kernel.threads.nextId params) = .ok after :=
      Kernel.startThread_of_idle rfl valid startable.coreMask unscheduled
    obtain ⟨queued, starts⟩ := starts
    have started := startThread_eq (.ofParams kernel.threads.nextId params)
      { handoff with machine := { handoff.machine with os := handed } }
    rw [starts] at started
    rw [Operation.bind_of_ok opened] at failed
    have done : (do
        onKernel (KernelM.onKernel
          (KernelStateM.startThread (.ofParams kernel.threads.nextId params)))
        return kernel.threads.nextId : HandoffM ThreadId) _ = _ := Operation.bind_of_ok started
    cases done.symm.trans failed
  · rename_i e' refused
    obtain ⟨most, rfl⟩ := GuestProcess.addHandle_eq_error refused
    rw [Operation.bind_of_error opened] at failed
    cases failed
    exact full _ most known

end Handoff

/-- What is done with an application before its main thread is started, and what
    goes on with it meanwhile. -/
inductive HandoffStep where
  | create (codeSize : UInt64) (metadata : ProgramMetadata)
  | load (image : ModuleImage) (base : Address)
  | start (priority : UInt32) (stackSize : UInt64)
  /-- All three in one go. -/
  | launch (image : ModuleImage) (metadata : ProgramMetadata)
  /-- Guest, host or run loop do something, which they only can once there is an
      application. -/
  | meanwhile (step : KernelStep)

namespace HandoffStep

open A64

def perform : HandoffStep → Handoff → Handoff
  | create codeSize metadata, handoff =>
      outcomeState (Handoff.createApplication codeSize metadata handoff)
  | load image base, handoff => outcomeState (Handoff.loadModule image base handoff)
  | start priority stackSize, handoff =>
      outcomeState (Handoff.startApplication priority stackSize handoff)
  | launch image metadata, handoff => outcomeState (Handoff.loadApplication image metadata handoff)
  | meanwhile step, handoff =>
      if handoff.machine.os.application.isSome then
        { handoff with machine := step.perform handoff.machine }
      else handoff

def performAll (handoff : Handoff) (steps : List HandoffStep) : Handoff :=
  steps.foldl (fun handoff step => step.perform handoff) handoff

end HandoffStep

/-- There is no application yet, and the kernel is as it was created, or there is one
    whose threads are on record. -/
inductive Kernel.Awaits (idle kernel : Kernel) : Prop where
  | nobody (same : kernel = idle)
  | application {pid : ProcessId} {process : GuestProcess} (hosts : kernel.Hosts pid process)
      (consistent : kernel.threads.slots.size ≤ 2 ^ 64 →
        ∀ id, (kernel.threadRecord process id).Consistent)

namespace Kernel

variable {idle kernel after : Kernel}

theorem Awaits.application_of_carries {pid : ProcessId} {process : GuestProcess}
    (hosts : kernel.Hosts pid process)
    (consistent : kernel.threads.slots.size ≤ 2 ^ 64 →
      ∀ id, (kernel.threadRecord process id).Consistent)
    (carries : Carries pid kernel after) : Awaits idle after := by
  obtain ⟨process', carried⟩ := carries process hosts
  refine .application carried.hosts fun room id => ?_
  exact (carried.leads room id (consistent (carried.size.trans room) id)).1

/-- Where there is no process, there is nothing to queue. -/
theorem Queued.eq_of_empty (empty : ∀ number, kernel.processes.find? number = none)
    (queued : Queued kernel after) : after = kernel := by
  cases queued with
  | unchanged => rfl
  | created found | takenBack found | opened found | started found =>
      cases (empty _).symm.trans found

end Kernel

namespace HandoffM

theorem writeBlock_quiet (addr : Address) (data : List UInt8) : Quiet (writeBlock addr data) := by
  intro handoff
  rw [writeBlock_eq]
  split <;> rfl

theorem protect_quiet (addr : Address) (size : UInt64) (flags : PageFlags) :
    Quiet (protect addr size flags) :=
  onMemory_quiet _

theorem Leaves.bind {α β : Type} {P : Kernel → Prop} {handoff : Handoff} {x : HandoffM α}
    {f : α → HandoffM β} (first : Leaves P handoff x)
    (next : ∀ a middle, P middle.machine.os → Leaves P middle (f a)) :
    Leaves P handoff (x >>= f) := by
  rw [Leaves] at first
  cases ended : x handoff with
  | error e middle =>
      rw [ended] at first
      exact .of_error ended first
  | ok a middle =>
      rw [ended] at first
      exact .of_ok ended (next a middle first)

end HandoffM

namespace Handoff

open HandoffM

theorem copySegments_quiet (base : Address) (segments : List (SegmentKind × Segment)) :
    Quiet (copySegments base segments) := by
  induction segments with
  | nil => exact pure_keeps _
  | cons first rest ih =>
      obtain ⟨_, segment⟩ := first
      rw [copySegments]
      split
      · exact (writeBlock_quiet _ _).bind fun _ => ih
      · exact ih

theorem protectRegions_quiet (base : Address) (regions : List ModuleRegion) :
    Quiet (protectRegions base regions) := by
  induction regions with
  | nil => exact pure_keeps _
  | cons region rest ih => exact (protect_quiet _ _ _).bind fun _ => ih

theorem install_quiet (image : ModuleImage) (base : Address) (codeSize : UInt64) :
    Quiet (install image base codeSize) := by
  refine (copySegments_quiet _ _).bind fun _ => (protectRegions_quiet _ _).bind fun _ => ?_
  exact Keeps.bind (fun _ => rfl) fun _ _ => rfl

theorem loadModule_quiet (image : ModuleImage) (base : Address) :
    Quiet (loadModule image base) := by
  rw [loadModule_eq]
  refine requireProcess_keeps.bind fun process => (ofExcept_keeps _ _).bind fun _ => ?_
  split
  · exact throw_keeps _
  · split
    · exact throw_keeps _
    · exact install_quiet image base process.codeSize

end Handoff

namespace HandoffStep

open Handoff HandoffM

/-- What is done with an application preserves `P`, as long as the kernel steps
    meanwhile are `allowed`. -/
structure Preserves (allowed : KernelStep → Prop) (P : Kernel → Prop) : Prop where
  creates : ∀ {kernel params pid after}, P kernel →
    kernel.createApplication params = .ok (pid, after) → P after
  queues : ∀ {kernel after : Kernel}, P kernel → kernel.Queued after → P after
  performs : ∀ {step machine}, allowed step → machine.os.application.isSome → P machine.os →
    P (step.perform machine).os

/-- A kernel step that this stands for is allowed. -/
def Respects (allowed : KernelStep → Prop) : HandoffStep → Prop
  | meanwhile step => allowed step
  | create .. | load .. | start .. | launch .. => True

namespace Preserves

variable {allowed : KernelStep → Prop} {P : Kernel → Prop} {handoff : Handoff}

theorem createApplication (preserves : Preserves allowed P) (holds : P handoff.machine.os)
    (codeSize : UInt64) (metadata : ProgramMetadata) :
    Leaves P handoff (Handoff.createApplication codeSize metadata) := by
  rcases createApplication_cases codeSize metadata handoff with
    ⟨e, refused⟩ | ⟨size, memory, pid, kernel, _, _, _, creates, done⟩
  · rw [Leaves, refused]
    exact holds
  · rw [Leaves, done]
    exact preserves.creates holds creates

theorem startApplication (preserves : Preserves allowed P) (holds : P handoff.machine.os)
    (priority : UInt32) (stackSize : UInt64) :
    Leaves P handoff (Handoff.startApplication priority stackSize) :=
  preserves.queues holds (startApplication_queued handoff priority stackSize)

theorem loadApplication (preserves : Preserves allowed P) (holds : P handoff.machine.os)
    (image : ModuleImage) (metadata : ProgramMetadata) :
    Leaves P handoff (Handoff.loadApplication image metadata) := by
  refine Leaves.bind ((ofExcept_keeps _ _).leaves holds) fun _ _ holds => ?_
  refine Leaves.bind (preserves.createApplication holds _ _) fun created _ holds => ?_
  refine Leaves.bind ((loadModule_quiet image created.1).leaves holds) fun _ _ holds => ?_
  exact preserves.startApplication holds _ _

theorem perform (preserves : Preserves allowed P) (holds : P handoff.machine.os)
    {step : HandoffStep} (respects : step.Respects allowed) :
    P (step.perform handoff).machine.os := by
  cases step with
  | create codeSize metadata => exact preserves.createApplication holds codeSize metadata
  | load image base => exact (loadModule_quiet image base).leaves holds
  | start priority stackSize => exact preserves.startApplication holds priority stackSize
  | launch image metadata => exact preserves.loadApplication holds image metadata
  | meanwhile step =>
      rw [HandoffStep.perform]
      split
      · rename_i present
        exact preserves.performs respects present holds
      · exact holds

theorem performAll (preserves : Preserves allowed P) (holds : P handoff.machine.os)
    {steps : List HandoffStep} (respects : ∀ step ∈ steps, step.Respects allowed) :
    P (HandoffStep.performAll handoff steps).machine.os := by
  induction steps generalizing handoff with
  | nil => exact holds
  | cons step rest ih =>
      obtain ⟨first, others⟩ := List.forall_mem_cons.mp respects
      exact ih (preserves.perform holds first) others

end Preserves

variable {cores : Nat} {traceCalls : Bool} {monitor : Option MonitorHandle} {lines : List Nat}

theorem preserves_awaits : Preserves (fun _ => True)
    (Kernel.Awaits { Kernel.create cores traceCalls monitor with lines }) where
  creates awaits creates := by
    cases awaits with
    | nobody same =>
        rw [same] at creates
        obtain ⟨process, hosts, consistent⟩ := Kernel.createApplication_hosts creates
        exact .application hosts fun _ => consistent
    | application hosts =>
        rw [Kernel.createApplication, hosts.application] at creates
        cases creates
  queues awaits queued := by
    cases awaits with
    | nobody same =>
        subst same
        exact .nobody (queued.eq_of_empty fun _ => rfl)
    | application hosts consistent => exact .application_of_carries hosts consistent queued.carries
  performs {step machine} _ present awaits := by
    cases awaits with
    | nobody same =>
        rw [same] at present
        cases present
    | application hosts consistent =>
        exact .application_of_carries hosts consistent (step.perform_carries machine)

theorem performAll_awaits (steps : List HandoffStep) {handoff : Handoff}
    (awaits : Kernel.Awaits { Kernel.create cores traceCalls monitor with lines }
      handoff.machine.os) :
    Kernel.Awaits { Kernel.create cores traceCalls monitor with lines }
      (performAll handoff steps).machine.os :=
  preserves_awaits.performAll awaits fun step _ => by cases step <;> trivial

end HandoffStep

/-- The application has other handles. -/
def Handoff.withHandles (handoff : Handoff) (handles : HandleTable) : Handoff :=
  match handoff.machine.os.application with
  | some pid =>
      { handoff with
        machine := handoff.machine.mapOs
          (·.modifyProcess pid fun process => { process with handles }) }
  | none => handoff

/-- A start that failed has left everything as it was, page by page; or the process
    had no handle left, a thread was created and taken back, and its stack is still
    mapped. -/
structure Handoff.StartUndone (before : Handoff) (e : EngineError) (after : Handoff) : Prop where
  loader : after.loader = before.loader
  undone : (∃ memory, before.machine.board.memory.SameContents memory ∧
      after = before.withMemory memory) ∨
    ∃ process stack span, before.machine.os.applicationProcess? = some process ∧
      HandleTable.capacity ≤ process.handles.size ∧ e = .kernel .resourceLimit ∧
      before.machine.board.memory.Filled stack span PageFlags.rw ∧
      process.TakesBack (before.withMemory stack).machine after.machine

section

open Handoff HandoffM

variable {handoff : Handoff} {pid : ProcessId} {process : GuestProcess}

theorem Handoff.startUndone_of_empty
    (empty : ∀ number, handoff.machine.os.processes.find? number = none) (priority : UInt32)
    (stackSize : UInt64) :
    Fails handoff.StartUndone handoff (startApplication priority stackSize) := by
  apply startApplication_fails
  · intro e memory same
    exact ⟨rfl, .inl ⟨memory, same, rfl⟩⟩
  · intro number process bottom size stack entry id made memory found
    cases (empty number).symm.trans found

theorem Kernel.Hosts.startUndone (hosts : handoff.machine.os.Hosts pid process)
    (room : handoff.machine.os.threads.slots.size < 2 ^ 64)
    (unlisted : handoff.machine.os.threads.nextId ∉ process.threads)
    (idle : handoff.machine.os.scheduler.threads[handoff.machine.os.threads.nextId]? = none)
    (priority : UInt32) (stackSize : UInt64) :
    Fails handoff.StartUndone handoff (startApplication priority stackSize) := by
  apply startApplication_fails
  · intro e memory same
    exact ⟨rfl, .inl ⟨memory, same, rfl⟩⟩
  · intro number process' bottom size stack entry id made memory found maps create
    cases hosts.eq_of_find found
    refine queueMainThread_fails hosts room idle create fun thread full known => ⟨rfl, .inr ?_⟩
    obtain ⟨span, _, filled⟩ := AddressSpace.Filled.of_map maps
    exact ⟨process, stack, span, hosts.applicationProcess?_eq, full, rfl, filled,
      hosts.takesBack room unlisted create known⟩

/-- A number that stands for no thread yet is not scheduled either. -/
theorem Kernel.unscheduled_of_fresh {kernel : Kernel} {id : ThreadId}
    (consistent : (kernel.threadRecord process id).Consistent)
    (fresh : kernel.threads.find? id = none) : kernel.scheduler.threads[id]? = none := by
  refine Option.not_isSome_iff_eq_none.mp fun scheduled => ?_
  have level : (kernel.threadRecord process id).level.isSome := by
    rw [threadRecord, Scheduler.priority?, Option.isSome_map]
    exact scheduled
  obtain ⟨thread, known, _⟩ := consistent.scheduled_iff.mp level
  cases known.symm.trans fresh

theorem Kernel.Hosts.withHandles (hosts : handoff.machine.os.Hosts pid process)
    (handles : HandleTable) :
    handoff.withHandles handles =
      { handoff with
        machine := handoff.machine.mapOs
          (·.modifyProcess pid fun process => { process with handles }) } := by
  rw [Handoff.withHandles, hosts.application]

end

/-- Get as far as you like with an application, give its process any handles and
    memory any contents. If a start of its main thread fails then, nothing is left
    of it, unless the process had no handle left. Thread numbers must not have run
    out. -/
theorem startApplication_undone {cores : Nat} {traceCalls : Bool}
    {monitor : Option MonitorHandle} {lines : List Nat} (loader : Loader) (board : Board)
    (steps : List HandoffStep) {handoff : Handoff}
    (reached : HandoffStep.performAll
      { loader, machine := { board, os := { Kernel.create cores traceCalls monitor with lines } } }
      steps = handoff)
    (room : handoff.machine.os.threads.slots.size < 2 ^ 64) (memory : AddressSpace)
    {handles : HandleTable} (wellFormed : handles.WellFormed) {priority : UInt32}
    {stackSize : UInt64} {e : EngineError} {after : Handoff}
    (failed : Handoff.startApplication priority stackSize
      ((handoff.withMemory memory).withHandles handles) = .error e after) :
    ((handoff.withMemory memory).withHandles handles).StartUndone e after := by
  let initial : Handoff :=
    { loader, machine := { board, os := { Kernel.create cores traceCalls monitor with lines } } }
  have awaits : Kernel.Awaits _ (HandoffStep.performAll initial steps).machine.os :=
    HandoffStep.performAll_awaits steps (.nobody rfl)
  rw [reached] at awaits
  cases awaits with
  | nobody same =>
      have unhanded : (handoff.withMemory memory).withHandles handles =
          handoff.withMemory memory := by
        rw [Handoff.withHandles, show (handoff.withMemory memory).machine.os = _ from same]
        rfl
      rw [unhanded] at failed ⊢
      refine Handoff.startUndone_of_empty (fun number => ?_) priority stackSize e after failed
      rw [show (handoff.withMemory memory).machine.os = _ from same]
      rfl
  | @application pid process hosts consistent =>
      have fresh : handoff.machine.os.threads.find? handoff.machine.os.threads.nextId = none :=
        ObjectTable.find?_nextId room
      have record := consistent (Nat.le_of_lt room) handoff.machine.os.threads.nextId
      -- What the number of the next thread stands for does not depend on handles or memory.
      have unlisted := Kernel.not_mem_threads_of_fresh record fresh
      have idle := Kernel.unscheduled_of_fresh record fresh
      have remapped : (handoff.withMemory memory).machine.os.Hosts pid process := hosts
      have handed := remapped.withHandles handles
      have hosts : ((handoff.withMemory memory).withHandles handles).machine.os.Hosts pid
          { process with handles } := by
        rw [handed]
        exact hosts.modifyProcess hosts.number wellFormed
      refine hosts.startUndone ?_ ?_ ?_ priority stackSize e after failed
      · rw [handed]
        exact room
      · rw [handed]
        exact unlisted
      · rw [handed]
        exact idle

/-- One instruction is loaded for a machine with one core. -/
def oneInstruction : List HandoffStep :=
  [.create 0x1000 {}, .load (.flat [0x21, 0x00, 0x00, 0xd4]) 0x8000000]

def newlyLoaded : Handoff :=
  HandoffStep.performAll { loader := {}, machine := { board := {}, os := Kernel.create 1 false none } }
    oneInstruction

/-- A priority that there is not is refused, and nothing is left. -/
theorem startApplication_undone_priority :
    ∃ after, Handoff.startApplication 64 0x2000
        ((newlyLoaded.withMemory newlyLoaded.machine.board.memory).withHandles {}) =
          .error (.kernel (.invalidPriority 64)) after ∧
      ((newlyLoaded.withMemory newlyLoaded.machine.board.memory).withHandles {}).StartUndone
        (.kernel (.invalidPriority 64)) after := by
  have refused : (match Handoff.startApplication 64 0x2000
      ((newlyLoaded.withMemory newlyLoaded.machine.board.memory).withHandles {}) with
    | .ok _ _ => none
    | .error e _ => some e) = some (.kernel (.invalidPriority 64)) := by
    decide +kernel
  cases started : Handoff.startApplication 64 0x2000
      ((newlyLoaded.withMemory newlyLoaded.machine.board.memory).withHandles {}) with
  | ok id after =>
      rw [started] at refused
      cases refused
  | error e after =>
      rw [started] at refused
      cases refused
      exact ⟨after, rfl, startApplication_undone {} {} oneInstruction rfl (by decide +kernel) _
        HandleTable.empty_wellFormed started⟩

/-- As many handles as a process can have. -/
def fullTable : HandleTable where
  entries := (List.range HandleTable.capacity).map fun n => (UInt32.ofNat (n + 1), .process 0x51)
  next := 1025

/-- Without a handle left, the start fails and the first page of the stack area is
    mapped, which it was not before. -/
theorem startApplication_leaves_stack :
    ∃ after, Handoff.startApplication 44 0x2000 (newlyLoaded.withHandles fullTable) =
        .error (.kernel .resourceLimit) after ∧
      newlyLoaded.machine.board.memory.flags? (Layout.stackBase.toNat / Layout.pageSize) = none ∧
      after.machine.board.memory.flags? (Layout.stackBase.toNat / Layout.pageSize) =
        some PageFlags.rw := by
  have left : (match Handoff.startApplication 44 0x2000 (newlyLoaded.withHandles fullTable) with
    | .ok _ _ => none
    | .error e after => some (e, after.machine.board.memory.flags?
        (Layout.stackBase.toNat / Layout.pageSize))) =
      some (.kernel .resourceLimit, some PageFlags.rw) := by
    decide +kernel
  cases started : Handoff.startApplication 44 0x2000 (newlyLoaded.withHandles fullTable) with
  | ok id after =>
      rw [started] at left
      cases left
  | error e after =>
      rw [started] at left
      obtain ⟨rfl, mapped⟩ := Prod.mk.inj (Option.some.inj left)
      exact ⟨after, rfl, by decide +kernel, mapped⟩

end GuestMachine
