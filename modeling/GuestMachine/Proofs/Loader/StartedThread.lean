import GuestMachine.Proofs.Board.Publication
import GuestMachine.Proofs.Kernel.NewThreads
import GuestMachine.Proofs.Loader.StartSteps
import GuestMachine.Proofs.Memory.FreeAreas
import GuestMachine.Proofs.System.CoreCount
import GuestMachine.Proofs.System.ThreadLocalHomes

/-! # A main thread that is started

The stack is mapped first and the slot of the thread is cleared afterwards, in
another region, so the stack stays zero. The thread is looked up before it gets
its handle and its state, but what is queued of it, number, priority and core, is
the same before and after.
-/

namespace GuestMachine

open Layout

namespace AddressSpace

/-- The stack is in the lowest place of the stack region that has room for it, where
    nothing was mapped. It can be read and written, and is zero. -/
structure MapsStack (before after : AddressSpace) (size : UInt64) (bottom : Address) : Prop where
  nonempty : 0 < wholePages size.toNat
  lowest : IsLeast { start | before.FreeAt stackBase stackSize size start } bottom
  mapped : ∀ i, bottom.toNat ≤ i → i < bottom.toNat + wholePages size.toNat →
    after.flags? (i / pageSize) = some PageFlags.rw ∧ after.byte? i = some 0

/-- Nothing that was mapped has changed, but for the bytes of a slot. -/
structure KeepsBut (before after : AddressSpace) (slot : Address) : Prop where
  flags : ∀ page, (before.flags? page).isSome → after.flags? page = before.flags? page
  bytes : ∀ i, (before.byte? i).isSome → ¬ InArea slot tlsEntrySize i →
    after.byte? i = before.byte? i

variable {before stack after : AddressSpace} {size rounded : UInt64} {bottom : Address} {slot : Nat}

theorem MapsStack.of_map (aligned : pageAlignUp? size = some rounded) (positive : 0 < rounded)
    (area : before.findFreeArea stackBase stackSize rounded = .found bottom)
    (maps : before.map bottom rounded PageFlags.rw = .ok stack) :
    before.MapsStack stack size bottom := by
  have page : pageSize = 4096 := rfl
  have pages := wholePages_of_pageAlignUp aligned
  have extent := toNat_pageAlignUp aligned
  have whole : wholePages size.toNat % pageSize = 0 := Nat.mul_mod_left _ _
  rw [UInt64.lt_iff_toNat_lt, extent, UInt64.toNat_zero] at positive
  obtain ⟨fits, lowest⟩ := findFreeArea_lowest area
  refine ⟨positive, ⟨fits.of_wholePages pages.symm, fun start other => ?_⟩, fun i lower upper => ?_⟩
  · exact lowest (other.of_wholePages pages)
  · obtain ⟨span, request, filled⟩ := Filled.of_map maps
    obtain ⟨first, count⟩ := PageSpan.eq_of_ofRequest request
    have start := PageSpan.aligned_of_ofRequest request
    have inside : span.Contains (i / pageSize) := by
      rw [PageSpan.Contains, first, count, extent, page] at *
      omega
    exact ⟨(filled.flags _).trans (if_pos inside), (filled.bytes i).trans (if_pos inside)⟩

/-- A slot elsewhere, or what is cleared is zero anyway. -/
theorem MapsStack.clearsSlot (maps : before.MapsStack stack size bottom)
    (clears : stack.ClearsSlot after slot) : before.MapsStack after size bottom where
  nonempty := maps.nonempty
  lowest := maps.lowest
  mapped i lower upper := by
    obtain ⟨mapped, zero⟩ := maps.mapped i lower upper
    constructor
    · rcases clears.flags (i / pageSize) with same | ⟨_, absent, _⟩
      · exact same.trans mapped
      · cases absent.symm.trans mapped
    · rcases clears.bytes i with same | ⟨cleared, _⟩
      · exact same.trans zero
      · exact cleared

/-- The stack ends where a page does, and not behind the end of its region. -/
theorem MapsStack.top (maps : before.MapsStack after size bottom)
    (aligned : pageAlignUp? size = some rounded) :
    isPageAligned (bottom + rounded) ∧
      (bottom + rounded).toNat = bottom.toNat + wholePages size.toNat := by
  have page : pageSize = 4096 := rfl
  have base : stackBase.toNat = 0x1200000000 := rfl
  have extent : Layout.stackSize.toNat = 0x80000000 := rfl
  have whole : wholePages size.toNat % pageSize = 0 := Nat.mul_mod_left _ _
  have start : bottom.toNat % pageSize = 0 := of_decide_eq_true maps.lowest.1.aligned
  have room := maps.lowest.1.room
  have sum : (bottom + rounded).toNat = bottom.toNat + wholePages size.toNat := by
    rw [UInt64.toNat_add, toNat_pageAlignUp aligned, Nat.mod_eq_of_lt]
    omega
  refine ⟨decide_eq_true ?_, sum⟩
  rw [sum]
  rw [page] at *
  omega

theorem KeepsBut.of_map {flags : PageFlags} (maps : before.map bottom size flags = .ok stack)
    (clears : stack.ClearsSlot after slot) : before.KeepsBut after (GuestProcess.tlsAddress slot) := by
  obtain ⟨span, _, filled⟩ := Filled.of_map maps
  have apart {page : Nat} (mapped : (before.flags? page).isSome) : ¬ span.Contains page := by
    intro inside
    rw [filled.fresh page inside] at mapped
    cases mapped
  constructor
  · intro page mapped
    have kept := (filled.flags page).trans (if_neg (apart mapped))
    rcases clears.flags page with same | ⟨_, absent, _⟩
    · exact same.trans kept
    · rw [← kept, absent] at mapped
      cases mapped
  · intro i mapped away
    have page : (before.flags? (i / pageSize)).isSome := by
      rw [Option.isSome_iff_ne_none, ne_eq, ← byte?_eq_none_iff]
      exact Option.isSome_iff_ne_none.mp mapped
    have kept := (filled.bytes i).trans (if_neg (apart page))
    rcases clears.bytes i with same | ⟨_, inside | ⟨_, absent⟩⟩
    · exact same.trans kept
    · exact absurd inside away
    · rw [← kept, absent] at mapped
      cases mapped

theorem KeepsBut.isExecutable {slot entry : Address} (keeps : before.KeepsBut after slot)
    (code : before.pageFlags? entry = some PageFlags.rx) : after.isExecutable entry := by
  have page : before.flags? (entry.toNat / pageSize) = some PageFlags.rx := code
  have kept := keeps.flags _ (Option.isSome_of_eq_some page)
  exact isExecutable_iff.mpr ⟨PageFlags.rx, kept.trans page, by decide⟩

end AddressSpace

/-- The registers at the first instruction. Those that are not given are zero. -/
structure ThreadContext.StartsAt (context : ThreadContext) (entry top : Address) (handle : Handle)
    (slot : Address) : Prop where
  pc : context.registers.pc = entry
  sp : context.registers.sp = top
  x : ∀ n (within : n < 31), context.registers.x[n] = if n = 1 then handle.toUInt64 else 0
  v : ∀ n (within : n < 32), context.registers.v[n] = 0
  fpcr : context.registers.fpcr = 0
  fpsr : context.registers.fpsr = 0
  nzcv : context.registers.nzcv = 0
  tpidrEl0 : context.tpidrEl0 = 0
  tpidrroEl0 : context.tpidrroEl0 = slot

theorem GuestThread.startsAt_setRegister (id : ThreadId) {params : ThreadParams}
    (none : params.argument = 0) (handle : Handle) :
    ((ofParams id params).setRegister 1 handle.toUInt64).context.StartsAt params.entry
      params.stackTop handle params.tlsAddress where
  pc := rfl
  sp := rfl
  x n within := by
    change ((((Vector.replicate 31 (0 : UInt64)).set 0 params.argument).setIfInBounds 1
      handle.toUInt64)[n]) = _
    rw [Vector.getElem_setIfInBounds, none, Vector.getElem_set, Vector.getElem_replicate, ite_self]
    simp only [eq_comm]
  v n within := Vector.getElem_replicate within
  fpcr := rfl
  fpsr := rfl
  nzcv := rfl
  tpidrEl0 := rfl
  tpidrroEl0 := rfl

/-- The thread that is queued has its number, priority and core from its creation. -/
theorem Kernel.Created.startThread_eq_ok {kernel made after : Kernel} {pid : ProcessId}
    {process held holder : GuestProcess} {id : ThreadId} {thread : GuestThread} {handle : Handle}
    (created : Created pid kernel process id thread made held)
    (room : kernel.threads.slots.size < 2 ^ 64)
    (opens : held.addHandle (.thread id) = .ok (handle, holder))
    (starts : (made.handOver pid holder id handle).startThread thread = .ok after) :
    made.scheduler.add id thread.priority thread.coreMask = .ok after.scheduler ∧
      after.threads.get? id =
        some ((thread.setRegister 1 handle.toUInt64).setState .started) ∧
      ∃ process', after.Hosts pid process' ∧ process'.handles = holder.handles ∧
        process'.state = if holder.state = .created then .running else holder.state := by
  have known := created.object room
  obtain ⟨rfl, owner⟩ := created.hosts.own id thread known
  have handed := (created.carried_handOver opens).hosts
  have sized : (made.handOver pid holder thread.id handle).threads.slots.size ≤ 2 ^ 64 := by
    refine (ObjectTable.size_modify ..).le.trans ?_
    rw [show (made.modifyProcess pid fun _ => holder).threads = made.threads from rfl, created.size]
    exact room
  have current := created.get_handOver known sized
  obtain ⟨_, scheduler, added, hosts, rfl⟩ := handed.startThread_eq_ok owner starts
  refine ⟨added, ?_, _, hosts.modifyProcess ?_ ?_, ?_, ?_⟩
  · exact (ObjectTable.get?_modify ..).trans ((if_pos rfl).trans (congrArg (Option.map _) current))
  · split <;> exact handed.number
  · split <;> exact handed.handles
  · split <;> rfl
  · split <;> rfl

/-- A main thread is ready to run, and everything else is as it was. -/
structure Handoff.ReadiesMain (before : Handoff) (entry : Address) (priority : UInt32)
    (stackSize : UInt64) (process : GuestProcess) (id : ThreadId) (thread : GuestThread)
    (process' : GuestProcess) (after : Handoff) : Prop where
  hosted : before.machine.os.applicationProcess? = some process ∧
    after.machine.os.applicationProcess? = some process' ∧ process'.pid = process.pid
  fresh : before.machine.os.threads.find? id = none
  known : after.machine.os.threads.get? id = some thread
  owner : thread.processId = process.pid
  started : thread.state = .started
  running : process'.state = if process.state = .created then .running else process.state
  stack : ∃ bottom,
    before.machine.board.memory.MapsStack after.machine.board.memory stackSize bottom ∧
      isPageAligned thread.context.registers.sp ∧ thread.context.registers.sp.toNat =
        bottom.toNat + AddressSpace.wholePages stackSize.toNat
  executable : after.machine.board.memory.isExecutable entry
  registers : ∃ handle,
    thread.context.StartsAt entry thread.context.registers.sp handle thread.tlsAddress ∧
      process.handles.Opens (.thread id) handle process'.handles ∧
      ∀ core, after.machine.os.resolveThread core handle = .ok thread
  slot : ∃ slot, slot < GuestProcess.tlsCapacity ∧ process.usesSlot slot = false ∧
    thread.tlsAddress = GuestProcess.tlsAddress slot
  zeros : ∀ i, InArea thread.tlsAddress tlsEntrySize i →
    after.machine.board.memory.byte? i = some 0
  apart : after.machine.os.ThreadsApart
  idealCore : thread.idealCore = before.loader.metadata.mainCore
  core : ∃ c : Nat, thread.idealCore.toInt = c ∧ c < before.machine.os.coreCount ∧
    thread.coreMask.toNat = 2 ^ c
  level : thread.priority = priority
  queued : ∃ level : Priority, level.val = priority.toNat ∧
    before.machine.os.scheduler.Appends id level thread.coreMask after.machine.os.scheduler
  memory : before.machine.board.memory.KeepsBut after.machine.board.memory thread.tlsAddress

namespace Handoff

open Kernel

variable {handoff after : Handoff} {pid : ProcessId} {process : GuestProcess} {priority : UInt32}
  {stackSize : UInt64} {id : ThreadId}

theorem Starts.queued (starts : handoff.Starts priority stackSize id after) :
    Queued handoff.machine.os after.machine.os := by
  obtain ⟨found, _, _, _, _, _, create, queues⟩ := starts
  obtain ⟨holds, known, opens, starts⟩ := queues
  exact .started found ⟨_, _, _, _, _, _, _, create⟩ holds known opens starts

theorem Starts.size (starts : handoff.Starts priority stackSize id after) :
    after.machine.os.threads.slots.size = handoff.machine.os.threads.slots.size + 1 := by
  obtain ⟨_, _, _, _, _, _, create, queues⟩ := starts
  obtain ⟨_, _, _, starts⟩ := queues
  obtain ⟨_, _, _, _, _, _, _, _, rfl⟩ := createThread_params create
  exact (size_startThread starts).trans
    ((ObjectTable.size_modify ..).trans (ObjectTable.size_insert ..))

theorem Starts.readiesMain {entry : Address} (starts : handoff.Starts priority stackSize id after)
    (hosts : handoff.machine.os.Hosts pid process)
    (room : handoff.machine.os.threads.slots.size < 2 ^ 64)
    (few : handoff.machine.os.coreCount ≤ maxCores) (apart : after.machine.os.ThreadsApart)
    (entered : handoff.loader.entry = some entry)
    (code : handoff.machine.board.memory.pageFlags? entry = some PageFlags.rx) :
    ∃ thread process',
      handoff.ReadiesMain entry priority stackSize process id thread process' after := by
  obtain ⟨found, entered', aligned, positive, area, maps, create, queues⟩ := starts
  cases hosts.eq_of_find found
  cases entered.symm.trans entered'
  obtain ⟨coreMask, slot, _, holder, allowed, takes, zeros, created, handles, state⟩ :=
    hosts.created_params room create
  obtain ⟨holds, known, opens, starts⟩ := queues
  rw [hosts.number] at holds starts
  cases created.hosts.eq_of_find holds
  cases (created.object room).symm.trans known
  obtain ⟨added, current, process', hosts', handles', state'⟩ :=
    created.startThread_eq_ok room opens starts
  have creates : handoff.machine.os.Creates process id _ := ⟨_, _, _, _, _, _, _, create⟩
  rw [creates.scheduler] at added
  obtain ⟨table, opened, rfl⟩ := GuestProcess.addHandle_eq_ok opens
  rw [handles] at opened
  have handed := HandleTable.opens_of_add hosts.handles opened
  rw [← show process'.handles = table from handles'] at handed
  have spans := AddressSpace.MapsStack.of_map aligned positive area maps
  have keeps := AddressSpace.KeepsBut.of_map maps takes.clears
  have number := hosts'.number.trans hosts.number.symm
  refine ⟨_, process', ⟨hosts.applicationProcess?_eq, hosts'.applicationProcess?_eq, number⟩,
    created.fresh room, current, hosts.number.symm, rfl, state'.trans (state ▸ rfl),
    ⟨_, spans.clearsSlot takes.clears, spans.top aligned⟩, keeps.isExecutable code,
    ⟨_, GuestThread.startsAt_setRegister _ rfl _, handed,
      hosts'.resolveThread_eq handed.real handed.names current⟩,
    ⟨slot, takes.below, takes.free, rfl⟩, zeros, apart, rfl,
    coreMaskFor_eq_ok allowed few, rfl, Scheduler.add_appends added, keeps⟩

end Handoff

/-- There is no application yet, and the kernel is as it was created, or there is one and
    everything is in order. Either way the kernel has the cores it was created with. -/
structure Kernel.Established (idle kernel : Kernel) : Prop where
  coreCount : kernel.coreCount = idle.coreCount
  settled : kernel = idle ∨ ∃ pid, Secures pid Settled kernel

namespace HandoffStep

open Handoff HandoffM

variable {cores : Nat} {traceCalls : Bool} {monitor : Option MonitorHandle} {lines : List Nat}

theorem preserves_established : Preserves KernelStep.OnCore
    (Kernel.Established { Kernel.create cores traceCalls monitor with lines }) where
  creates {kernel params pid after} established creates := by
    refine ⟨?_, .inr ⟨pid, ?_⟩⟩
    · rw [Kernel.createApplication] at creates
      split at creates
      · cases creates
      · cases creates
        exact established.coreCount
    · rcases established.settled with rfl | ⟨_, secures⟩
      · exact Kernel.createApplication_secures creates
      · obtain ⟨process, hosts⟩ := secures.hosts
        rw [Kernel.createApplication, hosts.application] at creates
        cases creates
  queues established queued := by
    refine ⟨queued.coreCount.trans established.coreCount, ?_⟩
    rcases established.settled with rfl | ⟨pid, secures⟩
    · exact .inl (queued.eq_of_empty fun _ => rfl)
    · exact .inr ⟨pid, secures.of_queued queued⟩
  performs {step machine} onCore present established := by
    refine ⟨(step.coreCount_perform machine).trans established.coreCount, ?_⟩
    rcases established.settled with same | ⟨pid, secures⟩
    · rw [same] at present
      cases present
    · exact .inr ⟨pid, KernelStep.perform_secures secures onCore⟩

end HandoffStep

/-- Get as far as you like with an application, load its module, and go on from there, with
    any metadata and any memory as long as the page of the entry point keeps its permissions.
    If a start succeeds then, the first one or another, the main thread is ready. Thread
    numbers must not have run out. -/
theorem startApplication_readiesMain {cores : Nat} {traceCalls : Bool}
    {monitor : Option MonitorHandle} {lines : List Nat} (loader : Loader) (board : Board)
    {earlier later : List HandoffStep} {before loaded handoff after : Handoff}
    (reached : HandoffStep.performAll
      { loader, machine := { board, os := { Kernel.create cores traceCalls monitor with lines } } }
      earlier = before)
    {image : ModuleImage} {base : Address}
    (loads : Handoff.loadModule image base before = .ok () loaded)
    (proceeds : HandoffStep.performAll loaded later = handoff)
    (onCore : ∀ step ∈ earlier ++ later, step.Respects KernelStep.OnCore)
    (room : handoff.machine.os.threads.slots.size < 2 ^ 64)
    (entered : handoff.loader.entry = loaded.loader.entry)
    (code : handoff.machine.board.memory.pageFlags? (base + image.entryOffset) =
      loaded.machine.board.memory.pageFlags? (base + image.entryOffset))
    {priority : UInt32} {stackSize : UInt64} {id : ThreadId}
    (started : Handoff.startApplication priority stackSize handoff = .ok id after) :
    ∃ process thread process', handoff.ReadiesMain (base + image.entryOffset) priority stackSize
      process id thread process' after := by
  obtain ⟨entry, executable⟩ := Handoff.loadModule_entry loads
  rw [entry] at entered
  rw [executable] at code
  have starts := Handoff.startApplication_returns priority stackSize id after started
  obtain ⟨onCore, onCore'⟩ := List.forall_mem_append.mp onCore
  have established : Kernel.Established { Kernel.create cores traceCalls monitor with lines }
      handoff.machine.os := by
    have same : loaded.machine.os = before.machine.os := by
      have quiet := Handoff.loadModule_quiet image base before
      rw [loads] at quiet
      exact quiet
    rw [← proceeds]
    refine HandoffStep.preserves_established.performAll ?_ onCore'
    rw [same, ← reached]
    exact HandoffStep.preserves_established.performAll ⟨rfl, .inl rfl⟩ onCore
  have few : handoff.machine.os.coreCount ≤ maxCores := by
    rw [established.coreCount]
    exact Nat.max_le.mpr ⟨by decide, Nat.min_le_right ..⟩
  rcases established.settled with same | ⟨pid, secures⟩
  · obtain ⟨found, _⟩ := starts
    rw [same] at found
    cases found
  · obtain ⟨process, hosts⟩ := secures.hosts
    obtain ⟨_, _, settled⟩ := secures.of_queued starts.queued
    have apart := (settled (starts.size.trans_le room)).threadsApart
    exact ⟨process, starts.readiesMain hosts room few apart entered code⟩

/-- With one thread started, a second start goes through. The stack takes two pages, which
    is more than was asked for. -/
theorem startApplication_readiesMain_again :
    ∃ after process thread process',
      Handoff.startApplication 63 0x1001
        (HandoffStep.performAll newlyLoaded [.start 44 0x2000]) = .ok 2 after ∧
      (HandoffStep.performAll newlyLoaded [.start 44 0x2000]).ReadiesMain 0x8000000 63 0x1001
        process 2 thread process' after := by
  let image := ModuleImage.flat [0x21, 0x00, 0x00, 0xd4]
  let created := HandoffStep.performAll
    { loader := {}, machine := { board := {}, os := Kernel.create 1 false none } }
    [.create 0x1000 {}]
  have reached : HandoffStep.performAll
      { loader := {}
        machine := { board := {}, os := { Kernel.create 1 false none with lines := [] } } }
      [.create 0x1000 {}] = created := rfl
  have loads : Handoff.loadModule image 0x8000000 created = .ok () newlyLoaded := by
    have accepted : (match Handoff.loadModule image 0x8000000 created with
      | .ok _ _ => true
      | .error _ _ => false) = true := by
      decide +kernel
    have same : newlyLoaded = outcomeState (Handoff.loadModule image 0x8000000 created) := rfl
    rw [same]
    cases loads : Handoff.loadModule image 0x8000000 created with
    | ok _ loaded => rfl
    | error e loaded =>
        rw [loads] at accepted
        cases accepted
  have accepted : (match Handoff.startApplication 63 0x1001
      (HandoffStep.performAll newlyLoaded [.start 44 0x2000]) with
    | .ok id _ => some id
    | .error _ _ => none) = some 2 := by
    decide +kernel
  cases started : Handoff.startApplication 63 0x1001
      (HandoffStep.performAll newlyLoaded [.start 44 0x2000]) with
  | error e after =>
      rw [started] at accepted
      cases accepted
  | ok id after =>
      rw [started] at accepted
      cases accepted
      have onCore : ∀ step ∈ [HandoffStep.create 0x1000 {}] ++ [.start 44 0x2000],
          step.Respects KernelStep.OnCore := by
        simp [HandoffStep.Respects]
      obtain ⟨process, thread, process', ready⟩ := startApplication_readiesMain {} {} reached
        loads rfl onCore (by decide +kernel) (by decide +kernel) (by decide +kernel) started
      exact ⟨after, process, thread, process', rfl, ready⟩

end GuestMachine
