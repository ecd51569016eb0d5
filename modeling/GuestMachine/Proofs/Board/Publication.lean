import GuestMachine.Cpu.Core
import GuestMachine.Proofs.Monitor.Reservations
import GuestMachine.Proofs.Translator.Invariance
import GuestMachine.Proofs.Translator.Recording

/-! # Stores to code

A core that stores to code has to tell every core, its own translated blocks
included. The board decides by the first byte of the store alone; here it is
worked out which ranges an instruction queues and for which stores that is
enough.
-/

namespace GuestMachine

open A64 Layout

/-- What waits for `core`, if the bus delivers to it. -/
def InvalidationBus.waiting? (bus : InvalidationBus) (core : CoreIndex) :
    Option (List (Address × UInt64)) :=
  bus.queues[core]?.bind fun queue => if queue.registered then some queue.ranges else none

theorem InvalidationBus.waiting?_publish (bus : InvalidationBus) (addr : Address) (size : UInt64)
    (core : CoreIndex) :
    (bus.publish addr size).waiting? core = (bus.waiting? core).map (· ++ [(addr, size)]) := by
  simp only [waiting?, publish, List.getElem?_map]
  cases bus.queues[core]? with
  | none => rfl
  | some queue =>
      by_cases registered : queue.registered <;> simp [CoreQueue.push, registered]

/-- The byte at `i` lies on a page of code. -/
def AddressSpace.HoldsCode (space : AddressSpace) (i : Nat) : Prop :=
  ∃ flags, space.flags? (i / pageSize) = some flags ∧ flags.execute

theorem AddressSpace.isExecutable_iff {space : AddressSpace} {addr : Address} :
    space.isExecutable addr ↔ space.HoldsCode addr.toNat := by
  have flags : space.pageFlags? addr = space.flags? (addr.toNat / pageSize) := rfl
  rw [isExecutable, flags, HoldsCode]
  cases space.flags? (addr.toNat / pageSize) <;> simp

theorem AddressSpace.flags?_store (space : AddressSpace) (w : Width) (addr : Address)
    (value : BitVec w.bits) (page : Nat) :
    (space.store w addr value).2.flags? page = space.flags? page := by
  rw [store, writeBlock_eq]
  cases space.validate addr (w.toBytes value).length PageFlags.w .write with
  | error error => rfl
  | ok => exact flags?_putBytes space.pages space.everMapped addr.toNat (w.toBytes value) page

namespace Board

/-- The permissions are as before, and every registered core has exactly
    `ranges` more in its queue. -/
structure Published (before after : Board) (ranges : List (Address × UInt64)) : Prop where
  flags : ∀ page, after.memory.flags? page = before.memory.flags? page
  waiting : ∀ core,
    after.manager.bus.waiting? core = (before.manager.bus.waiting? core).map (· ++ ranges)

theorem Published.of_bus_eq {before after : Board}
    (flags : ∀ page, after.memory.flags? page = before.memory.flags? page)
    (bus : after.manager.bus = before.manager.bus) : Published before after [] where
  flags := flags
  waiting core := by simp [bus]

theorem Published.trans {before between after : Board} {first second : List (Address × UInt64)}
    (published : Published before between first) (published' : Published between after second) :
    Published before after (first ++ second) where
  flags page := (published'.flags page).trans (published.flags page)
  waiting core := by
    rw [published'.waiting, published.waiting, Option.map_map]
    simp only [Function.comp_def, List.append_assoc]

theorem Published.isExecutable_eq {before after : Board} {ranges : List (Address × UInt64)}
    (published : Published before after ranges) (addr : Address) :
    after.memory.isExecutable addr = before.memory.isExecutable addr := by
  rw [Bool.eq_iff_iff, AddressSpace.isExecutable_iff, AddressSpace.isExecutable_iff,
    AddressSpace.HoldsCode, AddressSpace.HoldsCode, published.flags]

theorem published_publish (board : Board) (addr : Address) (size : UInt64) :
    Published board (board.publish addr size) [(addr, size)] where
  flags _ := rfl
  waiting core := board.manager.bus.waiting?_publish addr size core

theorem storeThrough_storeAndBreak (board : Board) (handle : Option MonitorHandle)
    (writer : Option CoreIndex) (addr : Address) (size : UInt64)
    (store : AddressSpace → Bool × AddressSpace) :
    ∃ after, board.storeThrough handle
        (fun monitor => monitor.storeAndBreak board.memory writer addr size store)
        (store board.memory) = ((store board.memory).1, after) ∧
      after.memory = (store board.memory).2 ∧ after.manager.bus = board.manager.bus := by
  rw [storeThrough]
  cases handle.bind board.manager.monitorOf? with
  | none => exact ⟨_, rfl, rfl, rfl⟩
  | some monitor =>
      simp only [ExclusiveMonitor.storeAndBreak]
      split
      · exact ⟨_, rfl, rfl, rfl⟩
      · exact ⟨_, rfl, rfl, rfl⟩

theorem published_if_code {before between : Board} (kept : Published before between [])
    (stored : Bool) (addr : Address) (size : UInt64) :
    let (stored, after) :=
      if stored && between.memory.isExecutable addr then (stored, between.publish addr size)
      else (stored, between)
    Published before after
      (if stored && before.memory.isExecutable addr then [(addr, size)] else []) := by
  rw [← kept.isExecutable_eq]
  by_cases code : (stored && between.memory.isExecutable addr) = true
  · simp only [code, if_true]
    exact kept.trans (published_publish between addr size)
  · simp only [code, Bool.false_eq_true, if_false]
    exact kept

theorem coreStore_published (board : Board) (core : CoreIndex) (handle : Option MonitorHandle)
    (w : Width) (addr : Address) (value : BitVec w.bits) :
    let (stored, after) := board.coreStore core handle w addr value
    Published board after
      (if stored && board.memory.isExecutable addr then [(addr, w.size)] else []) := by
  obtain ⟨between, through, memory, bus⟩ := board.storeThrough_storeAndBreak handle (some core) addr
    w.size fun memory => memory.store w addr value
  have kept : Published board between [] := by
    apply Published.of_bus_eq _ bus
    intro page
    rw [memory, AddressSpace.flags?_store]
  simp only [coreStore, ExclusiveMonitor.guardedStore, through]
  exact published_if_code kept _ addr w.size

theorem coreExclusiveWrite_published (board : Board) (core : CoreIndex)
    (handle : Option MonitorHandle) (w : Width) (addr : Address) (value : BitVec w.bits) :
    let (committed, after) := board.coreExclusiveWrite core handle w addr value
    Published board after
      (if committed && board.memory.isExecutable addr then [(addr, w.size)] else []) := by
  rw [coreExclusiveWrite]
  cases handle.bind board.manager.monitorOf? with
  | none => exact .of_bus_eq (fun _ => rfl) rfl
  | some monitor =>
      have effect := monitor.exclusiveWrite_effect board.memory w core addr value
      dsimp only
      generalize monitor.exclusiveWrite board.memory w core addr value = outcome at effect ⊢
      obtain ⟨committed, memory, monitor⟩ := outcome
      obtain ⟨written, refused, _⟩ := effect
      have kept : Published board
          { board with memory, manager := board.manager.setMonitor monitor } [] := by
        refine .of_bus_eq ?_ rfl
        intro page
        by_cases done : committed
        · exact (written done).1.flags page
        · rw [show memory = board.memory from refused done]
      exact published_if_code kept committed addr w.size

theorem coreExclusiveRead_published (board : Board) (core : CoreIndex)
    (handle : Option MonitorHandle) (w : Width) (addr : Address) :
    Published board (board.coreExclusiveRead core handle w addr).2 [] := by
  rw [coreExclusiveRead]
  cases handle.bind board.manager.monitorOf? with
  | none => exact .of_bus_eq (fun _ => rfl) rfl
  | some monitor => exact .of_bus_eq (fun _ => rfl) rfl

theorem clearExclusive_published (board : Board) (core : CoreIndex)
    (handle : Option MonitorHandle) : Published board (board.clearExclusive core handle) [] := by
  rw [clearExclusive]
  cases handle.bind board.manager.monitorOf? with
  | none => exact .of_bus_eq (fun _ => rfl) rfl
  | some monitor => exact .of_bus_eq (fun _ => rfl) rfl

end Board

def A64.Callback.stored? : Callback → Option (Address × UInt64)
  | .write w addr _ true => some (addr, w.size)
  | .exclusiveWrite w _ addr _ (some true) => some (addr, w.size)
  | _ => none

theorem A64.Callback.stored?_write (w : Width) (addr : Address) (value : BitVec w.bits)
    (stored : Bool) :
    (Callback.write w addr value stored).stored? = if stored then some (addr, w.size) else none := by
  cases stored <;> rfl

theorem A64.Callback.stored?_exclusiveWrite (w : Width) (pc addr : Address)
    (value : BitVec w.bits) (committed : Bool) :
    (Callback.exclusiveWrite w pc addr value (some committed)).stored? =
      if committed then some (addr, w.size) else none := by
  cases committed <;> rfl

/-- The stores on record whose first byte is code. -/
def announcedStores (memory : AddressSpace) (log : List Callback) : List (Address × UInt64) :=
  (log.filterMap Callback.stored?).filter fun store => memory.isExecutable store.1

theorem announcedStores_singleton (memory : AddressSpace) {entry : Callback} {stored : Bool}
    {addr : Address} {size : UInt64}
    (range : entry.stored? = if stored then some (addr, size) else none) :
    announcedStores memory [entry] =
      if stored && memory.isExecutable addr then [(addr, size)] else [] := by
  cases stored with
  | false => simp [announcedStores, range]
  | true => simp [announcedStores, range, List.filter_cons]

/-- What is announced does not depend on when, for permissions stay. -/
theorem announcedStores_append {before after : Board} {ranges : List (Address × UInt64)}
    (published : Board.Published before after ranges) (log log' : List Callback) :
    announcedStores before.memory (log ++ log') =
      announcedStores before.memory log ++ announcedStores after.memory log' := by
  have same : (fun store : Address × UInt64 => after.memory.isExecutable store.1) =
      fun store => before.memory.isExecutable store.1 :=
    funext fun store => published.isExecutable_eq store.1
  rw [announcedStores, announcedStores, announcedStores, List.filterMap_append,
    List.filter_append, same]

/-- Exactly the stores on record whose first byte is code were queued. -/
def QueuedAsRecorded (board : Board) (p : Recorded (Machine κ)) : Prop :=
  board.Published p.1.board (announcedStores board.memory p.2)

section

variable {board : Board} {p : Recorded (Machine κ)}

theorem QueuedAsRecorded.extend (queued : QueuedAsRecorded board p) {after : Machine κ}
    {entry : Callback}
    (step : p.1.board.Published after.board (announcedStores p.1.board.memory [entry])) :
    QueuedAsRecorded board (after, p.2 ++ [entry]) := by
  rw [QueuedAsRecorded, announcedStores_append queued]
  exact queued.trans step

theorem queued_note {entry : α → Callback} {hook : Machine κ → α × Machine κ}
    (step : ∀ machine : Machine κ, machine.board.Published (hook machine).2.board
      (announcedStores machine.board.memory [entry (hook machine).1]))
    (queued : QueuedAsRecorded board p) : QueuedAsRecorded board (note entry hook p).2 :=
  queued.extend (step p.1)

theorem queued_tryNote {entry : Option α → Callback} {hook : EStateM CpuError (Machine κ) α}
    (ok : ∀ (machine : Machine κ) a after, hook machine = .ok a after →
      machine.board.Published after.board (announcedStores machine.board.memory [entry (some a)]))
    (error : ∀ (machine : Machine κ) e after, hook machine = .error e after →
      machine.board.Published after.board (announcedStores machine.board.memory [entry none]))
    (queued : QueuedAsRecorded board p) :
    QueuedAsRecorded board (outcomeState (tryNote entry hook p)) := by
  rw [tryNote]
  cases ended : hook p.1 with
  | ok a after => exact queued.extend (ok p.1 a after ended)
  | error e after => exact queued.extend (error p.1 e after ended)

end

theorem queued_tryNote_throw {board : Board} {p : Recorded (Machine κ)}
    (entry : Option α → Callback) (silent : (entry none).stored? = none) (error : CpuError)
    (queued : QueuedAsRecorded board p) :
    QueuedAsRecorded board
      (outcomeState (tryNote entry (throw error : EStateM CpuError (Machine κ) α) p)) := by
  refine queued_tryNote ?_ ?_ queued
  · intro machine a after done
    cases done
  · intro machine e after done
    cases done
    have none : announcedStores machine.board.memory [entry Option.none] = [] := by
      simp [announcedStores, silent]
    rw [none]
    exact .of_bus_eq (fun _ => rfl) rfl

/-- The hooks of a core queue the stores that begin in code, and nothing else. -/
theorem environment_queues (os : OperatingSystem κ) (core : Core) (board : Board) :
    (core.environment os).recording.Preserves (QueuedAsRecorded board) where
  read w addr p queued := queued.extend (.of_bus_eq (fun _ => rfl) rfl)
  write w addr value p queued := by
    apply queued_note _ queued
    intro machine
    have published := machine.board.coreStore_published core.index core.monitor w addr value
    rw [announcedStores_singleton _ (Callback.stored?_write w addr value _)]
    exact published
  exclusiveRead w pc addr p queued := by
    by_cases wide : w = .quad
    · simp only [Environment.recording, Core.environment, wide, if_true]
      exact queued_tryNote_throw _ rfl _ queued
    · simp only [Environment.recording, Core.environment, wide, if_false]
      refine queued_tryNote ?_ ?_ queued
      · intro machine value after done
        cases done
        exact machine.board.coreExclusiveRead_published core.index core.monitor w addr
      · intro machine e after done
        cases done
  exclusiveWrite w pc addr value p queued := by
    by_cases wide : w = .quad
    · simp only [Environment.recording, Core.environment, wide, if_true]
      exact queued_tryNote_throw _ rfl _ queued
    · simp only [Environment.recording, Core.environment, wide, if_false]
      refine queued_tryNote ?_ ?_ queued
      · intro machine committed after done
        have published :=
          machine.board.coreExclusiveWrite_published core.index core.monitor w addr value
        rw [announcedStores_singleton _ (Callback.stored?_exclusiveWrite w pc addr value _)]
        cases done
        exact published
      · intro machine e after done
        cases done
  clearExclusive p queued :=
    queued.extend (p.1.board.clearExclusive_published core.index core.monitor)
  raise pc event p queued := by
    change QueuedAsRecorded board
      (outcomeState (tryNote (fun _ => .raise pc event) (core.raiseEvent pc event) p))
    refine queued_tryNote (fun machine _ after done => ?_) (fun machine e after done => ?_) queued
    · cases event <;> cases done <;> exact .of_bus_eq (fun _ => rfl) rfl
    · cases event <;> cases done <;> exact .of_bus_eq (fun _ => rfl) rfl
  dataCache pc op addr p queued :=
    queued_tryNote_throw (fun _ => .dataCache pc op addr) rfl _ queued
  instructionCache pc op addr p queued :=
    queued_tryNote_throw (fun _ => .instructionCache pc op addr) rfl _ queued
  instructionBarrier pc p queued :=
    queued_tryNote_throw (fun _ => .instructionBarrier pc) rfl _ queued
  fallback pc opcode p queued :=
    queued_tryNote_throw (fun _ => .fallback pc opcode) rfl _ queued
  counter p queued := queued.extend (.of_bus_eq (fun _ => rfl) rfl)

/-- The machine after one instruction of a core, and the callbacks it took. -/
def Core.recordedStep (os : OperatingSystem κ) (core : Core) (pc : Address)
    (instruction : Instruction) (context : ThreadContext) (machine : Machine κ) :
    Recorded (Machine κ) :=
  (outcomeState (A64.execute (core.environment os).recording counterFrequency pc instruction
    { context, env := (machine, []) })).env

theorem recordedStep_queues (os : OperatingSystem κ) (core : Core) (pc : Address)
    {instruction : Instruction} (noCall : ∀ imm, instruction ≠ .svc imm) (context : ThreadContext)
    (machine : Machine κ) :
    QueuedAsRecorded machine.board (core.recordedStep os pc instruction context machine) := by
  have start : QueuedAsRecorded machine.board (machine, []) := .of_bus_eq (fun _ => rfl) rfl
  exact execute_preserves (environment_queues os core machine.board) counterFrequency pc noCall start

def ChangesCode (memory : AddressSpace) (store : Address × UInt64) : Prop :=
  ∃ i, (store.1.toNat ≤ i ∧ i < store.1.toNat + store.2.toNat) ∧ memory.HoldsCode i

/-- The range has every byte of the store that is code. -/
def CoversCode (memory : AddressSpace) (range store : Address × UInt64) : Prop :=
  ∀ i, store.1.toNat ≤ i ∧ i < store.1.toNat + store.2.toNat → memory.HoldsCode i →
    range.1.toNat ≤ i ∧ i < range.1.toNat + range.2.toNat

theorem CoversCode.refl (memory : AddressSpace) (store : Address × UInt64) :
    CoversCode memory store store :=
  fun _ inside _ => inside

/-- For each of the stores that changed code, every core on the bus has a range
    in its queue with all of that code. -/
def Board.Informed (board : Board) (stores : List (Address × UInt64)) : Prop :=
  ∀ core queued, board.manager.bus.waiting? core = some queued →
    ∀ store ∈ stores, ChangesCode board.memory store →
      ∃ range ∈ queued, CoversCode board.memory range store

/-- After ranges were queued, every core knows of the code that they have and of
    what was waiting. -/
theorem Board.Published.tells_iff {before after : Board} {ranges : List (Address × UInt64)}
    (published : before.Published after ranges) (stores : List (Address × UInt64)) :
    after.Informed stores ↔ ∀ store ∈ stores, ChangesCode before.memory store →
      ∀ core queued, before.manager.bus.waiting? core = some queued →
        ∃ range ∈ queued ++ ranges, CoversCode before.memory range store := by
  have code : after.memory.HoldsCode = before.memory.HoldsCode := by
    funext i
    rw [AddressSpace.HoldsCode, AddressSpace.HoldsCode, published.flags]
  simp only [Board.Informed, ChangesCode, CoversCode, code]
  constructor
  · intro informed store member changes core queued registered
    apply informed core _ _ store member changes
    rw [published.waiting, registered, Option.map_some]
  · intro covered core now registered store member changes
    rw [published.waiting, Option.map_eq_some_iff] at registered
    obtain ⟨queued, registered, rfl⟩ := registered
    exact covered store member changes core queued registered

/-- An instruction informs every core of a store to code exactly if the store
    begins in code, or if all cores have been told of these bytes by something
    else: a range that was waiting, or another store that begins in code. -/
theorem informed_iff (os : OperatingSystem κ) (core : Core) (pc : Address)
    {instruction : Instruction} (noCall : ∀ imm, instruction ≠ .svc imm) (context : ThreadContext)
    (machine : Machine κ) :
    let (after, log) := core.recordedStep os pc instruction context machine
    let memory := machine.board.memory
    after.board.Informed (log.filterMap Callback.stored?) ↔
      ∀ store ∈ log.filterMap Callback.stored?, ChangesCode memory store →
        memory.isExecutable store.1 ∨
          ∀ other queued, machine.board.manager.bus.waiting? other = some queued →
            ∃ range ∈ queued ++ announcedStores memory log, CoversCode memory range store := by
  have queued := recordedStep_queues os core pc noCall context machine
  generalize core.recordedStep os pc instruction context machine = outcome at queued ⊢
  obtain ⟨after, log⟩ := outcome
  obtain ⟨flags, waiting⟩ := queued
  dsimp only at flags waiting ⊢
  have code : after.board.memory.HoldsCode = machine.board.memory.HoldsCode := by
    funext i
    rw [AddressSpace.HoldsCode, AddressSpace.HoldsCode, flags]
  -- Each queue is what was waiting with the announced stores behind it.
  simp only [Board.Informed, ChangesCode, CoversCode, code]
  constructor
  · intro informed store member changes
    right
    intro other before registered
    apply informed other _ _ store member changes
    rw [waiting, registered, Option.map_some]
  · intro covered other now registered store member changes
    rw [waiting, Option.map_eq_some_iff] at registered
    obtain ⟨before, registered, rfl⟩ := registered
    rcases covered store member changes with begins | elsewhere
    · have announced : store ∈ announcedStores machine.board.memory log :=
        List.mem_filter.mpr ⟨member, begins⟩
      exact ⟨store, List.mem_append_right _ announced, CoversCode.refl _ store⟩
    · exact elsewhere other before registered

/-- Data on one page and code, which may be written, on the next; two cores. -/
def edgeOfCode : Machine Unit where
  board :=
    { memory :=
        { pages := (Std.TreeMap.empty.insert 0x10 (Page.zeroed PageFlags.rw)).insert 0x11
            (Page.zeroed PageFlags.rwx)
          everMapped := true }
      manager := { bus := (({} : InvalidationBus).register 0).register 1 } }
  os := ()

def edgeOfCodeCore : Core :=
  { index := 0, line := 0, monitor := none, maxBlockInstructions := 64 }

def idleSystem : OperatingSystem Unit where
  serviceCall _ _ := pure ()
  ticks _ := 0

/-- Eight bytes stored through X1, which holds `addr`. -/
def storeDouble (addr : Address) : Recorded (Machine Unit) :=
  edgeOfCodeCore.recordedStep idleSystem 0x8000000 (.loadStore .store .double 0 1 (.offset 0))
    { registers := ({} : RegisterFile).setXzr 1 addr } edgeOfCode

theorem informed_of_store_in_code :
    (storeDouble 0x11000).1.board.Informed ((storeDouble 0x11000).2.filterMap Callback.stored?) := by
  refine (informed_iff idleSystem edgeOfCodeCore 0x8000000 (fun imm call => by cases call) _
    edgeOfCode).mpr fun store member _ => .inl ?_
  have stores : (storeDouble 0x11000).2.filterMap Callback.stored? = [(0x11000, 8)] := by
    decide +kernel
  change store ∈ (storeDouble 0x11000).2.filterMap Callback.stored? at member
  rw [stores, List.mem_singleton] at member
  rw [member]
  decide +kernel

/-- A store that begins four bytes before the page of code changes code there,
    and the other core does not hear of it. -/
theorem not_informed_of_store_across_edge :
    ¬ (storeDouble 0x10ffc).1.board.Informed
      ((storeDouble 0x10ffc).2.filterMap Callback.stored?) := by
  have stores : (storeDouble 0x10ffc).2.filterMap Callback.stored? = [(0x10ffc, 8)] := by
    decide +kernel
  have waiting : (storeDouble 0x10ffc).1.board.manager.bus.waiting? 1 = some [] := by
    decide +kernel
  have code : (storeDouble 0x10ffc).1.board.memory.isExecutable 0x11000 := by
    decide +kernel
  intro informed
  obtain ⟨range, member, _⟩ := informed 1 [] waiting (0x10ffc, 8) (by rw [stores]; simp)
    ⟨0x11000, by decide, AddressSpace.isExecutable_iff.mp code⟩
  cases member

end GuestMachine
