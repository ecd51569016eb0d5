import GuestMachine.Cpu.Core
import GuestMachine.Proofs.Monitor.History
import GuestMachine.Proofs.Translator.Invariance

/-! # Cores without a monitor

A core that reaches no live monitor finds memory alone: loads and stores go to
it directly, a load-exclusive is a load, and a store-exclusive fails. Monitors
of other cores are left as they are.
-/

namespace GuestMachine

open A64

/-- A store to memory that breaks no reservation. If it begins in code it is
    published as any other. -/
def Board.memoryStore (board : Board) (w : Width) (addr : Address) (value : BitVec w.bits) :
    Bool × Board :=
  let (stored, memory) := board.memory.store w addr value
  let board := { board with memory }
  if stored && memory.isExecutable addr then (stored, board.publish addr w.size)
  else (stored, board)

namespace Core

variable {core : Core}

/-- The hooks of a core with nothing but memory behind its accesses. Loads come
    from there in any case. -/
def memoryEnvironment (os : OperatingSystem κ) (core : Core) : Environment (Machine κ) :=
  { core.environment os with
    write := fun w addr value machine =>
      machine.onBoard fun board => board.memoryStore w addr value
    exclusiveRead := fun w pc addr =>
      if w = .quad then throw (.exclusiveAccess128 pc)
      else succeed fun board => (board.memory.load w addr, board)
    exclusiveWrite := fun w pc _ _ =>
      if w = .quad then throw (.exclusiveAccess128 pc) else pure false
    clearExclusive := fun machine => machine }

/-- The core has no handle, or none that names the live monitor. -/
def Unwired (core : Core) (board : Board) : Prop :=
  core.monitor.bind board.manager.monitorOf? = none

theorem unwired_iff {board : Board} : core.Unwired board ↔ ¬ core.hasMonitor board := by
  rw [Unwired, hasMonitor, Option.not_isSome_iff_eq_none]

section

variable {board : Board}

theorem coreStore_of_unwired (unwired : core.Unwired board) (w : Width) (addr : Address)
    (value : BitVec w.bits) :
    board.coreStore core.index core.monitor w addr value = board.memoryStore w addr value := by
  rw [Unwired] at unwired
  rw [Board.coreStore, Board.storeThrough, unwired]
  rfl

theorem exclusiveRead_of_unwired (unwired : core.Unwired board) (w : Width) (addr : Address) :
    board.coreExclusiveRead core.index core.monitor w addr = (board.memory.load w addr, board) := by
  rw [Unwired] at unwired
  rw [Board.coreExclusiveRead, unwired]

theorem exclusiveWrite_of_unwired (unwired : core.Unwired board) (w : Width) (addr : Address)
    (value : BitVec w.bits) :
    board.coreExclusiveWrite core.index core.monitor w addr value = (false, board) := by
  rw [Unwired] at unwired
  rw [Board.coreExclusiveWrite, unwired]

theorem clearExclusive_of_unwired (unwired : core.Unwired board) :
    board.clearExclusive core.index core.monitor = board := by
  rw [Unwired] at unwired
  rw [Board.clearExclusive, unwired]

theorem unwired_memoryStore (unwired : core.Unwired board) (w : Width) (addr : Address)
    (value : BitVec w.bits) : core.Unwired (board.memoryStore w addr value).2 := by
  rw [Board.memoryStore]
  dsimp only
  split
  · exact unwired
  · exact unwired

end

/-- No hook but the supervisor call tells memory alone from what an unwired core
    is given, and all leave it unwired. -/
theorem memoryEnvironment_agree (os : OperatingSystem κ) (core : Core) :
    (core.environment os).withoutCalls.Agree (fun s t => s = t ∧ core.Unwired s.board)
      (core.memoryEnvironment os).withoutCalls where
  readCode _ := AnswerAlike.of_invariant fun _ unwired => unwired
  read w addr := AnswerAlike.of_invariant fun _ unwired => unwired
  write w addr value := by
    rintro machine _ ⟨rfl, unwired⟩
    simp only [Environment.withoutCalls, environment, memoryEnvironment, Machine.onBoard,
      coreStore_of_unwired unwired]
    exact ⟨rfl, rfl, unwired_memoryStore unwired w addr value⟩
  exclusiveRead w pc addr := by
    rintro machine _ ⟨rfl, unwired⟩
    simp only [Environment.withoutCalls, environment, memoryEnvironment]
    split
    · exact ⟨rfl, rfl, unwired⟩
    · simp only [succeed, Machine.onBoard, exclusiveRead_of_unwired unwired]
      exact ⟨rfl, rfl, unwired⟩
  exclusiveWrite w pc addr value := by
    rintro machine _ ⟨rfl, unwired⟩
    simp only [Environment.withoutCalls, environment, memoryEnvironment]
    split
    · exact ⟨rfl, rfl, unwired⟩
    · simp only [succeed, Machine.onBoard, exclusiveWrite_of_unwired unwired]
      exact ⟨rfl, rfl, unwired⟩
  clearExclusive := by
    rintro machine _ ⟨rfl, unwired⟩
    simp only [Environment.withoutCalls, environment, memoryEnvironment, Machine.mapBoard,
      clearExclusive_of_unwired unwired]
    exact ⟨trivial, unwired⟩
  callSupervisor _ := .pure ()
  raise pc event := by
    apply Alike.of_invariant
    intro machine unwired
    cases event <;> exact unwired
  dataCache pc op addr := Alike.of_invariant fun _ unwired => unwired
  instructionCache pc op addr := Alike.of_invariant fun _ unwired => unwired
  instructionBarrier pc := Alike.of_invariant fun _ unwired => unwired
  fallback pc opcode := Alike.of_invariant fun _ unwired => unwired
  counter := AnswerAlike.of_invariant fun _ unwired => unwired
  takeInvalidations := AnswerAlike.of_invariant fun _ unwired => unwired
  takeHalts := AnswerAlike.of_invariant fun _ unwired => unwired

theorem execute_of_unwired (os : OperatingSystem κ) (cntfrq : UInt64) (pc : Address)
    {instruction : Instruction} (noCall : ∀ imm, instruction ≠ .svc imm) {cpu : Cpu (Machine κ)}
    (unwired : core.Unwired cpu.env.board) :
    A64.execute (core.environment os) cntfrq pc instruction cpu =
      A64.execute (core.memoryEnvironment os) cntfrq pc instruction cpu := by
  have alike := execute_alike (memoryEnvironment_agree os core) cntfrq pc instruction cpu cpu
    ⟨rfl, rfl, unwired⟩
  rw [execute_withoutCalls _ cntfrq pc noCall, execute_withoutCalls _ cntfrq pc noCall] at alike
  rcases alike.cases with
    ⟨flow, ⟨context, s⟩, ⟨_, t⟩, here, there, rfl, rfl, _⟩ |
      ⟨error, ⟨context, s⟩, ⟨_, t⟩, here, there, rfl, rfl, _⟩
  · rw [here, there]
  · rw [here, there]

/-- What is left of the exclusive instructions of a core, and of its other
    accesses, where it reaches no monitor. -/
structure MeetsMemoryAlone (core : Core) (board : Board) : Prop where
  /-- All instructions that leave the operating system alone do to the machine what
      memory alone would make them do. -/
  instructions : ∀ {κ : Type} (os : OperatingSystem κ) (state : κ) (cntfrq : UInt64) (pc : Address)
    (instruction : Instruction) (context : ThreadContext), (∀ imm, instruction ≠ .svc imm) →
    A64.execute (core.environment os) cntfrq pc instruction ⟨context, ⟨board, state⟩⟩ =
      A64.execute (core.memoryEnvironment os) cntfrq pc instruction ⟨context, ⟨board, state⟩⟩
  /-- A store-exclusive puts 1 into its status register, and that is all. -/
  storeExclusive : ∀ {κ : Type} (os : OperatingSystem κ) (state : κ) (cntfrq : UInt64) (pc : Address)
    (w : ExclusiveWidth) (rs rt rn : RegNum) (context : ThreadContext),
    A64.execute (core.environment os) cntfrq pc (.storeExclusive w.val rs rt rn)
        ⟨context, ⟨board, state⟩⟩ =
      .ok .next ⟨{ context with registers := context.registers.setXzr rs 1 }, ⟨board, state⟩⟩
  /-- So does a store-exclusive of two words. -/
  storeExclusivePair : ∀ {κ : Type} (os : OperatingSystem κ) (state : κ) (cntfrq : UInt64)
    (pc : Address) (rs rt rt2 rn : RegNum) (context : ThreadContext),
    A64.execute (core.environment os) cntfrq pc (.storeExclusivePair .word rs rt rt2 rn)
        ⟨context, ⟨board, state⟩⟩ =
      .ok .next ⟨{ context with registers := context.registers.setXzr rs 1 }, ⟨board, state⟩⟩

theorem Unwired.meetsMemoryAlone {board : Board} (unwired : core.Unwired board) :
    core.MeetsMemoryAlone board where
  instructions os state cntfrq pc instruction context noCall :=
    execute_of_unwired os cntfrq pc noCall unwired
  storeExclusive os state cntfrq pc w rs rt rn context := by
    rw [execute_of_unwired os cntfrq pc (by simp) unwired, A64.execute]
    simp only [memoryEnvironment, if_neg w.property]
    rfl
  storeExclusivePair os state cntfrq pc rs rt rt2 rn context := by
    rw [execute_of_unwired os cntfrq pc (by simp) unwired]
    rfl

end Core

end GuestMachine
