import GuestMachine.Loader.Handoff
import GuestMachine.Proofs.Kernel.KernelOperations
import GuestMachine.Proofs.Loader.ModuleLayout

/-! # The steps of a handoff, one by one

What the small steps that a handoff is made of do to it, and where a sequence of
them can break off.
-/

namespace GuestMachine

def Handoff.withMemory (handoff : Handoff) (memory : AddressSpace) : Handoff :=
  { handoff with machine := handoff.machine.mapBoard fun board => { board with memory } }

/-- The kernel and the memory that creating a thread has left. -/
def Handoff.withThread (handoff : Handoff) (made : Kernel) (memory : AddressSpace) : Handoff :=
  { handoff with machine := { (handoff.withMemory memory).machine with os := made } }

namespace HandoffM

variable {α β : Type} {handoff after : Handoff} {e : EngineError}

theorem getLoader_bind (f : Loader → HandoffM α) (handoff : Handoff) :
    (getLoader >>= f) handoff = f handoff.loader handoff :=
  rfl

theorem getKernel_bind (f : Kernel → HandoffM α) (handoff : Handoff) :
    (getKernel >>= f) handoff = f handoff.machine.os handoff :=
  rfl

theorem requireProcess_eq (handoff : Handoff) :
    requireProcess handoff =
      match handoff.loader.process.bind handoff.machine.os.processes.find? with
      | some process => .ok process handoff
      | none => .error (.loader .noApplicationProcess) handoff := by
  change (match handoff.loader.process.bind handoff.machine.os.processes.find? with
    | some process => (pure process : HandoffM GuestProcess)
    | none => throw (EngineError.loader .noApplicationProcess)) handoff = _
  cases handoff.loader.process.bind handoff.machine.os.processes.find? with
  | none => rfl
  | some process => rfl

/-- Memory is changed, or nothing is. -/
theorem onMemory_eq {action : MemoryM Unit} (atomic : Operation.Atomic action)
    (handoff : Handoff) :
    onMemory action handoff =
      match action.result handoff.machine.board.memory with
      | .ok memory => .ok () (handoff.withMemory memory)
      | .error e => .error (.memory e) handoff := by
  rw [onMemory, Operation.within, Operation.result]
  cases acted : action handoff.machine.board.memory with
  | ok _ memory => rfl
  | error e memory =>
      cases atomic _ _ _ acted
      rfl

theorem map_eq (addr : Address) (size : UInt64) (flags : PageFlags) (handoff : Handoff) :
    HandoffM.map addr size flags handoff =
      match handoff.machine.board.memory.map addr size flags with
      | .ok memory => .ok () (handoff.withMemory memory)
      | .error e => .error (.memory e) handoff :=
  onMemory_eq (MemoryM.map_atomic addr size flags) handoff

theorem unmap_eq (addr : Address) (size : UInt64) (handoff : Handoff) :
    unmap addr size handoff =
      match handoff.machine.board.memory.unmap addr size with
      | .ok memory => .ok () (handoff.withMemory memory)
      | .error e => .error (.memory e) handoff :=
  onMemory_eq (MemoryM.unmap_atomic addr size) handoff

theorem protect_eq (addr : Address) (size : UInt64) (flags : PageFlags) (handoff : Handoff) :
    protect addr size flags handoff =
      match handoff.machine.board.memory.protect addr size flags with
      | .ok memory => .ok () (handoff.withMemory memory)
      | .error e => .error (.memory e) handoff :=
  onMemory_eq (MemoryM.protect_atomic addr size flags) handoff

theorem writeBlock_eq (addr : Address) (data : List UInt8) (handoff : Handoff) :
    writeBlock addr data handoff =
      match handoff.machine.board.memory.writeBlock addr data with
      | (true, memory) => .ok () (handoff.withMemory memory)
      | (false, _) => .error (.memory (.invalidAddress addr)) handoff := by
  cases written : handoff.machine.board.memory.writeBlock addr data with
  | mk stored memory =>
      have done : onMemory (fun memory => .ok (memory.writeBlock addr data).1
          (memory.writeBlock addr data).2) handoff = .ok stored (handoff.withMemory memory) := by
        simp only [onMemory, Operation.within, written]
        rfl
      refine (Operation.bind_of_ok done).trans ?_
      cases stored with
      | true => rfl
      | false =>
          cases AddressSpace.writeBlock_refused written
          rfl

/-- A thread is created. If it cannot be, its stack is unmapped again. -/
theorem createThread_eq (process : GuestProcess) (entry : Address) (argument : UInt64)
    (bottom : Address) (size : UInt64) (priority : UInt32) (idealCore : Int32) (handoff : Handoff) :
    ((onKernel (KernelM.onKernelMemory (KernelMemoryM.createThread process entry argument
        (bottom + size) priority idealCore))).undoneBy (unmap bottom size)) handoff =
      match handoff.machine.os.createThread handoff.machine.board.memory process entry argument
        (bottom + size) priority idealCore with
      | .ok (id, made, memory) => .ok id (handoff.withThread made memory)
      | .error e => (do unmap bottom size; throw (.kernel e) : HandoffM ThreadId) handoff := by
  have runs := KernelM.run_createThread process entry argument (bottom + size) priority idealCore
    handoff.machine
  rw [Operation.undoneBy, onKernel, Operation.within, runs]
  cases handoff.machine.os.createThread handoff.machine.board.memory process entry argument
    (bottom + size) priority idealCore <;> rfl

/-- A handle to a thread is opened. If it cannot be, the thread is destroyed. -/
theorem addHandle_eq (pid : ProcessId) (process : GuestProcess) (thread : GuestThread)
    (id : ThreadId) (handoff : Handoff) :
    ((onKernel (KernelM.onProcess pid process (ProcessM.addHandle (.thread id)))).undoneBy
        (modifyKernel (·.destroyThread thread))) handoff =
      match process.addHandle (.thread id) with
      | .ok (handle, after) =>
          .ok handle { handoff with
            machine := handoff.machine.mapOs (·.modifyProcess pid fun _ => after) }
      | .error e =>
          .error (.kernel e) { handoff with
            machine := handoff.machine.mapOs (·.destroyThread thread) } := by
  rw [Operation.undoneBy, onKernel, Operation.within, KernelM.run_addHandle]
  cases process.addHandle (.thread id) <;> rfl

theorem startThread_eq (thread : GuestThread) (handoff : Handoff) :
    onKernel (KernelM.onKernel (KernelStateM.startThread thread)) handoff =
      match handoff.machine.os.startThread thread with
      | .ok os => .ok () { handoff with machine := { handoff.machine with os } }
      | .error e => .error (.kernel e) handoff := by
  rw [onKernel, Operation.within, KernelM.run_startThread]
  cases handoff.machine.os.startThread thread <;> rfl

section

variable {P : EngineError → Handoff → Prop}

/-- When the step fails, `P` holds of the error and of what it leaves. -/
def Fails (P : EngineError → Handoff → Prop) (handoff : Handoff) (action : HandoffM α) : Prop :=
  ∀ e after, action handoff = .error e after → P e after

theorem throw_fails (holds : P e handoff) : Fails P handoff (throw e : HandoffM α) := by
  intro e after failed
  cases failed
  exact holds

theorem getLoader_fails {f : Loader → HandoffM α} (next : Fails P handoff (f handoff.loader)) :
    Fails P handoff (getLoader >>= f) :=
  next

theorem getKernel_fails {f : Kernel → HandoffM α} (next : Fails P handoff (f handoff.machine.os)) :
    Fails P handoff (getKernel >>= f) :=
  next

theorem getMemory_fails {f : AddressSpace → HandoffM α}
    (next : Fails P handoff (f handoff.machine.board.memory)) :
    Fails P handoff (getMemory >>= f) :=
  next

theorem requireProcess_fails {f : GuestProcess → HandoffM α}
    (refused : P (.loader .noApplicationProcess) handoff)
    (next : ∀ number process, handoff.machine.os.processes.find? number = some process →
      Fails P handoff (f process)) :
    Fails P handoff (requireProcess >>= f) := by
  intro e after failed
  have required := requireProcess_eq handoff
  split at required
  · rename_i process known
    obtain ⟨number, _, found⟩ := Option.bind_eq_some_iff.mp known
    rw [Operation.bind_of_ok required] at failed
    exact next number process found e after failed
  · rw [Operation.bind_of_error required] at failed
    cases failed
    exact refused

theorem map_fails {addr : Address} {size : UInt64} {flags : PageFlags} {f : Unit → HandoffM α}
    (refused : ∀ e, P (.memory e) handoff)
    (next : ∀ memory, handoff.machine.board.memory.map addr size flags = .ok memory →
      Fails P (handoff.withMemory memory) (f ())) :
    Fails P handoff (HandoffM.map addr size flags >>= f) := by
  intro e after failed
  have maps := map_eq addr size flags handoff
  split at maps
  · rename_i memory mapped
    rw [Operation.bind_of_ok maps] at failed
    exact next memory mapped e after failed
  · rw [Operation.bind_of_error maps] at failed
    cases failed
    exact refused _

end

end HandoffM

namespace Handoff

open HandoffM

/-- What the process of an application is created with. -/
def processParams (kernel : Kernel) (metadata : ProgramMetadata) (size : UInt64) : ProcessParams :=
  { titleId := metadata.titleId, name := metadata.name, codeBase := Layout.codeBase
    codeSize := size, idealCore := metadata.mainCore, coreMask := kernel.allCoresMask }

/-- The process is created, or nothing happens. -/
theorem createApplication_cases (codeSize : UInt64) (metadata : ProgramMetadata)
    (handoff : Handoff) :
    (∃ e, createApplication codeSize metadata handoff = .error e handoff) ∨
    ∃ size memory pid kernel,
      handoff.loader.process = none ∧ codeExtent? codeSize = some size ∧
      handoff.machine.board.memory.map Layout.codeBase size PageFlags.rw = .ok memory ∧
      handoff.machine.os.createApplication (processParams handoff.machine.os metadata size) =
        .ok (pid, kernel) ∧
      createApplication codeSize metadata handoff =
        .ok (Layout.codeBase, pid)
          { loader := { handoff.loader with process := some pid, metadata }
            machine := { (handoff.withMemory memory).machine with os := kernel } } := by
  rw [createApplication, getLoader_bind, getKernel_bind]
  by_cases taken : handoff.loader.process.isSome || handoff.machine.os.application.isSome
  · rw [if_pos taken]
    exact .inl ⟨.loader .processAlreadyCreated, rfl⟩
  · rw [if_neg taken]
    simp only [Bool.or_eq_true, not_or, Option.not_isSome_iff_eq_none] at taken
    obtain ⟨unclaimed, idle⟩ := taken
    cases extent : codeExtent? codeSize with
    | none => exact .inl ⟨_, rfl⟩
    | some size =>
        have reserved := map_eq Layout.codeBase size PageFlags.rw handoff
        cases mapped : handoff.machine.board.memory.map Layout.codeBase size PageFlags.rw with
        | error e =>
            rw [mapped] at reserved
            exact .inl ⟨.memory e, Operation.bind_of_error reserved⟩
        | ok memory =>
            rw [mapped] at reserved
            have created : ∃ pid kernel, handoff.machine.os.createApplication
                (processParams handoff.machine.os metadata size) = .ok (pid, kernel) := by
              rw [Kernel.createApplication, idle]
              exact ⟨_, _, rfl⟩
            obtain ⟨pid, kernel, created⟩ := created
            refine .inr ⟨size, memory, pid, kernel, unclaimed, rfl, mapped, created, ?_⟩
            -- Nothing that a process is created from changed with the mapping.
            change (handoff.withMemory memory).machine.os.createApplication
              (processParams (handoff.withMemory memory).machine.os metadata size) =
                .ok (pid, kernel) at created
            rw [processParams] at created
            dsimp only
            rw [Operation.bind_of_ok reserved, getKernel_bind, getKernel_bind, created]
            rfl

theorem copySegments_append (base : Address) (first second : List (SegmentKind × Segment)) :
    copySegments base (first ++ second) = (do
      copySegments base first
      copySegments base second) := by
  induction first with
  | nil => rfl
  | cons part rest ih =>
      obtain ⟨kind, segment⟩ := part
      rw [List.cons_append, copySegments, copySegments, ih]
      split
      · exact (bind_assoc _ _ _).symm
      · rfl

/-- Loading proper, after all checks. -/
def install (image : ModuleImage) (base : Address) (codeSize : UInt64) : HandoffM Unit := do
  copySegments base image.parts
  protectRegions base image.regions
  requestInvalidation base codeSize
  modifyLoader fun loader => { loader with entry := some (base + image.entryOffset) }

theorem loadModule_eq (image : ModuleImage) (base : Address) :
    loadModule image base = (do
      let process ← requireProcess
      ofExcept image.validate .loader
      if base ≠ process.codeBase then
        throw (.loader (.invalidModule ("load base " ++ Text.hex base.toNat
          ++ " is not the process code base " ++ Text.hex process.codeBase.toNat)))
      else if process.codeSize < image.imageSize then
        throw (.loader (.segmentOutOfBounds 0 image.imageSize process.codeSize))
      else install image base process.codeSize) := by
  have bss : copySegments base [(.data, image.bss)] =
      if image.bssSize ≠ 0 then
        writeBlock (base + image.data.finish) (List.replicate image.bssSize.toNat 0)
      else pure () := by
    rw [copySegments, image.isEmpty_bss]
    by_cases empty : image.bssSize = 0
    · simp only [empty]
      rfl
    · rw [if_pos empty, if_pos (by simpa using empty)]
      exact bind_pure_unit
  have copies : copySegments base image.parts = (do
      copySegments base image.segments
      if image.bssSize ≠ 0 then
        writeBlock (base + image.data.finish) (List.replicate image.bssSize.toNat 0)) := by
    rw [ModuleImage.parts, copySegments_append, bss]
  unfold loadModule
  refine congrArg (requireProcess >>= ·) (funext fun process => ?_)
  refine congrArg (ofExcept image.validate .loader >>= ·) (funext fun _ => ?_)
  rw [install, copies]
  by_cases elsewhere : base ≠ process.codeBase
  · rw [if_pos elsewhere, if_pos elsewhere]
    rfl
  · rw [if_neg elsewhere, if_neg elsewhere]
    by_cases large : process.codeSize < image.imageSize
    · rw [if_pos large, if_pos large]
      rfl
    · rw [if_neg large, if_neg large]
      rw [bind_assoc]
      by_cases zeros : image.bssSize ≠ 0
      · simp only [if_pos zeros]
      · simp only [if_neg zeros, pure_bind]

end Handoff

end GuestMachine
