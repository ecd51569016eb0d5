import GuestMachine.Kernel.Control
import GuestMachine.Loader.Metadata
import GuestMachine.Loader.Module

/-! # Handing an application to the kernel

Three steps: reserve the code region and create the process, copy the module in
and give its pages their final permissions, and map a stack and queue the main
thread. No guest code runs before the console is told to run.
-/

namespace GuestMachine

open Layout

/-- Where one application stands on its way to the kernel. -/
structure Loader where
  /-- Cores whose translated code is dropped after a load. -/
  cores : List CoreIndex := []
  metadata : ProgramMetadata := {}
  process : Option ProcessId := none
  /-- First instruction of the loaded module. -/
  entry : Option Address := none
  deriving Repr, DecidableEq

/-- A loader at work on a machine. -/
structure Handoff where
  loader : Loader
  machine : Machine Kernel

/-- A step of the handoff. -/
abbrev HandoffM := Operation EngineError Handoff

namespace HandoffM

def getMemory : HandoffM AddressSpace := fun handoff =>
  .ok handoff.machine.board.memory handoff

def getKernel : HandoffM Kernel := fun handoff =>
  .ok handoff.machine.os handoff

def getLoader : HandoffM Loader := fun handoff =>
  .ok handoff.loader handoff

def modifyKernel (f : Kernel → Kernel) : HandoffM Unit := fun handoff =>
  .ok () { handoff with machine := handoff.machine.mapOs f }

def modifyLoader (f : Loader → Loader) : HandoffM Unit := fun handoff =>
  .ok () { handoff with loader := f handoff.loader }

def ofExcept (e : Except ε α) (wrap : ε → EngineError) : HandoffM α := fun handoff =>
  match e with
  | .ok a => .ok a handoff
  | .error e => .error (wrap e) handoff

def onMemory (action : MemoryM α) : HandoffM α :=
  action.within (·.machine.board.memory)
    (fun handoff memory =>
      { handoff with machine := handoff.machine.mapBoard fun board => { board with memory } })
    .memory

def onKernel (action : KernelM α) : HandoffM α :=
  action.within Handoff.machine (fun handoff machine => { handoff with machine }) .kernel

def map (addr : Address) (size : UInt64) (flags : PageFlags) : HandoffM Unit :=
  onMemory (MemoryM.map addr size flags)

def unmap (addr : Address) (size : UInt64) : HandoffM Unit :=
  onMemory (MemoryM.unmap addr size)

def protect (addr : Address) (size : UInt64) (flags : PageFlags) : HandoffM Unit :=
  onMemory (MemoryM.protect addr size flags)

/-- Write a block; a refusal names its first address. -/
def writeBlock (addr : Address) (data : List UInt8) : HandoffM Unit := do
  let accepted ← onMemory fun memory =>
    let (accepted, memory) := memory.writeBlock addr data
    .ok accepted memory
  if !accepted then throw (.memory (.invalidAddress addr))

def requireProcess : HandoffM GuestProcess := do
  match (← getLoader).process.bind (← getKernel).processes.find? with
  | some process => return process
  | none => throw (.loader .noApplicationProcess)

/-- Queue a range on the cores this loader knows. -/
def requestInvalidation (addr : Address) (size : UInt64) : HandoffM Unit := fun handoff =>
  let publish := fun bus core => InvalidationBus.publishTo bus core addr size
  .ok () { handoff with machine := handoff.machine.mapBoard fun board =>
    { board with manager := { board.manager with
      bus := handoff.loader.cores.foldl publish board.manager.bus } } }

end HandoffM

namespace Handoff

open HandoffM

/-- The code size, rounded up to pages, if it is not zero and fits the code
    region. -/
def codeExtent? (codeSize : UInt64) : Option UInt64 :=
  (pageAlignUp? codeSize).filter fun size => 0 < size && size ≤ Layout.codeSize

/-- Reserve room for the code and create the process. -/
def createApplication (codeSize : UInt64) (metadata : ProgramMetadata) :
    HandoffM (Address × ProcessId) := do
  if (← getLoader).process.isSome || (← getKernel).application.isSome then
    throw (.loader .processAlreadyCreated)
  match codeExtent? codeSize with
  | none =>
      throw (.loader (.invalidModule
        ("code size " ++ Text.hex codeSize.toNat ++ " does not fit the code region")))
  | some size =>
      map codeBase size PageFlags.rw
      let params : ProcessParams :=
        { titleId := metadata.titleId, name := metadata.name, codeBase, codeSize := size
          idealCore := metadata.mainCore, coreMask := (← getKernel).allCoresMask }
      match (← getKernel).createApplication params with
      | .ok (pid, kernel) =>
          modifyKernel fun _ => kernel
          modifyLoader fun loader => { loader with process := some pid, metadata }
          return (codeBase, pid)
      | .error e =>
          unmap codeBase size
          throw (.kernel e)

/-- Copy each segment that is not empty. -/
def copySegments (base : Address) : List (SegmentKind × Segment) → HandoffM Unit
  | [] => pure ()
  | (_, segment) :: rest => do
      if !segment.isEmpty then writeBlock (base + segment.offset) segment.bytes
      copySegments base rest

/-- Give the pages of each region their final permissions. -/
def protectRegions (base : Address) : List ModuleRegion → HandoffM Unit
  | [] => pure ()
  | region :: rest => do
      protect (base + region.start) (region.finish - region.start) region.kind.flags
      protectRegions base rest

/-- Copy a module to `base`, which has to be the code base of the process. -/
def loadModule (image : ModuleImage) (base : Address) : HandoffM Unit := do
  let process ← requireProcess
  ofExcept image.validate .loader
  if base ≠ process.codeBase then
    throw (.loader (.invalidModule ("load base " ++ Text.hex base.toNat
      ++ " is not the process code base " ++ Text.hex process.codeBase.toNat)))
  if process.codeSize < image.imageSize then
    throw (.loader (.segmentOutOfBounds 0 image.imageSize process.codeSize))
  copySegments base image.segments
  if image.bssSize ≠ 0 then
    writeBlock (base + image.data.finish) (List.replicate image.bssSize.toNat 0)
  protectRegions base image.regions
  requestInvalidation base process.codeSize
  modifyLoader fun loader => { loader with entry := some (base + image.entryOffset) }

/-- The lowest free range of `size` bytes for a stack. -/
def stackArea? (memory : AddressSpace) (size : UInt64) : Option Address :=
  match memory.findFreeArea stackBase Layout.stackSize size with
  | .found addr => some addr
  | _ => none

/-- Map a stack and queue the main thread at the entry point. It starts with
    its own handle in `X1`. -/
def startApplication (priority : UInt32) (stackSize : UInt64) : HandoffM ThreadId := do
  let process ← requireProcess
  let some entry := (← getLoader).entry
    | throw (.loader (.invalidModule "no module has been loaded"))
  let some size := (pageAlignUp? stackSize).filter (0 < ·)
    | throw (.loader (.invalidModule ("bad stack size " ++ Text.hex stackSize.toNat)))
  let some bottom := stackArea? (← getMemory) size
    | throw (.memory .outOfMemory)
  map bottom size PageFlags.rw
  let idealCore := (← getLoader).metadata.mainCore
  let id ← (onKernel (KernelM.onKernelMemory
    (KernelMemoryM.createThread process entry 0 (bottom + size) priority idealCore))).undoneBy
      (unmap bottom size)
  queueMainThread process.pid id
where
  /-- Open a handle to the main thread, leave it in `X1`, and start. -/
  queueMainThread (pid : ProcessId) (id : ThreadId) : HandoffM ThreadId := do
    let some process := (← getKernel).processes.find? pid
      | throw (.kernel (.processNotFound pid))
    let some thread := (← getKernel).threads.find? id
      | throw (.kernel (.invalidThreadId id))
    let handle ← (onKernel (KernelM.onProcess pid process (ProcessM.addHandle (.thread id)))).undoneBy
      (modifyKernel (·.destroyThread thread))
    modifyKernel (·.modifyThread id (·.setRegister 1 handle.toUInt64))
    onKernel (KernelM.onKernel (KernelStateM.startThread thread))
    return id

/-- All three steps, with the settings of the metadata. -/
def loadApplication (image : ModuleImage) (metadata : ProgramMetadata) : HandoffM ThreadId := do
  ofExcept image.validate .loader
  let (base, _) ← createApplication image.imageSize metadata
  loadModule image base
  startApplication metadata.mainPriority metadata.stackSize

end Handoff

end GuestMachine
