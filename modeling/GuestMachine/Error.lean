import GuestMachine.Text.Hex
import GuestMachine.A64.Event

/-! # Errors

One type per part of the machine, each constructor a cause, and one wording
function per type. Conditions that guest code is meant to see (a read of
unmapped memory, a failed store-exclusive, an unknown supervisor call) are not
errors of this module: they are answered through guest registers.
-/

namespace GuestMachine

open Text

inductive AccessKind where
  | read
  | write
  | execute
  deriving Repr, DecidableEq

def AccessKind.word : AccessKind → String
  | .read => "read"
  | .write => "write"
  | .execute => "execute"

inductive MemoryError where
  | outOfMemory
  | invalidAddress (addr : UInt64)
  | accessViolation (addr : UInt64) (kind : AccessKind)
  | alignment (addr align : UInt64)
  | alreadyMapped (addr : UInt64)
  | invalidSize (size : UInt64)
  deriving Repr, DecidableEq

def MemoryError.cause : MemoryError → String
  | .outOfMemory => "OutOfMemory"
  | .invalidAddress _ => "InvalidAddress"
  | .accessViolation _ _ => "AccessViolation"
  | .alignment _ _ => "AlignmentError"
  | .alreadyMapped _ => "AlreadyMapped"
  | .invalidSize _ => "InvalidSize"

def MemoryError.message : MemoryError → String
  | .outOfMemory => "Out of memory"
  | .invalidAddress addr => "Invalid address: " ++ hexAddress addr
  | .accessViolation addr kind => "Access violation at " ++ hexAddress addr ++ ": " ++ kind.word
  | .alignment addr align =>
      "Alignment error: address " ++ hexAddress addr ++ " not aligned to " ++ toString align.toNat
  | .alreadyMapped addr => "Region at " ++ hexAddress addr ++ " is already mapped"
  | .invalidSize size => "Invalid size: " ++ hex size.toNat

/-- Faults of the execution engine. Each one stops the core that met it. -/
inductive CpuError where
  /-- A register name was used at a width it does not have. -/
  | invalidRegister (register : String) (width : UInt32)
  | unknownHaltReason (bits : UInt32)
  | unimplementedInstruction (pc : UInt64) (opcode : UInt32)
  | cacheOperation (pc : UInt64) (op : A64.CacheOp) (addr : UInt64)
  | instructionSynchronizationBarrier (pc : UInt64)
  | unhandledException (pc : UInt64) (raised : A64.Exception)
  | exclusiveAccess128 (pc : UInt64)
  | coreStopped (index : Nat)
  | invalidCoreIndex (index : Nat)
  deriving Repr, DecidableEq

def CpuError.cause : CpuError → String
  | .invalidRegister _ _ => "InvalidRegister"
  | .unknownHaltReason _ => "UnknownHaltReason"
  | .unimplementedInstruction _ _ => "UnimplementedInstruction"
  | .cacheOperation _ _ _ => "CacheOperation"
  | .instructionSynchronizationBarrier _ => "InstructionSynchronizationBarrier"
  | .unhandledException _ _ => "Exception"
  | .exclusiveAccess128 _ => "ExclusiveAccess128"
  | .coreStopped _ => "CoreStopped"
  | .invalidCoreIndex _ => "InvalidCoreIndex"

def CpuError.message : CpuError → String
  | .invalidRegister register width =>
      "Invalid register " ++ register ++ " for " ++ toString width.toNat ++ "-bit access"
  | .unknownHaltReason bits => "Unknown translator halt reason: " ++ hexWord bits
  | .unimplementedInstruction pc opcode =>
      "Unimplemented instruction at " ++ hexAddress pc ++ ": " ++ hexWord opcode
  | .cacheOperation pc op addr =>
      "Unimplemented cache operation " ++ op.name ++ " (address " ++ hexAddress addr ++ ") at "
        ++ hexAddress pc
  | .instructionSynchronizationBarrier pc =>
      "Unimplemented instruction synchronization barrier at " ++ hexAddress pc
  | .unhandledException pc raised =>
      "Unhandled guest exception " ++ raised.name ++ " at " ++ hexAddress pc
  | .exclusiveAccess128 pc => "Unimplemented 128-bit exclusive access at " ++ hexAddress pc
  | .coreStopped index => "Core " ++ toString index ++ " is stopped"
  | .invalidCoreIndex index => "Invalid core index: " ++ toString index

/-- Refusals of the kernel. The guest sees them as result codes. -/
inductive KernelError where
  | unknownSyscall (number : UInt32)
  | invalidHandle (handle : UInt32)
  | invalidThreadId (id : UInt64)
  | invalidPriority (priority : UInt32)
  | invalidCoreId (core : Int32)
  | processNotFound (pid : UInt64)
  | resourceLimit
  | invalidState (what : String)
  | invalidSize (size : UInt64)
  | invalidAddress (addr : UInt64)
  | invalidEnumValue (value : UInt32)
  | invalidCombination
  /-- The address space refused. -/
  | memory (error : MemoryError)
  deriving Repr, DecidableEq

def KernelError.cause : KernelError → String
  | .unknownSyscall _ => "UnknownSyscall"
  | .invalidHandle _ => "InvalidHandle"
  | .invalidThreadId _ => "InvalidThreadId"
  | .invalidPriority _ => "InvalidPriority"
  | .invalidCoreId _ => "InvalidCoreId"
  | .processNotFound _ => "ProcessNotFound"
  | .resourceLimit => "ResourceLimit"
  | .invalidState _ => "InvalidState"
  | .invalidSize _ => "InvalidSize"
  | .invalidAddress _ => "InvalidAddress"
  | .invalidEnumValue _ => "InvalidEnumValue"
  | .invalidCombination => "InvalidCombination"
  | .memory _ => "Memory"

def KernelError.message : KernelError → String
  | .unknownSyscall number => "Unknown syscall: " ++ hex number.toNat
  | .invalidHandle handle => "Invalid handle: " ++ hex handle.toNat
  | .invalidThreadId id => "Invalid thread ID: " ++ toString id.toNat
  | .invalidPriority priority => "Invalid priority: " ++ toString priority.toNat
  | .invalidCoreId core => "Invalid core ID: " ++ toString core.toInt
  | .processNotFound pid => "Process not found: " ++ toString pid.toNat
  | .resourceLimit => "Resource limit exceeded"
  | .invalidState what => "Invalid state: " ++ what
  | .invalidSize size => "Invalid size: " ++ hex size.toNat
  | .invalidAddress addr => "Invalid address: " ++ hexAddress addr
  | .invalidEnumValue value => "Invalid enum value: " ++ toString value.toNat
  | .invalidCombination => "Invalid combination of arguments"
  | .memory error => "Memory error: " ++ error.message

inductive LoaderError where
  | invalidModule (why : String)
  | segmentOutOfBounds (offset size region : UInt64)
  | noApplicationProcess
  | processAlreadyCreated
  deriving Repr, DecidableEq

def LoaderError.cause : LoaderError → String
  | .invalidModule _ => "InvalidModule"
  | .segmentOutOfBounds _ _ _ => "SegmentOutOfBounds"
  | .noApplicationProcess => "NoApplicationProcess"
  | .processAlreadyCreated => "ProcessAlreadyCreated"

def LoaderError.message : LoaderError → String
  | .invalidModule why => "Invalid module: " ++ why
  | .segmentOutOfBounds offset size region =>
      "Segment at offset " ++ hex offset.toNat ++ " (size " ++ hex size.toNat ++ ") exceeds the "
        ++ hex region.toNat ++ "-byte image"
  | .noApplicationProcess => "No application process has been created"
  | .processAlreadyCreated => "An application process already exists"

inductive FileError where
  | notFound
  | alreadyExists
  | notADirectory
  | isADirectory
  /-- The bytes of a text file are not UTF-8. -/
  | invalidText
  /-- Any other refusal, already worded. -/
  | other (text : String)
  deriving Repr, DecidableEq

def FileError.message : FileError → String
  | .notFound => "No such file or directory (os error 2)"
  | .alreadyExists => "File exists (os error 17)"
  | .notADirectory => "Not a directory (os error 20)"
  | .isADirectory => "Is a directory (os error 21)"
  | .invalidText => "stream did not contain valid UTF-8"
  | .other text => text

/-- What can be wrong with a settings file. -/
inductive ConfigError where
  /-- The text is not a settings document. How it fails is not part of the answer. -/
  | malformed
  /-- A setting is out of its range. -/
  | rejected (why : String)
  deriving Repr, DecidableEq

/-- The wording, with nothing for a document that cannot be read. -/
def ConfigError.message : ConfigError → String
  | .malformed => ""
  | .rejected why => why

inductive EngineError where
  | memory (error : MemoryError)
  | cpu (error : CpuError)
  | kernel (error : KernelError)
  | loader (error : LoaderError)
  | io (error : FileError)
  | config (error : ConfigError)
  | unsupported (what : String)
  | hostThread (what : String)
  deriving Repr, DecidableEq

namespace EngineError

/-- The name of the part that refused. -/
def cause : EngineError → String
  | .memory _ => "Memory"
  | .cpu _ => "Cpu"
  | .kernel _ => "Kernel"
  | .loader _ => "Loader"
  | .io _ => "Io"
  | .config _ => "Config"
  | .unsupported _ => "Unsupported"
  | .hostThread _ => "HostThread"

def message : EngineError → String
  | .memory error => "Memory error: " ++ error.message
  | .cpu error => "CPU error: " ++ error.message
  | .kernel error => "Kernel error: " ++ error.message
  | .loader error => "Loader error: " ++ error.message
  | .io error => "IO error: " ++ error.message
  | .config error => "Config error: " ++ error.message
  | .unsupported what => "Unsupported feature: " ++ what
  | .hostThread what => "Host thread failed: " ++ what

/-- The message, followed by that of each error it wraps, outermost first. -/
def chain : EngineError → List String
  | e@(.memory error) => [e.message, error.message]
  | e@(.cpu error) => [e.message, error.message]
  | e@(.kernel error) =>
      e.message :: error.message :: match error with
        | .memory inner => [inner.message]
        | _ => []
  | e@(.loader error) => [e.message, error.message]
  | e@(.io error) => [e.message, error.message]
  | e => [e.message]

end EngineError

instance : Coe MemoryError KernelError := ⟨.memory⟩
instance : Coe MemoryError EngineError := ⟨.memory⟩
instance : Coe CpuError EngineError := ⟨.cpu⟩
instance : Coe KernelError EngineError := ⟨.kernel⟩
instance : Coe LoaderError EngineError := ⟨.loader⟩
instance : Coe FileError EngineError := ⟨.io⟩

end GuestMachine
