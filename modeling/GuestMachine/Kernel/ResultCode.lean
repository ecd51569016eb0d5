import GuestMachine.Error

/-! # Result codes

What a supervisor call leaves in `W0`: a module number in the low nine bits and
a description in the thirteen bits above. Zero is success.
-/

namespace GuestMachine

open Text

structure ResultCode where
  raw : UInt32
  deriving Repr, DecidableEq

namespace ResultCode

/-- Fields that are too wide lose their upper bits. -/
def ofParts (moduleId description : UInt32) : ResultCode :=
  ⟨(moduleId &&& 0x1FF) ||| ((description &&& 0x1FFF) <<< (9 : UInt32))⟩

def moduleId (code : ResultCode) : UInt32 :=
  code.raw &&& 0x1FF

def description (code : ResultCode) : UInt32 :=
  (code.raw >>> 9) &&& 0x1FFF

def isSuccess (code : ResultCode) : Bool :=
  code.raw == 0

/-- A refusal by the kernel, which is module 1. -/
def ofKernel (description : UInt32) : ResultCode :=
  ofParts 1 description

def success : ResultCode := ⟨0⟩
def notImplemented : ResultCode := ofKernel 33
def invalidSize : ResultCode := ofKernel 101
def invalidAddress : ResultCode := ofKernel 102
def outOfResource : ResultCode := ofKernel 103
def outOfMemory : ResultCode := ofKernel 104
def handleTableFull : ResultCode := ofKernel 105
def invalidMemoryState : ResultCode := ofKernel 106
def invalidMemoryRange : ResultCode := ofKernel 110
def invalidPriority : ResultCode := ofKernel 112
def invalidCoreId : ResultCode := ofKernel 113
def invalidHandle : ResultCode := ofKernel 114
def invalidPointer : ResultCode := ofKernel 115
def invalidCombination : ResultCode := ofKernel 116
def timedOut : ResultCode := ofKernel 117
def outOfRange : ResultCode := ofKernel 119
def invalidEnumValue : ResultCode := ofKernel 120
def notFound : ResultCode := ofKernel 121
def invalidState : ResultCode := ofKernel 125

/-- The codes by the names they are documented under. -/
def named : List (String × ResultCode) :=
  [("SUCCESS", success), ("NOT_IMPLEMENTED", notImplemented), ("INVALID_SIZE", invalidSize),
    ("INVALID_ADDRESS", invalidAddress), ("OUT_OF_RESOURCE", outOfResource),
    ("OUT_OF_MEMORY", outOfMemory), ("HANDLE_TABLE_FULL", handleTableFull),
    ("INVALID_MEMORY_STATE", invalidMemoryState), ("INVALID_MEMORY_RANGE", invalidMemoryRange),
    ("INVALID_PRIORITY", invalidPriority), ("INVALID_CORE_ID", invalidCoreId),
    ("INVALID_HANDLE", invalidHandle), ("INVALID_POINTER", invalidPointer),
    ("INVALID_COMBINATION", invalidCombination), ("TIMED_OUT", timedOut),
    ("OUT_OF_RANGE", outOfRange), ("INVALID_ENUM_VALUE", invalidEnumValue),
    ("NOT_FOUND", notFound), ("INVALID_STATE", invalidState)]

/-- How the guest sees a refusal. -/
def ofError : KernelError → ResultCode
  | .unknownSyscall _ => notImplemented
  | .invalidHandle _ | .invalidThreadId _ => invalidHandle
  | .invalidPriority _ => invalidPriority
  | .invalidCoreId _ => invalidCoreId
  | .processNotFound _ => notFound
  | .resourceLimit => outOfResource
  | .invalidState _ => invalidState
  | .invalidSize _ => invalidSize
  | .invalidAddress _ => invalidAddress
  | .invalidEnumValue _ => invalidEnumValue
  | .invalidCombination => invalidCombination
  | .memory .outOfMemory => outOfMemory
  | .memory (.invalidSize _) => invalidSize
  | .memory (.alreadyMapped _) => invalidMemoryState
  | .memory _ => invalidMemoryRange

/-- The form that users see, such as `2001-0101`. -/
def display (code : ResultCode) : String :=
  toString (2000 + code.moduleId.toNat) ++ "-" ++ padLeft '0' 4 (toString code.description.toNat)

/-- All parts by name. -/
def detail (code : ResultCode) : String :=
  if code.isSuccess then "ResultCode::SUCCESS"
  else
    "ResultCode(module=" ++ toString code.moduleId.toNat
      ++ ", desc=" ++ toString code.description.toNat
      ++ ", raw=" ++ hex code.raw.toNat ++ ")"

end ResultCode

end GuestMachine
