/-! # Events a guest program can raise

The exception classes and cache maintenance operations that leave the guest
instruction stream, with the names they are reported under.
-/

namespace GuestMachine.A64

/-- Why the instruction stream cannot simply go on. -/
inductive Exception where
  | unallocatedEncoding
  | reservedValue
  | unpredictableInstruction
  | waitForInterrupt
  | waitForEvent
  | sendEvent
  | sendEventLocal
  | yield
  | breakpoint
  /-- The next instruction word cannot be fetched. -/
  | noExecuteFault
  deriving Repr, DecidableEq

namespace Exception

def name : Exception → String
  | .unallocatedEncoding => "UnallocatedEncoding"
  | .reservedValue => "ReservedValue"
  | .unpredictableInstruction => "UnpredictableInstruction"
  | .waitForInterrupt => "WaitForInterrupt"
  | .waitForEvent => "WaitForEvent"
  | .sendEvent => "SendEvent"
  | .sendEventLocal => "SendEventLocal"
  | .yield => "Yield"
  | .breakpoint => "Breakpoint"
  | .noExecuteFault => "NoExecuteFault"

def all : List Exception :=
  [.unallocatedEncoding, .reservedValue, .unpredictableInstruction, .waitForInterrupt,
   .waitForEvent, .sendEvent, .sendEventLocal, .yield, .breakpoint, .noExecuteFault]

end Exception

inductive DataCacheOp where
  /-- Writes a block of zeros. -/
  | zeroByVa
  | invalidateByVaToPoc
  | invalidateBySetWay
  | cleanByVaToPoc
  | cleanBySetWay
  | cleanByVaToPou
  | cleanAndInvalidateByVaToPoc
  | cleanAndInvalidateBySetWay
  deriving Repr, DecidableEq

namespace DataCacheOp

def name : DataCacheOp → String
  | .zeroByVa => "DC ZVA"
  | .invalidateByVaToPoc => "DC IVAC"
  | .invalidateBySetWay => "DC ISW"
  | .cleanByVaToPoc => "DC CVAC"
  | .cleanBySetWay => "DC CSW"
  | .cleanByVaToPou => "DC CVAU"
  | .cleanAndInvalidateByVaToPoc => "DC CIVAC"
  | .cleanAndInvalidateBySetWay => "DC CISW"

def all : List DataCacheOp :=
  [.zeroByVa, .invalidateByVaToPoc, .invalidateBySetWay, .cleanByVaToPoc, .cleanBySetWay,
   .cleanByVaToPou, .cleanAndInvalidateByVaToPoc, .cleanAndInvalidateBySetWay]

end DataCacheOp

inductive InstructionCacheOp where
  | invalidateAllToPou
  | invalidateAllToPouInnerShareable
  /-- One line, named by an address in it. -/
  | invalidateByVaToPou
  deriving Repr, DecidableEq

namespace InstructionCacheOp

def name : InstructionCacheOp → String
  | .invalidateAllToPou => "IC IALLU"
  | .invalidateAllToPouInnerShareable => "IC IALLUIS"
  | .invalidateByVaToPou => "IC IVAU"

def all : List InstructionCacheOp :=
  [.invalidateAllToPou, .invalidateAllToPouInnerShareable, .invalidateByVaToPou]

end InstructionCacheOp

inductive CacheOp where
  | data (op : DataCacheOp)
  | instruction (op : InstructionCacheOp)
  deriving Repr, DecidableEq

def CacheOp.name : CacheOp → String
  | .data op => op.name
  | .instruction op => op.name

end GuestMachine.A64
