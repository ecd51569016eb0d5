import GuestMachine.A64.Event
import GuestMachine.Memory.Width

/-! # A64 instructions

The integer, branch, load/store and system subset that the machine executes.
Register fields are the raw five-bit numbers, so 31 stands for the stack
pointer or the zero register depending on the operand. Offsets are in bytes.
-/

namespace GuestMachine.A64

abbrev RegNum := BitVec 5

inductive ShiftType where
  | lsl
  | lsr
  | asr
  | ror
  deriving Repr, DecidableEq

inductive Extend where
  | uxtw
  | lsl
  | sxtw
  | sxtx
  deriving Repr, DecidableEq

inductive MoveWideOp where
  /-- Write the inverted immediate. -/
  | movn
  /-- Write the immediate. -/
  | movz
  /-- Replace sixteen bits. -/
  | movk
  deriving Repr, DecidableEq

inductive LogicalOp where
  | and
  | orr
  | eor
  /-- `and` that sets the flags. -/
  | ands
  deriving Repr, DecidableEq

inductive BitfieldOp where
  /-- Sign-extend the field. -/
  | sbfm
  /-- Insert the field. -/
  | bfm
  /-- Zero-extend the field. -/
  | ubfm
  deriving Repr, DecidableEq

/-- What happens to the second operand when the condition fails. -/
inductive CondSelectOp where
  | csel
  /-- Increment it. -/
  | csinc
  /-- Invert it. -/
  | csinv
  /-- Negate it. -/
  | csneg
  deriving Repr, DecidableEq

inductive DataProc2Op where
  | udiv
  | sdiv
  | lslv
  | lsrv
  | asrv
  | rorv
  deriving Repr, DecidableEq

inductive HintOp where
  | nop
  | yield
  | wfe
  | wfi
  | sev
  | sevl
  deriving Repr, DecidableEq

/-- Direction and register class of a memory access. -/
inductive MemOp where
  | store
  | load
  /-- Sign-extending load into an X register, or into a W register. -/
  | loadSigned (to64 : Bool)
  | storeVector
  | loadVector
  deriving Repr, DecidableEq

/-- How the effective address comes about. -/
inductive Addressing where
  | offset (bytes : Int)
  /-- Add first, and write the address back to the base. -/
  | preIndex (bytes : Int)
  /-- Access at the base, then add to it. -/
  | postIndex (bytes : Int)
  | register (rm : RegNum) (extend : Extend) (shift : Nat)
  deriving Repr, DecidableEq

/-- System registers that guest code can name. -/
inductive SystemRegister where
  | tpidrEl0
  | tpidrroEl0
  | cntpctEl0
  | cntvctEl0
  | cntfrqEl0
  | fpcr
  | fpsr
  | nzcv
  | dczidEl0
  | ctrEl0
  deriving Repr, DecidableEq

namespace SystemRegister

/-- The sixteen bits op0:op1:CRn:CRm:op2. -/
def encoding : SystemRegister → BitVec 16
  | tpidrEl0 => 0b11#2 ++ 3#3 ++ 13#4 ++ 0#4 ++ 2#3
  | tpidrroEl0 => 0b11#2 ++ 3#3 ++ 13#4 ++ 0#4 ++ 3#3
  | cntpctEl0 => 0b11#2 ++ 3#3 ++ 14#4 ++ 0#4 ++ 1#3
  | cntvctEl0 => 0b11#2 ++ 3#3 ++ 14#4 ++ 0#4 ++ 2#3
  | cntfrqEl0 => 0b11#2 ++ 3#3 ++ 14#4 ++ 0#4 ++ 0#3
  | fpcr => 0b11#2 ++ 3#3 ++ 4#4 ++ 4#4 ++ 0#3
  | fpsr => 0b11#2 ++ 3#3 ++ 4#4 ++ 4#4 ++ 1#3
  | nzcv => 0b11#2 ++ 3#3 ++ 4#4 ++ 2#4 ++ 0#3
  | dczidEl0 => 0b11#2 ++ 3#3 ++ 0#4 ++ 0#4 ++ 7#3
  | ctrEl0 => 0b11#2 ++ 3#3 ++ 0#4 ++ 0#4 ++ 1#3

def all : List SystemRegister :=
  [tpidrEl0, tpidrroEl0, cntpctEl0, cntvctEl0, cntfrqEl0, fpcr, fpsr, nzcv, dczidEl0, ctrEl0]

def ofEncoding? (code : BitVec 16) : Option SystemRegister :=
  all.find? fun reg => reg.encoding == code

/-- Registers that guest code may write. -/
def isWritable : SystemRegister → Bool
  | tpidrEl0 | fpcr | fpsr | nzcv => true
  | _ => false

end SystemRegister

/-- One decoded instruction. `sf` selects the 64-bit form. -/
inductive Instruction where
  /-- The immediate is shifted left by sixteen times `hw`. -/
  | moveWide (sf : Bool) (op : MoveWideOp) (rd : RegNum) (imm16 : BitVec 16) (hw : BitVec 2)
  | addSubImm (sf sub setFlags : Bool) (rd rn : RegNum) (imm : UInt64)
  | addSubReg (sf sub setFlags : Bool) (rd rn rm : RegNum) (shift : ShiftType) (amount : BitVec 6)
  | logicalImm (sf : Bool) (op : LogicalOp) (rd rn : RegNum) (imm : UInt64)
  | logicalReg (sf : Bool) (op : LogicalOp) (invert : Bool) (rd rn rm : RegNum) (shift : ShiftType)
      (amount : BitVec 6)
  | bitfield (sf : Bool) (op : BitfieldOp) (rd rn : RegNum) (immr imms : BitVec 6)
  | condSelect (sf : Bool) (op : CondSelectOp) (rd rn rm : RegNum) (cond : BitVec 4)
  | mulAdd (sf sub : Bool) (rd rn rm ra : RegNum)
  | dataProc2 (sf : Bool) (op : DataProc2Op) (rd rn rm : RegNum)
  /-- Relative to the instruction, or to its page in units of pages. -/
  | adr (rd : RegNum) (offset : Int) (page : Bool)
  | branch (link : Bool) (offset : Int)
  | branchCond (cond : BitVec 4) (offset : Int)
  | compareBranch (sf nonzero : Bool) (rt : RegNum) (offset : Int)
  | testBranch (nonzero : Bool) (rt : RegNum) (bit : BitVec 6) (offset : Int)
  | branchReg (link : Bool) (rn : RegNum)
  | ret (rn : RegNum)
  | loadStore (op : MemOp) (size : Width) (rt rn : RegNum) (addressing : Addressing)
  | loadLiteral (op : MemOp) (size : Width) (rt : RegNum) (offset : Int)
  | loadStorePair (load vector : Bool) (size : Width) (rt rt2 rn : RegNum) (addressing : Addressing)
  | loadExclusive (size : Width) (rt rn : RegNum)
  | storeExclusive (size : Width) (rs rt rn : RegNum)
  /-- `size` is that of each half. -/
  | loadExclusivePair (size : Width) (rt rt2 rn : RegNum)
  /-- `size` is that of each half. -/
  | storeExclusivePair (size : Width) (rs rt rt2 rn : RegNum)
  | loadAcquire (size : Width) (rt rn : RegNum)
  | storeRelease (size : Width) (rt rn : RegNum)
  | clearExclusive
  | barrier
  | instructionBarrier
  | hint (op : HintOp)
  | dataCache (op : DataCacheOp) (rt : RegNum)
  | instructionCache (op : InstructionCacheOp) (rt : RegNum)
  | mrs (rt : RegNum) (reg : SystemRegister)
  | msr (rt : RegNum) (reg : SystemRegister)
  | svc (imm : BitVec 16)
  | brk (imm : BitVec 16)
  | udf (imm : BitVec 16)
  /-- Any word outside the subset. -/
  | unknown (word : BitVec 32)
  deriving Repr, DecidableEq

/-- A block of translated code ends after this instruction. -/
def Instruction.endsBlock : Instruction → Bool
  | .branch .. | .branchCond .. | .compareBranch .. | .testBranch .. | .branchReg .. | .ret ..
  | .instructionBarrier | .instructionCache .. | .svc .. | .brk .. | .udf .. | .unknown .. => true
  | .dataCache op _ => op != .zeroByVa
  | .hint op => op != .nop
  | _ => false

end GuestMachine.A64
