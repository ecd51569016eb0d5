import GuestMachine.A64.Instruction
import GuestMachine.Error
import GuestMachine.Operation

/-! # Registers

The register file of one core, the context a guest thread owns, and access to
it by register name. W and X names are two views of the same 31 general
registers, and a 32-bit write clears the upper half. The zero registers read
as zero and swallow writes.
-/

namespace GuestMachine

open A64 (RegNum)

structure RegisterFile where
  x : Vector UInt64 31 := Vector.replicate 31 0
  sp : UInt64 := 0
  pc : Address := 0
  v : Vector (BitVec 128) 32 := Vector.replicate 32 0
  fpcr : UInt32 := 0
  fpsr : UInt32 := 0
  /-- Condition flags in bits 31 to 28. -/
  nzcv : UInt32 := 0
  deriving Repr, DecidableEq, Inhabited

namespace RegisterFile

/-- General register `n`, where 31 is the zero register. -/
def xzr (file : RegisterFile) (n : RegNum) : UInt64 :=
  if h : n.toNat < 31 then file.x[n.toNat] else 0

/-- Write general register `n`, where 31 is the zero register. -/
def setXzr (file : RegisterFile) (n : RegNum) (value : UInt64) : RegisterFile :=
  if h : n.toNat < 31 then { file with x := file.x.set n.toNat value } else file

/-- General register `n`, where 31 is the stack pointer. -/
def xsp (file : RegisterFile) (n : RegNum) : UInt64 :=
  if h : n.toNat < 31 then file.x[n.toNat] else file.sp

/-- Write general register `n`, where 31 is the stack pointer. -/
def setXsp (file : RegisterFile) (n : RegNum) (value : UInt64) : RegisterFile :=
  if h : n.toNat < 31 then { file with x := file.x.set n.toNat value }
  else { file with sp := value }

def vector (file : RegisterFile) (n : RegNum) : BitVec 128 :=
  file.v[n.toNat]

def setVector (file : RegisterFile) (n : RegNum) (value : BitVec 128) : RegisterFile :=
  { file with v := file.v.set n.toNat value }

end RegisterFile

/-- Everything a guest thread owns on a core: the register file and the two
    thread pointer registers. -/
structure ThreadContext where
  registers : RegisterFile := {}
  tpidrEl0 : UInt64 := 0
  tpidrroEl0 : UInt64 := 0
  deriving Repr, DecidableEq, Inhabited

/-- A register name with any index, also one that no register has. -/
inductive Register where
  /-- 32-bit view of a general register. -/
  | w (n : Nat)
  /-- 64-bit view of a general register. -/
  | x (n : Nat)
  | wzr
  | xzr
  | sp
  | pc
  /-- 128-bit vector register. -/
  | v (n : Nat)
  | tpidrEl0
  | tpidrroEl0
  deriving Repr, DecidableEq

def Register.name : Register → String
  | w n => "W" ++ toString n
  | x n => "X" ++ toString n
  | wzr => "WZR"
  | xzr => "XZR"
  | sp => "SP"
  | pc => "PC"
  | v n => "V" ++ toString n
  | tpidrEl0 => "TPIDR_EL0"
  | tpidrroEl0 => "TPIDRRO_EL0"

namespace ThreadContext

/-- The name has no view of this width. -/
private def invalid (reg : Register) (width : UInt32) : Except CpuError α :=
  .error (.invalidRegister reg.name width)

private def withFile (ctx : ThreadContext) (f : RegisterFile → RegisterFile) : ThreadContext :=
  { ctx with registers := f ctx.registers }

def get32 (ctx : ThreadContext) (reg : Register) : Except CpuError UInt32 :=
  match reg with
  | .w n => if h : n < 31 then .ok ctx.registers.x[n].toUInt32 else invalid reg 32
  | .wzr => .ok 0
  | _ => invalid reg 32

def get64 (ctx : ThreadContext) (reg : Register) : Except CpuError UInt64 :=
  match reg with
  | .x n => if h : n < 31 then .ok ctx.registers.x[n] else invalid reg 64
  | .xzr => .ok 0
  | .sp => .ok ctx.registers.sp
  | .pc => .ok ctx.registers.pc
  | .tpidrEl0 => .ok ctx.tpidrEl0
  | .tpidrroEl0 => .ok ctx.tpidrroEl0
  | _ => invalid reg 64

/-- Read a vector register as its low and high half. -/
def get128 (ctx : ThreadContext) (reg : Register) : Except CpuError (UInt64 × UInt64) :=
  match reg with
  | .v n =>
      if h : n < 32 then
        let value := ctx.registers.v[n]
        .ok (UInt64.ofBitVec (value.extractLsb' 0 64), UInt64.ofBitVec (value.extractLsb' 64 64))
      else invalid reg 128
  | _ => invalid reg 128

def setFpcr (ctx : ThreadContext) (value : UInt32) : ThreadContext :=
  ctx.withFile fun file => { file with fpcr := value }

def setFpsr (ctx : ThreadContext) (value : UInt32) : ThreadContext :=
  ctx.withFile fun file => { file with fpsr := value }

end ThreadContext

/-- An operation on the context of a thread. -/
abbrev ContextM := Operation CpuError ThreadContext

namespace ContextM

def refuse (reg : Register) (width : UInt32) : ContextM Unit :=
  throw (.invalidRegister reg.name width)

def modifyFile (f : RegisterFile → RegisterFile) : ContextM Unit :=
  modify fun ctx => { ctx with registers := f ctx.registers }

/-- Write the 32-bit view of a general register, clearing the upper half. -/
def set32 (reg : Register) (value : UInt32) : ContextM Unit :=
  match reg with
  | .w n =>
      if h : n < 31 then
        modifyFile fun file => { file with x := file.x.set n value.toUInt64 }
      else refuse reg 32
  | .wzr => pure ()
  | _ => refuse reg 32

def set64 (reg : Register) (value : UInt64) : ContextM Unit :=
  match reg with
  | .x n =>
      if h : n < 31 then modifyFile fun file => { file with x := file.x.set n value }
      else refuse reg 64
  | .xzr => pure ()
  | .sp => modifyFile fun file => { file with sp := value }
  | .pc => modifyFile fun file => { file with pc := value }
  | .tpidrEl0 => modify fun ctx => { ctx with tpidrEl0 := value }
  | .tpidrroEl0 => modify fun ctx => { ctx with tpidrroEl0 := value }
  | _ => refuse reg 64

/-- Write a vector register from its low and high half. -/
def set128 (reg : Register) (low high : UInt64) : ContextM Unit :=
  match reg with
  | .v n =>
      if h : n < 32 then
        modifyFile fun file => { file with v := file.v.set n (high.toBitVec ++ low.toBitVec) }
      else refuse reg 128
  | _ => refuse reg 128

end ContextM

namespace ThreadContext

/-- The context after `ContextM.set32`. -/
def set32 (ctx : ThreadContext) (reg : Register) (value : UInt32) : Except CpuError ThreadContext :=
  (ContextM.set32 reg value).result ctx

/-- The context after `ContextM.set64`. -/
def set64 (ctx : ThreadContext) (reg : Register) (value : UInt64) : Except CpuError ThreadContext :=
  (ContextM.set64 reg value).result ctx

/-- The context after `ContextM.set128`. -/
def set128 (ctx : ThreadContext) (reg : Register) (low high : UInt64) :
    Except CpuError ThreadContext :=
  (ContextM.set128 reg low high).result ctx

end ThreadContext

end GuestMachine
