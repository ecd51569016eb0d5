import GuestMachine.A64.Arithmetic
import GuestMachine.A64.Environment

/-! # Instruction semantics

One instruction against a register file and an environment. Instructions that
only compute are functions on the register file; the others call the hooks of
the environment in program order, and nothing is done after a hook that fails.
-/

namespace GuestMachine.A64

/-- Where control goes after one instruction. -/
inductive Flow where
  /-- To the next instruction of the block. -/
  | next
  | jump (target : Address)
  /-- Past the end of the block, to the next address. -/
  | endBlock
  /-- As `endBlock`, after dropping translated code: the given range, or all. -/
  | invalidate (range : Option (Address × UInt64))
  deriving Repr, DecidableEq

/-- `base` plus a signed byte offset, modulo 2^64. -/
def displace (base : Address) (offset : Int) : Address :=
  base + UInt64.ofInt offset

namespace Compute

def moveWide (regs : RegisterFile) (sf : Bool) (op : MoveWideOp) (rd : RegNum) (imm16 : BitVec 16)
    (hw : BitVec 2) : RegisterFile :=
  regs.setXzr rd (result sf (A64.moveWide op (operand sf (regs.xzr rd)) imm16 hw.toNat))

def addSubImm (regs : RegisterFile) (sf sub setFlags : Bool) (rd rn : RegNum) (imm : UInt64) :
    RegisterFile :=
  let (value, flags) := addSub sub (operand sf (regs.xsp rn)) (operand sf imm)
  if setFlags then { regs with nzcv := flags.toWord }.setXzr rd (result sf value)
  else regs.setXsp rd (result sf value)

def addSubReg (regs : RegisterFile) (sf sub setFlags : Bool) (rd rn rm : RegNum)
    (shift : ShiftType) (amount : BitVec 6) : RegisterFile :=
  let shifted := shiftValue shift (operand sf (regs.xzr rm)) amount.toNat
  let (value, flags) := addSub sub (operand sf (regs.xzr rn)) shifted
  let regs := if setFlags then { regs with nzcv := flags.toWord } else regs
  regs.setXzr rd (result sf value)

def logicalImm (regs : RegisterFile) (sf : Bool) (op : LogicalOp) (rd rn : RegNum) (imm : UInt64) :
    RegisterFile :=
  match logical op (operand sf (regs.xzr rn)) (operand sf imm) with
  | (value, some flags) => { regs with nzcv := flags.toWord }.setXzr rd (result sf value)
  | (value, none) => regs.setXsp rd (result sf value)

def logicalReg (regs : RegisterFile) (sf : Bool) (op : LogicalOp) (invert : Bool)
    (rd rn rm : RegNum) (shift : ShiftType) (amount : BitVec 6) : RegisterFile :=
  let shifted := shiftValue shift (operand sf (regs.xzr rm)) amount.toNat
  let second := if invert then ~~~shifted else shifted
  match logical op (operand sf (regs.xzr rn)) second with
  | (value, some flags) => { regs with nzcv := flags.toWord }.setXzr rd (result sf value)
  | (value, none) => regs.setXzr rd (result sf value)

def bitfield (regs : RegisterFile) (sf : Bool) (op : BitfieldOp) (rd rn : RegNum)
    (immr imms : BitVec 6) : RegisterFile :=
  regs.setXzr rd (result sf (bitfieldMove op (operand sf (regs.xzr rd)) (operand sf (regs.xzr rn))
    immr.toNat imms.toNat))

def condSelect (regs : RegisterFile) (sf : Bool) (op : CondSelectOp) (rd rn rm : RegNum)
    (cond : BitVec 4) : RegisterFile :=
  let value :=
    if (Flags.ofWord regs.nzcv).satisfy cond then operand sf (regs.xzr rn)
    else condSelectElse op (operand sf (regs.xzr rm))
  regs.setXzr rd (result sf value)

def mulAdd (regs : RegisterFile) (sf sub : Bool) (rd rn rm ra : RegNum) : RegisterFile :=
  regs.setXzr rd (result sf (A64.mulAdd sub (operand sf (regs.xzr ra)) (operand sf (regs.xzr rn))
    (operand sf (regs.xzr rm))))

def dataProc2 (regs : RegisterFile) (sf : Bool) (op : DataProc2Op) (rd rn rm : RegNum) :
    RegisterFile :=
  regs.setXzr rd (result sf (A64.dataProc2 op (operand sf (regs.xzr rn)) (operand sf (regs.xzr rm))))

def adr (regs : RegisterFile) (pc : Address) (rd : RegNum) (offset : Int) (page : Bool) :
    RegisterFile :=
  regs.setXzr rd
    (if page then displace (pc &&& ~~~0xFFF) (offset * 4096) else displace pc offset)

end Compute

/-- Jump by `offset` if `taken`, else go on behind the block. -/
def branchIf (taken : Bool) (pc : Address) (offset : Int) : Flow :=
  if taken then .jump (displace pc offset) else .endBlock

/-- Leave the return address in X30. -/
def linkRegister (link : Bool) (pc : Address) (regs : RegisterFile) : RegisterFile :=
  if link then regs.setXzr 30 (pc + 4) else regs

/-- An index register, widened from its low half by the W extensions. -/
def extendIndex (extend : Extend) (index : BitVec 64) : BitVec 64 :=
  match extend with
  | .uxtw => (index.setWidth 32).setWidth 64
  | .sxtw => (index.setWidth 32).signExtend 64
  | .lsl | .sxtx => index

/-- The address of an access, and what to write back to its base register. -/
def effectiveAddress (regs : RegisterFile) (rn : RegNum) (addressing : Addressing) :
    Address × Option UInt64 :=
  let base := regs.xsp rn
  match addressing with
  | .offset bytes => (displace base bytes, none)
  | .preIndex bytes => (displace base bytes, some (displace base bytes))
  | .postIndex bytes => (base, some (displace base bytes))
  | .register rm extend shift =>
      (base + UInt64.ofBitVec (extendIndex extend (regs.xzr rm).toBitVec <<< shift), none)

def writeBack (rn : RegNum) (value : Option UInt64) (regs : RegisterFile) : RegisterFile :=
  match value with
  | some value => regs.setXsp rn value
  | none => regs

variable (env : Environment σ)

/-- One access between register `rt` and memory. A refused store goes unnoticed
    by the guest. -/
def access (op : MemOp) (w : Width) (rt : RegNum) (addr : Address) : Exec σ Unit := do
  let regs ← Exec.registers
  match op with
  | .store =>
      let _ ← Exec.hook (env.write w addr ((regs.xzr rt).toBitVec.setWidth w.bits))
  | .load =>
      let value ← Exec.hook (env.read w addr)
      Exec.modifyRegisters (·.setXzr rt (UInt64.ofBitVec (value.setWidth 64)))
  | .loadSigned to64 =>
      let value ← Exec.hook (env.read w addr)
      Exec.modifyRegisters (·.setXzr rt (UInt64.ofBitVec
        (if to64 then value.signExtend 64 else (value.signExtend 32).setWidth 64)))
  | .storeVector =>
      let _ ← Exec.hook (env.write w addr ((regs.vector rt).setWidth w.bits))
  | .loadVector =>
      let value ← Exec.hook (env.read w addr)
      Exec.modifyRegisters (·.setVector rt (value.setWidth 128))

/-- The access that a register pair makes twice. -/
def pairAccess (load vector : Bool) : MemOp :=
  match load, vector with
  | false, false => .store
  | true, false => .load
  | false, true => .storeVector
  | true, true => .loadVector

/-- Status register of a store-exclusive: zero for success. -/
def exclusiveStatus (committed : Bool) : UInt64 :=
  if committed then 0 else 1

def loadExclusivePair (pc : Address) (w : Width) (rt rt2 : RegNum) (addr : Address) :
    Exec σ Unit :=
  match w with
  | .word => do
      let value ← Exec.tryHook (env.exclusiveRead .double pc addr)
      Exec.modifyRegisters fun regs =>
        (regs.setXzr rt (UInt64.ofBitVec ((value.extractLsb' 0 32).setWidth 64))).setXzr rt2
          (UInt64.ofBitVec ((value.extractLsb' 32 32).setWidth 64))
  | _ => do
      let value ← Exec.tryHook (env.exclusiveRead .quad pc addr)
      Exec.modifyRegisters fun regs =>
        (regs.setXzr rt (UInt64.ofBitVec (value.extractLsb' 0 64))).setXzr rt2
          (UInt64.ofBitVec (value.extractLsb' 64 64))

def storeExclusivePair (pc : Address) (w : Width) (rs rt rt2 : RegNum) (addr : Address) :
    Exec σ Unit := do
  let regs ← Exec.registers
  let low := (regs.xzr rt).toBitVec
  let high := (regs.xzr rt2).toBitVec
  let committed ← Exec.tryHook <|
    match w with
    | .word => env.exclusiveWrite .double pc addr (high.setWidth 32 ++ low.setWidth 32)
    | _ => env.exclusiveWrite .quad pc addr (high ++ low)
  Exec.modifyRegisters (·.setXzr rs (exclusiveStatus committed))

/-- Bytes that one `DC ZVA` clears, in accord with `dczidValue`. -/
def zvaBlockSize : UInt64 := 64

/-- DCZID_EL0: 2^4 words per `DC ZVA`. -/
def dczidValue : UInt64 := 4

def ctrValue : UInt64 := 0x8444C004

/-- Instruction cache line size that CTR_EL0 announces: 2^4 words. -/
def icacheLineSize : UInt64 := 64

def zeroDoubles (addr : Address) : (count : Nat) → Exec σ Unit
  | 0 => pure ()
  | count + 1 => do
      let _ ← Exec.hook (env.write .double addr 0#64)
      zeroDoubles (addr + 8) count

def readSystem (cntfrq : UInt64) (reg : SystemRegister) : Exec σ UInt64 := do
  let ctx ← Exec.context
  match reg with
  | .tpidrEl0 => pure ctx.tpidrEl0
  | .tpidrroEl0 => pure ctx.tpidrroEl0
  | .cntpctEl0 | .cntvctEl0 => Exec.hook env.counter
  | .cntfrqEl0 => pure cntfrq
  | .fpcr => pure ctx.registers.fpcr.toUInt64
  | .fpsr => pure ctx.registers.fpsr.toUInt64
  | .nzcv => pure ctx.registers.nzcv.toUInt64
  | .dczidEl0 => pure dczidValue
  | .ctrEl0 => pure ctrValue

/-- The context after a write to a system register, if guest code may write
    it. Only the flag bits of NZCV exist. -/
def writeSystem? (ctx : ThreadContext) (reg : SystemRegister) (value : UInt64) :
    Option ThreadContext :=
  match reg with
  | .tpidrEl0 => some { ctx with tpidrEl0 := value }
  | .fpcr => some { ctx with registers := { ctx.registers with fpcr := value.toUInt32 } }
  | .fpsr => some { ctx with registers := { ctx.registers with fpsr := value.toUInt32 } }
  | .nzcv =>
      some { ctx with registers := { ctx.registers with nzcv := value.toUInt32 &&& 0xF0000000 } }
  | _ => none

/-- The event behind a hint, if it is more than a no-op. -/
def HintOp.event? : HintOp → Option Exception
  | .nop => none
  | .yield => some .yield
  | .wfe => some .waitForEvent
  | .wfi => some .waitForInterrupt
  | .sev => some .sendEvent
  | .sevl => some .sendEventLocal

/-- Compute on the register file and go on. -/
def compute (f : RegisterFile → RegisterFile) : Exec σ Flow := do
  Exec.modifyRegisters f
  pure .next

/-- Execute `instruction`, which lies at `pc`. The PC register already holds
    the next address; `cntfrq` is the frequency reported for the counter. -/
def execute (cntfrq : UInt64) (pc : Address) (instruction : Instruction) : Exec σ Flow :=
  match instruction with
  | .moveWide sf op rd imm16 hw => compute (Compute.moveWide · sf op rd imm16 hw)
  | .addSubImm sf sub setFlags rd rn imm => compute (Compute.addSubImm · sf sub setFlags rd rn imm)
  | .addSubReg sf sub setFlags rd rn rm shift amount =>
      compute (Compute.addSubReg · sf sub setFlags rd rn rm shift amount)
  | .logicalImm sf op rd rn imm => compute (Compute.logicalImm · sf op rd rn imm)
  | .logicalReg sf op invert rd rn rm shift amount =>
      compute (Compute.logicalReg · sf op invert rd rn rm shift amount)
  | .bitfield sf op rd rn immr imms => compute (Compute.bitfield · sf op rd rn immr imms)
  | .condSelect sf op rd rn rm cond => compute (Compute.condSelect · sf op rd rn rm cond)
  | .mulAdd sf sub rd rn rm ra => compute (Compute.mulAdd · sf sub rd rn rm ra)
  | .dataProc2 sf op rd rn rm => compute (Compute.dataProc2 · sf op rd rn rm)
  | .adr rd offset page => compute (Compute.adr · pc rd offset page)
  | .branch link offset => do
      Exec.modifyRegisters (linkRegister link pc)
      pure (.jump (displace pc offset))
  | .branchCond cond offset => do
      let regs ← Exec.registers
      pure (branchIf ((Flags.ofWord regs.nzcv).satisfy cond) pc offset)
  | .compareBranch sf nonzero rt offset => do
      let regs ← Exec.registers
      pure (branchIf ((operand sf (regs.xzr rt) == 0) != nonzero) pc offset)
  | .testBranch nonzero rt bit offset => do
      let regs ← Exec.registers
      pure (branchIf ((regs.xzr rt).toBitVec.getLsbD bit.toNat == nonzero) pc offset)
  | .branchReg link rn => do
      let regs ← Exec.registers
      Exec.modifyRegisters (linkRegister link pc)
      pure (.jump (regs.xzr rn))
  | .ret rn => do
      let regs ← Exec.registers
      pure (.jump (regs.xzr rn))
  | .loadStore op w rt rn addressing => do
      let regs ← Exec.registers
      let (addr, base) := effectiveAddress regs rn addressing
      access env op w rt addr
      Exec.modifyRegisters (writeBack rn base)
      pure .next
  | .loadLiteral op w rt offset => do
      access env op w rt (displace pc offset)
      pure .next
  | .loadStorePair load vector w rt rt2 rn addressing => do
      let regs ← Exec.registers
      let (addr, base) := effectiveAddress regs rn addressing
      access env (pairAccess load vector) w rt addr
      access env (pairAccess load vector) w rt2 (addr + w.size)
      Exec.modifyRegisters (writeBack rn base)
      pure .next
  | .loadExclusive w rt rn => do
      let regs ← Exec.registers
      let value ← Exec.tryHook (env.exclusiveRead w pc (regs.xsp rn))
      Exec.modifyRegisters (·.setXzr rt (UInt64.ofBitVec (value.setWidth 64)))
      pure .next
  | .storeExclusive w rs rt rn => do
      let regs ← Exec.registers
      let committed ← Exec.tryHook
        (env.exclusiveWrite w pc (regs.xsp rn) ((regs.xzr rt).toBitVec.setWidth w.bits))
      Exec.modifyRegisters (·.setXzr rs (exclusiveStatus committed))
      pure .next
  | .loadExclusivePair w rt rt2 rn => do
      let regs ← Exec.registers
      loadExclusivePair env pc w rt rt2 (regs.xsp rn)
      pure .next
  | .storeExclusivePair w rs rt rt2 rn => do
      let regs ← Exec.registers
      storeExclusivePair env pc w rs rt rt2 (regs.xsp rn)
      pure .next
  | .loadAcquire w rt rn => do
      let regs ← Exec.registers
      access env .load w rt (regs.xsp rn)
      pure .next
  | .storeRelease w rt rn => do
      let regs ← Exec.registers
      access env .store w rt (regs.xsp rn)
      pure .next
  | .clearExclusive => do
      Exec.hook fun s => ((), env.clearExclusive s)
      pure .next
  | .barrier => pure .next
  | .instructionBarrier => do
      Exec.tryHook (env.instructionBarrier pc)
      pure .endBlock
  | .hint op =>
      match op.event? with
      | none => pure .next
      | some event => do
          Exec.tryHook (env.raise pc event)
          pure .endBlock
  | .dataCache op rt => do
      let regs ← Exec.registers
      let addr := regs.xzr rt
      match op with
      | .zeroByVa => do
          zeroDoubles env (addr &&& ~~~(zvaBlockSize - 1)) 8
          pure .next
      | op => do
          Exec.tryHook (env.dataCache pc op addr)
          pure .endBlock
  | .instructionCache op rt => do
      let regs ← Exec.registers
      let addr := regs.xzr rt
      Exec.tryHook (env.instructionCache pc op addr)
      match op with
      | .invalidateByVaToPou =>
          pure (.invalidate (some (addr &&& ~~~(icacheLineSize - 1), icacheLineSize)))
      | _ => pure (.invalidate none)
  | .mrs rt reg => do
      let value ← readSystem env cntfrq reg
      Exec.modifyRegisters (·.setXzr rt value)
      pure .next
  | .msr rt reg => do
      let ctx ← Exec.context
      match writeSystem? ctx reg (ctx.registers.xzr rt) with
      | some ctx => do
          Exec.modifyContext fun _ => ctx
          pure .next
      | none => do
          Exec.tryHook (env.fallback pc 0)
          pure .endBlock
  | .svc imm => do
      env.callSupervisor (UInt32.ofNat imm.toNat)
      pure .endBlock
  | .brk _ => do
      Exec.tryHook (env.raise pc .breakpoint)
      pure .endBlock
  | .udf _ => do
      Exec.tryHook (env.raise pc .unallocatedEncoding)
      pure .endBlock
  | .unknown word => do
      Exec.tryHook (env.fallback pc (UInt32.ofBitVec word))
      pure .endBlock

end GuestMachine.A64
