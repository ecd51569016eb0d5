import GuestMachine.Proofs.A64.CheckedArithmetic

/-! # Registers by number

The register file of a host that checks which register it is asked for, and the
instructions that only compute, with every operation checked.
-/

namespace GuestMachine.A64.Checked

def general (file : RegisterFile) (n : Nat) : Except Trap UInt64 :=
  if h : n < 31 then pure file.x[n] else throw .index

def setGeneral (file : RegisterFile) (n : Nat) (value : UInt64) : Except Trap RegisterFile :=
  if h : n < 31 then pure { file with x := file.x.set n value } else throw .index

/-- General register `n`, where 31 is the zero register. -/
def xzr (file : RegisterFile) (n : Nat) : Except Trap UInt64 :=
  if n = 31 then pure 0 else general file n

def setXzr (file : RegisterFile) (n : Nat) (value : UInt64) : Except Trap RegisterFile :=
  if n = 31 then pure file else setGeneral file n value

/-- General register `n`, where 31 is the stack pointer. -/
def xsp (file : RegisterFile) (n : Nat) : Except Trap UInt64 :=
  if n = 31 then pure file.sp else general file n

def setXsp (file : RegisterFile) (n : Nat) (value : UInt64) : Except Trap RegisterFile :=
  if n = 31 then pure { file with sp := value } else setGeneral file n value

def vector (file : RegisterFile) (n : Nat) : Except Trap (BitVec 128) :=
  if h : n < 32 then pure file.v[n] else throw .index

def setVector (file : RegisterFile) (n : Nat) (value : BitVec 128) : Except Trap RegisterFile :=
  if h : n < 32 then pure { file with v := file.v.set n value } else throw .index

section

variable (file : RegisterFile) (n : RegNum)

/-- Number 31 is none of the general registers, and all others are. -/
theorem last_or_general (last : α) (get : (n : Nat) → n < 31 → α) :
    (if n.toNat = 31 then pure last
      else if h : n.toNat < 31 then pure (get n.toNat h) else throw .index : Except Trap α) =
      .ok (if h : n.toNat < 31 then get n.toNat h else last) := by
  by_cases below : n.toNat < 31
  · rw [if_neg (Nat.ne_of_lt below), dif_pos below, dif_pos below]
    rfl
  · have within : n.toNat < 32 := n.isLt
    have last : n.toNat = 31 := by omega
    rw [if_pos last, dif_neg below]
    rfl

@[simp] theorem xzr_eq : xzr file n.toNat = .ok (file.xzr n) :=
  last_or_general n 0 fun n h => file.x[n]

@[simp] theorem setXzr_eq (value : UInt64) :
    setXzr file n.toNat value = .ok (file.setXzr n value) :=
  last_or_general n file fun n h => { file with x := file.x.set n value }

@[simp] theorem xsp_eq : xsp file n.toNat = .ok (file.xsp n) :=
  last_or_general n file.sp fun n h => file.x[n]

@[simp] theorem setXsp_eq (value : UInt64) :
    setXsp file n.toNat value = .ok (file.setXsp n value) :=
  last_or_general (α := RegisterFile) n { file with sp := value } fun n h =>
    { file with x := file.x.set n value }

@[simp] theorem vector_eq : vector file n.toNat = .ok (file.vector n) :=
  dif_pos n.isLt

@[simp] theorem setVector_eq (value : BitVec 128) :
    setVector file n.toNat value = .ok (file.setVector n value) :=
  dif_pos n.isLt

end

namespace Compute

def moveWide (regs : RegisterFile) (sf : Bool) (op : MoveWideOp) (rd : RegNum) (imm16 : BitVec 16)
    (hw : BitVec 2) : Except Trap RegisterFile := do
  setXzr regs rd.toNat (← Checked.moveWide sf op (← xzr regs rd.toNat) imm16 hw)

def addSubImm (regs : RegisterFile) (sf sub setFlags : Bool) (rd rn : RegNum) (imm : UInt64) :
    Except Trap RegisterFile := do
  let (value, flags) ← addSub sf sub (← xsp regs rn.toNat) imm
  if setFlags then setXzr { regs with nzcv := flags.toWord } rd.toNat value
  else setXsp regs rd.toNat value

def addSubReg (regs : RegisterFile) (sf sub setFlags : Bool) (rd rn rm : RegNum)
    (shift : ShiftType) (amount : BitVec 6) : Except Trap RegisterFile := do
  let shifted ← shiftValue sf shift (← xzr regs rm.toNat) (amount.setWidth 32)
  let (value, flags) ← addSub sf sub (← xzr regs rn.toNat) shifted
  let regs := if setFlags then { regs with nzcv := flags.toWord } else regs
  setXzr regs rd.toNat value

def logicalImm (regs : RegisterFile) (sf : Bool) (op : LogicalOp) (rd rn : RegNum) (imm : UInt64) :
    Except Trap RegisterFile := do
  match logical sf op (← xzr regs rn.toNat) imm with
  | (value, some flags) => setXzr { regs with nzcv := flags.toWord } rd.toNat value
  | (value, none) => setXsp regs rd.toNat value

def logicalReg (regs : RegisterFile) (sf : Bool) (op : LogicalOp) (invert : Bool)
    (rd rn rm : RegNum) (shift : ShiftType) (amount : BitVec 6) : Except Trap RegisterFile := do
  let shifted ← shiftValue sf shift (← xzr regs rm.toNat) (amount.setWidth 32)
  let second := if invert then ~~~shifted else shifted
  match logical sf op (← xzr regs rn.toNat) second with
  | (value, some flags) => setXzr { regs with nzcv := flags.toWord } rd.toNat value
  | (value, none) => setXzr regs rd.toNat value

def bitfield (regs : RegisterFile) (sf : Bool) (op : BitfieldOp) (rd rn : RegNum)
    (immr imms : BitVec 6) : Except Trap RegisterFile := do
  let value ← Checked.bitfield sf op (← xzr regs rd.toNat) (← xzr regs rn.toNat)
    (immr.setWidth 32) (imms.setWidth 32)
  setXzr regs rd.toNat value

def condSelect (regs : RegisterFile) (sf : Bool) (op : CondSelectOp) (rd rn rm : RegNum)
    (cond : BitVec 4) : Except Trap RegisterFile := do
  if (Flags.ofWord regs.nzcv).satisfy cond then
    setXzr regs rd.toNat (truncate sf (← xzr regs rn.toNat).toBitVec)
  else
    setXzr regs rd.toNat (truncate sf (condSelectElse op (← xzr regs rm.toNat).toBitVec))

def mulAdd (regs : RegisterFile) (sf sub : Bool) (rd rn rm ra : RegNum) :
    Except Trap RegisterFile := do
  let value := A64.mulAdd sub (← xzr regs ra.toNat).toBitVec (← xzr regs rn.toNat).toBitVec
    (← xzr regs rm.toNat).toBitVec
  setXzr regs rd.toNat (truncate sf value)

def dataProc2 (regs : RegisterFile) (sf : Bool) (op : DataProc2Op) (rd rn rm : RegNum) :
    Except Trap RegisterFile := do
  setXzr regs rd.toNat
    (← Checked.dataProc2 sf op (← xzr regs rn.toNat) (← xzr regs rm.toNat))

def adr (regs : RegisterFile) (pc : Address) (rd : RegNum) (offset : Int) (page : Bool) :
    Except Trap RegisterFile :=
  setXzr regs rd.toNat
    (if page then displace (pc &&& ~~~0xFFF) (offset * 4096) else displace pc offset)

section

variable (regs : RegisterFile) (sf : Bool)

theorem moveWide_eq {hw : BitVec 2} (fits : 16 * hw.toNat < dataSize sf) (op : MoveWideOp)
    (rd : RegNum) (imm16 : BitVec 16) :
    moveWide regs sf op rd imm16 hw = .ok (A64.Compute.moveWide regs sf op rd imm16 hw) := by
  simp only [moveWide, xzr_eq, ok_bind, Checked.moveWide_eq fits, setXzr_eq, A64.Compute.moveWide]

theorem addSubImm_eq (sub setFlags : Bool) (rd rn : RegNum) (imm : UInt64) :
    addSubImm regs sf sub setFlags rd rn imm =
      .ok (A64.Compute.addSubImm regs sf sub setFlags rd rn imm) := by
  cases setFlags <;>
    simp only [addSubImm, xsp_eq, ok_bind, addSub_eq, setXzr_eq, setXsp_eq, A64.Compute.addSubImm,
      if_true, Bool.false_eq_true, if_false]

theorem addSubReg_eq (sub setFlags : Bool) (rd rn rm : RegNum) (shift : ShiftType)
    (amount : BitVec 6) :
    addSubReg regs sf sub setFlags rd rn rm shift amount =
      .ok (A64.Compute.addSubReg regs sf sub setFlags rd rn rm shift amount) := by
  have low : (amount.setWidth 32).toNat = amount.toNat := BitVec.toNat_setWidth_of_le (by decide)
  simp only [addSubReg, xzr_eq, ok_bind, shiftValue_eq, addSub_eq, operand_result, setXzr_eq,
    A64.Compute.addSubReg, low]

theorem logicalImm_eq (op : LogicalOp) (rd rn : RegNum) (imm : UInt64) :
    logicalImm regs sf op rd rn imm = .ok (A64.Compute.logicalImm regs sf op rd rn imm) := by
  simp only [logicalImm, xzr_eq, ok_bind, logical_eq, A64.Compute.logicalImm]
  obtain ⟨value, _ | flags⟩ := A64.logical op (operand sf (regs.xzr rn)) (operand sf imm)
  · exact setXsp_eq ..
  · exact setXzr_eq ..

theorem logicalReg_eq (op : LogicalOp) (invert : Bool) (rd rn rm : RegNum) (shift : ShiftType)
    (amount : BitVec 6) :
    logicalReg regs sf op invert rd rn rm shift amount =
      .ok (A64.Compute.logicalReg regs sf op invert rd rn rm shift amount) := by
  have low : (amount.setWidth 32).toNat = amount.toNat := BitVec.toNat_setWidth_of_le (by decide)
  have second (shifted : BitVec (dataSize sf)) :
      operand sf (if invert then ~~~result sf shifted else result sf shifted) =
        if invert then ~~~shifted else shifted := by
    cases invert with
    | true => exact (operand_not ..).trans (congrArg _ (operand_result ..))
    | false => exact operand_result ..
  simp only [logicalReg, xzr_eq, ok_bind, shiftValue_eq, logical_eq, A64.Compute.logicalReg, low,
    second]
  obtain ⟨value, _ | flags⟩ := A64.logical op (operand sf (regs.xzr rn)) _
  · exact setXzr_eq ..
  · exact setXzr_eq ..

theorem bitfield_eq {immr imms : BitVec 6} (rotation : immr.toNat < dataSize sf)
    (top : imms.toNat < dataSize sf) (op : BitfieldOp) (rd rn : RegNum) :
    bitfield regs sf op rd rn immr imms =
      .ok (A64.Compute.bitfield regs sf op rd rn immr imms) := by
  simp only [bitfield, xzr_eq, ok_bind, Checked.bitfield_eq _ _ _ rotation top, setXzr_eq,
    A64.Compute.bitfield]

theorem condSelect_eq (op : CondSelectOp) (rd rn rm : RegNum) (cond : BitVec 4) :
    condSelect regs sf op rd rn rm cond =
      .ok (A64.Compute.condSelect regs sf op rd rn rm cond) := by
  unfold condSelect A64.Compute.condSelect
  split
  · simp only [xzr_eq, ok_bind, truncate_eq, setXzr_eq]
    rfl
  · simp only [xzr_eq, ok_bind, truncate_eq, setWidth_condSelectElse (dataSize_le sf), setXzr_eq]
    rfl

theorem mulAdd_eq (sub : Bool) (rd rn rm ra : RegNum) :
    mulAdd regs sf sub rd rn rm ra = .ok (A64.Compute.mulAdd regs sf sub rd rn rm ra) := by
  simp only [mulAdd, xzr_eq, ok_bind, truncate_eq, setWidth_mulAdd (dataSize_le sf), setXzr_eq]
  rfl

theorem dataProc2_eq (op : DataProc2Op) (rd rn rm : RegNum) :
    dataProc2 regs sf op rd rn rm = .ok (A64.Compute.dataProc2 regs sf op rd rn rm) := by
  simp only [dataProc2, xzr_eq, ok_bind, Checked.dataProc2_eq, setXzr_eq, A64.Compute.dataProc2]

theorem adr_eq (pc : Address) (rd : RegNum) (offset : Int) (page : Bool) :
    adr regs pc rd offset page = .ok (A64.Compute.adr regs pc rd offset page) :=
  setXzr_eq ..

end

end Compute

end GuestMachine.A64.Checked
