import GuestMachine.Proofs.A64.Fields
import GuestMachine.Proofs.A64.Masks

/-! # The A64 encoding of the subset

Every instruction form of the subset with the choices its fields leave, the
word it is encoded as and the instruction it stands for. The words are written
as in the architecture's encoding diagrams, and nothing here refers to the
decoder. Bits that are reserved but not checked by a core are fields of a form
like all others.
-/

namespace GuestMachine.A64

def MoveWideOp.opc : MoveWideOp → BitVec 2
  | movn => 0b00
  | movz => 0b10
  | movk => 0b11

def LogicalOp.opc : LogicalOp → BitVec 2
  | and => 0b00
  | orr => 0b01
  | eor => 0b10
  | ands => 0b11

def BitfieldOp.opc : BitfieldOp → BitVec 2
  | sbfm => 0b00
  | bfm => 0b01
  | ubfm => 0b10

def ShiftType.code : ShiftType → BitVec 2
  | lsl => 0b00
  | lsr => 0b01
  | asr => 0b10
  | ror => 0b11

/-- Bit 30 of a conditional select. -/
def CondSelectOp.op : CondSelectOp → Bool
  | csel | csinc => false
  | csinv | csneg => true

/-- Bit 10 of a conditional select. -/
def CondSelectOp.o2 : CondSelectOp → Bool
  | csel | csinv => false
  | csinc | csneg => true

def DataProc2Op.opcode : DataProc2Op → BitVec 6
  | udiv => 0b000010
  | sdiv => 0b000011
  | lslv => 0b001000
  | lsrv => 0b001001
  | asrv => 0b001010
  | rorv => 0b001011

def Extend.option : Extend → BitVec 3
  | uxtw => 0b010
  | lsl => 0b011
  | sxtw => 0b110
  | sxtx => 0b111

/-- CRm:op2 of a hint. -/
def HintOp.code : HintOp → BitVec 7
  | nop => 0
  | yield => 1
  | wfe => 2
  | wfi => 3
  | sev => 4
  | sevl => 5

/-- The size field of an access of up to eight bytes. -/
def sizeField (w : Width) : BitVec 2 :=
  BitVec.ofNat 2 w.log2

/-- op1, CRm and op2 of a cache operation, whose CRn is 7. -/
def CacheOp.fields : CacheOp → BitVec 3 × BitVec 4 × BitVec 3
  | .data .zeroByVa => (3, 4, 1)
  | .data .invalidateByVaToPoc => (0, 6, 1)
  | .data .invalidateBySetWay => (0, 6, 2)
  | .data .cleanByVaToPoc => (3, 10, 1)
  | .data .cleanBySetWay => (0, 10, 2)
  | .data .cleanByVaToPou => (3, 11, 1)
  | .data .cleanAndInvalidateByVaToPoc => (3, 14, 1)
  | .data .cleanAndInvalidateBySetWay => (0, 14, 2)
  | .instruction .invalidateAllToPouInnerShareable => (0, 1, 0)
  | .instruction .invalidateAllToPou => (0, 5, 0)
  | .instruction .invalidateByVaToPou => (3, 5, 1)

/-- op1, CRn, CRm and op2 of a system register, whose op0 is 3. -/
def SystemRegister.fields : SystemRegister → BitVec 3 × BitVec 4 × BitVec 4 × BitVec 3
  | tpidrEl0 => (3, 13, 0, 2)
  | tpidrroEl0 => (3, 13, 0, 3)
  | cntfrqEl0 => (3, 14, 0, 0)
  | cntpctEl0 => (3, 14, 0, 1)
  | cntvctEl0 => (3, 14, 0, 2)
  | nzcv => (3, 4, 2, 0)
  | fpcr => (3, 4, 4, 0)
  | fpsr => (3, 4, 4, 1)
  | ctrEl0 => (3, 0, 0, 1)
  | dczidEl0 => (3, 0, 0, 7)

inductive ImmediateForm where
  | adr (page : Bool) (offset : BitVec 21) (rd : RegNum)
  | addSub (sf sub setFlags shift12 : Bool) (imm : BitVec 12) (rn rd : RegNum)
  | logical (sf : Bool) (op : LogicalOp) (mask : MaskField) (fits : mask.Fits sf)
      (immr : BitVec 6) (rn rd : RegNum)
  | moveWide (sf : Bool) (op : MoveWideOp) (hw : BitVec 2) (fits : 16 * hw.toNat < dataSize sf)
      (imm : BitVec 16) (rd : RegNum)
  | bitfield (sf : Bool) (op : BitfieldOp) (immr imms : BitVec 6)
      (rotation : immr.toNat < dataSize sf) (top : imms.toNat < dataSize sf) (rn rd : RegNum)

namespace ImmediateForm

def word : ImmediateForm → BitVec 32
  | adr page offset rd =>
      BitVec.ofBool page ++ slice offset 0 2 ++ 0b10000#5 ++ slice offset 2 19 ++ rd
  | addSub sf sub setFlags shift12 imm rn rd =>
      BitVec.ofBool sf ++ BitVec.ofBool sub ++ BitVec.ofBool setFlags ++ 0b100010#6 ++
        BitVec.ofBool shift12 ++ imm ++ rn ++ rd
  | logical sf op mask _ immr rn rd =>
      BitVec.ofBool sf ++ op.opc ++ 0b100100#6 ++ BitVec.ofBool mask.n ++ immr ++ mask.imms ++
        rn ++ rd
  | moveWide sf op hw _ imm rd =>
      BitVec.ofBool sf ++ op.opc ++ 0b100101#6 ++ hw ++ imm ++ rd
  | bitfield sf op immr imms _ _ rn rd =>
      BitVec.ofBool sf ++ op.opc ++ 0b100110#6 ++ BitVec.ofBool sf ++ immr ++ imms ++ rn ++ rd

def instruction : ImmediateForm → Instruction
  | adr page offset rd => .adr rd offset.toInt page
  | addSub sf sub setFlags shift12 imm rn rd =>
      .addSubImm sf sub setFlags rd rn
        (UInt64.ofNat (if shift12 then imm.toNat * 4096 else imm.toNat))
  | logical sf op mask _ immr rn rd => .logicalImm sf op rd rn (mask.immediate sf immr)
  | moveWide sf op hw _ imm rd => .moveWide sf op rd imm hw
  | bitfield sf op immr imms _ _ rn rd => .bitfield sf op rd rn immr imms

end ImmediateForm

inductive RegisterForm where
  | logical (sf : Bool) (op : LogicalOp) (shift : ShiftType) (invert : Bool) (rm : RegNum)
      (amount : BitVec 6) (fits : amount.toNat < dataSize sf) (rn rd : RegNum)
  /-- Without rotation. -/
  | addSub (sf sub setFlags : Bool) (shift : ShiftType) (straight : shift ≠ .ror) (rm : RegNum)
      (amount : BitVec 6) (fits : amount.toNat < dataSize sf) (rn rd : RegNum)
  | condSelect (sf : Bool) (op : CondSelectOp) (rm : RegNum) (cond : BitVec 4) (rn rd : RegNum)
  | dataProc2 (sf : Bool) (rm : RegNum) (op : DataProc2Op) (rn rd : RegNum)
  | mulAdd (sf : Bool) (rm : RegNum) (sub : Bool) (ra rn rd : RegNum)

namespace RegisterForm

def word : RegisterForm → BitVec 32
  | logical sf op shift invert rm amount _ rn rd =>
      BitVec.ofBool sf ++ op.opc ++ 0b01010#5 ++ shift.code ++ BitVec.ofBool invert ++ rm ++
        amount ++ rn ++ rd
  | addSub sf sub setFlags shift _ rm amount _ rn rd =>
      BitVec.ofBool sf ++ BitVec.ofBool sub ++ BitVec.ofBool setFlags ++ 0b01011#5 ++ shift.code ++
        0b0#1 ++ rm ++ amount ++ rn ++ rd
  | condSelect sf op rm cond rn rd =>
      BitVec.ofBool sf ++ BitVec.ofBool op.op ++ 0b011010100#9 ++ rm ++ cond ++ 0b0#1 ++
        BitVec.ofBool op.o2 ++ rn ++ rd
  | dataProc2 sf rm op rn rd =>
      BitVec.ofBool sf ++ 0b0011010110#10 ++ rm ++ op.opcode ++ rn ++ rd
  | mulAdd sf rm sub ra rn rd =>
      BitVec.ofBool sf ++ 0b0011011000#10 ++ rm ++ BitVec.ofBool sub ++ ra ++ rn ++ rd

def instruction : RegisterForm → Instruction
  | logical sf op shift invert rm amount _ rn rd => .logicalReg sf op invert rd rn rm shift amount
  | addSub sf sub setFlags shift _ rm amount _ rn rd =>
      .addSubReg sf sub setFlags rd rn rm shift amount
  | condSelect sf op rm cond rn rd => .condSelect sf op rd rn rm cond
  | dataProc2 sf rm op rn rd => .dataProc2 sf op rd rn rm
  | mulAdd sf rm sub ra rn rd => .mulAdd sf sub rd rn rm ra

end RegisterForm

inductive BranchForm where
  | branch (link : Bool) (imm : BitVec 26)
  | compare (sf nonzero : Bool) (imm : BitVec 19) (rt : RegNum)
  | test (bit : BitVec 6) (nonzero : Bool) (imm : BitVec 14) (rt : RegNum)
  | conditional (imm : BitVec 19) (cond : BitVec 4)
  | register (link : Bool) (rn : RegNum)
  | ret (rn : RegNum)
  | supervisorCall (imm : BitVec 16)
  | breakpoint (imm : BitVec 16)

namespace BranchForm

def word : BranchForm → BitVec 32
  | branch link imm => BitVec.ofBool link ++ 0b00101#5 ++ imm
  | compare sf nonzero imm rt =>
      BitVec.ofBool sf ++ 0b011010#6 ++ BitVec.ofBool nonzero ++ imm ++ rt
  | test bit nonzero imm rt =>
      slice bit 5 1 ++ 0b011011#6 ++ BitVec.ofBool nonzero ++ slice bit 0 5 ++ imm ++ rt
  | conditional imm cond => 0b01010100#8 ++ imm ++ 0b0#1 ++ cond
  | register link rn =>
      0b1101011000#10 ++ BitVec.ofBool link ++ 0b11111000000#11 ++ rn ++ 0b00000#5
  | ret rn => 0b1101011001011111000000#22 ++ rn ++ 0b00000#5
  | supervisorCall imm => 0b11010100000#11 ++ imm ++ 0b00001#5
  | breakpoint imm => 0b11010100001#11 ++ imm ++ 0b00000#5

def instruction : BranchForm → Instruction
  | branch link imm => .branch link (imm.toInt * 4)
  | compare sf nonzero imm rt => .compareBranch sf nonzero rt (imm.toInt * 4)
  | test bit nonzero imm rt => .testBranch nonzero rt bit (imm.toInt * 4)
  | conditional imm cond => .branchCond cond (imm.toInt * 4)
  | register link rn => .branchReg link rn
  | ret rn => .ret rn
  | supervisorCall imm => .svc imm
  | breakpoint imm => .brk imm

end BranchForm

inductive SystemForm where
  | hint (op : HintOp)
  /-- A hint that a core may ignore. -/
  | otherHint (code : BitVec 7) (unnamed : 6 ≤ code.toNat)
  | clearExclusive (crm : BitVec 4)
  | dataSynchronizationBarrier (crm : BitVec 4)
  | dataMemoryBarrier (crm : BitVec 4)
  | instructionBarrier (crm : BitVec 4)
  | cache (op : CacheOp) (rt : RegNum)
  | mrs (reg : SystemRegister) (rt : RegNum)
  | msr (reg : SystemRegister) (writable : reg ∈ [.tpidrEl0, .fpcr, .fpsr, .nzcv]) (rt : RegNum)

namespace SystemForm

/-- A move between a general and a system register. -/
def moveWord (read : Bool) (reg : SystemRegister) (rt : RegNum) : BitVec 32 :=
  let (op1, crn, crm, op2) := reg.fields
  0b1101010100#10 ++ BitVec.ofBool read ++ 0b11#2 ++ op1 ++ crn ++ crm ++ op2 ++ rt

def word : SystemForm → BitVec 32
  | hint op => 0b11010101000000110010#20 ++ op.code ++ 0b11111#5
  | otherHint code _ => 0b11010101000000110010#20 ++ code ++ 0b11111#5
  | clearExclusive crm => 0b11010101000000110011#20 ++ crm ++ 0b010#3 ++ 0b11111#5
  | dataSynchronizationBarrier crm => 0b11010101000000110011#20 ++ crm ++ 0b100#3 ++ 0b11111#5
  | dataMemoryBarrier crm => 0b11010101000000110011#20 ++ crm ++ 0b101#3 ++ 0b11111#5
  | instructionBarrier crm => 0b11010101000000110011#20 ++ crm ++ 0b110#3 ++ 0b11111#5
  | cache op rt =>
      let (op1, crm, op2) := op.fields
      0b1101010100001#13 ++ op1 ++ 0b0111#4 ++ crm ++ op2 ++ rt
  | mrs reg rt => moveWord true reg rt
  | msr reg _ rt => moveWord false reg rt

def instruction : SystemForm → Instruction
  | hint op => .hint op
  | otherHint _ _ => .hint .nop
  | clearExclusive _ => .clearExclusive
  | dataSynchronizationBarrier _ => .barrier
  | dataMemoryBarrier _ => .barrier
  | instructionBarrier _ => .instructionBarrier
  | cache (.data op) rt => .dataCache op rt
  | cache (.instruction op) rt => .instructionCache op rt
  | mrs reg rt => .mrs rt reg
  | msr reg _ rt => .msr rt reg

end SystemForm

/-- The widths that a register access comes in. -/
def MemOp.Supports : MemOp → Width → Prop
  | store, w | load, w => w ≠ .quad
  | loadSigned to64, w => w.log2 < if to64 then 3 else 2
  | storeVector, _ | loadVector, _ => True

instance : (op : MemOp) → (w : Width) → Decidable (op.Supports w)
  | .store, w => inferInstanceAs (Decidable (w ≠ .quad))
  | .load, w => inferInstanceAs (Decidable (w ≠ .quad))
  | .loadSigned to64, w => inferInstanceAs (Decidable (w.log2 < if to64 then 3 else 2))
  | .storeVector, _ => inferInstanceAs (Decidable True)
  | .loadVector, _ => inferInstanceAs (Decidable True)

def MemOp.isVector : MemOp → Bool
  | store | load | loadSigned _ => false
  | storeVector | loadVector => true

/-- An access of a single register. -/
structure SingleAccess where
  op : MemOp
  width : Width
  supported : op.Supports width

namespace SingleAccess

def size (access : SingleAccess) : BitVec 2 :=
  match access.width with
  | .quad => 0b00
  | w => sizeField w

def opc (access : SingleAccess) : BitVec 2 :=
  match access.op, access.width with
  | .store, _ => 0b00
  | .load, _ => 0b01
  | .loadSigned true, _ => 0b10
  | .loadSigned false, _ => 0b11
  | .storeVector, .quad => 0b10
  | .loadVector, .quad => 0b11
  | .storeVector, _ => 0b00
  | .loadVector, _ => 0b01

end SingleAccess

/-- The widths that a pair access comes in. -/
def PairSupports (vector : Bool) (w : Width) : Prop :=
  w = .word ∨ w = .double ∨ vector = true ∧ w = .quad

/-- An access of a register pair. -/
structure PairAccess where
  load : Bool
  vector : Bool
  width : Width
  supported : PairSupports vector width

def PairAccess.opc (access : PairAccess) : BitVec 2 :=
  match access.vector, access.width with
  | true, .quad => 0b10
  | true, .double => 0b01
  | false, .double => 0b10
  | _, _ => 0b00

/-- How a nine-bit offset is used. -/
inductive OffsetMode where
  | unscaled
  | postIndex
  | unprivileged
  | preIndex

namespace OffsetMode

def code : OffsetMode → BitVec 2
  | unscaled => 0b00
  | postIndex => 0b01
  | unprivileged => 0b10
  | preIndex => 0b11

def addressing (offset : Int) : OffsetMode → Addressing
  | unscaled | unprivileged => .offset offset
  | postIndex => .postIndex offset
  | preIndex => .preIndex offset

end OffsetMode

/-- How the offset of a pair is used. -/
inductive PairMode where
  /-- With a hint that the data is not used again. -/
  | nonTemporal
  | postIndex
  | offset
  | preIndex

namespace PairMode

def code : PairMode → BitVec 3
  | nonTemporal => 0b000
  | postIndex => 0b001
  | offset => 0b010
  | preIndex => 0b011

def addressing (bytes : Int) : PairMode → Addressing
  | nonTemporal | offset => .offset bytes
  | postIndex => .postIndex bytes
  | preIndex => .preIndex bytes

end PairMode

/-- What a literal load loads. -/
inductive LiteralLoad where
  | word
  | double
  | signedWord

def LiteralLoad.opc : LiteralLoad → BitVec 2
  | word => 0b00
  | double => 0b01
  | signedWord => 0b10

inductive LoadStoreForm where
  | scaled (access : SingleAccess) (imm : BitVec 12) (rn rt : RegNum)
  | indexed (access : SingleAccess) (mode : OffsetMode)
      (general : mode = .unprivileged → access.op.isVector = false) (imm : BitVec 9)
      (rn rt : RegNum)
  | register (access : SingleAccess) (rm : RegNum) (extend : Extend) (shifted : Bool)
      (rn rt : RegNum)
  | literal (load : LiteralLoad) (imm : BitVec 19) (rt : RegNum)
  | pair (access : PairAccess) (mode : PairMode) (imm : BitVec 7) (rt2 rn rt : RegNum)
  /-- `rs` and `rt2` are not used. -/
  | loadExclusive (w : Width) (single : w ≠ .quad) (rs : RegNum) (acquire : Bool)
      (rt2 rn rt : RegNum)
  /-- `rt2` is not used. -/
  | storeExclusive (w : Width) (single : w ≠ .quad) (rs : RegNum) (release : Bool)
      (rt2 rn rt : RegNum)
  /-- `rs` is not used. -/
  | loadExclusivePair (double : Bool) (rs : RegNum) (acquire : Bool) (rt2 rn rt : RegNum)
  | storeExclusivePair (double : Bool) (rs : RegNum) (release : Bool) (rt2 rn rt : RegNum)
  /-- `rs` and `rt2` are not used. -/
  | loadAcquire (w : Width) (single : w ≠ .quad) (rs rt2 rn rt : RegNum)
  /-- `rs` and `rt2` are not used. -/
  | storeRelease (w : Width) (single : w ≠ .quad) (rs rt2 rn rt : RegNum)

namespace LoadStoreForm

/-- Bits 23 to 21 of an exclusive or ordered access say which it is, and bit 15
    whether it is ordered. -/
def exclusiveWord (size : BitVec 2) (kind : BitVec 3) (rs : RegNum) (ordered : Bool)
    (rt2 rn rt : RegNum) : BitVec 32 :=
  size ++ 0b001000#6 ++ kind ++ rs ++ BitVec.ofBool ordered ++ rt2 ++ rn ++ rt

/-- The width of each half of a pair. -/
def halfWidth (double : Bool) : Width :=
  if double then .double else .word

def word : LoadStoreForm → BitVec 32
  | scaled access imm rn rt =>
      access.size ++ 0b111#3 ++ BitVec.ofBool access.op.isVector ++ 0b01#2 ++ access.opc ++ imm ++
        rn ++ rt
  | indexed access mode _ imm rn rt =>
      access.size ++ 0b111#3 ++ BitVec.ofBool access.op.isVector ++ 0b00#2 ++ access.opc ++ 0b0#1 ++
        imm ++ mode.code ++ rn ++ rt
  | register access rm extend shifted rn rt =>
      access.size ++ 0b111#3 ++ BitVec.ofBool access.op.isVector ++ 0b00#2 ++ access.opc ++ 0b1#1 ++
        rm ++ extend.option ++ BitVec.ofBool shifted ++ 0b10#2 ++ rn ++ rt
  | literal load imm rt => load.opc ++ 0b011#3 ++ 0b0#1 ++ 0b00#2 ++ imm ++ rt
  | pair access mode imm rt2 rn rt =>
      access.opc ++ 0b101#3 ++ BitVec.ofBool access.vector ++ mode.code ++
        BitVec.ofBool access.load ++ imm ++ rt2 ++ rn ++ rt
  | loadExclusive w _ rs acquire rt2 rn rt =>
      exclusiveWord (sizeField w) 0b010 rs acquire rt2 rn rt
  | storeExclusive w _ rs release rt2 rn rt =>
      exclusiveWord (sizeField w) 0b000 rs release rt2 rn rt
  | loadExclusivePair double rs acquire rt2 rn rt =>
      exclusiveWord (0b1#1 ++ BitVec.ofBool double) 0b011 rs acquire rt2 rn rt
  | storeExclusivePair double rs release rt2 rn rt =>
      exclusiveWord (0b1#1 ++ BitVec.ofBool double) 0b001 rs release rt2 rn rt
  | loadAcquire w _ rs rt2 rn rt => exclusiveWord (sizeField w) 0b110 rs true rt2 rn rt
  | storeRelease w _ rs rt2 rn rt => exclusiveWord (sizeField w) 0b100 rs true rt2 rn rt

def instruction : LoadStoreForm → Instruction
  | scaled access imm rn rt =>
      .loadStore access.op access.width rt rn (.offset (imm.toNat * access.width.bytes))
  | indexed access mode _ imm rn rt =>
      .loadStore access.op access.width rt rn (mode.addressing imm.toInt)
  | register access rm extend shifted rn rt =>
      .loadStore access.op access.width rt rn
        (.register rm extend (if shifted then access.width.log2 else 0))
  | literal .word imm rt => .loadLiteral .load .word rt (imm.toInt * 4)
  | literal .double imm rt => .loadLiteral .load .double rt (imm.toInt * 4)
  | literal .signedWord imm rt => .loadLiteral (.loadSigned true) .word rt (imm.toInt * 4)
  | pair access mode imm rt2 rn rt =>
      .loadStorePair access.load access.vector access.width rt rt2 rn
        (mode.addressing (imm.toInt * access.width.bytes))
  | loadExclusive w _ _ _ _ rn rt => .loadExclusive w rt rn
  | storeExclusive w _ rs _ _ rn rt => .storeExclusive w rs rt rn
  | loadExclusivePair double _ _ rt2 rn rt => .loadExclusivePair (halfWidth double) rt rt2 rn
  | storeExclusivePair double rs _ rt2 rn rt => .storeExclusivePair (halfWidth double) rs rt rt2 rn
  | loadAcquire w _ _ _ rn rt => .loadAcquire w rt rn
  | storeRelease w _ _ _ rn rt => .storeRelease w rt rn

end LoadStoreForm

inductive Form where
  | immediate (form : ImmediateForm)
  | register (form : RegisterForm)
  | branch (form : BranchForm)
  | system (form : SystemForm)
  | loadStore (form : LoadStoreForm)
  | undefined (imm : BitVec 16)

namespace Form

def word : Form → BitVec 32
  | immediate form => form.word
  | register form => form.word
  | branch form => form.word
  | system form => form.word
  | loadStore form => form.word
  | undefined imm => 0#16 ++ imm

def instruction : Form → Instruction
  | immediate form => form.instruction
  | register form => form.instruction
  | branch form => form.instruction
  | system form => form.instruction
  | loadStore form => form.instruction
  | undefined imm => .udf imm

end Form

end GuestMachine.A64
