import GuestMachine.A64.BitMask
import GuestMachine.A64.Instruction

/-! # Instruction decoding

From a 32-bit word to an instruction, one definition per encoding group. The
decoder is total: a word outside the subset is `unknown`.
-/

namespace GuestMachine.A64

/-- `len` bits of `raw` from bit `lo` up. -/
def bits (raw : BitVec 32) (lo len : Nat) : BitVec len :=
  raw.extractLsb' lo len

def bit (raw : BitVec 32) (pos : Nat) : Bool :=
  raw.getLsbD pos

def regAt (raw : BitVec 32) (lo : Nat) : RegNum :=
  bits raw lo 5

/-- A signed field counted in instruction words, as a byte offset. -/
def wordOffset (field : BitVec n) : Int :=
  field.toInt * 4

def ShiftType.ofBits (code : BitVec 2) : ShiftType :=
  match code.toNat with
  | 0 => .lsl
  | 1 => .lsr
  | 2 => .asr
  | _ => .ror

def LogicalOp.ofBits (code : BitVec 2) : LogicalOp :=
  match code.toNat with
  | 0 => .and
  | 1 => .orr
  | 2 => .eor
  | _ => .ands

/-- The four widths of a general register access. -/
def widthOfBits (code : BitVec 2) : Width :=
  match code.toNat with
  | 0 => .byte
  | 1 => .half
  | 2 => .word
  | _ => .double

/-- Shift amounts of a 32-bit form stay below 32. -/
def amountFits (sf : Bool) (amount : BitVec 6) : Bool :=
  sf || amount < 32

def decodeImmediate (raw : BitVec 32) : Instruction :=
  let sf := bit raw 31
  let opc := bits raw 29 2
  let rd := regAt raw 0
  let rn := regAt raw 5
  match (bits raw 23 3).toNat with
  | 0b000 | 0b001 => .adr rd (bits raw 5 19 ++ bits raw 29 2 : BitVec 21).toInt sf
  | 0b010 =>
      let imm12 := UInt64.ofNat (bits raw 10 12).toNat
      .addSubImm sf (bit raw 30) (bit raw 29) rd rn (if bit raw 22 then imm12 <<< 12 else imm12)
  | 0b100 =>
      match decodeBitMasks? sf (bit raw 22) (bits raw 10 6) (bits raw 16 6) with
      | some imm => .logicalImm sf (LogicalOp.ofBits opc) rd rn imm
      | none => .unknown raw
  | 0b101 =>
      let hw := bits raw 21 2
      let moveWide (op : MoveWideOp) : Instruction :=
        if sf || hw < 2 then .moveWide sf op rd (bits raw 5 16) hw else .unknown raw
      match opc.toNat with
      | 0b00 => moveWide .movn
      | 0b10 => moveWide .movz
      | 0b11 => moveWide .movk
      | _ => .unknown raw
  | 0b110 =>
      let immr := bits raw 16 6
      let imms := bits raw 10 6
      let bitfield (op : BitfieldOp) : Instruction :=
        if bit raw 22 == sf && amountFits sf immr && amountFits sf imms then
          .bitfield sf op rd rn immr imms
        else .unknown raw
      match opc.toNat with
      | 0b00 => bitfield .sbfm
      | 0b01 => bitfield .bfm
      | 0b10 => bitfield .ubfm
      | _ => .unknown raw
  | _ => .unknown raw

def HintOp.ofBits (code : BitVec 7) : HintOp :=
  match code.toNat with
  | 1 => .yield
  | 2 => .wfe
  | 3 => .wfi
  | 4 => .sev
  | 5 => .sevl
  | _ => .nop

/-- Cache maintenance by op1, CRm and op2, with CRn = 7. -/
def cacheOp? (op1 : BitVec 3) (crm : BitVec 4) (op2 : BitVec 3) : Option CacheOp :=
  match op1.toNat, crm.toNat, op2.toNat with
  | 3, 4, 1 => some (.data .zeroByVa)
  | 0, 6, 1 => some (.data .invalidateByVaToPoc)
  | 0, 6, 2 => some (.data .invalidateBySetWay)
  | 3, 10, 1 => some (.data .cleanByVaToPoc)
  | 0, 10, 2 => some (.data .cleanBySetWay)
  | 3, 11, 1 => some (.data .cleanByVaToPou)
  | 3, 14, 1 => some (.data .cleanAndInvalidateByVaToPoc)
  | 0, 14, 2 => some (.data .cleanAndInvalidateBySetWay)
  | 0, 5, 0 => some (.instruction .invalidateAllToPou)
  | 0, 1, 0 => some (.instruction .invalidateAllToPouInnerShareable)
  | 3, 5, 1 => some (.instruction .invalidateByVaToPou)
  | _, _, _ => none

def decodeSystem (raw : BitVec 32) : Instruction :=
  let rt := regAt raw 0
  if bits raw 12 20 = 0xD5032#20 ∧ rt = 31#5 then
    .hint (HintOp.ofBits (bits raw 5 7))
  else if bits raw 12 20 = 0xD5033#20 ∧ rt = 31#5 then
    match (bits raw 5 3).toNat with
    | 0b010 => .clearExclusive
    | 0b100 | 0b101 => .barrier
    | 0b110 => .instructionBarrier
    | _ => .unknown raw
  else if bits raw 19 13 = 0b1101010100001#13 then
    if bits raw 12 4 = 7#4 then
      match cacheOp? (bits raw 16 3) (bits raw 8 4) (bits raw 5 3) with
      | some (.data op) => .dataCache op rt
      | some (.instruction op) => .instructionCache op rt
      | none => .unknown raw
    else .unknown raw
  else if bits raw 22 10 = 0b1101010100#10 ∧ bit raw 20 then
    match SystemRegister.ofEncoding? (bits raw 5 16) with
    | some reg =>
        if bit raw 21 then .mrs rt reg
        else if reg.isWritable then .msr rt reg
        else .unknown raw
    | none => .unknown raw
  else .unknown raw

def decodeException (raw : BitVec 32) : Instruction :=
  match (bits raw 21 3).toNat, (bits raw 0 5).toNat with
  | 0, 1 => .svc (bits raw 5 16)
  | 1, 0 => .brk (bits raw 5 16)
  | _, _ => .unknown raw

def decodeBranchRegister (raw : BitVec 32) : Instruction :=
  let rn := regAt raw 5
  if bits raw 10 11 = 0b11111000000#11 ∧ bits raw 0 5 = 0#5 then
    match (bits raw 21 4).toNat with
    | 0b0000 => .branchReg false rn
    | 0b0001 => .branchReg true rn
    | 0b0010 => .ret rn
    | _ => .unknown raw
  else .unknown raw

def decodeBranchSystem (raw : BitVec 32) : Instruction :=
  if bits raw 26 5 = 0b00101#5 then
    .branch (bit raw 31) (wordOffset (bits raw 0 26))
  else if bits raw 25 6 = 0b011010#6 then
    .compareBranch (bit raw 31) (bit raw 24) (regAt raw 0) (wordOffset (bits raw 5 19))
  else if bits raw 25 6 = 0b011011#6 then
    .testBranch (bit raw 24) (regAt raw 0) (bits raw 31 1 ++ bits raw 19 5)
      (wordOffset (bits raw 5 14))
  else if bits raw 24 8 = 0b01010100#8 ∧ bit raw 4 = false then
    .branchCond (bits raw 0 4) (wordOffset (bits raw 5 19))
  else if bits raw 24 8 = 0b11010100#8 then
    decodeException raw
  else if bits raw 25 7 = 0b1101011#7 then
    decodeBranchRegister raw
  else if bits raw 22 10 = 0b1101010100#10 then
    decodeSystem raw
  else .unknown raw

def decodeExclusive (raw : BitVec 32) : Instruction :=
  let size := widthOfBits (bits raw 30 2)
  let rs := regAt raw 16
  let rt2 := regAt raw 10
  let rn := regAt raw 5
  let rt := regAt raw 0
  -- ordered, pair, load
  match bit raw 23, bit raw 21, bit raw 22 with
  | false, false, true => .loadExclusive size rt rn
  | false, false, false => .storeExclusive size rs rt rn
  | false, true, true => if bit raw 31 then .loadExclusivePair size rt rt2 rn else .unknown raw
  | false, true, false => if bit raw 31 then .storeExclusivePair size rs rt rt2 rn else .unknown raw
  | true, false, true => if bit raw 15 then .loadAcquire size rt rn else .unknown raw
  | true, false, false => if bit raw 15 then .storeRelease size rt rn else .unknown raw
  | true, true, _ => .unknown raw

def decodeLiteral (raw : BitVec 32) : Instruction :=
  let rt := regAt raw 0
  let offset := wordOffset (bits raw 5 19)
  match (bits raw 30 2).toNat with
  | 0b00 => .loadLiteral .load .word rt offset
  | 0b01 => .loadLiteral .load .double rt offset
  | 0b10 => .loadLiteral (.loadSigned true) .word rt offset
  | _ => .unknown raw

def pairWidth? (vector : Bool) (opc : BitVec 2) : Option Width :=
  match vector, opc.toNat with
  | false, 0b00 => some .word
  | false, 0b10 => some .double
  | true, 0b00 => some .word
  | true, 0b01 => some .double
  | true, 0b10 => some .quad
  | _, _ => none

def decodePair (raw : BitVec 32) : Instruction :=
  let vector := bit raw 26
  match pairWidth? vector (bits raw 30 2) with
  | none => .unknown raw
  | some size =>
      let offset := (bits raw 15 7).toInt * size.bytes
      let addressing : Addressing :=
        match (bits raw 23 2).toNat with
        | 0b01 => .postIndex offset
        | 0b11 => .preIndex offset
        | _ => .offset offset
      .loadStorePair (bit raw 22) vector size (regAt raw 0) (regAt raw 10) (regAt raw 5) addressing

/-- Access and width of a single-register load or store. -/
def registerAccess? (vector : Bool) (size opc : BitVec 2) : Option (MemOp × Width) :=
  match vector, size.toNat, opc.toNat with
  | true, _, 0b00 => some (.storeVector, widthOfBits size)
  | true, _, 0b01 => some (.loadVector, widthOfBits size)
  | true, 0, 0b10 => some (.storeVector, .quad)
  | true, 0, 0b11 => some (.loadVector, .quad)
  | false, _, 0b00 => some (.store, widthOfBits size)
  | false, _, 0b01 => some (.load, widthOfBits size)
  | false, 0, 0b10 | false, 1, 0b10 | false, 2, 0b10 => some (.loadSigned true, widthOfBits size)
  | false, 0, 0b11 | false, 1, 0b11 => some (.loadSigned false, widthOfBits size)
  | _, _, _ => none

def Extend.ofBits? (code : BitVec 3) : Option Extend :=
  match code.toNat with
  | 0b010 => some .uxtw
  | 0b011 => some .lsl
  | 0b110 => some .sxtw
  | 0b111 => some .sxtx
  | _ => none

def registerAddressing? (raw : BitVec 32) (size : Width) : Option Addressing :=
  if bit raw 24 then
    some (.offset ((bits raw 10 12).toNat * size.bytes))
  else if bit raw 21 = false then
    let imm9 := (bits raw 12 9).toInt
    match (bits raw 10 2).toNat with
    | 0b01 => some (.postIndex imm9)
    | 0b11 => some (.preIndex imm9)
    | _ => some (.offset imm9)
  else if bits raw 10 2 = 0b10#2 then
    (Extend.ofBits? (bits raw 13 3)).map fun extend =>
      .register (regAt raw 16) extend (if bit raw 12 then size.log2 else 0)
  else none

def decodeRegister (raw : BitVec 32) : Instruction :=
  match registerAccess? (bit raw 26) (bits raw 30 2) (bits raw 22 2) with
  | none => .unknown raw
  | some (op, size) =>
      match registerAddressing? raw size with
      | some addressing => .loadStore op size (regAt raw 0) (regAt raw 5) addressing
      | none => .unknown raw

def decodeLoadStore (raw : BitVec 32) : Instruction :=
  if bits raw 24 6 = 0b001000#6 then decodeExclusive raw
  else if bits raw 27 3 = 0b011#3 ∧ bits raw 24 2 = 0#2 ∧ bit raw 26 = false then decodeLiteral raw
  else if bits raw 27 3 = 0b101#3 then decodePair raw
  else if bits raw 27 3 = 0b111#3 then decodeRegister raw
  else .unknown raw

def DataProc2Op.ofBits? (code : BitVec 6) : Option DataProc2Op :=
  match code.toNat with
  | 0b000010 => some .udiv
  | 0b000011 => some .sdiv
  | 0b001000 => some .lslv
  | 0b001001 => some .lsrv
  | 0b001010 => some .asrv
  | 0b001011 => some .rorv
  | _ => none

def CondSelectOp.ofBits (invert increment : Bool) : CondSelectOp :=
  match invert, increment with
  | false, false => .csel
  | false, true => .csinc
  | true, false => .csinv
  | true, true => .csneg

def decodeDataRegister (raw : BitVec 32) : Instruction :=
  let sf := bit raw 31
  let rd := regAt raw 0
  let rn := regAt raw 5
  let rm := regAt raw 16
  let amount := bits raw 10 6
  if bits raw 24 5 = 0b01010#5 then
    if amountFits sf amount then
      .logicalReg sf (LogicalOp.ofBits (bits raw 29 2)) (bit raw 21) rd rn rm
        (ShiftType.ofBits (bits raw 22 2)) amount
    else .unknown raw
  else if bits raw 24 5 = 0b01011#5 ∧ bit raw 21 = false then
    if amountFits sf amount && bits raw 22 2 != 0b11#2 then
      .addSubReg sf (bit raw 30) (bit raw 29) rd rn rm (ShiftType.ofBits (bits raw 22 2)) amount
    else .unknown raw
  else if bits raw 21 9 = 0b011010100#9 ∧ bit raw 11 = false then
    .condSelect sf (CondSelectOp.ofBits (bit raw 30) (bit raw 10)) rd rn rm (bits raw 12 4)
  else if bits raw 21 10 = 0b0011010110#10 then
    match DataProc2Op.ofBits? (bits raw 10 6) with
    | some op => .dataProc2 sf op rd rn rm
    | none => .unknown raw
  else if bits raw 21 10 = 0b0011011000#10 then
    .mulAdd sf (bit raw 15) rd rn rm (regAt raw 10)
  else .unknown raw

def decode (raw : BitVec 32) : Instruction :=
  match (bits raw 25 4).toNat with
  | 0b1000 | 0b1001 => decodeImmediate raw
  | 0b1010 | 0b1011 => decodeBranchSystem raw
  | 0b0100 | 0b0110 | 0b1100 | 0b1110 => decodeLoadStore raw
  | 0b0101 | 0b1101 => decodeDataRegister raw
  | 0b0000 => if bits raw 16 16 = 0#16 then .udf (bits raw 0 16) else .unknown raw
  | _ => .unknown raw

end GuestMachine.A64
