import GuestMachine.A64.Instruction

/-! # Instruction listing

A text form of decoded instructions that shows every field: the name of the
form, then its fields in order, as in `Ret { rn: 30 }`. Forms with one
unnamed field show it in parentheses. Numbers are decimal.
-/

namespace GuestMachine.A64

/-- A form with named fields. -/
private def record (name : String) (fields : List (String × String)) : String :=
  name ++ " \x7b " ++ ", ".intercalate (fields.map fun (key, value) => key ++ ": " ++ value)
    ++ " \x7d"

/-- A form with one unnamed field. -/
private def wrap (name value : String) : String :=
  name ++ "(" ++ value ++ ")"

private def num (v : BitVec n) : String := toString v.toNat

def ShiftType.listing : ShiftType → String
  | .lsl => "Lsl"
  | .lsr => "Lsr"
  | .asr => "Asr"
  | .ror => "Ror"

def Extend.listing : Extend → String
  | .uxtw => "Uxtw"
  | .lsl => "Lsl"
  | .sxtw => "Sxtw"
  | .sxtx => "Sxtx"

def MoveWideOp.listing : MoveWideOp → String
  | .movn => "Movn"
  | .movz => "Movz"
  | .movk => "Movk"

def LogicalOp.listing : LogicalOp → String
  | .and => "And"
  | .orr => "Orr"
  | .eor => "Eor"
  | .ands => "Ands"

def BitfieldOp.listing : BitfieldOp → String
  | .sbfm => "Sbfm"
  | .bfm => "Bfm"
  | .ubfm => "Ubfm"

def CondSelectOp.listing : CondSelectOp → String
  | .csel => "Csel"
  | .csinc => "Csinc"
  | .csinv => "Csinv"
  | .csneg => "Csneg"

def DataProc2Op.listing : DataProc2Op → String
  | .udiv => "Udiv"
  | .sdiv => "Sdiv"
  | .lslv => "Lslv"
  | .lsrv => "Lsrv"
  | .asrv => "Asrv"
  | .rorv => "Rorv"

def HintOp.listing : HintOp → String
  | .nop => "Nop"
  | .yield => "Yield"
  | .wfe => "Wfe"
  | .wfi => "Wfi"
  | .sev => "Sev"
  | .sevl => "Sevl"

def MemOp.listing : MemOp → String
  | .store => "Store"
  | .load => "Load"
  | .loadSigned to64 => record "LoadSigned" [("to_64", toString to64)]
  | .storeVector => "StoreVector"
  | .loadVector => "LoadVector"

def Addressing.listing : Addressing → String
  | .offset bytes => wrap "Offset" (toString bytes)
  | .preIndex bytes => wrap "PreIndex" (toString bytes)
  | .postIndex bytes => wrap "PostIndex" (toString bytes)
  | .register rm extend shift =>
      record "Register" [("rm", num rm), ("extend", extend.listing), ("shift", toString shift)]

def SystemRegister.listing : SystemRegister → String
  | .tpidrEl0 => "TpidrEl0"
  | .tpidrroEl0 => "TpidrroEl0"
  | .cntpctEl0 => "CntpctEl0"
  | .cntvctEl0 => "CntvctEl0"
  | .cntfrqEl0 => "CntfrqEl0"
  | .fpcr => "Fpcr"
  | .fpsr => "Fpsr"
  | .nzcv => "Nzcv"
  | .dczidEl0 => "DczidEl0"
  | .ctrEl0 => "CtrEl0"

def DataCacheOp.listing : DataCacheOp → String
  | .zeroByVa => "ZeroByVa"
  | .invalidateByVaToPoc => "InvalidateByVaToPoc"
  | .invalidateBySetWay => "InvalidateBySetWay"
  | .cleanByVaToPoc => "CleanByVaToPoc"
  | .cleanBySetWay => "CleanBySetWay"
  | .cleanByVaToPou => "CleanByVaToPou"
  | .cleanAndInvalidateByVaToPoc => "CleanAndInvalidateByVaToPoc"
  | .cleanAndInvalidateBySetWay => "CleanAndInvalidateBySetWay"

def InstructionCacheOp.listing : InstructionCacheOp → String
  | .invalidateAllToPou => "InvalidateAllToPou"
  | .invalidateAllToPouInnerShareable => "InvalidateAllToPouInnerShareable"
  | .invalidateByVaToPou => "InvalidateByVaToPou"

/-- Every field of the instruction, in declaration order. -/
def Instruction.listing : Instruction → String
  | .moveWide sf op rd imm16 hw =>
      record "MoveWide" [("sf", toString sf), ("op", op.listing), ("rd", num rd),
        ("imm16", num imm16), ("shift", toString (16 * hw.toNat))]
  | .addSubImm sf sub setFlags rd rn imm =>
      record "AddSubImm" [("sf", toString sf), ("sub", toString sub),
        ("set_flags", toString setFlags), ("rd", num rd), ("rn", num rn),
        ("imm", toString imm.toNat)]
  | .addSubReg sf sub setFlags rd rn rm shift amount =>
      record "AddSubReg" [("sf", toString sf), ("sub", toString sub),
        ("set_flags", toString setFlags), ("rd", num rd), ("rn", num rn), ("rm", num rm),
        ("shift", shift.listing), ("amount", num amount)]
  | .logicalImm sf op rd rn imm =>
      record "LogicalImm" [("sf", toString sf), ("op", op.listing), ("rd", num rd), ("rn", num rn),
        ("imm", toString imm.toNat)]
  | .logicalReg sf op invert rd rn rm shift amount =>
      record "LogicalReg" [("sf", toString sf), ("op", op.listing), ("invert", toString invert),
        ("rd", num rd), ("rn", num rn), ("rm", num rm), ("shift", shift.listing),
        ("amount", num amount)]
  | .bitfield sf op rd rn immr imms =>
      record "Bitfield" [("sf", toString sf), ("op", op.listing), ("rd", num rd), ("rn", num rn),
        ("immr", num immr), ("imms", num imms)]
  | .condSelect sf op rd rn rm cond =>
      record "CondSelect" [("sf", toString sf), ("op", op.listing), ("rd", num rd), ("rn", num rn),
        ("rm", num rm), ("cond", num cond)]
  | .mulAdd sf sub rd rn rm ra =>
      record "MulAdd" [("sf", toString sf), ("sub", toString sub), ("rd", num rd), ("rn", num rn),
        ("rm", num rm), ("ra", num ra)]
  | .dataProc2 sf op rd rn rm =>
      record "DataProc2" [("sf", toString sf), ("op", op.listing), ("rd", num rd), ("rn", num rn),
        ("rm", num rm)]
  | .adr rd offset page =>
      record "Adr" [("rd", num rd), ("offset", toString offset), ("page", toString page)]
  | .branch link offset =>
      record "Branch" [("link", toString link), ("offset", toString offset)]
  | .branchCond cond offset =>
      record "BranchCond" [("cond", num cond), ("offset", toString offset)]
  | .compareBranch sf nonzero rt offset =>
      record "CompareBranch" [("sf", toString sf), ("nonzero", toString nonzero), ("rt", num rt),
        ("offset", toString offset)]
  | .testBranch nonzero rt bit offset =>
      record "TestBranch" [("nonzero", toString nonzero), ("rt", num rt), ("bit", num bit),
        ("offset", toString offset)]
  | .branchReg link rn => record "BranchReg" [("link", toString link), ("rn", num rn)]
  | .ret rn => record "Ret" [("rn", num rn)]
  | .loadStore op size rt rn addressing =>
      record "LoadStore" [("op", op.listing), ("size", toString size.log2), ("rt", num rt),
        ("rn", num rn), ("addressing", addressing.listing)]
  | .loadLiteral op size rt offset =>
      record "LoadLiteral" [("op", op.listing), ("size", toString size.log2), ("rt", num rt),
        ("offset", toString offset)]
  | .loadStorePair load vector size rt rt2 rn addressing =>
      record "LoadStorePair" [("load", toString load), ("vector", toString vector),
        ("size", toString size.log2), ("rt", num rt), ("rt2", num rt2), ("rn", num rn),
        ("addressing", addressing.listing)]
  | .loadExclusive size rt rn =>
      record "LoadExclusive" [("size", toString size.log2), ("rt", num rt), ("rn", num rn)]
  | .storeExclusive size rs rt rn =>
      record "StoreExclusive" [("size", toString size.log2), ("rs", num rs), ("rt", num rt),
        ("rn", num rn)]
  | .loadExclusivePair size rt rt2 rn =>
      record "LoadExclusivePair" [("size", toString size.log2), ("rt", num rt), ("rt2", num rt2),
        ("rn", num rn)]
  | .storeExclusivePair size rs rt rt2 rn =>
      record "StoreExclusivePair" [("size", toString size.log2), ("rs", num rs), ("rt", num rt),
        ("rt2", num rt2), ("rn", num rn)]
  | .loadAcquire size rt rn =>
      record "LoadAcquire" [("size", toString size.log2), ("rt", num rt), ("rn", num rn)]
  | .storeRelease size rt rn =>
      record "StoreRelease" [("size", toString size.log2), ("rt", num rt), ("rn", num rn)]
  | .clearExclusive => "ClearExclusive"
  | .barrier => "Barrier"
  | .instructionBarrier => "InstructionBarrier"
  | .hint op => wrap "Hint" op.listing
  | .dataCache op rt => record "DataCache" [("op", op.listing), ("rt", num rt)]
  | .instructionCache op rt => record "InstructionCache" [("op", op.listing), ("rt", num rt)]
  | .mrs rt reg => record "Mrs" [("rt", num rt), ("reg", reg.listing)]
  | .msr rt reg => record "Msr" [("rt", num rt), ("reg", reg.listing)]
  | .svc imm => record "Svc" [("imm", num imm)]
  | .brk imm => record "Brk" [("imm", num imm)]
  | .udf imm => record "Udf" [("imm", num imm)]
  | .unknown word => wrap "Unknown" (num word)

end GuestMachine.A64
