import GuestMachine.Proofs.A64.Encoding

/-! # Decoding an encoded word

Every word of the subset decodes to the instruction it stands for. The tests of
the decoder are masks tried in order; where a field of a form lies across the
bits that a test looks at, the word is first shown to reach its group.
-/

namespace GuestMachine.A64

@[simp] theorem LogicalOp.ofBits_opc (op : LogicalOp) : LogicalOp.ofBits op.opc = op := by
  cases op <;> rfl

@[simp] theorem ShiftType.ofBits_code (shift : ShiftType) :
    ShiftType.ofBits shift.code = shift := by
  cases shift <;> rfl

theorem ShiftType.code_ne {shift : ShiftType} (straight : shift ≠ .ror) : shift.code ≠ 0b11#2 := by
  revert straight
  cases shift <;> decide

@[simp] theorem CondSelectOp.ofBits_op (op : CondSelectOp) :
    CondSelectOp.ofBits op.op op.o2 = op := by
  cases op <;> rfl

@[simp] theorem DataProc2Op.ofBits?_opcode (op : DataProc2Op) :
    DataProc2Op.ofBits? op.opcode = some op := by
  cases op <;> rfl

@[simp] theorem HintOp.ofBits_code (op : HintOp) : HintOp.ofBits op.code = op := by
  cases op <;> rfl

theorem HintOp.ofBits_unnamed {code : BitVec 7} (unnamed : 6 ≤ code.toNat) :
    HintOp.ofBits code = .nop := by
  revert code
  decide

theorem cacheOp?_fields (op : CacheOp) :
    cacheOp? op.fields.1 op.fields.2.1 op.fields.2.2 = some op := by
  rcases op with op | op <;> cases op <;> rfl

@[simp] theorem Extend.ofBits?_option (extend : Extend) :
    Extend.ofBits? extend.option = some extend := by
  cases extend <;> rfl

theorem widthOfBits_sizeField {w : Width} (single : w ≠ .quad) : widthOfBits (sizeField w) = w := by
  revert single
  cases w <;> decide

@[simp] theorem SingleAccess.registerAccess?_eq (access : SingleAccess) :
    registerAccess? access.op.isVector access.size access.opc = some (access.op, access.width) := by
  obtain ⟨op, width, supported⟩ := access
  cases op with
  | loadSigned to64 =>
      cases to64 <;> cases width <;> first | rfl | exact absurd supported (by decide)
  | _ => cases width <;> first | rfl | exact absurd supported (by decide)

@[simp] theorem PairAccess.pairWidth?_eq (access : PairAccess) :
    pairWidth? access.vector access.opc = some access.width := by
  obtain ⟨load, vector, width, supported⟩ := access
  rcases supported with rfl | rfl | ⟨rfl, rfl⟩
  · cases vector <;> rfl
  · cases vector <;> rfl
  · rfl

theorem amountFits_of_lt {sf : Bool} {amount : BitVec 6} (fits : amount.toNat < dataSize sf) :
    amountFits sf amount = true := by
  cases sf with
  | true => rfl
  | false => simpa [amountFits, BitVec.lt_def, dataSize] using fits

theorem shiftedImmediate (shift12 : Bool) (imm : BitVec 12) :
    (if shift12 then UInt64.ofNat imm.toNat <<< 12 else UInt64.ofNat imm.toNat) =
      UInt64.ofNat (if shift12 then imm.toNat * 4096 else imm.toNat) := by
  cases shift12 with
  | false => rfl
  | true =>
      apply UInt64.toNat_inj.mp
      simp [UInt64.toNat_shiftLeft, Nat.shiftLeft_eq]

section

variable {raw : BitVec 32}

/-- The sign of the offset is among the bits that tell the group. -/
theorem decodeImmediate_of_adr (place : slice raw 24 2 = 0b00#2) :
    decodeImmediate raw =
      .adr (regAt raw 0) (slice raw 5 19 ++ slice raw 29 2 : BitVec 21).toInt (flag raw 31) := by
  have either : ∀ code : BitVec 3, slice code 1 2 = 0b00#2 → code.toNat = 0 ∨ code.toNat = 1 := by
    decide
  rcases either (slice raw 23 3) ((slice_slice (by decide)).trans place) with clear | set
  · simp [decodeImmediate, clear]
  · simp [decodeImmediate, set]

/-- So is the sign of a branch offset. -/
theorem decode_of_branchSystem (place : slice raw 26 3 = 0b101#3) :
    decode raw = decodeBranchSystem raw := by
  have either : ∀ code : BitVec 4,
      slice code 1 3 = 0b101#3 → code.toNat = 10 ∨ code.toNat = 11 := by
    decide
  rcases either (slice raw 25 4) ((slice_slice (by decide)).trans place) with clear | set
  · simp [decode, clear]
  · simp [decode, set]

theorem decodeSystem_of_cache {op : CacheOp} (place : slice raw 19 13 = 0b1101010100001#13)
    (crn : slice raw 12 4 = 7#4)
    (named : cacheOp? (slice raw 16 3) (slice raw 8 4) (slice raw 5 3) = some op) :
    decodeSystem raw =
      match op with
      | .data op => .dataCache op (slice raw 0 5)
      | .instruction op => .instructionCache op (slice raw 0 5) := by
  have set : flag (slice raw 19 13) 0 = true := by
    rw [place]
    decide
  rw [flag_slice (by decide)] at set
  have notHint : slice raw 12 20 ≠ 0xD5032#20 := slice_ne 7 (by decide) (by rw [set]; decide)
  have notBarrier : slice raw 12 20 ≠ 0xD5033#20 := slice_ne 7 (by decide) (by rw [set]; decide)
  simp only [decodeSystem, bits_eq_slice, regAt_eq_slice, notHint, notBarrier, place, crn, named,
    false_and, if_true, if_false]
  cases op <;> rfl

theorem decodeSystem_of_move {reg : SystemRegister} (place : slice raw 22 10 = 0b1101010100#10)
    (set : flag raw 20 = true)
    (named : SystemRegister.ofEncoding? (slice raw 5 16) = some reg) :
    decodeSystem raw =
      if flag raw 21 then .mrs (slice raw 0 5) reg
      else if reg.isWritable then .msr (slice raw 0 5) reg
      else .unknown raw := by
  have notHint : slice raw 12 20 ≠ 0xD5032#20 := slice_ne 8 (by decide) (by rw [set]; decide)
  have notBarrier : slice raw 12 20 ≠ 0xD5033#20 := slice_ne 8 (by decide) (by rw [set]; decide)
  have notCache : slice raw 19 13 ≠ 0b1101010100001#13 :=
    slice_ne 1 (by decide) (by rw [set]; decide)
  simp only [decodeSystem, bits_eq_slice, regAt_eq_slice, bit_eq_flag, notHint, notBarrier,
    notCache, place, set, named, false_and, true_and, if_true, if_false]
  rfl

/-- Bit 28 is an opcode bit and bit 26 tells vector registers. -/
theorem decode_of_loadStore (set : flag raw 27 = true) (clear : flag raw 25 = false) :
    decode raw = decodeLoadStore raw := by
  have among : ∀ code : BitVec 4, flag code 2 = true → flag code 0 = false →
      code.toNat = 4 ∨ code.toNat = 6 ∨ code.toNat = 12 ∨ code.toNat = 14 := by
    decide
  rcases among (slice raw 25 4) ((flag_slice (by decide)).trans set)
    ((flag_slice (by decide)).trans clear) with code | code | code | code
  · simp [decode, code]
  · simp [decode, code]
  · simp [decode, code]
  · simp [decode, code]

theorem not_exclusive (set : flag raw 29 = true) : slice raw 24 6 ≠ 0b001000#6 :=
  slice_ne 5 (by decide) (by rw [set]; decide)

theorem decodeLoadStore_of_pair (place : slice raw 27 3 = 0b101#3) :
    decodeLoadStore raw = decodePair raw := by
  have set : flag (slice raw 27 3) 2 = true := by
    rw [place]
    decide
  rw [flag_slice (by decide)] at set
  simp [decodeLoadStore, place, not_exclusive set]

theorem decodeLoadStore_of_register (place : slice raw 27 3 = 0b111#3) :
    decodeLoadStore raw = decodeRegister raw := by
  have set : flag (slice raw 27 3) 2 = true := by
    rw [place]
    decide
  rw [flag_slice (by decide)] at set
  simp [decodeLoadStore, place, not_exclusive set]

end

theorem ImmediateForm.decode_eq (form : ImmediateForm) : decode form.word = form.instruction := by
  -- Sums of widths stay as they are, so that the fields of a word keep their places.
  cases form with
  | adr page offset rd =>
      have whole : slice offset 2 19 ++ slice offset 0 2 = offset :=
        slice_append_slice (m := 19) (k := 2) offset
      have group : decode (adr page offset rd).word = decodeImmediate (adr page offset rd).word := by
        simp (disch := decide) [-Nat.reduceAdd, word, decode]
      have place : slice (adr page offset rd).word 24 2 = 0b00#2 := by
        simp (disch := decide) [-Nat.reduceAdd, word]
      rw [group, decodeImmediate_of_adr place]
      simp (disch := decide) [-Nat.reduceAdd, word, instruction, whole]
  | addSub sf sub setFlags shift12 imm rn rd =>
      simp (disch := decide) [-Nat.reduceAdd, word, decode, decodeImmediate, instruction,
        ← shiftedImmediate]
  | logical sf op mask fits immr rn rd =>
      have expanded := mask.decodeBitMasks?_eq fits immr
      simp (disch := decide) [-Nat.reduceAdd, word, decode, decodeImmediate, instruction, expanded]
  | moveWide sf op hw fits imm rd =>
      have within : sf = false → hw < 2#2 := by
        rintro rfl
        exact Nat.lt_of_mul_lt_mul_left (a := 16) fits
      cases op <;>
        simp (disch := decide) [-Nat.reduceAdd, word, decode, decodeImmediate, instruction,
          MoveWideOp.opc] <;> exact within
  | bitfield sf op immr imms rotation top rn rd =>
      have rotation := amountFits_of_lt rotation
      have top := amountFits_of_lt top
      cases op <;>
        simp (disch := decide) [-Nat.reduceAdd, word, decode, decodeImmediate, instruction,
          BitfieldOp.opc, rotation, top]

theorem RegisterForm.decode_eq (form : RegisterForm) : decode form.word = form.instruction := by
  cases form with
  | logical sf op shift invert rm amount fits rn rd =>
      have fits := amountFits_of_lt fits
      simp (disch := decide) [-Nat.reduceAdd, word, decode, decodeDataRegister, instruction, fits]
  | addSub sf sub setFlags shift straight rm amount fits rn rd =>
      have fits := amountFits_of_lt fits
      have straight := ShiftType.code_ne straight
      simp (disch := decide) [-Nat.reduceAdd, word, decode, decodeDataRegister, instruction, fits,
        straight]
  | condSelect sf op rm cond rn rd | dataProc2 sf rm op rn rd | mulAdd sf rm sub ra rn rd =>
      simp (disch := decide) [-Nat.reduceAdd, word, decode, decodeDataRegister, instruction]

theorem BranchForm.decode_eq (form : BranchForm) : decode form.word = form.instruction := by
  cases form with
  | branch link imm =>
      have place : slice (branch link imm).word 26 3 = 0b101#3 := by
        simp (disch := decide) [-Nat.reduceAdd, word]
      rw [decode_of_branchSystem place]
      simp (disch := decide) [-Nat.reduceAdd, word, decodeBranchSystem, instruction, wordOffset]
  | compare sf nonzero imm rt | conditional imm cond =>
      simp (disch := decide) [-Nat.reduceAdd, word, decode, decodeBranchSystem, instruction,
        wordOffset]
  | test bit nonzero imm rt =>
      have whole : slice bit 5 1 ++ slice bit 0 5 = bit := slice_append_slice (m := 1) (k := 5) bit
      simp (disch := decide) [-Nat.reduceAdd, word, decode, decodeBranchSystem, instruction,
        wordOffset, whole]
  | register link rn =>
      cases link <;>
        simp (disch := decide) [-Nat.reduceAdd, word, decode, decodeBranchSystem,
          decodeBranchRegister, instruction]
  | ret rn =>
      simp (disch := decide) [-Nat.reduceAdd, word, decode, decodeBranchSystem,
        decodeBranchRegister, instruction]
  | supervisorCall imm | breakpoint imm =>
      simp (disch := decide) [-Nat.reduceAdd, word, decode, decodeBranchSystem, decodeException,
        instruction]

namespace SystemForm

theorem decode_move (read : Bool) (reg : SystemRegister) (rt : RegNum) :
    decode (moveWord read reg rt) =
      if read then .mrs rt reg
      else if reg.isWritable then .msr rt reg
      else .unknown (moveWord read reg rt) := by
  have group : decode (moveWord read reg rt) = decodeSystem (moveWord read reg rt) := by
    simp (disch := decide) [-Nat.reduceAdd, moveWord, decode, decodeBranchSystem]
  have named : SystemRegister.ofEncoding? (slice (moveWord read reg rt) 5 16) = some reg := by
    cases read <;> cases reg <;>
      simp (disch := decide) [-Nat.reduceAdd, moveWord, SystemRegister.fields] <;> decide
  rw [group, decodeSystem_of_move _ _ named] <;>
    simp (disch := decide) [-Nat.reduceAdd, moveWord]

theorem decode_eq (form : SystemForm) : decode form.word = form.instruction := by
  cases form with
  | hint op | clearExclusive crm | dataSynchronizationBarrier crm | dataMemoryBarrier crm
  | instructionBarrier crm =>
      simp (disch := decide) [-Nat.reduceAdd, word, decode, decodeBranchSystem, decodeSystem,
        instruction]
  | otherHint code unnamed =>
      have plain := HintOp.ofBits_unnamed unnamed
      simp (disch := decide) [-Nat.reduceAdd, word, decode, decodeBranchSystem, decodeSystem,
        instruction, plain]
  | cache op rt =>
      have group : decode (cache op rt).word = decodeSystem (cache op rt).word := by
        simp (disch := decide) [-Nat.reduceAdd, word, decode, decodeBranchSystem]
      have op1 : slice (cache op rt).word 16 3 = op.fields.1 := by
        simp (disch := decide) [-Nat.reduceAdd, word]
      have crm : slice (cache op rt).word 8 4 = op.fields.2.1 := by
        simp (disch := decide) [-Nat.reduceAdd, word]
      have op2 : slice (cache op rt).word 5 3 = op.fields.2.2 := by
        simp (disch := decide) [-Nat.reduceAdd, word]
      have named := cacheOp?_fields op
      rw [← op1, ← crm, ← op2] at named
      rw [group, decodeSystem_of_cache _ _ named] <;>
        simp (disch := decide) [-Nat.reduceAdd, word]
      cases op <;> rfl
  | mrs reg rt => exact decode_move true reg rt
  | msr reg writable rt =>
      have allowed : reg.isWritable = true := by
        simp only [List.mem_cons, List.not_mem_nil, or_false] at writable
        rcases writable with rfl | rfl | rfl | rfl <;> rfl
      exact (decode_move false reg rt).trans (if_pos allowed)

end SystemForm

namespace LoadStoreForm

theorem decode_exclusiveWord (size : BitVec 2) (kind : BitVec 3) (rs : RegNum) (ordered : Bool)
    (rt2 rn rt : RegNum) :
    decode (exclusiveWord size kind rs ordered rt2 rn rt) =
      decodeExclusive (exclusiveWord size kind rs ordered rt2 rn rt) := by
  simp (disch := decide) [-Nat.reduceAdd, exclusiveWord, decode, decodeLoadStore]

theorem widthOfBits_half (double : Bool) :
    widthOfBits (0b1#1 ++ BitVec.ofBool double) = halfWidth double := by
  cases double <;> rfl

theorem decode_eq (form : LoadStoreForm) : decode form.word = form.instruction := by
  cases form with
  | scaled access imm rn rt | register access rm extend shifted rn rt =>
      rw [decode_of_loadStore, decodeLoadStore_of_register] <;>
        simp (disch := decide) [-Nat.reduceAdd, word]
      simp (disch := decide) [-Nat.reduceAdd, decodeRegister, registerAddressing?, instruction]
  | indexed access mode general imm rn rt =>
      rw [decode_of_loadStore, decodeLoadStore_of_register] <;>
        simp (disch := decide) [-Nat.reduceAdd, word]
      cases mode <;>
        simp (disch := decide) [-Nat.reduceAdd, decodeRegister, registerAddressing?, instruction,
          OffsetMode.code, OffsetMode.addressing]
  | literal load imm rt =>
      cases load <;>
        simp (disch := decide) [-Nat.reduceAdd, word, decode, decodeLoadStore, decodeLiteral,
          instruction, LiteralLoad.opc, wordOffset]
  | pair access mode imm rt2 rn rt =>
      rw [decode_of_loadStore, decodeLoadStore_of_pair] <;> cases mode <;>
        simp (disch := decide) [-Nat.reduceAdd, word, PairMode.code, decodePair, instruction,
          PairMode.addressing]
  | loadExclusive w single rs ordered rt2 rn rt | storeExclusive w single rs ordered rt2 rn rt
  | loadAcquire w single rs rt2 rn rt | storeRelease w single rs rt2 rn rt =>
      refine (decode_exclusiveWord _ _ _ _ _ _ _).trans ?_
      simp (disch := decide) [-Nat.reduceAdd, exclusiveWord, decodeExclusive, instruction,
        widthOfBits_sizeField single]
  | loadExclusivePair double rs ordered rt2 rn rt
  | storeExclusivePair double rs ordered rt2 rn rt =>
      refine (decode_exclusiveWord _ _ _ _ _ _ _).trans ?_
      simp (disch := decide) [-Nat.reduceAdd, exclusiveWord, decodeExclusive, instruction,
        widthOfBits_half]

end LoadStoreForm

/-- Decoding undoes the encoding, whatever the bits that are not looked at. -/
theorem decode_word (form : Form) : decode form.word = form.instruction := by
  cases form with
  | immediate form => exact form.decode_eq
  | register form => exact form.decode_eq
  | branch form => exact form.decode_eq
  | system form => exact form.decode_eq
  | loadStore form => exact form.decode_eq
  | undefined imm =>
      simp (disch := decide) [-Nat.reduceAdd, Form.word, decode, Form.instruction]

/-- A vector register at an index that is sign-extended and scaled. -/
example :
    decode 0x3CE3D841#32 =
      .loadStore .loadVector .quad 1 2 (.register 3 .sxtw 4) := by
  decide

end GuestMachine.A64
