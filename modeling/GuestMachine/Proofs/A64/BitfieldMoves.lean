import GuestMachine.Cpu.Trace
import GuestMachine.Proofs.A64.CheckedArithmetic
import GuestMachine.Proofs.A64.RegisterWrites

/-! # Bitfield moves

A bitfield move takes a run of bits of its source to a place in its destination.
The two numbers of the instruction say which bits and where to; the operation says
what becomes of the bits around them. Shifts by an immediate are bitfield moves,
and do what the shifts by a register do.
-/

namespace GuestMachine.A64

open Checked (getLsbD_ones getLsbD_signExtendLow dataSize_le)

/-- Some bits of one word and their place in another. -/
structure Field where
  /-- The lowest of the bits in the source. -/
  lo : Nat
  count : Nat
  /-- Where the lowest bit goes. -/
  pos : Nat
  deriving Repr, DecidableEq

namespace Field

/-- There is a bit to move, from within a word to within a word. -/
structure Fits (field : Field) (w : Nat) : Prop where
  some : 0 < field.count
  source : field.lo + field.count ≤ w
  target : field.pos + field.count ≤ w

/-- Bits `immr` to `imms` go to the bottom, or bits up to `imms` go up, as far as
    a rotation by `immr` takes them. -/
def moved (w immr imms : Nat) : Field :=
  if immr ≤ imms then { lo := immr, count := imms - immr + 1, pos := 0 }
  else { lo := 0, count := imms + 1, pos := w - immr }

theorem fits_moved {immr imms : Nat} (rotation : immr < w) (top : imms < w) :
    (moved w immr imms).Fits w := by
  unfold moved
  split <;> constructor <;> simp only <;> omega

/-- Bit `i` of the destination. Around the field, one operation leaves zeros, one
    copies the sign of the field upwards, and one leaves what there was. -/
def bit (field : Field) (op : BitfieldOp) (target source : BitVec w) (i : Nat) : Bool :=
  if i < field.pos then
    match op with
    | .ubfm | .sbfm => false
    | .bfm => target.getLsbD i
  else if i < field.pos + field.count then source.getLsbD (field.lo + (i - field.pos))
  else
    match op with
    | .ubfm => false
    | .sbfm => source.getLsbD (field.lo + field.count - 1)
    | .bfm => target.getLsbD i

/-- Both directions of a bitfield move in one formula. -/
def place (field : Field) (op : BitfieldOp) (target source : BitVec w) : BitVec w :=
  let bits := (source >>> field.lo) &&& ones w field.count
  match op with
  | .ubfm => bits <<< field.pos
  | .sbfm => signExtendLow bits field.count <<< field.pos
  | .bfm => (target &&& ~~~(ones w field.count <<< field.pos)) ||| bits <<< field.pos

theorem bitfieldMove_eq_place (op : BitfieldOp) (target source : BitVec w) (immr imms : Nat) :
    bitfieldMove op target source immr imms = (moved w immr imms).place op target source := by
  unfold bitfieldMove moved
  split <;> cases op <;> simp [place]

theorem getLsbD_place {field : Field} (fits : field.Fits w) (op : BitfieldOp)
    (target source : BitVec w) {i : Nat} (inside : i < w) :
    (field.place op target source).getLsbD i = field.bit op target source i := by
  have some := fits.some
  have most : field.count ≤ w := by have := fits.target; omega
  have near : i - field.pos < w := by omega
  -- Below the field the shifted bits are zeros, so only the target shows.
  by_cases below : i < field.pos
  · cases op <;> simp [place, bit, below, inside]
  · have moved : i < field.pos + field.count ↔ i - field.pos < field.count := by omega
    cases op with
    | ubfm | bfm =>
        simp only [place, bit, BitVec.getLsbD_and, BitVec.getLsbD_or, BitVec.getLsbD_not,
          BitVec.getLsbD_shiftLeft, BitVec.getLsbD_ushiftRight, getLsbD_ones, inside, below, moved]
        by_cases within : i - field.pos < field.count <;> simp [within, near]
    | sbfm =>
        simp only [place, bit, BitVec.getLsbD_shiftLeft, getLsbD_signExtendLow near some most,
          BitVec.getLsbD_and, BitVec.getLsbD_ushiftRight, getLsbD_ones, inside, below, moved]
        grind

/-- The bits that are moved within `w` bits are among those. -/
theorem bit_setWidth {field : Field} (fits : field.Fits w) (op : BitfieldOp)
    (target source : BitVec v) {i : Nat} (inside : i < w) :
    field.bit op (target.setWidth w) (source.setWidth w) i = field.bit op target source i := by
  have some := fits.some
  have highest := fits.source
  have last : field.lo + field.count - 1 < w := by omega
  by_cases within : i < field.pos + field.count
  · have near : i < field.pos ∨ field.lo + (i - field.pos) < w := by omega
    cases op <;> simp only [bit, BitVec.getLsbD_setWidth, inside, within] <;> grind
  · cases op <;> simp [bit, within, inside, last]

end Field

theorem getLsbD_bitfieldMove {immr imms : Nat} (rotation : immr < w) (top : imms < w)
    (op : BitfieldOp) (target source : BitVec w) {i : Nat} (inside : i < w) :
    (bitfieldMove op target source immr imms).getLsbD i =
      (Field.moved w immr imms).bit op target source i := by
  simp only [Field.bitfieldMove_eq_place]
  exact Field.getLsbD_place (Field.fits_moved rotation top) op target source inside

/-- A shift that is written as a bitfield move if its amount is an immediate. -/
inductive DirectShift where
  | left
  | right
  /-- To the right, with copies of the sign. -/
  | signed
  deriving Repr, DecidableEq

namespace DirectShift

def type : DirectShift → ShiftType
  | left => .lsl
  | right => .lsr
  | signed => .asr

/-- The same shift by an amount in a register. -/
def variableOp : DirectShift → DataProc2Op
  | left => .lslv
  | right => .lsrv
  | signed => .asrv

def fieldOp : DirectShift → BitfieldOp
  | left | right => .ubfm
  | signed => .sbfm

/-- The two numbers of the bitfield move. -/
def fieldNumbers (shift : DirectShift) (w amount : Nat) : Nat × Nat :=
  match shift with
  | left => ((w - amount) % w, w - 1 - amount)
  | right | signed => (amount, w - 1)

/-- The alias for a shift of `rn` by an immediate. -/
def immediate (shift : DirectShift) (sf : Bool) (rd rn : RegNum) (amount : Nat) : Instruction :=
  let (immr, imms) := shift.fieldNumbers (dataSize sf) amount
  .bitfield sf shift.fieldOp rd rn (BitVec.ofNat 6 immr) (BitVec.ofNat 6 imms)

theorem fieldNumbers_lt (shift : DirectShift) {amount : Nat} (short : amount < w) :
    (shift.fieldNumbers w amount).1 < w ∧ (shift.fieldNumbers w amount).2 < w := by
  have rotation : (w - amount) % w < w := Nat.mod_lt _ (by omega)
  cases shift <;> simp only [fieldNumbers] <;> omega

/-- The bits that do not fall out move by the amount. -/
theorem moved_fieldNumbers (shift : DirectShift) {amount : Nat} (short : amount < w) :
    Field.moved w (shift.fieldNumbers w amount).1 (shift.fieldNumbers w amount).2 =
      match shift with
      | left => { lo := 0, count := w - amount, pos := amount }
      | right | signed => { lo := amount, count := w - amount, pos := 0 } := by
  cases shift with
  | left =>
      by_cases none : amount = 0
      · simp [fieldNumbers, Field.moved, none]
        omega
      · have rotation : (w - amount) % w = w - amount := Nat.mod_eq_of_lt (by omega)
        have wraps : ¬w - amount ≤ w - 1 - amount := by omega
        simp only [fieldNumbers, Field.moved, rotation, wraps, if_false]
        congr 1 <;> omega
  | right | signed =>
      have straight : amount ≤ w - 1 := by omega
      simp only [fieldNumbers, Field.moved, straight, if_true]
      congr 1
      omega

theorem bitfieldMove_eq_shiftValue (shift : DirectShift) {amount : Nat} (short : amount < w)
    (target source : BitVec w) :
    bitfieldMove shift.fieldOp target source (shift.fieldNumbers w amount).1
      (shift.fieldNumbers w amount).2 = shiftValue shift.type source amount := by
  obtain ⟨rotation, top⟩ := shift.fieldNumbers_lt short
  apply BitVec.eq_of_getLsbD_eq
  intro i inside
  have whole : amount + (w - amount) = w := by omega
  have within : i < w - amount ↔ amount + i < w := by omega
  simp only [getLsbD_bitfieldMove rotation top _ _ _ inside, moved_fieldNumbers shift short,
    shiftValue, Nat.mod_eq_of_lt short, Field.bit]
  cases shift with
  | left =>
      simp only [fieldOp, type, BitVec.getLsbD_shiftLeft, whole, inside]
      by_cases below : i < amount <;> simp [below]
  | right =>
      simp only [fieldOp, type, BitVec.getLsbD_ushiftRight, Nat.zero_add, Nat.sub_zero, within]
      by_cases below : amount + i < w
      · simp [below]
      · simp [below, BitVec.getLsbD_of_ge source _ (Nat.le_of_not_lt below)]
  | signed =>
      have outside : ¬w ≤ i := by omega
      simp only [fieldOp, type, BitVec.getLsbD_sshiftRight, BitVec.msb_eq_getLsbD_last, whole,
        within, outside, Nat.zero_add, Nat.sub_zero, Nat.not_lt_zero]
      simp

end DirectShift

section

variable (sf : Bool)

theorem getLsbD_result (value : BitVec (dataSize sf)) (i : Nat) :
    (result sf value).toBitVec.getLsbD i = (decide (i < dataSize sf) && value.getLsbD i) := by
  have narrow := dataSize_le sf
  simp only [result, BitVec.getLsbD_setWidth]
  grind

variable (env : Environment σ) (cntfrq : UInt64) (pc : Address) (rd rn : RegNum) (cpu : Cpu σ)

theorem execute_immediate (shift : DirectShift) {amount : Nat} (short : amount < dataSize sf) :
    execute env cntfrq pc (shift.immediate sf rd rn amount) cpu =
      .ok .next (cpu.withRegisters fun regs =>
        regs.setXzr rd (result sf (shiftValue shift.type (operand sf (regs.xzr rn)) amount))) := by
  have narrow := dataSize_le sf
  obtain ⟨rotation, top⟩ := shift.fieldNumbers_lt short
  have immr : (BitVec.ofNat 6 (shift.fieldNumbers (dataSize sf) amount).1).toNat =
      (shift.fieldNumbers (dataSize sf) amount).1 := by
    simp only [BitVec.toNat_ofNat]
    omega
  have imms : (BitVec.ofNat 6 (shift.fieldNumbers (dataSize sf) amount).2).toNat =
      (shift.fieldNumbers (dataSize sf) amount).2 := by
    simp only [BitVec.toNat_ofNat]
    omega
  have same (regs : RegisterFile) :
      Compute.bitfield regs sf shift.fieldOp rd rn
          (BitVec.ofNat 6 (shift.fieldNumbers (dataSize sf) amount).1)
          (BitVec.ofNat 6 (shift.fieldNumbers (dataSize sf) amount).2) =
        regs.setXzr rd (result sf (shiftValue shift.type (operand sf (regs.xzr rn)) amount)) := by
    simp only [Compute.bitfield, immr, imms, shift.bitfieldMove_eq_shiftValue short]
  simp only [← same]
  rfl

/-- A bitfield move gives the architecture's word bit by bit, and nothing above its
    width. Shifts by an immediate, which are bitfield moves, agree with the shifts by
    a register that holds the same amount. -/
theorem bitfield_moves :
    (∀ (op : BitfieldOp) (immr imms : BitVec 6),
      immr.toNat < dataSize sf → imms.toNat < dataSize sf →
      ∃ value : UInt64,
        execute env cntfrq pc (.bitfield sf op rd rn immr imms) cpu =
          .ok .next (cpu.withRegisters (·.setXzr rd value)) ∧
        ∀ i, value.toBitVec.getLsbD i = (decide (i < dataSize sf) &&
          (Field.moved (dataSize sf) immr.toNat imms.toNat).bit op
            (cpu.context.registers.xzr rd).toBitVec
            (cpu.context.registers.xzr rn).toBitVec i)) ∧
      ∀ (shift : DirectShift) (amount : Nat), amount < dataSize sf →
        execute env cntfrq pc (shift.immediate sf rd rn amount) cpu =
          .ok .next (cpu.withRegisters fun regs => regs.setXzr rd
            (result sf (shiftValue shift.type (operand sf (regs.xzr rn)) amount))) ∧
        ∀ rm, (operand sf (cpu.context.registers.xzr rm)).toNat % dataSize sf = amount →
          execute env cntfrq pc (.dataProc2 sf shift.variableOp rd rn rm) cpu =
            execute env cntfrq pc (shift.immediate sf rd rn amount) cpu := by
  constructor
  · intro op immr imms rotation top
    refine ⟨_, rfl, ?_⟩
    intro i
    rw [getLsbD_result]
    by_cases inside : i < dataSize sf
    · have fits := Field.fits_moved rotation top
      simp only [inside, getLsbD_bitfieldMove rotation top op _ _ inside, operand,
        Field.bit_setWidth fits op _ _ inside]
    · simp [inside]
  · intro shift amount short
    have immediate := execute_immediate sf env cntfrq pc rd rn cpu shift short
    refine ⟨immediate, ?_⟩
    intro rm same
    have reduced (value : BitVec (dataSize sf)) :
        shiftValue shift.type value (operand sf (cpu.context.registers.xzr rm)).toNat =
          shiftValue shift.type value amount := by
      simp only [shiftValue, same, Nat.mod_eq_of_lt short]
    rw [immediate]
    simp only [Cpu.withRegisters, ← reduced]
    cases shift <;> rfl

end

/-- W2 holds a word with its highest and lowest bit set, and W3 an amount. -/
def shiftOperands : RegisterFile :=
  (RegisterFile.setXzr {} 2 0x80000001).setXzr 3 36

/-- `lsl w1, w2, #4` moves the lowest bit and drops the highest, and `lslv w1, w2, w3`
    by 36 does the same. -/
theorem bitfield_moves_left :
    let env := Tracer.environment { boundaryLimit := 1 }
    let cpu : Cpu Tracer := { context.registers := shiftOperands, env := {} }
    decode 0x531C6C41 = DirectShift.left.immediate false 1 2 4 ∧
      (∃ value : UInt64,
        execute env 0 0x1000 (decode 0x531C6C41) cpu =
          .ok .next (cpu.withRegisters (·.setXzr 1 value)) ∧
        value.toBitVec.getLsbD 4 = true ∧ value.toBitVec.getLsbD 35 = false) ∧
      execute env 0 0x1000 (decode 0x1AC32041) cpu =
        execute env 0 0x1000 (decode 0x531C6C41) cpu := by
  intro env cpu
  have immediate : decode 0x531C6C41 = .bitfield false .ubfm 1 2 28 27 := by decide +kernel
  have byRegister : decode 0x1AC32041 = .dataProc2 false .lslv 1 2 3 := by decide +kernel
  have source : shiftOperands.xzr 2 = 0x80000001 := by decide +kernel
  have amount : (operand false (shiftOperands.xzr 3)).toNat % dataSize false = 4 := by
    decide +kernel
  have ⟨moves, shifts⟩ := bitfield_moves false env 0 0x1000 1 2 cpu
  obtain ⟨value, executed, bits⟩ := moves .ubfm 28 27 (by decide) (by decide)
  simp only [immediate, byRegister]
  refine ⟨rfl, ⟨value, executed, ?_, ?_⟩, (shifts .left 4 (by decide)).2 3 amount⟩
  · simp only [bits, cpu, source]
    rfl
  · simp only [bits]
    rfl

end GuestMachine.A64
