import GuestMachine.Proofs.A64.Encoding

/-! # Well-formed instructions

What the decoder checks of the fields of an instruction, whatever the word. A
register number has five bits and a width is at most sixteen bytes, so these
are in range as they stand.
-/

namespace GuestMachine.A64

/-- An index is scaled by sixteen at most. -/
def Addressing.WellFormed : Addressing → Prop
  | .register _ _ shift => shift ≤ 4
  | _ => True

def Instruction.WellFormed : Instruction → Prop
  | .moveWide sf _ _ _ hw => 16 * hw.toNat < dataSize sf
  | .addSubReg sf _ _ _ _ _ _ amount => amount.toNat < dataSize sf
  | .logicalReg sf _ _ _ _ _ _ amount => amount.toNat < dataSize sf
  | .bitfield sf _ _ _ immr imms => immr.toNat < dataSize sf ∧ imms.toNat < dataSize sf
  | .testBranch _ _ bit _ => bit.toNat < 64
  | .loadStore op w _ _ addressing => op.Supports w ∧ addressing.WellFormed
  | .loadLiteral op w _ _ => op.Supports w
  | .loadStorePair _ vector w _ _ _ addressing => PairSupports vector w ∧ addressing.WellFormed
  | .loadExclusive w _ _ | .storeExclusive w _ _ _ | .loadAcquire w _ _ | .storeRelease w _ _ =>
      w ≠ .quad
  | .loadExclusivePair w _ _ _ | .storeExclusivePair w _ _ _ _ => w = .word ∨ w = .double
  | _ => True

theorem lt_of_amountFits {sf : Bool} {amount : BitVec 6} (fits : amountFits sf amount = true) :
    amount.toNat < dataSize sf := by
  cases sf with
  | true => exact amount.isLt
  | false => simpa [amountFits, BitVec.lt_def, dataSize] using fits

theorem moveWide_within {sf : Bool} {hw : BitVec 2} (within : (sf || decide (hw < 2)) = true) :
    16 * hw.toNat < dataSize sf := by
  revert within
  cases sf <;> revert hw <;> decide

theorem widthOfBits_ne (code : BitVec 2) : widthOfBits code ≠ .quad := by
  revert code
  decide

theorem registerAccess?_supports {vector : Bool} {size opc : BitVec 2} {op : MemOp} {w : Width}
    (named : registerAccess? vector size opc = some (op, w)) : op.Supports w := by
  have all : ∀ vector size opc, ∀ access ∈ registerAccess? vector size opc,
      access.1.Supports access.2 := by decide
  exact all vector size opc (op, w) named

theorem pairWidth?_supports {vector : Bool} {opc : BitVec 2} {w : Width}
    (named : pairWidth? vector opc = some w) : PairSupports vector w := by
  have all : ∀ vector opc, ∀ w ∈ pairWidth? vector opc,
      w = .word ∨ w = .double ∨ vector = true ∧ w = .quad := by decide
  exact all vector opc w named

variable (raw : BitVec 32)

/-- A test stands between a field and the instruction. -/
theorem wellFormed_ite {c : Prop} [Decidable c] {instruction : Instruction}
    (sound : c → instruction.WellFormed) :
    (if c then instruction else .unknown raw).WellFormed := by
  split
  · rename_i passed
    exact sound passed
  · trivial

theorem decodeImmediate_wellFormed : (decodeImmediate raw).WellFormed := by
  unfold decodeImmediate
  dsimp only
  split
  · trivial
  · trivial
  · trivial
  · split <;> trivial
  · split <;> first | exact wellFormed_ite raw moveWide_within | trivial
  · have bitfield {op : BitfieldOp} {rd rn : RegNum}
        (fits : (bit raw 22 == bit raw 31 && amountFits (bit raw 31) (bits raw 16 6) &&
          amountFits (bit raw 31) (bits raw 10 6)) = true) :
        (Instruction.bitfield (bit raw 31) op rd rn (bits raw 16 6) (bits raw 10 6)).WellFormed := by
      simp only [Bool.and_eq_true] at fits
      exact ⟨lt_of_amountFits fits.1.2, lt_of_amountFits fits.2⟩
    split <;> first | exact wellFormed_ite raw bitfield | trivial
  · trivial

theorem decodeSystem_wellFormed : (decodeSystem raw).WellFormed := by
  unfold decodeSystem
  dsimp only
  repeat' split
  all_goals trivial

theorem decodeBranchSystem_wellFormed : (decodeBranchSystem raw).WellFormed := by
  unfold decodeBranchSystem decodeException decodeBranchRegister
  split
  · trivial
  split
  · trivial
  split
  · exact BitVec.isLt _
  split
  · trivial
  split
  · split <;> trivial
  split
  · exact wellFormed_ite raw fun _ => by split <;> trivial
  · exact wellFormed_ite raw fun _ => decodeSystem_wellFormed raw

theorem decodeExclusive_wellFormed : (decodeExclusive raw).WellFormed := by
  have single := widthOfBits_ne (bits raw 30 2)
  have pair (set : bit raw 31 = true) :
      widthOfBits (bits raw 30 2) = .word ∨ widthOfBits (bits raw 30 2) = .double := by
    have upper : ∀ code : BitVec 2,
        flag code 1 = true → widthOfBits code = .word ∨ widthOfBits code = .double := by decide
    exact upper _ ((flag_slice (by decide)).trans set)
  unfold decodeExclusive
  dsimp only
  split
  · exact single
  · exact single
  · exact wellFormed_ite raw pair
  · exact wellFormed_ite raw pair
  · exact wellFormed_ite raw fun _ => single
  · exact wellFormed_ite raw fun _ => single
  · trivial

theorem decodeLiteral_wellFormed : (decodeLiteral raw).WellFormed := by
  unfold decodeLiteral
  dsimp only
  split
  · exact (by decide : MemOp.load.Supports .word)
  · exact (by decide : MemOp.load.Supports .double)
  · exact (by decide : (MemOp.loadSigned true).Supports .word)
  · trivial

theorem decodePair_wellFormed : (decodePair raw).WellFormed := by
  unfold decodePair
  dsimp only
  split
  · trivial
  · rename_i w named
    refine ⟨pairWidth?_supports named, ?_⟩
    split <;> trivial

theorem registerAddressing?_wellFormed {w : Width} {addressing : Addressing}
    (named : registerAddressing? raw w = some addressing) : addressing.WellFormed := by
  have size : w.log2 ≤ 4 := by cases w <;> decide
  unfold registerAddressing? at named
  split at named
  · cases named
    trivial
  split at named
  · dsimp only at named
    split at named <;> cases named <;> trivial
  split at named
  · obtain ⟨extend, _, rfl⟩ := Option.map_eq_some_iff.mp named
    simp only [Addressing.WellFormed]
    split <;> omega
  · contradiction

theorem decodeRegister_wellFormed : (decodeRegister raw).WellFormed := by
  unfold decodeRegister
  split
  · trivial
  · rename_i op w access
    split
    · rename_i addressing named
      exact ⟨registerAccess?_supports access, registerAddressing?_wellFormed raw named⟩
    · trivial

theorem decodeLoadStore_wellFormed : (decodeLoadStore raw).WellFormed := by
  unfold decodeLoadStore
  split
  · exact decodeExclusive_wellFormed raw
  split
  · exact decodeLiteral_wellFormed raw
  split
  · exact decodePair_wellFormed raw
  · exact wellFormed_ite raw fun _ => decodeRegister_wellFormed raw

theorem decodeDataRegister_wellFormed : (decodeDataRegister raw).WellFormed := by
  unfold decodeDataRegister
  dsimp only
  split
  · exact wellFormed_ite raw lt_of_amountFits
  split
  · refine wellFormed_ite raw fun fits => ?_
    simp only [Bool.and_eq_true] at fits
    exact lt_of_amountFits fits.1
  split
  · trivial
  split
  · split <;> trivial
  · exact wellFormed_ite raw fun _ => trivial

theorem decode_wellFormed : (decode raw).WellFormed := by
  unfold decode
  split
  · exact decodeImmediate_wellFormed raw
  · exact decodeImmediate_wellFormed raw
  · exact decodeBranchSystem_wellFormed raw
  · exact decodeBranchSystem_wellFormed raw
  · exact decodeLoadStore_wellFormed raw
  · exact decodeLoadStore_wellFormed raw
  · exact decodeLoadStore_wellFormed raw
  · exact decodeLoadStore_wellFormed raw
  · exact decodeDataRegister_wellFormed raw
  · exact decodeDataRegister_wellFormed raw
  · exact wellFormed_ite raw fun _ => trivial
  · trivial

end GuestMachine.A64
