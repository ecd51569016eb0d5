import GuestMachine.A64.Execute

/-! # Places for values

General registers, the stack pointer and vector registers as one kind of place
that takes up to 128 bits. A register number stands for a place depending on the
operand; as a general operand, number 31 stands for none.
-/

namespace GuestMachine

open A64 (RegNum)

inductive Place where
  | x (n : Fin 31)
  | sp
  | v (n : Fin 32)
  deriving DecidableEq

/-- The place has room for the value. -/
def Place.Fits (value : BitVec 128) : Place → Prop
  | .x _ | .sp => (value.setWidth 64).setWidth 128 = value
  | .v _ => True

theorem setWidth_setWidth_of_small {n : Nat} (bits : BitVec n) (small : n ≤ 64) :
    (bits.setWidth 64).setWidth 128 = bits.setWidth 128 := by
  have below : bits.toNat < 2 ^ 64 :=
    Nat.lt_of_lt_of_le bits.isLt (Nat.pow_le_pow_right (by decide) small)
  apply BitVec.eq_of_toNat_eq
  rw [BitVec.toNat_setWidth, BitVec.toNat_setWidth, BitVec.toNat_setWidth, Nat.mod_eq_of_lt below]

/-- What has no more than 64 bits fits anywhere. -/
theorem Place.fits_of_small {n : Nat} (bits : BitVec n) (small : n ≤ 64) (place : Place) :
    place.Fits (bits.setWidth 128) := by
  cases place with
  | x _ | sp =>
      have low : (bits.setWidth 128).setWidth 64 = bits.setWidth 64 :=
        BitVec.setWidth_setWidth_of_le bits (by decide)
      rw [Fits, low, setWidth_setWidth_of_small bits small]
  | v _ => trivial

namespace RegisterFile

def get (regs : RegisterFile) : Place → BitVec 128
  | .x n => regs.x[n].toBitVec.setWidth 128
  | .sp => regs.sp.toBitVec.setWidth 128
  | .v n => regs.v[n]

def put (regs : RegisterFile) (value : BitVec 128) : Place → RegisterFile
  | .x n => { regs with x := regs.x.set n (UInt64.ofBitVec (value.setWidth 64)) }
  | .sp => { regs with sp := UInt64.ofBitVec (value.setWidth 64) }
  | .v n => { regs with v := regs.v.set n value }

variable {regs : RegisterFile} {value : BitVec 128} {place other : Place}

theorem get_put_self (fits : place.Fits value) : (regs.put value place).get place = value := by
  cases place with
  | x n => simpa [get, put, Place.Fits] using fits
  | sp => exact fits
  | v n => simp [get, put]

theorem get_put_of_ne (different : other ≠ place) :
    (regs.put value place).get other = regs.get other := by
  cases place with
  | x n =>
      cases other with
      | x m =>
          have apart : n.val ≠ m.val := fun same => different (congrArg Place.x (Fin.ext same.symm))
          simp [get, put, Vector.getElem_set_ne, apart]
      | sp | v m => rfl
  | sp =>
      cases other with
      | sp => exact absurd rfl different
      | x m | v m => rfl
  | v n =>
      cases other with
      | v m =>
          have apart : n.val ≠ m.val := fun same => different (congrArg Place.v (Fin.ext same.symm))
          simp [get, put, Vector.getElem_set_ne, apart]
      | x m | sp => rfl

end RegisterFile

/-- A value and where it goes, if anywhere. -/
abbrev Assignment := Option Place × BitVec 128

namespace RegisterFile

def assign (regs : RegisterFile) : Assignment → RegisterFile
  | (some place, value) => regs.put value place
  | (none, _) => regs

def assignAll (regs : RegisterFile) (assignments : List Assignment) : RegisterFile :=
  assignments.foldl assign regs

variable {regs : RegisterFile} {assignments : List Assignment} {place : Place}

theorem get_assign_of_ne {assignment : Assignment} (other : assignment.1 ≠ some place) :
    (regs.assign assignment).get place = regs.get place := by
  obtain ⟨_ | target, value⟩ := assignment
  · rfl
  · exact get_put_of_ne fun same => other (congrArg some same.symm)

theorem get_assignAll_of_not_mem (others : ∀ assignment ∈ assignments, assignment.1 ≠ some place) :
    (regs.assignAll assignments).get place = regs.get place := by
  induction assignments generalizing regs with
  | nil => rfl
  | cons assignment rest ih =>
      obtain ⟨first, others⟩ := List.forall_mem_cons.mp others
      exact (ih others).trans (get_assign_of_ne first)

/-- Of several values with places of their own each one arrives. -/
theorem get_assignAll_of_mem {value : BitVec 128} (distinct : (assignments.filterMap (·.1)).Nodup)
    (member : (some place, value) ∈ assignments) (fits : place.Fits value) :
    (regs.assignAll assignments).get place = value := by
  induction assignments generalizing regs with
  | nil => cases member
  | cons assignment rest ih =>
      cases member with
      | tail _ member =>
          apply ih _ member
          rw [List.filterMap_cons] at distinct
          split at distinct
          · exact distinct
          · exact (List.nodup_cons.mp distinct).2
      | head =>
          have fresh : place ∉ rest.filterMap (·.1) := (List.nodup_cons.mp distinct).1
          have kept : ((regs.put value place).assignAll rest).get place =
              (regs.put value place).get place := by
            apply get_assignAll_of_not_mem
            intro assignment member same
            exact fresh (List.mem_filterMap.mpr ⟨assignment, member, same⟩)
          exact kept.trans (get_put_self fits)

theorem assignAll_append (regs : RegisterFile) (first second : List Assignment) :
    regs.assignAll (first ++ second) = (regs.assignAll first).assignAll second :=
  List.foldl_append

theorem assign_same (regs : RegisterFile) (assignment : Assignment) :
    (regs.assign assignment).pc = regs.pc ∧ (regs.assign assignment).fpcr = regs.fpcr ∧
      (regs.assign assignment).fpsr = regs.fpsr ∧ (regs.assign assignment).nzcv = regs.nzcv := by
  obtain ⟨_ | place, value⟩ := assignment
  · exact ⟨rfl, rfl, rfl, rfl⟩
  · cases place <;> exact ⟨rfl, rfl, rfl, rfl⟩

theorem assignAll_same (regs : RegisterFile) (assignments : List Assignment) :
    (regs.assignAll assignments).pc = regs.pc ∧ (regs.assignAll assignments).fpcr = regs.fpcr ∧
      (regs.assignAll assignments).fpsr = regs.fpsr ∧
      (regs.assignAll assignments).nzcv = regs.nzcv := by
  induction assignments generalizing regs with
  | nil => exact ⟨rfl, rfl, rfl, rfl⟩
  | cons assignment rest ih =>
      obtain ⟨pc, fpcr, fpsr, nzcv⟩ := ih (regs.assign assignment)
      obtain ⟨pc', fpcr', fpsr', nzcv'⟩ := regs.assign_same assignment
      exact ⟨pc.trans pc', fpcr.trans fpcr', fpsr.trans fpsr', nzcv.trans nzcv'⟩

end RegisterFile

/-- The places hold the values they were assigned, and all else is as before. -/
structure ThreadContext.Receives (before after : ThreadContext) (assignments : List Assignment) :
    Prop where
  holds : ∀ place value, (some place, value) ∈ assignments → after.registers.get place = value
  others : ∀ place, (∀ assignment ∈ assignments, assignment.1 ≠ some place) →
    after.registers.get place = before.registers.get place
  same : after =
    { before with registers :=
      { before.registers with
        x := after.registers.x, sp := after.registers.sp, v := after.registers.v } }

theorem ThreadContext.receives_assignAll (context : ThreadContext) {assignments : List Assignment}
    (distinct : (assignments.filterMap (·.1)).Nodup)
    (fits : ∀ place value, (some place, value) ∈ assignments → place.Fits value) :
    context.Receives { context with registers := context.registers.assignAll assignments }
      assignments where
  holds place value member :=
    RegisterFile.get_assignAll_of_mem distinct member (fits place value member)
  others _ := RegisterFile.get_assignAll_of_not_mem
  same := by
    obtain ⟨pc, fpcr, fpsr, nzcv⟩ := context.registers.assignAll_same assignments
    dsimp only
    rw [← pc, ← fpcr, ← fpsr, ← nzcv]

/-- The two kinds of registers that take part in memory accesses. -/
inductive Bank where
  | general
  | vector
  deriving Repr, DecidableEq

namespace Bank

/-- Bits of one register. -/
def bits : Bank → Nat
  | general => 64
  | vector => 128

def place? : Bank → RegNum → Option Place
  | general, n => if inside : n.toNat < 31 then some (.x ⟨n.toNat, inside⟩) else none
  | vector, n => some (.v ⟨n.toNat, n.isLt⟩)

end Bank

/-- The place of a base register. -/
def basePlace (n : RegNum) : Place :=
  if inside : n.toNat < 31 then .x ⟨n.toNat, inside⟩ else .sp

namespace RegisterFile

variable (regs : RegisterFile) (n : RegNum)

theorem get_basePlace : regs.get (basePlace n) = (regs.xsp n).toBitVec.setWidth 128 := by
  unfold basePlace xsp
  split <;> rfl

theorem xsp_of_get {regs : RegisterFile} {n : RegNum} {value : UInt64}
    (held : regs.get (basePlace n) = value.toBitVec.setWidth 128) : regs.xsp n = value := by
  rw [get_basePlace] at held
  have same := congrArg (BitVec.setWidth 64) held
  rw [BitVec.setWidth_setWidth_of_le _ (by decide), BitVec.setWidth_setWidth_of_le _ (by decide),
    BitVec.setWidth_eq, BitVec.setWidth_eq] at same
  exact UInt64.toBitVec_inj.mp same

/-- A register of a bank has as many bits as the bank says. -/
theorem toNat_get_lt {bank : Bank} {place : Place} (here : bank.place? n = some place) :
    (regs.get place).toNat < 2 ^ bank.bits := by
  cases bank with
  | general =>
      simp only [Bank.place?] at here
      split at here
      · cases here
        change ((regs.x[n.toNat].toBitVec).setWidth 128).toNat < 2 ^ 64
        rw [BitVec.toNat_setWidth]
        exact Nat.lt_of_le_of_lt (Nat.mod_le _ _) (regs.x[n.toNat].toBitVec).isLt
      · cases here
  | vector => exact (regs.get place).isLt

theorem get_of_general {place : Place} (here : Bank.general.place? n = some place) :
    regs.get place = (regs.xzr n).toBitVec.setWidth 128 := by
  simp only [Bank.place?] at here
  unfold xzr
  split at here
  · rename_i inside
    cases here
    rw [dif_pos inside]
    rfl
  · cases here

theorem setXzr_eq_assign (value : UInt64) :
    regs.setXzr n value = regs.assign (Bank.general.place? n, value.toBitVec.setWidth 128) := by
  simp only [setXzr, Bank.place?]
  split
  · simp [assign, put]
  · rfl

theorem xzr_setXzr (file : RegisterFile) (m n : RegNum) (value : UInt64) :
    (file.setXzr m value).xzr n = if m = n ∧ n.toNat < 31 then value else file.xzr n := by
  unfold setXzr xzr
  by_cases same : m = n
  · subst same
    by_cases general : m.toNat < 31
    · simp [general]
    · simp [general]
  · have apart : m.toNat ≠ n.toNat := mt BitVec.eq_of_toNat_eq same
    by_cases general : m.toNat < 31
    · simp [general, same, apart]
    · simp [general, same]

theorem setXsp_eq_assign (value : UInt64) :
    regs.setXsp n value = regs.assign (some (basePlace n), value.toBitVec.setWidth 128) := by
  unfold setXsp basePlace
  split
  · simp [assign, put]
  · simp [assign, put]

end RegisterFile

end GuestMachine
