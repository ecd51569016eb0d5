import GuestMachine.Proofs.A64.CheckedCompute
import GuestMachine.Proofs.A64.WellFormed

/-! # Execution that is checked

The executor on a host that checks its arithmetic and its register numbers.
Whatever word guest code holds and whatever the registers are, nothing stops
there that does not stop the unchecked executor.
-/

namespace GuestMachine.A64

/-- Why guest code was stopped. -/
inductive Fault where
  | trap (trap : Trap)
  /-- What stops it on any host. -/
  | error (error : CpuError)

abbrev CheckedExec (σ : Type) := EStateM Fault (Cpu σ)

namespace CheckedExec

/-- A computation with nothing to check. -/
def ofExec (x : Exec σ α) : CheckedExec σ α := fun cpu =>
  match x cpu with
  | .ok a cpu => .ok a cpu
  | .error e cpu => .error (.error e) cpu

def check (x : Except Trap α) : CheckedExec σ α := fun cpu =>
  match x with
  | .ok a => .ok a cpu
  | .error trap => .error (.trap trap) cpu

def update (f : RegisterFile → Except Trap RegisterFile) : CheckedExec σ Unit := do
  let regs ← check (f (← ofExec Exec.registers))
  ofExec (Exec.modifyRegisters fun _ => regs)

@[simp] theorem ofExec_bind (x : Exec σ α) (f : α → Exec σ β) :
    ofExec (x >>= f) = ofExec x >>= fun a => ofExec (f a) := by
  funext cpu
  simp only [ofExec, bind, EStateM.bind]
  cases x cpu <;> rfl

@[simp] theorem ofExec_map (f : α → β) (x : Exec σ α) : ofExec (f <$> x) = f <$> ofExec x := by
  rw [map_eq_pure_bind, ofExec_bind, map_eq_pure_bind]
  rfl

@[simp] theorem check_ok (a : α) : (check (.ok a) : CheckedExec σ α) = pure a := rfl

theorem update_eq {f : RegisterFile → Except Trap RegisterFile} {g : RegisterFile → RegisterFile}
    (same : ∀ regs, f regs = .ok (g regs)) :
    (update f : CheckedExec σ Unit) = ofExec (Exec.modifyRegisters g) := by
  funext cpu
  simp only [update, bind, EStateM.bind, ofExec, check, Exec.registers, same]
  rfl

@[simp] theorem update_ok (g : RegisterFile → RegisterFile) :
    (update fun regs => .ok (g regs) : CheckedExec σ Unit) = ofExec (Exec.modifyRegisters g) :=
  update_eq fun _ => rfl

/-- Nothing stops that would not stop on any host. -/
def NeverTraps (x : CheckedExec σ α) : Prop :=
  ∀ cpu trap after, x cpu ≠ .error (.trap trap) after

theorem ofExec_neverTraps (x : Exec σ α) : (ofExec x).NeverTraps := by
  intro cpu trap after
  unfold ofExec
  cases x cpu <;> rintro ⟨⟩

end CheckedExec

namespace Checked

open CheckedExec

def linkRegister (link : Bool) (pc : Address) (regs : RegisterFile) : Except Trap RegisterFile :=
  if link then setGeneral regs 30 (pc + 4) else pure regs

def effectiveAddress (regs : RegisterFile) (rn : RegNum) (addressing : Addressing) :
    Except Trap (Address × Option UInt64) := do
  let base ← xsp regs rn.toNat
  match addressing with
  | .offset bytes => pure (displace base bytes, none)
  | .preIndex bytes => pure (displace base bytes, some (displace base bytes))
  | .postIndex bytes => pure (base, some (displace base bytes))
  | .register rm extend shift => do
      let index := extendIndex extend (← xzr regs rm.toNat).toBitVec
      pure (base + UInt64.ofBitVec (← shiftLeft index shift), none)

def writeBack (rn : RegNum) (value : Option UInt64) (regs : RegisterFile) :
    Except Trap RegisterFile :=
  match value with
  | some value => setXsp regs rn.toNat value
  | none => pure regs

/-- A general register moves at most eight bytes. -/
def generalWidth : Width → Width
  | .quad => .double
  | w => w

variable (env : Environment σ)

def access (op : MemOp) (w : Width) (rt : RegNum) (addr : Address) : CheckedExec σ Unit := do
  let regs ← ofExec Exec.registers
  match op with
  | .store => do
      let value ← check (xzr regs rt.toNat)
      let _ ← ofExec (Exec.hook (env.write (generalWidth w) addr (value.toBitVec.setWidth _)))
  | .load => do
      let value ← ofExec (Exec.hook (env.read (generalWidth w) addr))
      update (setXzr · rt.toNat (UInt64.ofBitVec (value.setWidth 64)))
  | .loadSigned to64 => do
      let value ← ofExec (Exec.hook (env.read (generalWidth w) addr))
      let extended ← check (signExtendRead (value.setWidth 64) w.log2)
      update (setXzr · rt.toNat (truncate to64 extended))
  | .storeVector => do
      let value ← check (vector regs rt.toNat)
      let _ ← ofExec (Exec.hook (env.write w addr (value.setWidth _)))
  | .loadVector => do
      let value ← ofExec (Exec.hook (env.read w addr))
      update (setVector · rt.toNat (value.setWidth 128))

def loadExclusivePair (pc : Address) (w : Width) (rt rt2 : RegNum) (addr : Address) :
    CheckedExec σ Unit :=
  match w with
  | .word => do
      let value ← ofExec (Exec.tryHook (env.exclusiveRead .double pc addr))
      update fun regs => do
        let regs ← setXzr regs rt.toNat (UInt64.ofBitVec ((value.extractLsb' 0 32).setWidth 64))
        setXzr regs rt2.toNat (UInt64.ofBitVec ((value.extractLsb' 32 32).setWidth 64))
  | _ => do
      let value ← ofExec (Exec.tryHook (env.exclusiveRead .quad pc addr))
      update fun regs => do
        let regs ← setXzr regs rt.toNat (UInt64.ofBitVec (value.extractLsb' 0 64))
        setXzr regs rt2.toNat (UInt64.ofBitVec (value.extractLsb' 64 64))

def storeExclusivePair (pc : Address) (w : Width) (rs rt rt2 : RegNum) (addr : Address) :
    CheckedExec σ Unit := do
  let regs ← ofExec Exec.registers
  let low := (← check (xzr regs rt.toNat)).toBitVec
  let high := (← check (xzr regs rt2.toNat)).toBitVec
  let committed ← ofExec <| Exec.tryHook <|
    match w with
    | .word => env.exclusiveWrite .double pc addr (high.setWidth 32 ++ low.setWidth 32)
    | _ => env.exclusiveWrite .quad pc addr (high ++ low)
  update (setXzr · rs.toNat (exclusiveStatus committed))

/-- Clear `count` double words from `offset` bytes behind `base`. -/
def zeroDoubles (base : Address) (offset : Nat) : (count : Nat) → CheckedExec σ Unit
  | 0 => pure ()
  | count + 1 => do
      let addr ← check (add base.toBitVec (BitVec.ofNat 64 offset))
      let _ ← ofExec (Exec.hook (env.write .double (UInt64.ofBitVec addr) 0#64))
      zeroDoubles base (offset + 8) count

section

variable {w : Width}

theorem linkRegister_eq (link : Bool) (pc : Address) (regs : RegisterFile) :
    linkRegister link pc regs = .ok (A64.linkRegister link pc regs) := by
  cases link <;> rfl

theorem effectiveAddress_eq {addressing : Addressing} (sound : addressing.WellFormed)
    (regs : RegisterFile) (rn : RegNum) :
    effectiveAddress regs rn addressing = .ok (A64.effectiveAddress regs rn addressing) := by
  cases addressing with
  | register rm extend shift =>
      have short : shift < 64 := Nat.lt_of_le_of_lt sound (by decide)
      simp only [effectiveAddress, xsp_eq, xzr_eq, ok_bind, shiftLeft_eq short]
      rfl
  | _ =>
      simp only [effectiveAddress, xsp_eq, ok_bind]
      rfl

theorem writeBack_eq (rn : RegNum) (value : Option UInt64) (regs : RegisterFile) :
    writeBack rn value regs = .ok (A64.writeBack rn value regs) := by
  cases value with
  | none => rfl
  | some value => exact setXsp_eq ..

theorem generalWidth_eq (general : w ≠ .quad) : generalWidth w = w := by
  cases w <;> first | rfl | exact absurd rfl general

/-- A read that is sign-extended to 64 bits and cut off is sign-extended to the form. -/
theorem truncate_signExtend (to64 : Bool) (value : BitVec w.bits) :
    truncate to64 (value.signExtend 64) =
      UInt64.ofBitVec (if to64 then value.signExtend 64 else (value.signExtend 32).setWidth 64) := by
  cases to64 with
  | true => rfl
  | false =>
      have low : (value.signExtend 64).setWidth 32 = value.signExtend 32 := by
        apply BitVec.eq_of_getLsbD_eq
        intro i inside
        have within : i < 64 := by omega
        simp only [BitVec.getLsbD_setWidth, BitVec.getLsbD_signExtend, inside, within, decide_true,
          Bool.true_and]
      rw [truncate_eq, result, dataSize, if_neg Bool.false_ne_true, low]
      rfl

theorem access_eq {op : MemOp} (supported : op.Supports w) (rt : RegNum) (addr : Address) :
    access env op w rt addr = ofExec (A64.access env op w rt addr) := by
  cases op with
  | store =>
      rw [access, generalWidth_eq supported]
      simp [A64.access]
  | load =>
      rw [access, generalWidth_eq supported]
      simp [A64.access]
  | loadSigned to64 =>
      have general : w ≠ .quad := by
        rintro rfl
        cases to64 <;> exact absurd supported (by decide)
      rw [access, generalWidth_eq general]
      simp [A64.access, signExtendRead_eq general, truncate_signExtend]
  | storeVector => simp [access, A64.access]
  | loadVector => simp [access, A64.access]

theorem pairAccess_supports {load vector : Bool} (supported : PairSupports vector w) :
    (pairAccess load vector).Supports w := by
  rcases supported with rfl | rfl | ⟨rfl, rfl⟩
  · cases load <;> cases vector <;> decide
  · cases load <;> cases vector <;> decide
  · cases load <;> decide

theorem loadExclusivePair_eq (pc : Address) (rt rt2 : RegNum) (addr : Address) :
    loadExclusivePair env pc w rt rt2 addr = ofExec (A64.loadExclusivePair env pc w rt rt2 addr) := by
  cases w <;> simp [loadExclusivePair, A64.loadExclusivePair]

theorem storeExclusivePair_eq (pc : Address) (rs rt rt2 : RegNum) (addr : Address) :
    storeExclusivePair env pc w rs rt rt2 addr =
      ofExec (A64.storeExclusivePair env pc w rs rt rt2 addr) := by
  cases w <;> simp [storeExclusivePair, A64.storeExclusivePair]

theorem zeroDoubles_eq {base : Address} {offset count : Nat}
    (room : base.toNat + offset + 8 * count ≤ 2 ^ 64) :
    zeroDoubles env base offset count =
      ofExec (A64.zeroDoubles env (base + UInt64.ofNat offset) count) := by
  -- Every address is summed up from the start of the block, so it is the offset that grows.
  induction count generalizing offset with
  | zero => rfl
  | succ count ih =>
      have within : (BitVec.ofNat 64 offset).toNat = offset := Nat.mod_eq_of_lt (by omega)
      have fits : base.toBitVec.toNat + (BitVec.ofNat 64 offset).toNat < 2 ^ 64 := by
        have same : base.toBitVec.toNat = base.toNat := rfl
        omega
      have next : base + UInt64.ofNat (offset + 8) = base + UInt64.ofNat offset + 8 := by
        rw [UInt64.ofNat_add, ← UInt64.add_assoc]
        rfl
      rw [zeroDoubles, add_eq fits, A64.zeroDoubles, ih (by omega), next, check_ok, pure_bind,
        ofExec_bind]
      rfl

/-- A cleared block ends by the end of the address space. -/
theorem zvaBlock_room (addr : Address) :
    (addr &&& ~~~(zvaBlockSize - 1)).toNat + 0 + 8 * 8 ≤ 2 ^ 64 := by
  have masked : (addr &&& ~~~(zvaBlockSize - 1)).toNat ≤ (~~~(zvaBlockSize - 1)).toNat := by
    rw [UInt64.toNat_and]
    exact Nat.and_le_right
  have mask : (~~~(zvaBlockSize - 1)).toNat = 2 ^ 64 - 64 := by decide
  omega

end

def compute (f : RegisterFile → Except Trap RegisterFile) : CheckedExec σ Flow := do
  update f
  pure .next

theorem compute_eq {f : RegisterFile → Except Trap RegisterFile} {g : RegisterFile → RegisterFile}
    (same : ∀ regs, f regs = .ok (g regs)) :
    (compute f : CheckedExec σ Flow) = ofExec (A64.compute g) := by
  rw [compute, A64.compute, ofExec_bind, update_eq same]
  rfl

/-- Execute `instruction`, which lies at `pc`. -/
def execute (cntfrq : UInt64) (pc : Address) (instruction : Instruction) : CheckedExec σ Flow :=
  match instruction with
  | .moveWide sf op rd imm16 hw => compute (Compute.moveWide · sf op rd imm16 hw)
  | .addSubImm sf sub setFlags rd rn imm => compute (Compute.addSubImm · sf sub setFlags rd rn imm)
  | .addSubReg sf sub setFlags rd rn rm shift amount =>
      compute (Compute.addSubReg · sf sub setFlags rd rn rm shift amount)
  | .logicalImm sf op rd rn imm => compute (Compute.logicalImm · sf op rd rn imm)
  | .logicalReg sf op invert rd rn rm shift amount =>
      compute (Compute.logicalReg · sf op invert rd rn rm shift amount)
  | .bitfield sf op rd rn immr imms => compute (Compute.bitfield · sf op rd rn immr imms)
  | .condSelect sf op rd rn rm cond => compute (Compute.condSelect · sf op rd rn rm cond)
  | .mulAdd sf sub rd rn rm ra => compute (Compute.mulAdd · sf sub rd rn rm ra)
  | .dataProc2 sf op rd rn rm => compute (Compute.dataProc2 · sf op rd rn rm)
  | .adr rd offset page => compute (Compute.adr · pc rd offset page)
  | .branch link offset => do
      update (linkRegister link pc)
      pure (.jump (displace pc offset))
  | .compareBranch sf nonzero rt offset => do
      let regs ← ofExec Exec.registers
      let value ← check (xzr regs rt.toNat)
      pure (branchIf ((truncate sf value.toBitVec == 0) != nonzero) pc offset)
  | .testBranch nonzero rt bit offset => do
      let regs ← ofExec Exec.registers
      let set ← check (testBit (← check (xzr regs rt.toNat)) bit)
      pure (branchIf (set == nonzero) pc offset)
  | .branchReg link rn => do
      let regs ← ofExec Exec.registers
      let target ← check (xzr regs rn.toNat)
      update (linkRegister link pc)
      pure (.jump target)
  | .ret rn => do
      let regs ← ofExec Exec.registers
      let target ← check (xzr regs rn.toNat)
      pure (.jump target)
  | .loadStore op w rt rn addressing => do
      let regs ← ofExec Exec.registers
      let (addr, base) ← check (effectiveAddress regs rn addressing)
      access env op w rt addr
      update (writeBack rn base)
      pure .next
  | .loadLiteral op w rt offset => do
      access env op w rt (displace pc offset)
      pure .next
  | .loadStorePair load vector w rt rt2 rn addressing => do
      let regs ← ofExec Exec.registers
      let (addr, base) ← check (effectiveAddress regs rn addressing)
      let second ← check (secondAddress addr w.log2)
      access env (pairAccess load vector) w rt addr
      access env (pairAccess load vector) w rt2 second
      update (writeBack rn base)
      pure .next
  | .loadExclusive w rt rn => do
      let regs ← ofExec Exec.registers
      let addr ← check (xsp regs rn.toNat)
      let value ← ofExec (Exec.tryHook (env.exclusiveRead (generalWidth w) pc addr))
      update (setXzr · rt.toNat (UInt64.ofBitVec (value.setWidth 64)))
      pure .next
  | .storeExclusive w rs rt rn => do
      let regs ← ofExec Exec.registers
      let addr ← check (xsp regs rn.toNat)
      let value ← check (xzr regs rt.toNat)
      let committed ← ofExec <| Exec.tryHook <|
        env.exclusiveWrite (generalWidth w) pc addr (value.toBitVec.setWidth _)
      update (setXzr · rs.toNat (exclusiveStatus committed))
      pure .next
  | .loadExclusivePair w rt rt2 rn => do
      let regs ← ofExec Exec.registers
      loadExclusivePair env pc w rt rt2 (← check (xsp regs rn.toNat))
      pure .next
  | .storeExclusivePair w rs rt rt2 rn => do
      let regs ← ofExec Exec.registers
      storeExclusivePair env pc w rs rt rt2 (← check (xsp regs rn.toNat))
      pure .next
  | .loadAcquire w rt rn => do
      let regs ← ofExec Exec.registers
      access env .load w rt (← check (xsp regs rn.toNat))
      pure .next
  | .storeRelease w rt rn => do
      let regs ← ofExec Exec.registers
      access env .store w rt (← check (xsp regs rn.toNat))
      pure .next
  | .dataCache op rt => do
      let regs ← ofExec Exec.registers
      let addr ← check (xzr regs rt.toNat)
      match op with
      | .zeroByVa => do
          zeroDoubles env (addr &&& ~~~(zvaBlockSize - 1)) 0 8
          pure .next
      | op => do
          ofExec (Exec.tryHook (env.dataCache pc op addr))
          pure .endBlock
  | .instructionCache op rt => do
      let regs ← ofExec Exec.registers
      let addr ← check (xzr regs rt.toNat)
      ofExec (Exec.tryHook (env.instructionCache pc op addr))
      match op with
      | .invalidateByVaToPou =>
          pure (.invalidate (some (addr &&& ~~~(icacheLineSize - 1), icacheLineSize)))
      | _ => pure (.invalidate none)
  | .mrs rt reg => do
      let value ← ofExec (readSystem env cntfrq reg)
      update (setXzr · rt.toNat value)
      pure .next
  | .msr rt reg => do
      let ctx ← ofExec Exec.context
      let value ← check (xzr ctx.registers rt.toNat)
      match writeSystem? ctx reg value with
      | some ctx => do
          ofExec (Exec.modifyContext fun _ => ctx)
          pure .next
      | none => do
          ofExec (Exec.tryHook (env.fallback pc 0))
          pure .endBlock
  -- What is left names no register and computes nothing.
  | .branchCond .. | .clearExclusive | .barrier | .instructionBarrier | .hint .. | .svc .. | .brk ..
  | .udf .. | .unknown .. => ofExec (A64.execute env cntfrq pc instruction)

theorem execute_eq {instruction : Instruction} (sound : instruction.WellFormed) (cntfrq : UInt64)
    (pc : Address) :
    execute env cntfrq pc instruction = ofExec (A64.execute env cntfrq pc instruction) := by
  cases instruction with
  | moveWide sf op rd imm16 hw => exact compute_eq fun regs => Compute.moveWide_eq regs sf sound ..
  | addSubImm sf sub setFlags rd rn imm => exact compute_eq fun regs => Compute.addSubImm_eq ..
  | addSubReg sf sub setFlags rd rn rm shift amount =>
      exact compute_eq fun regs => Compute.addSubReg_eq ..
  | logicalImm sf op rd rn imm => exact compute_eq fun regs => Compute.logicalImm_eq ..
  | logicalReg sf op invert rd rn rm shift amount =>
      exact compute_eq fun regs => Compute.logicalReg_eq ..
  | bitfield sf op rd rn immr imms =>
      exact compute_eq fun regs => Compute.bitfield_eq regs sf sound.1 sound.2 ..
  | condSelect sf op rd rn rm cond => exact compute_eq fun regs => Compute.condSelect_eq ..
  | mulAdd sf sub rd rn rm ra => exact compute_eq fun regs => Compute.mulAdd_eq ..
  | dataProc2 sf op rd rn rm => exact compute_eq fun regs => Compute.dataProc2_eq ..
  | adr rd offset page => exact compute_eq fun regs => Compute.adr_eq ..
  | branch link offset => simp [execute, A64.execute, update_eq (linkRegister_eq link pc)]
  | compareBranch sf nonzero rt offset => simp [execute, A64.execute, truncate_beq_zero]
  | testBranch nonzero rt bit offset => simp [execute, A64.execute, testBit_eq]
  | branchReg link rn => simp [execute, A64.execute, update_eq (linkRegister_eq link pc)]
  | ret rn => simp [execute, A64.execute]
  | loadStore op w rt rn addressing =>
      simp [execute, A64.execute, effectiveAddress_eq sound.2, access_eq env sound.1,
        update_eq (writeBack_eq _ _)]
  | loadLiteral op w rt offset =>
      have supported : op.Supports w := sound
      simp [execute, A64.execute, access_eq env supported]
  | loadStorePair load vector w rt rt2 rn addressing =>
      simp [execute, A64.execute, effectiveAddress_eq sound.2, secondAddress_eq,
        access_eq env (pairAccess_supports sound.1), update_eq (writeBack_eq _ _)]
  | loadExclusive w rt rn =>
      rw [execute, generalWidth_eq sound]
      simp [A64.execute]
  | storeExclusive w rs rt rn =>
      rw [execute, generalWidth_eq sound]
      simp [A64.execute]
  | loadExclusivePair w rt rt2 rn => simp [execute, A64.execute, loadExclusivePair_eq]
  | storeExclusivePair w rs rt rt2 rn => simp [execute, A64.execute, storeExclusivePair_eq]
  | loadAcquire w rt rn =>
      have supported : MemOp.load.Supports w := sound
      simp [execute, A64.execute, access_eq env supported]
  | storeRelease w rt rn =>
      have supported : MemOp.store.Supports w := sound
      simp [execute, A64.execute, access_eq env supported]
  | dataCache op rt =>
      cases op with
      | zeroByVa => simp [execute, A64.execute, zeroDoubles_eq env (zvaBlock_room _)]
      | _ => simp [execute, A64.execute]
  | instructionCache op rt => cases op <;> simp [execute, A64.execute]
  | mrs rt reg => simp [execute, A64.execute]
  | msr rt reg =>
      simp only [execute, A64.execute, ofExec_bind, xzr_eq, check_ok, pure_bind]
      congr 1
      funext ctx
      cases writeSystem? ctx reg (ctx.registers.xzr rt) <;> simp
  | _ => rfl

end Checked

/-- Guest code cannot stop a host that checks its arithmetic: what the decoder
    yields is well formed, and a well-formed instruction does there what it does
    on any other host, at any address. -/
theorem execute_decode_neverTraps (env : Environment σ) (cntfrq : UInt64) (pc : Address) :
    (∀ word, (decode word).WellFormed) ∧
      (∀ instruction, instruction.WellFormed →
        Checked.execute env cntfrq pc instruction =
          CheckedExec.ofExec (execute env cntfrq pc instruction)) ∧
      ∀ word, (Checked.execute env cntfrq pc (decode word)).NeverTraps := by
  refine ⟨decode_wellFormed, fun _ sound => Checked.execute_eq env sound cntfrq pc, fun word => ?_⟩
  rw [Checked.execute_eq env (decode_wellFormed word) cntfrq pc]
  exact CheckedExec.ofExec_neverTraps _

end GuestMachine.A64
