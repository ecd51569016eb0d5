import GuestMachine.Proofs.Translator.Invariance

/-! # Going on to the next instruction

An instruction after which its block goes on leaves the PC register alone, and
uses only the hooks for memory, the monitor and the counter. What these keep
holds until the block is left. Supervisor calls and events end a block, so they
may do anything.
-/

namespace GuestMachine.A64

variable {σ α β : Type} {P : Cpu σ → Prop}

/-- What `P` says before, it says after, if the computation ends well. -/
def Keeps (P : Cpu σ → Prop) (x : Exec σ α) : Prop :=
  ∀ cpu a after, P cpu → x cpu = .ok a after → P after

/-- As `Keeps`, but only for an instruction after which the block goes on. -/
def KeepsNext (P : Cpu σ → Prop) (x : Exec σ Flow) : Prop :=
  ∀ cpu after, P cpu → x cpu = .ok .next after → P after

namespace Keeps

theorem pure (a : α) : Keeps P (pure a) := by
  intro cpu _ _ holds ended
  cases ended
  exact holds

theorem bind {x : Exec σ α} {f : α → Exec σ β} (first : Keeps P x) (next : ∀ a, Keeps P (f a)) :
    Keeps P (x >>= f) := by
  intro cpu b after holds ended
  obtain ⟨a, between, here, there⟩ := Operation.bind_eq_ok ended
  exact next a between b after (first cpu a between holds here) there

theorem bindNext {x : Exec σ α} {f : α → Exec σ Flow} (first : Keeps P x)
    (next : ∀ a, KeepsNext P (f a)) : KeepsNext P (x >>= f) := by
  intro cpu after holds ended
  obtain ⟨a, between, here, there⟩ := Operation.bind_eq_ok ended
  exact next a between after (first cpu a between holds here) there

theorem next : KeepsNext P (Pure.pure Flow.next) :=
  fun cpu after holds ended => Keeps.pure Flow.next cpu _ after holds ended

theorem thenNext {x : Exec σ α} (first : Keeps P x) :
    KeepsNext P (x >>= fun _ => Pure.pure Flow.next) :=
  first.bindNext fun _ => next

theorem registers : Keeps P Exec.registers := by
  intro cpu _ _ holds ended
  cases ended
  exact holds

theorem context : Keeps P Exec.context := by
  intro cpu _ _ holds ended
  cases ended
  exact holds

end Keeps

/-- Whatever else it does, the block does not go on after it. -/
def NeverNext (x : Exec σ Flow) : Prop :=
  ∀ cpu after, x cpu ≠ .ok .next after

namespace NeverNext

theorem jump (target : Address) : NeverNext (pure (.jump target) : Exec σ Flow) :=
  nofun

theorem endBlock : NeverNext (pure .endBlock : Exec σ Flow) :=
  nofun

theorem invalidate (range : Option (Address × UInt64)) :
    NeverNext (pure (.invalidate range) : Exec σ Flow) :=
  nofun

theorem branchIf (taken : Bool) (pc : Address) (offset : Int) :
    NeverNext (pure (branchIf taken pc offset) : Exec σ Flow) := by
  cases taken with
  | true => exact jump _
  | false => exact endBlock

theorem bind {x : Exec σ α} {f : α → Exec σ Flow} (ends : ∀ a, NeverNext (f a)) :
    NeverNext (x >>= f) := by
  intro cpu after ended
  obtain ⟨a, between, _, there⟩ := Operation.bind_eq_ok ended
  exact ends a between after there

theorem keepsNext {x : Exec σ Flow} (never : NeverNext x) : KeepsNext P x :=
  fun cpu after _ ended => absurd ended (never cpu after)

end NeverNext

/-- The hooks of instructions after which a block goes on preserve `inv`. -/
structure Environment.PreservesWithinBlocks (inv : σ → Prop) (env : Environment σ) : Prop where
  read : ∀ w addr s, inv s → inv (env.read w addr s).2
  write : ∀ w addr value s, inv s → inv (env.write w addr value s).2
  exclusiveRead : ∀ w pc addr s, inv s → inv (outcomeState (env.exclusiveRead w pc addr s))
  exclusiveWrite : ∀ w pc addr value s, inv s →
    inv (outcomeState (env.exclusiveWrite w pc addr value s))
  clearExclusive : ∀ s, inv s → inv (env.clearExclusive s)
  counter : ∀ s, inv s → inv (env.counter s).2

/-- The environment is as `inv` says, and the PC register is still `pc`. -/
def Within (inv : σ → Prop) (pc : Address) (cpu : Cpu σ) : Prop :=
  inv cpu.env ∧ cpu.context.registers.pc = pc

section

variable {inv : σ → Prop} {here : Address}

theorem Keeps.hook {f : σ → α × σ} (keeps : ∀ s, inv s → inv (f s).2) :
    Keeps (Within inv here) (Exec.hook f) := by
  intro cpu _ _ holds ended
  cases ended
  exact ⟨keeps _ holds.1, holds.2⟩

theorem Keeps.tryHook {f : EStateM CpuError σ α} (keeps : ∀ s, inv s → inv (outcomeState (f s))) :
    Keeps (Within inv here) (Exec.tryHook f) := by
  intro cpu a after holds ended
  have kept := keeps cpu.env holds.1
  rw [Exec.tryHook] at ended
  cases answered : f cpu.env with
  | ok b s =>
      rw [answered] at ended kept
      cases ended
      exact ⟨kept, holds.2⟩
  | error e s =>
      rw [answered] at ended
      cases ended

theorem Keeps.modifyRegisters {f : RegisterFile → RegisterFile}
    (keeps : ∀ regs, (f regs).pc = regs.pc) : Keeps (Within inv here) (Exec.modifyRegisters f) := by
  intro cpu _ _ holds ended
  cases ended
  exact ⟨holds.1, (keeps _).trans holds.2⟩

theorem Keeps.compute {f : RegisterFile → RegisterFile} (keeps : ∀ regs, (f regs).pc = regs.pc) :
    KeepsNext (Within inv here) (compute f) :=
  (Keeps.modifyRegisters keeps).thenNext

end

@[simp]
theorem pc_setXzr (regs : RegisterFile) (n : RegNum) (value : UInt64) :
    (regs.setXzr n value).pc = regs.pc := by
  rw [RegisterFile.setXzr]
  split <;> rfl

@[simp]
theorem pc_setXsp (regs : RegisterFile) (n : RegNum) (value : UInt64) :
    (regs.setXsp n value).pc = regs.pc := by
  rw [RegisterFile.setXsp]
  split <;> rfl

@[simp]
theorem pc_setVector (regs : RegisterFile) (n : RegNum) (value : BitVec 128) :
    (regs.setVector n value).pc = regs.pc :=
  rfl

theorem pc_writeBack (rn : RegNum) (value : Option UInt64) (regs : RegisterFile) :
    (writeBack rn value regs).pc = regs.pc := by
  cases value with
  | none => rfl
  | some value => exact pc_setXsp regs rn value

theorem pc_writeSystem {ctx after : ThreadContext} {reg : SystemRegister} {value : UInt64}
    (written : writeSystem? ctx reg value = some after) :
    after.registers.pc = ctx.registers.pc := by
  cases reg with
  | tpidrEl0 | fpcr | fpsr | nzcv =>
      cases written
      rfl
  | _ => cases written

section

variable {env : Environment σ} {inv : σ → Prop} {here : Address}

theorem Keeps.access (keeps : env.PreservesWithinBlocks inv) (op : MemOp) (w : Width) (rt : RegNum)
    (addr : Address) : Keeps (Within inv here) (access env op w rt addr) := by
  refine Keeps.registers.bind fun regs => ?_
  have load : Keeps (Within inv here) (Exec.hook (env.read w addr)) := Keeps.hook (keeps.read w addr)
  cases op with
  | store => exact (Keeps.hook (keeps.write w addr _)).bind fun _ => .pure ()
  | load => exact load.bind fun _ => Keeps.modifyRegisters fun _ => pc_setXzr ..
  | loadSigned to64 => exact load.bind fun _ => Keeps.modifyRegisters fun _ => pc_setXzr ..
  | storeVector => exact (Keeps.hook (keeps.write w addr _)).bind fun _ => .pure ()
  | loadVector => exact load.bind fun _ => Keeps.modifyRegisters fun _ => pc_setVector ..

theorem Keeps.loadExclusivePair (keeps : env.PreservesWithinBlocks inv) (pc : Address) (w : Width)
    (rt rt2 : RegNum) (addr : Address) :
    Keeps (Within inv here) (loadExclusivePair env pc w rt rt2 addr) := by
  have read (w : Width) : Keeps (Within inv here) (Exec.tryHook (env.exclusiveRead w pc addr)) :=
    Keeps.tryHook (keeps.exclusiveRead w pc addr)
  have both (regs : RegisterFile) (low high : UInt64) :
      ((regs.setXzr rt low).setXzr rt2 high).pc = regs.pc :=
    (pc_setXzr ..).trans (pc_setXzr ..)
  cases w with
  | word => exact (read .double).bind fun _ => Keeps.modifyRegisters fun regs => both regs _ _
  | _ => exact (read .quad).bind fun _ => Keeps.modifyRegisters fun regs => both regs _ _

theorem Keeps.storeExclusivePair (keeps : env.PreservesWithinBlocks inv) (pc : Address) (w : Width)
    (rs rt rt2 : RegNum) (addr : Address) :
    Keeps (Within inv here) (storeExclusivePair env pc w rs rt rt2 addr) := by
  refine Keeps.registers.bind fun regs => ?_
  have write (w : Width) (value) :
      Keeps (Within inv here) (Exec.tryHook (env.exclusiveWrite w pc addr value)) :=
    Keeps.tryHook (keeps.exclusiveWrite w pc addr value)
  cases w with
  | word => exact (write .double _).bind fun _ => Keeps.modifyRegisters fun _ => pc_setXzr ..
  | _ => exact (write .quad _).bind fun _ => Keeps.modifyRegisters fun _ => pc_setXzr ..

theorem Keeps.zeroDoubles (keeps : env.PreservesWithinBlocks inv) (addr : Address) (count : Nat) :
    Keeps (Within inv here) (zeroDoubles env addr count) := by
  induction count generalizing addr with
  | zero => exact .pure ()
  | succ count ih => exact (Keeps.hook (keeps.write .double addr 0#64)).bind fun _ => ih (addr + 8)

theorem Keeps.readSystem (keeps : env.PreservesWithinBlocks inv) (cntfrq : UInt64)
    (reg : SystemRegister) : Keeps (Within inv here) (readSystem env cntfrq reg) := by
  refine Keeps.context.bind fun ctx => ?_
  cases reg with
  | cntpctEl0 => exact Keeps.hook keeps.counter
  | cntvctEl0 => exact Keeps.hook keeps.counter
  | _ => exact .pure _

/-- Nothing goes on after an instruction that ends its block. -/
theorem execute_neverNext (env : Environment σ) (cntfrq : UInt64) (pc : Address)
    {instruction : Instruction} (ends : instruction.endsBlock = true) :
    NeverNext (execute env cntfrq pc instruction) := by
  cases instruction with
  | branch link offset => exact .bind fun _ => .jump _
  | branchCond cond offset => exact .bind fun _ => .branchIf _ _ _
  | compareBranch sf nonzero rt offset => exact .bind fun _ => .branchIf _ _ _
  | testBranch nonzero rt bit offset => exact .bind fun _ => .branchIf _ _ _
  | branchReg link rn => exact .bind fun _ => .bind fun _ => .jump _
  | ret rn => exact .bind fun _ => .jump _
  | instructionCache op rt =>
      refine .bind fun regs => .bind fun _ => ?_
      cases op with
      | _ => exact .invalidate _
  | dataCache op rt =>
      refine .bind fun regs => ?_
      cases op with
      | zeroByVa => cases ends
      | _ => exact .bind fun _ => .endBlock
  | hint op =>
      cases op with
      | nop => cases ends
      | _ => exact .bind fun _ => .endBlock
  | instructionBarrier | svc | brk | udf | unknown => exact .bind fun _ => .endBlock
  | _ => cases ends

theorem execute_keepsNext (keeps : env.PreservesWithinBlocks inv) (cntfrq : UInt64) (pc : Address)
    (instruction : Instruction) :
    KeepsNext (Within inv here) (execute env cntfrq pc instruction) := by
  cases instruction with
  | moveWide sf op rd imm16 hw => exact Keeps.compute fun _ => pc_setXzr ..
  | addSubImm sf sub setFlags rd rn imm =>
      exact Keeps.compute fun _ => by cases setFlags <;> simp [Compute.addSubImm]
  | addSubReg sf sub setFlags rd rn rm shift amount =>
      exact Keeps.compute fun _ => by cases setFlags <;> simp [Compute.addSubReg]
  | logicalImm sf op rd rn imm =>
      exact Keeps.compute fun _ => by cases op <;> simp [Compute.logicalImm, logical]
  | logicalReg sf op invert rd rn rm shift amount =>
      exact Keeps.compute fun _ => by cases op <;> simp [Compute.logicalReg, logical]
  | bitfield sf op rd rn immr imms => exact Keeps.compute fun _ => pc_setXzr ..
  | condSelect sf op rd rn rm cond => exact Keeps.compute fun _ => pc_setXzr ..
  | mulAdd sf sub rd rn rm ra => exact Keeps.compute fun _ => pc_setXzr ..
  | dataProc2 sf op rd rn rm => exact Keeps.compute fun _ => pc_setXzr ..
  | adr rd offset page => exact Keeps.compute fun _ => pc_setXzr ..
  | loadStore op w rt rn addressing =>
      refine Keeps.registers.bindNext fun regs => ?_
      refine (Keeps.access keeps op w rt _).bindNext fun _ => ?_
      exact (Keeps.modifyRegisters (pc_writeBack rn _)).thenNext
  | loadLiteral op w rt offset => exact (Keeps.access keeps op w rt _).thenNext
  | loadStorePair load vector w rt rt2 rn addressing =>
      refine Keeps.registers.bindNext fun regs => ?_
      refine (Keeps.access keeps (pairAccess load vector) w rt _).bindNext fun _ => ?_
      refine (Keeps.access keeps (pairAccess load vector) w rt2 _).bindNext fun _ => ?_
      exact (Keeps.modifyRegisters (pc_writeBack rn _)).thenNext
  | loadExclusive w rt rn =>
      refine Keeps.registers.bindNext fun regs => ?_
      refine (Keeps.tryHook (keeps.exclusiveRead w pc _)).bindNext fun value => ?_
      exact (Keeps.modifyRegisters fun _ => pc_setXzr ..).thenNext
  | storeExclusive w rs rt rn =>
      refine Keeps.registers.bindNext fun regs => ?_
      refine (Keeps.tryHook (keeps.exclusiveWrite w pc _ _)).bindNext fun committed => ?_
      exact (Keeps.modifyRegisters fun _ => pc_setXzr ..).thenNext
  | loadExclusivePair w rt rt2 rn =>
      exact Keeps.registers.bindNext fun _ => (Keeps.loadExclusivePair keeps pc w rt rt2 _).thenNext
  | storeExclusivePair w rs rt rt2 rn =>
      exact Keeps.registers.bindNext fun _ =>
        (Keeps.storeExclusivePair keeps pc w rs rt rt2 _).thenNext
  | loadAcquire w rt rn =>
      exact Keeps.registers.bindNext fun _ => (Keeps.access keeps .load w rt _).thenNext
  | storeRelease w rt rn =>
      exact Keeps.registers.bindNext fun _ => (Keeps.access keeps .store w rt _).thenNext
  | clearExclusive => exact (Keeps.hook keeps.clearExclusive).thenNext
  | barrier => exact Keeps.next
  | mrs rt reg =>
      refine (Keeps.readSystem keeps cntfrq reg).bindNext fun value => ?_
      exact (Keeps.modifyRegisters fun _ => pc_setXzr ..).thenNext
  | msr rt reg =>
      intro cpu after holds ended
      obtain ⟨ctx, between, same, there⟩ := Operation.bind_eq_ok ended
      cases same
      cases written : writeSystem? cpu.context reg (cpu.context.registers.xzr rt) with
      | some ctx =>
          simp only [written] at there
          cases there
          exact ⟨holds.1, (pc_writeSystem written).trans holds.2⟩
      | none =>
          simp only [written] at there
          exact absurd there (NeverNext.bind (fun _ => NeverNext.endBlock) cpu after)
  | dataCache op rt =>
      cases op with
      | zeroByVa => exact Keeps.registers.bindNext fun _ => (Keeps.zeroDoubles keeps _ 8).thenNext
      | _ => exact (execute_neverNext env cntfrq pc rfl).keepsNext
  | hint op =>
      cases op with
      | nop => exact Keeps.next
      | _ => exact (execute_neverNext env cntfrq pc rfl).keepsNext
  | _ => exact (execute_neverNext env cntfrq pc rfl).keepsNext

end

end GuestMachine.A64
