import GuestMachine.Proofs.Translator.Recording

/-! # Requests that may be refused

An instruction makes at most one request of its surroundings that may fail, and
makes it before it does anything else. So an instruction that fails has changed
no register, and has called nothing but the hook that failed. Supervisor calls
are apart: the service has the registers at its disposal.
-/

namespace GuestMachine.A64

variable {σ ε α β : Type}

/-- A call of a hook that may fail, supervisor calls apart. -/
inductive Request where
  | exclusiveRead (w : Width) (pc addr : Address)
  | exclusiveWrite (w : Width) (pc addr : Address) (value : BitVec w.bits)
  | raise (pc : Address) (event : Exception)
  | dataCache (pc : Address) (op : DataCacheOp) (addr : Address)
  | instructionCache (pc : Address) (op : InstructionCacheOp) (addr : Address)
  | instructionBarrier (pc : Address)
  | fallback (pc : Address) (opcode : UInt32)
  deriving Repr, DecidableEq

namespace Request

/-- Make the call, with no interest in its answer. -/
def attempt (env : Environment σ) : Request → EStateM CpuError σ Unit
  | exclusiveRead w pc addr => discard (env.exclusiveRead w pc addr)
  | exclusiveWrite w pc addr value => discard (env.exclusiveWrite w pc addr value)
  | raise pc event => env.raise pc event
  | dataCache pc op addr => env.dataCache pc op addr
  | instructionCache pc op addr => env.instructionCache pc op addr
  | instructionBarrier pc => env.instructionBarrier pc
  | fallback pc opcode => env.fallback pc opcode

/-- The record of the call when it fails. -/
def refusal : Request → Callback
  | exclusiveRead w pc addr => .exclusiveRead w pc addr none
  | exclusiveWrite w pc addr value => .exclusiveWrite w pc addr value none
  | raise pc event => .raise pc event
  | dataCache pc op addr => .dataCache pc op addr
  | instructionCache pc op addr => .instructionCache pc op addr
  | instructionBarrier pc => .instructionBarrier pc
  | fallback pc opcode => .fallback pc opcode

end Request

theorem discard_eq_error {x : EStateM ε σ α} {s s' : σ} {e : ε} :
    discard x s = .error e s' ↔ x s = .error e s' := by
  change EStateM.map (fun _ => ()) x s = _ ↔ _
  unfold EStateM.map
  cases x s <;> simp

theorem tryNote_eq_error (entry : Option α → Callback) (hook : EStateM ε σ α)
    {p p' : Recorded σ} {e : ε} :
    tryNote entry hook p = .error e p' ↔
      hook p.1 = .error e p'.1 ∧ p'.2 = p.2 ++ [entry none] := by
  obtain ⟨s, log⟩ := p
  obtain ⟨s', log'⟩ := p'
  unfold tryNote
  cases answered : hook s with
  | ok a s => simp [answered]
  | error e s => simp [answered, and_assoc, eq_comm ]

theorem tryNote_eq_ok (entry : Option α → Callback) (hook : EStateM ε σ α)
    {p p' : Recorded σ} {a : α} :
    tryNote entry hook p = .ok a p' ↔
      hook p.1 = .ok a p'.1 ∧ p'.2 = p.2 ++ [entry (some a)] := by
  obtain ⟨s, log⟩ := p
  obtain ⟨s', log'⟩ := p'
  unfold tryNote
  cases answered : hook s with
  | ok b s =>
      simp only [answered, EStateM.Result.ok.injEq, Prod.mk.injEq]
      grind
  | error e s => simp [answered]

/-- A recorded request fails as it does unrecorded, and leaves one record. -/
theorem attempt_recording {env : Environment σ} {request : Request} {p p' : Recorded σ}
    {e : CpuError} :
    request.attempt env.recording p = .error e p' ↔
      request.attempt env p.1 = .error e p'.1 ∧ p'.2 = p.2 ++ [request.refusal] := by
  cases request with
  | exclusiveRead w pc addr =>
      simp only [Request.attempt, discard_eq_error]
      exact tryNote_eq_error (.exclusiveRead w pc addr) (env.exclusiveRead w pc addr)
  | exclusiveWrite w pc addr value =>
      simp only [Request.attempt, discard_eq_error]
      exact tryNote_eq_error (.exclusiveWrite w pc addr value)
        (env.exclusiveWrite w pc addr value)
  | raise pc event => exact tryNote_eq_error (fun _ => .raise pc event) (env.raise pc event)
  | dataCache pc op addr =>
      exact tryNote_eq_error (fun _ => .dataCache pc op addr) (env.dataCache pc op addr)
  | instructionCache pc op addr =>
      exact tryNote_eq_error (fun _ => .instructionCache pc op addr)
        (env.instructionCache pc op addr)
  | instructionBarrier pc =>
      exact tryNote_eq_error (fun _ => .instructionBarrier pc) (env.instructionBarrier pc)
  | fallback pc opcode =>
      exact tryNote_eq_error (fun _ => .fallback pc opcode) (env.fallback pc opcode)

/-- The width at which a pair of registers is exchanged with memory. -/
def pairWidth : Width → Width
  | .word => .double
  | _ => .quad

namespace Instruction

/-- The request that an instruction at `pc` makes, with these registers. -/
def request? (pc : Address) (regs : RegisterFile) : Instruction → Option Request
  | .loadExclusive w _ rn => some (.exclusiveRead w pc (regs.xsp rn))
  | .storeExclusive w _ rt rn =>
      some (.exclusiveWrite w pc (regs.xsp rn) ((regs.xzr rt).toBitVec.setWidth w.bits))
  | .loadExclusivePair w _ _ rn => some (.exclusiveRead (pairWidth w) pc (regs.xsp rn))
  | .storeExclusivePair .word _ rt rt2 rn =>
      some (.exclusiveWrite .double pc (regs.xsp rn)
        ((regs.xzr rt2).toBitVec.setWidth 32 ++ (regs.xzr rt).toBitVec.setWidth 32))
  | .storeExclusivePair _ _ rt rt2 rn =>
      some (.exclusiveWrite .quad pc (regs.xsp rn)
        ((regs.xzr rt2).toBitVec ++ (regs.xzr rt).toBitVec))
  | .instructionBarrier => some (.instructionBarrier pc)
  | .hint op => op.event?.map (.raise pc)
  | .dataCache .zeroByVa _ => none
  | .dataCache op rt => some (.dataCache pc op (regs.xzr rt))
  | .instructionCache op rt => some (.instructionCache pc op (regs.xzr rt))
  | .msr _ reg =>
      match reg with
      | .tpidrEl0 | .fpcr | .fpsr | .nzcv => none
      | _ => some (.fallback pc 0)
  | .brk _ => some (.raise pc .breakpoint)
  | .udf _ => some (.raise pc .unallocatedEncoding)
  | .unknown word => some (.fallback pc (UInt32.ofBitVec word))
  | _ => none

end Instruction

def NeverFails (x : Exec σ α) : Prop :=
  ∀ cpu error after, x cpu ≠ .error error after

namespace NeverFails

theorem of_ok {x : Exec σ α} (ends : ∀ cpu, ∃ a after, x cpu = .ok a after) : NeverFails x := by
  intro cpu error after failed
  obtain ⟨a, other, ended⟩ := ends cpu
  simp [ended] at failed

theorem pure (a : α) : NeverFails (pure a : Exec σ α) :=
  of_ok fun _ => ⟨_, _, rfl⟩

theorem bind {x : Exec σ α} {f : α → Exec σ β} (first : NeverFails x)
    (next : ∀ a, NeverFails (f a)) : NeverFails (x >>= f) := by
  intro cpu error after failed
  cases Operation.bind_eq_error failed with
  | inl here => exact first cpu error after here
  | inr there =>
      obtain ⟨a, between, _, failed⟩ := there
      exact next a between error after failed

theorem hook (f : σ → α × σ) : NeverFails (Exec.hook f) :=
  of_ok fun _ => ⟨_, _, rfl⟩

theorem registers : NeverFails (Exec.registers : Exec σ RegisterFile) :=
  of_ok fun _ => ⟨_, _, rfl⟩

theorem context : NeverFails (Exec.context : Exec σ ThreadContext) :=
  of_ok fun _ => ⟨_, _, rfl⟩

theorem modifyRegisters (f : RegisterFile → RegisterFile) :
    NeverFails (Exec.modifyRegisters f : Exec σ Unit) :=
  of_ok fun _ => ⟨_, _, rfl⟩

theorem compute (f : RegisterFile → RegisterFile) : NeverFails (compute f : Exec σ Flow) :=
  (modifyRegisters f).bind fun _ => pure _

theorem access (env : Environment σ) (op : MemOp) (w : Width) (rt : RegNum) (addr : Address) :
    NeverFails (access env op w rt addr) := by
  apply registers.bind
  intro regs
  cases op with
  | store | storeVector => exact (hook _).bind fun _ => pure _
  | load | loadSigned _ | loadVector => exact (hook _).bind fun _ => modifyRegisters _

theorem zeroDoubles (env : Environment σ) (addr : Address) (count : Nat) :
    NeverFails (zeroDoubles env addr count) := by
  induction count generalizing addr with
  | zero => exact pure ()
  | succ count ih => exact (hook _).bind fun _ => ih (addr + 8)

theorem readSystem (env : Environment σ) (cntfrq : UInt64) (reg : SystemRegister) :
    NeverFails (readSystem env cntfrq reg) := by
  apply context.bind
  intro ctx
  cases reg with
  | cntpctEl0 | cntvctEl0 => exact hook env.counter
  | _ => exact pure _

end NeverFails

section

variable {env : Environment σ} {cpu after : Cpu σ} {error : CpuError}

/-- All that happened is that this request was refused. -/
def Refused (env : Environment σ) (request? : Option Request) (cpu : Cpu σ) (error : CpuError)
    (after : Cpu σ) : Prop :=
  ∃ request ∈ request?, ∃ s, request.attempt env cpu.env = .error error s ∧
    after = { cpu with env := s }

theorem tryHook_eq_error {f : EStateM CpuError σ α}
    (failed : Exec.tryHook f cpu = .error error after) :
    ∃ s, f cpu.env = .error error s ∧ after = { cpu with env := s } := by
  unfold Exec.tryHook at failed
  cases answered : f cpu.env with
  | ok a s => simp [answered] at failed
  | error e s =>
      simp only [answered, EStateM.Result.error.injEq] at failed
      obtain ⟨rfl, rfl⟩ := failed
      exact ⟨s, rfl, rfl⟩

/-- A hook with nothing behind it that fails. -/
theorem refused_of_tryHook {f : EStateM CpuError σ α} {g : α → Exec σ β} {request : Request}
    (asks : ∀ {e s}, f cpu.env = .error e s → request.attempt env cpu.env = .error e s)
    (safe : ∀ a, NeverFails (g a)) (failed : (Exec.tryHook f >>= g) cpu = .error error after) :
    Refused env (some request) cpu error after := by
  cases Operation.bind_eq_error failed with
  | inl here =>
      obtain ⟨s, refused, same⟩ := tryHook_eq_error here
      exact ⟨request, rfl, s, asks refused, same⟩
  | inr there =>
      obtain ⟨a, between, _, failed⟩ := there
      exact absurd failed (safe a between error after)

theorem failed_before {x : Exec σ α} {y : Exec σ β} (safe : NeverFails y)
    (failed : (x >>= fun _ => y) cpu = .error error after) : x cpu = .error error after := by
  cases Operation.bind_eq_error failed with
  | inl here => exact here
  | inr there =>
      obtain ⟨a, between, _, failed⟩ := there
      exact absurd failed (safe between error after)

variable {cntfrq : UInt64} {pc : Address} {instruction : Instruction}

theorem refused_loadExclusivePair {w : Width} {rt rt2 : RegNum} {addr : Address}
    (failed : loadExclusivePair env pc w rt rt2 addr cpu = .error error after) :
    Refused env (some (.exclusiveRead (pairWidth w) pc addr)) cpu error after := by
  cases w with
  | _ => exact refused_of_tryHook discard_eq_error.mpr (fun _ => .modifyRegisters _) failed

theorem refused_storeExclusivePair {w : Width} {rs rt rt2 rn : RegNum}
    (failed : storeExclusivePair env pc w rs rt rt2 (cpu.context.registers.xsp rn) cpu =
      .error error after) :
    Refused env
      ((Instruction.storeExclusivePair w rs rt rt2 rn).request? pc cpu.context.registers) cpu error
      after := by
  cases w with
  | _ => exact refused_of_tryHook discard_eq_error.mpr (fun _ => .modifyRegisters _) failed

/-- An instruction fails by a request that is refused, and then has done nothing
    else. Only a supervisor call leaves what happens to its service. -/
theorem execute_eq_error
    (failed : execute env cntfrq pc instruction cpu = .error error after) :
    Refused env (instruction.request? pc cpu.context.registers) cpu error after ∨
      ∃ imm, instruction = .svc imm ∧
        env.callSupervisor (UInt32.ofNat imm.toNat) cpu = .error error after := by
  have ends (flow : Flow) : NeverFails (pure flow : Exec σ Flow) := .pure flow
  have writes (f : RegisterFile → RegisterFile) :
      NeverFails (Exec.modifyRegisters f >>= fun _ => pure Flow.next : Exec σ Flow) :=
    (NeverFails.modifyRegisters f).bind fun _ => ends .next
  -- What only computes, branches or accesses memory has no way to fail.
  have safe {x : Exec σ Flow} (never : NeverFails x) : ¬x cpu = .error error after :=
    never cpu error after
  have accesses (op : MemOp) (w : Width) (rt : RegNum) (addr : Address) {y : Exec σ Flow}
      (rest : NeverFails y) : NeverFails (access env op w rt addr >>= fun _ => y) :=
    (NeverFails.access env op w rt addr).bind fun _ => rest
  cases instruction with
  | moveWide | addSubImm | addSubReg | logicalImm | logicalReg | bitfield | condSelect | mulAdd
  | dataProc2 | adr => exact absurd failed (safe (.compute _))
  | branch => exact absurd failed (safe ((NeverFails.modifyRegisters _).bind fun _ => ends _))
  | branchCond | compareBranch | testBranch | ret =>
      exact absurd failed (safe (NeverFails.registers.bind fun _ => ends _))
  | branchReg =>
      exact absurd failed (safe (NeverFails.registers.bind fun _ =>
        (NeverFails.modifyRegisters _).bind fun _ => ends _))
  | loadStore op w rt rn addressing =>
      exact absurd failed (safe (NeverFails.registers.bind fun _ => accesses _ _ _ _ (writes _)))
  | loadLiteral op w rt offset => exact absurd failed (safe (accesses _ _ _ _ (ends _)))
  | loadStorePair load vector w rt rt2 rn addressing =>
      exact absurd failed (safe (NeverFails.registers.bind fun _ =>
        accesses _ _ _ _ (accesses _ _ _ _ (writes _))))
  | loadAcquire w rt rn | storeRelease w rt rn =>
      exact absurd failed (safe (NeverFails.registers.bind fun _ => accesses _ _ _ _ (ends _)))
  | clearExclusive => exact absurd failed (safe ((NeverFails.hook _).bind fun _ => ends _))
  | barrier => exact absurd failed (safe (ends _))
  | mrs rt reg =>
      exact absurd failed (safe ((NeverFails.readSystem env cntfrq reg).bind fun _ => writes _))
  | loadExclusive w rt rn =>
      exact .inl (refused_of_tryHook discard_eq_error.mpr (fun _ => writes _) failed)
  | storeExclusive w rs rt rn =>
      exact .inl (refused_of_tryHook discard_eq_error.mpr (fun _ => writes _) failed)
  | loadExclusivePair w rt rt2 rn =>
      exact .inl (refused_loadExclusivePair (failed_before (ends .next) failed))
  | storeExclusivePair w rs rt rt2 rn =>
      exact .inl (refused_storeExclusivePair (failed_before (ends .next) failed))
  | instructionBarrier => exact .inl (refused_of_tryHook id (fun _ => ends _) failed)
  | hint op =>
      cases op with
      | nop => exact absurd failed (safe (ends _))
      | _ => exact .inl (refused_of_tryHook id (fun _ => ends _) failed)
  | dataCache op rt =>
      cases op with
      | zeroByVa =>
          exact absurd failed (safe (NeverFails.registers.bind fun _ =>
            (NeverFails.zeroDoubles env _ 8).bind fun _ => ends _))
      | _ => exact .inl (refused_of_tryHook id (fun _ => ends _) failed)
  | instructionCache op rt =>
      cases op with
      | _ => exact .inl (refused_of_tryHook id (fun _ => ends _) failed)
  | msr rt reg =>
      cases reg with
      | tpidrEl0 | fpcr | fpsr | nzcv => cases failed
      | _ => exact .inl (refused_of_tryHook id (fun _ => ends _) failed)
  | svc imm => exact .inr ⟨imm, rfl, failed_before (ends .endBlock) failed⟩
  | brk | udf | unknown => exact .inl (refused_of_tryHook id (fun _ => ends _) failed)

end

end GuestMachine.A64
