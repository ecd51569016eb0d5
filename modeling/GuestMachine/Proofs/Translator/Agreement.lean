import GuestMachine.Cpu.Translator
import GuestMachine.Proofs.Operations

/-! # Environments that cannot be told apart

Two environments agree when every hook gives the same answer in related states
and leaves related states. Execution looks at an environment through its hooks
only, so it does the same against both. The two may have different types of
state; this is how a recording environment is compared with the plain one.
-/

namespace GuestMachine.A64

variable {σ τ ε α β : Type} {related : σ → τ → Prop}

/-- The same registers, and related environments. -/
def CpuAlike (related : σ → τ → Prop) (left : Cpu σ) (right : Cpu τ) : Prop :=
  left.context = right.context ∧ related left.env right.env

namespace Exec

theorem hook_alike {f : σ → α × σ} {g : τ → α × τ}
    (alike : ∀ s t, related s t → AnswerAlike related (f s) (g t)) :
    Alike (CpuAlike related) (Exec.hook f) (Exec.hook g) := by
  rintro ⟨context, s⟩ ⟨_, t⟩ ⟨rfl, same⟩
  obtain ⟨answer, after⟩ := alike s t same
  exact ⟨answer, rfl, after⟩

theorem tryHook_alike {f : EStateM CpuError σ α} {g : EStateM CpuError τ α}
    (alike : Alike related f g) : Alike (CpuAlike related) (Exec.tryHook f) (Exec.tryHook g) := by
  rintro ⟨context, s⟩ ⟨_, t⟩ ⟨rfl, same⟩
  rw [Exec.tryHook, Exec.tryHook]
  rcases (alike s t same).cases with ⟨a, s', t', hf, hg, after⟩ | ⟨e, s', t', hf, hg, after⟩
  · simp only [hf, hg]
    exact ⟨rfl, rfl, after⟩
  · simp only [hf, hg]
    exact ⟨rfl, rfl, after⟩

theorem registers_alike :
    Alike (CpuAlike related) (Exec.registers : Exec σ _) (Exec.registers : Exec τ _) :=
  fun _ _ same => ⟨congrArg ThreadContext.registers same.1, same⟩

theorem context_alike :
    Alike (CpuAlike related) (Exec.context : Exec σ _) (Exec.context : Exec τ _) :=
  fun _ _ same => ⟨same.1, same⟩

theorem modifyRegisters_alike (f : RegisterFile → RegisterFile) :
    Alike (CpuAlike related) (Exec.modifyRegisters f : Exec σ _)
      (Exec.modifyRegisters f : Exec τ _) := by
  rintro ⟨context, s⟩ ⟨_, t⟩ ⟨rfl, same⟩
  exact ⟨rfl, rfl, same⟩

theorem modifyContext_alike (f : ThreadContext → ThreadContext) :
    Alike (CpuAlike related) (Exec.modifyContext f : Exec σ _) (Exec.modifyContext f : Exec τ _) := by
  rintro ⟨context, s⟩ ⟨_, t⟩ ⟨rfl, same⟩
  exact ⟨rfl, rfl, same⟩

end Exec

/-- No hook tells the two environments apart. -/
structure Environment.Agree (related : σ → τ → Prop) (left : Environment σ)
    (right : Environment τ) : Prop where
  readCode : ∀ addr s t, related s t →
    AnswerAlike related (left.readCode addr s) (right.readCode addr t)
  read : ∀ w addr s t, related s t → AnswerAlike related (left.read w addr s) (right.read w addr t)
  write : ∀ w addr value s t, related s t →
    AnswerAlike related (left.write w addr value s) (right.write w addr value t)
  exclusiveRead : ∀ w pc addr,
    Alike related (left.exclusiveRead w pc addr) (right.exclusiveRead w pc addr)
  exclusiveWrite : ∀ w pc addr value,
    Alike related (left.exclusiveWrite w pc addr value) (right.exclusiveWrite w pc addr value)
  clearExclusive : ∀ s t, related s t → related (left.clearExclusive s) (right.clearExclusive t)
  callSupervisor : ∀ number,
    Alike (CpuAlike related) (left.callSupervisor number) (right.callSupervisor number)
  raise : ∀ pc event, Alike related (left.raise pc event) (right.raise pc event)
  dataCache : ∀ pc op addr, Alike related (left.dataCache pc op addr) (right.dataCache pc op addr)
  instructionCache : ∀ pc op addr,
    Alike related (left.instructionCache pc op addr) (right.instructionCache pc op addr)
  instructionBarrier : ∀ pc, Alike related (left.instructionBarrier pc) (right.instructionBarrier pc)
  fallback : ∀ pc opcode, Alike related (left.fallback pc opcode) (right.fallback pc opcode)
  counter : ∀ s t, related s t → AnswerAlike related (left.counter s) (right.counter t)
  takeInvalidations : ∀ s t, related s t →
    AnswerAlike related (left.takeInvalidations s) (right.takeInvalidations t)
  takeHalts : ∀ s t, related s t → AnswerAlike related (left.takeHalts s) (right.takeHalts t)

theorem Environment.Agree.of_eq (env : Environment σ) : env.Agree Eq env where
  readCode addr s t same := by rw [same]; exact ⟨rfl, rfl⟩
  read w addr s t same := by rw [same]; exact ⟨rfl, rfl⟩
  write w addr value s t same := by rw [same]; exact ⟨rfl, rfl⟩
  exclusiveRead w pc addr := .of_eq _
  exclusiveWrite w pc addr value := .of_eq _
  clearExclusive s t same := by rw [same]
  callSupervisor number := by
    have same : CpuAlike (σ := σ) Eq = Eq := by
      funext ⟨context, env⟩ ⟨context', env'⟩
      simp [CpuAlike]
    rw [same]
    exact .of_eq _
  raise pc event := .of_eq _
  dataCache pc op addr := .of_eq _
  instructionCache pc op addr := .of_eq _
  instructionBarrier pc := .of_eq _
  fallback pc opcode := .of_eq _
  counter s t same := by rw [same]; exact ⟨rfl, rfl⟩
  takeInvalidations s t same := by rw [same]; exact ⟨rfl, rfl⟩
  takeHalts s t same := by rw [same]; exact ⟨rfl, rfl⟩

section

variable {left : Environment σ} {right : Environment τ}

theorem access_alike (agree : left.Agree related right) (op : MemOp) (w : Width) (rt : RegNum)
    (addr : Address) :
    Alike (CpuAlike related) (access left op w rt addr) (access right op w rt addr) := by
  apply Exec.registers_alike.bind
  intro regs
  have load := Exec.hook_alike (agree.read w addr)
  cases op with
  | store =>
      exact (Exec.hook_alike (agree.write w addr _)).bind fun _ => .pure ()
  | load => exact load.bind fun _ => Exec.modifyRegisters_alike _
  | loadSigned to64 => exact load.bind fun _ => Exec.modifyRegisters_alike _
  | storeVector =>
      exact (Exec.hook_alike (agree.write w addr _)).bind fun _ => .pure ()
  | loadVector => exact load.bind fun _ => Exec.modifyRegisters_alike _

theorem loadExclusivePair_alike (agree : left.Agree related right) (pc : Address) (w : Width)
    (rt rt2 : RegNum) (addr : Address) :
    Alike (CpuAlike related) (loadExclusivePair left pc w rt rt2 addr)
      (loadExclusivePair right pc w rt rt2 addr) := by
  have read (w : Width) := Exec.tryHook_alike (agree.exclusiveRead w pc addr)
  cases w with
  | word => exact (read .double).bind fun _ => Exec.modifyRegisters_alike _
  | _ => exact (read .quad).bind fun _ => Exec.modifyRegisters_alike _

theorem storeExclusivePair_alike (agree : left.Agree related right) (pc : Address) (w : Width)
    (rs rt rt2 : RegNum) (addr : Address) :
    Alike (CpuAlike related) (storeExclusivePair left pc w rs rt rt2 addr)
      (storeExclusivePair right pc w rs rt rt2 addr) := by
  apply Exec.registers_alike.bind
  intro regs
  have write (w : Width) (value) := Exec.tryHook_alike (agree.exclusiveWrite w pc addr value)
  cases w with
  | word => exact (write .double _).bind fun _ => Exec.modifyRegisters_alike _
  | _ => exact (write .quad _).bind fun _ => Exec.modifyRegisters_alike _

theorem zeroDoubles_alike (agree : left.Agree related right) (addr : Address) (count : Nat) :
    Alike (CpuAlike related) (zeroDoubles left addr count) (zeroDoubles right addr count) := by
  induction count generalizing addr with
  | zero => exact .pure ()
  | succ count ih =>
      exact (Exec.hook_alike (agree.write .double addr 0#64)).bind fun _ => ih (addr + 8)

theorem readSystem_alike (agree : left.Agree related right) (cntfrq : UInt64)
    (reg : SystemRegister) :
    Alike (CpuAlike related) (readSystem left cntfrq reg) (readSystem right cntfrq reg) := by
  apply Exec.context_alike.bind
  intro ctx
  cases reg with
  | cntpctEl0 => exact Exec.hook_alike agree.counter
  | cntvctEl0 => exact Exec.hook_alike agree.counter
  | _ => exact .pure _

theorem compute_alike (f : RegisterFile → RegisterFile) :
    Alike (CpuAlike related) (compute f : Exec σ _) (compute f : Exec τ _) :=
  (Exec.modifyRegisters_alike f).bind fun _ => .pure Flow.next

/-- An instruction does the same against environments that agree. -/
theorem execute_alike (agree : left.Agree related right) (cntfrq : UInt64) (pc : Address)
    (instruction : Instruction) :
    Alike (CpuAlike related) (execute left cntfrq pc instruction)
      (execute right cntfrq pc instruction) := by
  have andThen {x : Exec σ Unit} {y : Exec τ Unit} (alike : Alike (CpuAlike related) x y)
      (flow : Flow) : Alike (CpuAlike related) (do x; pure flow) (do y; pure flow) :=
    alike.bind fun _ => .pure flow
  cases instruction with
  | branch link offset => exact andThen (Exec.modifyRegisters_alike _) _
  | branchCond cond offset => exact Exec.registers_alike.bind fun _ => .pure _
  | compareBranch sf nonzero rt offset => exact Exec.registers_alike.bind fun _ => .pure _
  | testBranch nonzero rt bit offset => exact Exec.registers_alike.bind fun _ => .pure _
  | branchReg link rn =>
      exact Exec.registers_alike.bind fun _ => andThen (Exec.modifyRegisters_alike _) _
  | ret rn => exact Exec.registers_alike.bind fun _ => .pure _
  | loadStore op w rt rn addressing =>
      apply Exec.registers_alike.bind
      intro regs
      exact (access_alike agree op w rt _).bind fun _ => andThen (Exec.modifyRegisters_alike _) _
  | loadLiteral op w rt offset => exact andThen (access_alike agree op w rt _) _
  | loadStorePair load vector w rt rt2 rn addressing =>
      apply Exec.registers_alike.bind
      intro regs
      apply (access_alike agree (pairAccess load vector) w rt _).bind
      intro _
      apply (access_alike agree (pairAccess load vector) w rt2 _).bind
      intro _
      exact andThen (Exec.modifyRegisters_alike _) _
  | loadExclusive w rt rn =>
      apply Exec.registers_alike.bind
      intro regs
      apply (Exec.tryHook_alike (agree.exclusiveRead w pc _)).bind
      intro value
      exact andThen (Exec.modifyRegisters_alike _) _
  | storeExclusive w rs rt rn =>
      apply Exec.registers_alike.bind
      intro regs
      apply (Exec.tryHook_alike (agree.exclusiveWrite w pc _ _)).bind
      intro committed
      exact andThen (Exec.modifyRegisters_alike _) _
  | loadExclusivePair w rt rt2 rn =>
      exact Exec.registers_alike.bind fun _ => andThen (loadExclusivePair_alike agree pc w rt rt2 _) _
  | storeExclusivePair w rs rt rt2 rn =>
      exact Exec.registers_alike.bind fun _ =>
        andThen (storeExclusivePair_alike agree pc w rs rt rt2 _) _
  | loadAcquire w rt rn =>
      exact Exec.registers_alike.bind fun _ => andThen (access_alike agree .load w rt _) _
  | storeRelease w rt rn =>
      exact Exec.registers_alike.bind fun _ => andThen (access_alike agree .store w rt _) _
  | clearExclusive =>
      have cleared : Alike (CpuAlike related) (Exec.hook fun s => ((), left.clearExclusive s))
          (Exec.hook fun t => ((), right.clearExclusive t)) :=
        Exec.hook_alike fun s t same => ⟨rfl, agree.clearExclusive s t same⟩
      exact andThen cleared _
  | barrier => exact .pure _
  | instructionBarrier => exact andThen (Exec.tryHook_alike (agree.instructionBarrier pc)) _
  | hint op =>
      cases op with
      | nop => exact .pure _
      | _ => exact andThen (Exec.tryHook_alike (agree.raise pc _)) _
  | dataCache op rt =>
      apply Exec.registers_alike.bind
      intro regs
      cases op with
      | zeroByVa => exact andThen (zeroDoubles_alike agree _ 8) _
      | _ => exact andThen (Exec.tryHook_alike (agree.dataCache pc _ _)) _
  | instructionCache op rt =>
      apply Exec.registers_alike.bind
      intro regs
      apply (Exec.tryHook_alike (agree.instructionCache pc op _)).bind
      intro _
      cases op with
      | _ => exact .pure _
  | mrs rt reg =>
      apply (readSystem_alike agree cntfrq reg).bind
      intro value
      exact andThen (Exec.modifyRegisters_alike _) _
  | msr rt reg =>
      apply Exec.context_alike.bind
      intro ctx
      cases writeSystem? ctx reg (ctx.registers.xzr rt) with
      | some ctx => exact andThen (Exec.modifyContext_alike _) _
      | none => exact andThen (Exec.tryHook_alike (agree.fallback pc 0)) _
  | svc imm => exact andThen (agree.callSupervisor _) _
  | brk imm => exact andThen (Exec.tryHook_alike (agree.raise pc _)) _
  | udf imm => exact andThen (Exec.tryHook_alike (agree.raise pc _)) _
  | unknown word => exact andThen (Exec.tryHook_alike (agree.fallback pc _)) _
  | _ => exact compute_alike _

end

end GuestMachine.A64

namespace GuestMachine

open A64

variable {σ τ : Type} {related : σ → τ → Prop} {left : Environment σ} {right : Environment τ}

theorem Block.decodeFrom_alike (agree : left.Agree related right) (pc : Address) (limit : Nat)
    {s : σ} {t : τ} (same : related s t) :
    AnswerAlike related (decodeFrom left pc limit s) (decodeFrom right pc limit t) := by
  induction limit generalizing pc s t with
  | zero => exact ⟨rfl, same⟩
  | succ limit ih =>
      obtain ⟨word?, s', t', hs, ht, after⟩ := (agree.readCode pc s t same).split
      rw [decodeFrom, decodeFrom, hs, ht]
      cases word? with
      | none => exact ⟨rfl, after⟩
      | some word =>
          dsimp only
          split
          · exact ⟨rfl, after⟩
          · obtain ⟨rest, done⟩ := ih (pc + 4) after
            exact ⟨congrArg (decode word :: ·) rest, done⟩

theorem Block.translate_alike (agree : left.Agree related right) (limit : Nat) (start : Address)
    {s : σ} {t : τ} (same : related s t) :
    AnswerAlike related (translate left limit start s) (translate right limit start t) := by
  obtain ⟨instructions, s', t', hs, ht, after⟩ :=
    (decodeFrom_alike agree start (max limit 1) same).split
  rw [translate, translate, hs, ht]
  cases instructions with
  | nil => exact ⟨rfl, after⟩
  | cons first rest => exact ⟨rfl, after⟩

namespace Translator

/-- Sessions whose cores and caches correspond. -/
structure SessionAlike (related : σ → τ → Prop) (caches : BlockCache → BlockCache → Prop)
    (left : Session σ) (right : Session τ) : Prop where
  cpu : CpuAlike related left.cpu right.cpu
  cache : caches left.cache right.cache

theorem runInstructions_alike (agree : left.Agree related right) (cntfrq : UInt64) (pc : Address)
    (instructions : List Instruction) {c : Cpu σ} {d : Cpu τ} (same : CpuAlike related c d) :
    AnswerAlike (CpuAlike related) (runInstructions left cntfrq pc instructions c)
      (runInstructions right cntfrq pc instructions d) := by
  have moved {c : Cpu σ} {d : Cpu τ} (same : CpuAlike related c d) (pc : Address) :
      CpuAlike related (c.setPc pc) (d.setPc pc) := by
    obtain ⟨context, env⟩ := same
    exact ⟨by rw [Cpu.setPc, Cpu.setPc, context], env⟩
  induction instructions generalizing pc c d with
  | nil => exact ⟨rfl, same⟩
  | cons instruction rest ih =>
      rw [runInstructions, runInstructions]
      have outcome := execute_alike agree cntfrq pc instruction _ _ (moved same (pc + 4))
      rcases outcome.cases with ⟨flow, c', d', hc, hd, after⟩ | ⟨error, c', d', hc, hd, after⟩
      · simp only [hc, hd]
        cases flow with
        | next => exact ih (pc + 4) after
        | jump target => exact ⟨rfl, moved after target⟩
        | endBlock => exact ⟨rfl, after⟩
        | invalidate range => exact ⟨rfl, after⟩
      · simp only [hc, hd]
        exact ⟨rfl, moved after pc⟩

section

variable {caches : BlockCache → BlockCache → Prop} {S : Session σ} {T : Session τ}

theorem fetchFault_alike (agree : left.Agree related right) (pc : Address)
    (same : SessionAlike related caches S T) :
    AnswerAlike (SessionAlike related caches) (fetchFault left pc S) (fetchFault right pc T) := by
  obtain ⟨⟨context, env⟩, cache⟩ := same
  rw [fetchFault, fetchFault]
  rcases (agree.raise pc .noExecuteFault _ _ env).cases with
    ⟨_, s, t, hs, ht, after⟩ | ⟨error, s, t, hs, ht, after⟩
  · simp only [hs, ht]
    exact ⟨rfl, ⟨context, after⟩, cache⟩
  · simp only [hs, ht]
    exact ⟨rfl, ⟨context, after⟩, cache⟩

/-- If both find the same block, they go on alike. -/
theorem enterBlock_alike (agree : left.Agree related right) (config : TranslatorConfig)
    (kept : ∀ exit c d, caches c d → caches (BlockExit.cacheAfter exit c) (exit.cacheAfter d))
    (found : AnswerAlike (SessionAlike related caches)
      (blockAt left config.maxBlockInstructions S.cpu.pc S)
      (blockAt right config.maxBlockInstructions S.cpu.pc T))
    (pc : S.cpu.pc = T.cpu.pc) :
    AnswerAlike (SessionAlike related caches) (enterBlock left config S)
      (enterBlock right config T) := by
  obtain ⟨block?, S', T', hS, hT, after⟩ := found.split
  simp only [enterBlock, ← pc, hS, hT]
  cases block? with
  | none =>
      obtain ⟨error, done⟩ := fetchFault_alike agree S.cpu.pc after
      exact ⟨congrArg (some ∘ RunResult.faulted) error, done⟩
  | some block =>
      obtain ⟨exit, cpu⟩ :=
        runInstructions_alike agree config.cntfrq block.start block.instructions after.cpu
      simp only [runBlock]
      refine ⟨by rw [exit], cpu, ?_⟩
      rw [exit]
      exact kept _ _ _ after.cache

theorem atBoundary_alike (agree : left.Agree related right)
    (kept : ∀ ranges c d, caches c d →
      caches (BlockCache.invalidateAll c ranges) (d.invalidateAll ranges))
    (same : SessionAlike related caches S T) :
    AnswerAlike (SessionAlike related caches) (atBoundary left S) (atBoundary right T) := by
  obtain ⟨⟨context, env⟩, cache⟩ := same
  obtain ⟨ranges, env⟩ := agree.takeInvalidations _ _ env
  obtain ⟨halts, env⟩ := agree.takeHalts _ _ env
  refine ⟨Prod.ext ranges halts, ⟨context, env⟩, ?_⟩
  simp only [atBoundary, ranges]
  exact kept _ _ _ cache

end

/-- With the same cache, both find the same block. -/
theorem blockAt_alike (agree : left.Agree related right) (limit : Nat) (pc : Address)
    {S : Session σ} {T : Session τ} (same : SessionAlike related Eq S T) :
    AnswerAlike (SessionAlike related Eq) (blockAt left limit pc S) (blockAt right limit pc T) := by
  obtain ⟨⟨context, env⟩, cache⟩ := same
  rw [blockAt, blockAt, ← cache]
  cases found : S.cache.find? pc with
  | some block => exact ⟨rfl, ⟨context, env⟩, cache⟩
  | none =>
      obtain ⟨block?, s, t, hs, ht, after⟩ := (Block.translate_alike agree limit pc env).split
      simp only [hs, ht]
      cases block? with
      | none => exact ⟨rfl, ⟨context, after⟩, rfl⟩
      | some block => exact ⟨rfl, ⟨context, after⟩, rfl⟩

theorem round_alike (agree : left.Agree related right) (config : TranslatorConfig)
    {S : Session σ} {T : Session τ} (same : SessionAlike related Eq S T) :
    AnswerAlike (SessionAlike related Eq) (round left config S) (round right config T) := by
  obtain ⟨⟨ranges, halts⟩, S', T', hS, hT, after⟩ :=
    (atBoundary_alike agree (fun ranges c d same => by rw [same]) same).split
  rw [round, round, hS, hT]
  dsimp only
  split
  · exact ⟨rfl, after⟩
  · have pc : S'.cpu.pc = T'.cpu.pc := by rw [Cpu.pc, Cpu.pc, after.cpu.1]
    exact enterBlock_alike agree config (fun exit c d same => by rw [same])
      (blockAt_alike agree config.maxBlockInstructions S'.cpu.pc after) pc

/-- A run does the same against environments that agree. -/
theorem run_alike (agree : left.Agree related right) (config : TranslatorConfig) (rounds : Nat)
    {S : Session σ} {T : Session τ} (same : SessionAlike related Eq S T) :
    AnswerAlike (SessionAlike related Eq) (run left config rounds S) (run right config rounds T) := by
  induction rounds generalizing S T with
  | zero => exact ⟨rfl, same⟩
  | succ rounds ih =>
      obtain ⟨result?, S', T', hS, hT, after⟩ := (round_alike agree config same).split
      rw [run, run, hS, hT]
      cases result? with
      | some result => exact ⟨rfl, after⟩
      | none => exact ih after

end Translator

end GuestMachine
