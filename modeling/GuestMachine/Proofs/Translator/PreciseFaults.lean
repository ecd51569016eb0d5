import GuestMachine.Proofs.Translator.Coherence
import GuestMachine.Proofs.Translator.Requests
import GuestMachine.Proofs.Translator.Rounds
import GuestMachine.Proofs.Translator.WithinBlocks

/-! # Precise faults

A run that ends with a fault stands at the instruction that failed, in the state
that the instructions before it left, each executed to its end and in the order
of the program. Of the one that failed there is nothing but the call that was
refused. The same holds of a block whose first word cannot be fetched.
-/

namespace GuestMachine

open A64 Translator

variable {σ : Type}

namespace Translator

/-- Between two instructions. The PC register says where. -/
structure Place (σ : Type) where
  session : Session σ
  /-- What is left of the block, with nothing at a block boundary. -/
  rest : List Instruction

namespace Place

def cpu (place : Place σ) : Cpu σ :=
  place.session.cpu

def pc (place : Place σ) : Address :=
  place.cpu.pc

/-- After the next instruction, which left the core as `cpu`, with `rest` behind it. -/
def after (place : Place σ) (rest : List Instruction) (cpu : Cpu σ) : Flow → Place σ
  | .next => { session := { place.session with cpu }, rest }
  | .jump target => { session := { place.session with cpu := cpu.setPc target }, rest := [] }
  | .endBlock => { session := { place.session with cpu }, rest := [] }
  | .invalidate range =>
      { session := { cpu, cache := (BlockExit.invalidate range).cacheAfter place.session.cache }
        rest := [] }

end Place

/-- The first instruction of the next block, if no halt is requested and there is one. -/
def enter? (env : Environment σ) (config : TranslatorConfig) (session : Session σ) :
    Option (Place σ) :=
  let ((_, halts), session) := atBoundary env session
  if halts ≠ 0 then none
  else
    match blockAt env config.maxBlockInstructions session.cpu.pc session with
    | (none, _) => none
    | (some block, session) => some { session, rest := block.instructions }

/-- Instructions are executed one after the other, from one place to another, with
    the block boundaries between them. -/
inductive Walks (env : Environment σ) (config : TranslatorConfig) :
    Place σ → List (Address × Instruction) → Place σ → Prop
  | here (place : Place σ) : Walks env config place [] place
  | enter {place next last : Place σ} {trail : List (Address × Instruction)}
      (boundary : place.rest = []) (entered : enter? env config place.session = some next)
      (more : Walks env config next trail last) : Walks env config place trail last
  | execute {place last : Place σ} {instruction : Instruction} {rest : List Instruction}
      {flow : Flow} {cpu : Cpu σ} {trail : List (Address × Instruction)}
      (next : place.rest = instruction :: rest)
      (executed : A64.execute env config.cntfrq place.pc instruction
        (place.cpu.setPc (place.pc + 4)) = .ok flow cpu)
      (more : Walks env config (place.after rest cpu flow) trail last) :
      Walks env config place ((place.pc, instruction) :: trail) last

/-- What a translator asks of the environment between two instructions. -/
inductive Aside (env : Environment σ) : σ → σ → Prop
  | drain (s : σ) : Aside env s (env.takeInvalidations s).2
  | poll (s : σ) (idle : (env.takeHalts s).1 = 0) : Aside env s (env.takeHalts s).2
  | fetch (addr : Address) (s : σ) : Aside env s (env.readCode addr s).2

/-- The instructions of the list are executed as by a machine that knows nothing of
    blocks: each at the PC that the one before it left, and between them no more than
    asides, which no register notices. -/
inductive ExecutesInOrder (env : Environment σ) (cntfrq : UInt64) :
    Cpu σ → List (Address × Instruction) → Cpu σ → Prop
  | nothing (cpu : Cpu σ) : ExecutesInOrder env cntfrq cpu [] cpu
  | aside {cpu last : Cpu σ} {s : σ} {trail : List (Address × Instruction)}
      (asked : Aside env cpu.env s)
      (more : ExecutesInOrder env cntfrq { cpu with env := s } trail last) :
      ExecutesInOrder env cntfrq cpu trail last
  | instruction {cpu next last : Cpu σ} {instruction : Instruction}
      {trail : List (Address × Instruction)}
      (settled : settle cpu.pc
        (A64.execute env cntfrq cpu.pc instruction (cpu.setPc (cpu.pc + 4))) = (none, next))
      (more : ExecutesInOrder env cntfrq next trail last) :
      ExecutesInOrder env cntfrq cpu ((cpu.pc, instruction) :: trail) last

/-- What a fault leaves of the core, and the calls of hooks that belong to it. -/
inductive Faults (env : Environment σ) (place : Place σ) (error : CpuError) :
    List Callback → Cpu σ → Prop
  /-- A request of the next instruction is refused. -/
  | request {instruction : Instruction} {rest : List Instruction} {request : Request} {s : σ}
      (next : place.rest = instruction :: rest)
      (asks : instruction.request? place.pc place.cpu.context.registers = some request)
      (refused : request.attempt env place.cpu.env = .error error s) :
      Faults env place error [request.refusal] { place.cpu with env := s }
  /-- A service fails, and what it did to the registers stays. -/
  | service {imm : BitVec 16} {rest : List Instruction} {after : Cpu σ}
      (next : place.rest = .svc imm :: rest)
      (failed : env.callSupervisor (UInt32.ofNat imm.toNat) (place.cpu.setPc (place.pc + 4)) =
        .error error after) :
      Faults env place error [.callSupervisor (UInt32.ofNat imm.toNat)] (after.setPc place.pc)
  /-- The next word cannot be fetched, and the event that this raises is refused, or
      is answered and leaves nothing to execute. -/
  | fetch {ranges : List (Address × UInt64)} {s₁ s₂ s₃ s₄ : σ}
      (boundary : place.rest = [])
      (drained : env.takeInvalidations place.cpu.env = (ranges, s₁))
      (running : env.takeHalts s₁ = (0, s₂))
      (unknown : (place.session.cache.invalidateAll ranges).find? place.pc = none)
      (missing : env.readCode place.pc s₂ = (none, s₃))
      (raised : env.raise place.pc .noExecuteFault s₃ = .error error s₄ ∨
        env.raise place.pc .noExecuteFault s₃ = .ok () s₄ ∧
          error = .unhandledException place.pc .noExecuteFault) :
      Faults env place error
        [.takeInvalidations, .takeHalts, .raise place.pc .noExecuteFault]
        { place.cpu with env := s₄ }

section

variable {place : Place σ} {error : CpuError} {calls : List Callback} {final : Cpu σ}

/-- The fault is where the next instruction is, and only a service leaves registers
    changed. -/
theorem Faults.context {env : Environment σ} (faults : Faults env place error calls final) :
    final.pc = place.pc ∧ (final.context = place.cpu.context ∨
      ∃ number, calls = [.callSupervisor number]) := by
  cases faults with
  | request next asks refused => exact ⟨rfl, .inl rfl⟩
  | service next failed => exact ⟨rfl, .inr ⟨_, rfl⟩⟩
  | fetch => exact ⟨rfl, .inl rfl⟩

end

theorem note_eq (entry : α → Callback) (hook : σ → α × σ) {p p' : Recorded σ} {a : α}
    (noted : note entry hook p = (a, p')) : p'.2 = p.2 ++ [entry a] := by
  cases noted
  rfl

/-- The calls of a fault are those that a record shows. -/
theorem Faults.recorded {env : Environment σ} {place : Place (Recorded σ)} {error : CpuError}
    {calls : List Callback} {final : Cpu (Recorded σ)}
    (faults : Faults env.recording place error calls final) :
    final.env.2 = place.cpu.env.2 ++ calls := by
  cases faults with
  | request next asks refused => exact (attempt_recording.mp refused).2
  | @service imm rest after next failed =>
      change noteExec _ _ _ = _ at failed
      unfold noteExec at failed
      split at failed
      · cases failed
      · cases failed
        rfl
  | @fetch ranges s₁ s₂ s₃ s₄ boundary drained running unknown missing raised =>
      have first : s₁.2 = place.cpu.env.2 ++ [.takeInvalidations] :=
        note_eq (fun _ => .takeInvalidations) env.takeInvalidations drained
      have second : s₂.2 = s₁.2 ++ [.takeHalts] :=
        note_eq (fun _ => .takeHalts) env.takeHalts running
      have third : s₃.2 = s₂.2 := (congrArg (fun answer => answer.2.2) missing).symm
      have fourth : s₄.2 = s₃.2 ++ [.raise place.pc .noExecuteFault] := by
        cases raised with
        | inl refused =>
            exact ((tryNote_eq_error (fun _ => .raise place.pc .noExecuteFault)
              (env.raise place.pc .noExecuteFault)).mp refused).2
        | inr answered =>
            exact ((tryNote_eq_ok (fun _ => .raise place.pc .noExecuteFault)
              (env.raise place.pc .noExecuteFault)).mp answered.1).2
      simp [first, second, third, fourth]

section

variable {env : Environment σ} {cntfrq : UInt64} {cpu last : Cpu σ} {s : σ} {S : Session σ}
  {trail : List (Address × Instruction)}

theorem asides_decodeFrom (pc : Address) (limit : Nat)
    (more : ExecutesInOrder env cntfrq
      { cpu with env := (Block.decodeFrom env pc limit s).2 } trail last) :
    ExecutesInOrder env cntfrq { cpu with env := s } trail last := by
  induction limit generalizing pc s with
  | zero => exact more
  | succ limit ih =>
      apply ExecutesInOrder.aside (.fetch pc s)
      unfold Block.decodeFrom at more
      split at more
      · rename_i fetched
        simpa only [fetched] using more
      · rename_i fetched
        simp only [fetched]
        simp only at more
        split at more
        · exact more
        · exact ih (pc + 4) more

theorem asides_translate (limit : Nat) (pc : Address)
    (more : ExecutesInOrder env cntfrq
      { cpu with env := (Block.translate env limit pc s).2 } trail last) :
    ExecutesInOrder env cntfrq { cpu with env := s } trail last := by
  apply asides_decodeFrom pc (max limit 1)
  unfold Block.translate at more
  split at more
  · rename_i decoded
    simpa only [decoded] using more
  · rename_i decoded
    simpa only [decoded] using more

theorem asides_blockAt (limit : Nat) (pc : Address)
    (more : ExecutesInOrder env cntfrq (blockAt env limit pc S).2.cpu trail last) :
    ExecutesInOrder env cntfrq S.cpu trail last := by
  unfold blockAt at more
  split at more
  · exact more
  · apply asides_translate limit pc
    split at more
    · rename_i translated
      simpa only [translated] using more
    · rename_i translated
      simpa only [translated] using more

theorem asides_enter {config : TranslatorConfig} {next : Place σ}
    (entered : enter? env config S = some next)
    (more : ExecutesInOrder env cntfrq next.cpu trail last) :
    ExecutesInOrder env cntfrq S.cpu trail last := by
  unfold enter? at entered
  simp only at entered
  split at entered
  · cases entered
  · rename_i running
    split at entered
    · cases entered
    · rename_i found
      cases entered
      have drained : ExecutesInOrder env cntfrq (atBoundary env S).2.cpu trail last := by
        apply asides_blockAt config.maxBlockInstructions (atBoundary env S).2.cpu.pc
        simp only [found]
        exact more
      exact .aside (.drain _) (.aside (.poll _ (Decidable.not_not.mp running)) drained)

theorem settle_ok (place : Place σ) (rest : List Instruction) (flow : Flow) (cpu : Cpu σ) :
    settle place.pc (.ok flow cpu) = (none, (place.after rest cpu flow).cpu) := by
  cases flow <;> rfl

/-- Blocks leave no trace in what is executed. -/
theorem Walks.executesInOrder {config : TranslatorConfig} {place stop : Place σ}
    (walks : Walks env config place trail stop) :
    ExecutesInOrder env config.cntfrq place.cpu trail stop.cpu := by
  induction walks with
  | here place => exact .nothing _
  | enter boundary entered _ ih => exact asides_enter entered ih
  | @execute place _ _ rest flow cpu _ next executed _ ih =>
      apply ExecutesInOrder.instruction _ ih
      simp only [← settle_ok place rest flow cpu, ← executed]
      rfl

end

/-- Every block is kept under the address where it starts. -/
def Filed (cache : BlockCache) : Prop :=
  ∀ pc block, cache.find? pc = some block → block.start = pc

theorem filed_empty : Filed BlockCache.empty := by
  intro pc block found
  simp [BlockCache.find?_empty] at found

section

variable {cache : BlockCache}

theorem Filed.invalidate (filed : Filed cache) (addr : Address) (size : UInt64) :
    Filed (cache.invalidate addr size) :=
  fun pc block found => filed pc block (BlockCache.find?_invalidate_iff.mp found).1

theorem Filed.invalidateAll (filed : Filed cache) (ranges : List (Address × UInt64)) :
    Filed (cache.invalidateAll ranges) :=
  fun pc block found => filed pc block (BlockCache.find?_invalidateAll_iff.mp found).1

theorem Filed.cacheAfter (filed : Filed cache) (exit : BlockExit) :
    Filed (exit.cacheAfter cache) := by
  cases exit with
  | left | fault error => exact filed
  | invalidate range =>
      cases range with
      | none => exact filed_empty
      | some range => exact filed.invalidate range.1 range.2

theorem Filed.insert (filed : Filed cache) (block : Block) : Filed (cache.insert block) := by
  intro pc other found
  simp only [BlockCache.find?_insert] at found
  split at found
  · cases found
    assumption
  · exact filed pc other found

end

section

variable {env : Environment σ} {config : TranslatorConfig} {S T : Session σ} {pc : Address}
  {limit : Nat}

theorem translate_eq_some {block : Block} {s s' : σ}
    (translated : Block.translate env limit pc s = (some block, s')) : block.start = pc := by
  unfold Block.translate at translated
  split at translated
  · cases translated
  · cases translated
    rfl

theorem decodeFrom_eq_nil {s s' : σ}
    (decoded : Block.decodeFrom env pc (limit + 1) s = ([], s')) :
    env.readCode pc s = (none, s') := by
  unfold Block.decodeFrom at decoded
  split at decoded
  · rename_i fetched
    cases decoded
    exact fetched
  · simp only at decoded
    split at decoded <;> cases decoded

theorem translate_eq_none {s s' : σ} (translated : Block.translate env limit pc s = (none, s')) :
    env.readCode pc s = (none, s') := by
  obtain ⟨more, positive⟩ : ∃ more, max limit 1 = more + 1 := ⟨max limit 1 - 1, by omega⟩
  unfold Block.translate at translated
  split at translated
  · rename_i decoded
    cases translated
    simp only [positive] at decoded
    exact decodeFrom_eq_nil decoded
  · cases translated

theorem context_blockAt : (blockAt env limit pc S).2.cpu.context = S.cpu.context := by
  unfold blockAt
  split
  · rfl
  · split <;> rfl

/-- Between two blocks no register changes. -/
theorem context_of_enter {next : Place σ} (entered : enter? env config S = some next) :
    next.cpu.context = S.cpu.context := by
  unfold enter? at entered
  simp only at entered
  split at entered
  · cases entered
  · split at entered
    · cases entered
    · rename_i found
      cases entered
      have same := congrArg (fun answer => answer.2.cpu.context) found
      exact same.symm.trans context_blockAt

theorem blockAt_eq_some {block : Block} (filed : Filed S.cache)
    (found : blockAt env limit pc S = (some block, T)) : block.start = pc ∧ Filed T.cache := by
  unfold blockAt at found
  split at found
  · rename_i cached
    cases found
    exact ⟨filed pc _ cached, filed⟩
  · split at found
    · cases found
    · rename_i translated
      cases found
      exact ⟨translate_eq_some translated, filed.insert _⟩

theorem blockAt_eq_none (found : blockAt env limit pc S = (none, T)) :
    S.cache.find? pc = none ∧ ∃ s, env.readCode pc S.cpu.env = (none, s) ∧
      T = { S with cpu := { S.cpu with env := s } } := by
  unfold blockAt at found
  split at found
  · cases found
  · rename_i uncached
    split at found
    · rename_i translated
      cases found
      exact ⟨uncached, _, translate_eq_none translated, rfl⟩
    · cases found

end

/-- From the place on, instructions are executed up to the block boundary at which
    the session is left, or up to the one that fails. -/
def Leads (env : Environment σ) (config : TranslatorConfig) (place : Place σ)
    (error? : Option CpuError) (final : Session σ) : Prop :=
  match error? with
  | none => ∃ trail, Walks env config place trail { session := final, rest := [] }
  | some error => ∃ trail stop calls, Walks env config place trail stop ∧
      Faults env stop error calls final.cpu

section

variable {env : Environment σ} {config : TranslatorConfig} {place next : Place σ}
  {error? : Option CpuError} {final : Session σ}

theorem Leads.before (leads : Leads env config next error? final)
    (step : ∀ {trail last}, Walks env config next trail last →
      ∃ longer, Walks env config place longer last) : Leads env config place error? final := by
  cases error? with
  | none =>
      obtain ⟨trail, walks⟩ := leads
      exact step walks
  | some error =>
      obtain ⟨trail, stop, calls, walks, faults⟩ := leads
      obtain ⟨longer, walks⟩ := step walks
      exact ⟨longer, stop, calls, walks, faults⟩

theorem Walks.trans {last : Place σ} {first second : List (Address × Instruction)}
    (walks : Walks env config place first next) (more : Walks env config next second last) :
    Walks env config place (first ++ second) last := by
  induction walks with
  | here place => exact more
  | enter boundary entered _ ih => exact .enter boundary entered (ih more)
  | execute next executed _ ih => exact .execute next executed (ih more)

/-- Instructions after which a block goes on leave the PC register alone. -/
theorem pc_of_next {cntfrq : UInt64} {pc : Address} {instruction : Instruction}
    {cpu after : Cpu σ} (executed : execute env cntfrq pc instruction cpu = .ok .next after) :
    after.pc = cpu.pc := by
  have keeps : env.PreservesWithinBlocks fun _ => True := by
    constructor <;> intros <;> trivial
  exact (execute_keepsNext keeps cntfrq pc instruction cpu after ⟨trivial, rfl⟩ executed).2

theorem setPc_of_refused {request? : Option Request} {cpu after : Cpu σ} {pc : Address}
    {error : CpuError} (refused : Refused env request? (cpu.setPc pc) error after) :
    ∃ request ∈ request?, ∃ s, request.attempt env cpu.env = .error error s ∧
      after.setPc cpu.pc = { cpu with env := s } := by
  obtain ⟨request, asks, s, failed, rfl⟩ := refused
  exact ⟨request, asks, s, failed, rfl⟩

theorem request?_setPc (instruction : Instruction) (at' pc : Address) (regs : RegisterFile) :
    instruction.request? at' { regs with pc } = instruction.request? at' regs := by
  cases instruction <;> rfl

theorem runInstructions_leads (cache : BlockCache) (instructions : List Instruction)
    (cpu : Cpu σ) :
    Leads env config { session := { cpu, cache }, rest := instructions }
      (runInstructions env config.cntfrq cpu.pc instructions cpu).1.error?
      { cpu := (runInstructions env config.cntfrq cpu.pc instructions cpu).2
        cache := (runInstructions env config.cntfrq cpu.pc instructions cpu).1.cacheAfter
          cache } := by
  induction instructions generalizing cpu with
  | nil => exact ⟨[], .here _⟩
  | cons instruction rest ih =>
      unfold runInstructions
      cases executed : execute env config.cntfrq cpu.pc instruction
          (cpu.setPc (cpu.pc + 4)) with
      | ok flow after =>
          cases flow with
          | next =>
              -- The register was advanced before, so it is at the rest of the block.
              have following : cpu.pc + 4 = after.pc := (pc_of_next executed).symm
              simp only [following]
              apply (ih after).before
              intro trail last walks
              exact ⟨_, .execute rfl executed walks⟩
          | jump target => exact ⟨_, .execute rfl executed (.here _)⟩
          | endBlock => exact ⟨_, .execute rfl executed (.here _)⟩
          | invalidate range => exact ⟨_, .execute rfl executed (.here _)⟩
      | error error after =>
          cases execute_eq_error executed with
          | inl refused =>
              -- The register goes back, and the request never depended on it.
              obtain ⟨request, asks, s, failed, same⟩ := setPc_of_refused refused
              simp only [Cpu.setPc, request?_setPc] at asks
              simp only [same]
              exact ⟨[], _, _, .here _, .request rfl asks failed⟩
          | inr service =>
              obtain ⟨imm, rfl, failed⟩ := service
              exact ⟨[], _, _, .here _, .service rfl failed⟩

variable {S T : Session σ} {limit : Nat}

theorem enterBlock_filed (filed : Filed S.cache) : Filed (enterBlock env config S).2.cache := by
  unfold enterBlock
  simp only
  split
  · rename_i found
    obtain ⟨_, s, _, rfl⟩ := blockAt_eq_none found
    unfold fetchFault
    split <;> exact filed
  · rename_i found
    exact (blockAt_eq_some filed found).2.cacheAfter _

theorem round_filed (filed : Filed S.cache) : Filed (round env config S).2.cache := by
  have drained : Filed (atBoundary env S).2.cache := filed.invalidateAll _
  unfold round
  simp only
  split
  · exact drained
  · exact enterBlock_filed drained

theorem run_filed (filed : Filed S.cache) (rounds : Nat) :
    Filed (run env config rounds S).2.cache := by
  induction rounds generalizing S with
  | zero => exact filed
  | succ rounds ih =>
      have kept : Filed (round env config S).2.cache := round_filed filed
      unfold run
      split
      · rename_i ended
        simpa only [ended] using kept
      · rename_i ended
        simp only [ended] at kept
        exact ih kept

theorem faults_fetchFault (running : (atBoundary env S).1.2 = 0)
    (found : blockAt env limit (atBoundary env S).2.cpu.pc (atBoundary env S).2 = (none, T)) :
    Faults env { session := S, rest := [] } (fetchFault env (atBoundary env S).2.cpu.pc T).1
      [.takeInvalidations, .takeHalts, .raise S.cpu.pc .noExecuteFault]
      (fetchFault env (atBoundary env S).2.cpu.pc T).2.cpu := by
  obtain ⟨uncached, s, missing, rfl⟩ := blockAt_eq_none found
  have noHalt : env.takeHalts (env.takeInvalidations S.cpu.env).2 =
      (0, (atBoundary env S).2.cpu.env) := Prod.ext running rfl
  unfold fetchFault
  cases raised : env.raise (atBoundary env S).2.cpu.pc .noExecuteFault s with
  | ok a s' => exact .fetch rfl rfl noHalt uncached missing (.inr ⟨raised, rfl⟩)
  | error error s' => exact .fetch rfl rfl noHalt uncached missing (.inl raised)

variable (config) in
/-- A round that does not halt enters a block, or finds none and fails. -/
theorem round_leads (filed : Filed S.cache) (running : (atBoundary env S).1.2 = 0) :
    ∃ error?, (round env config S).1 = error?.map .faulted ∧
      Leads env config { session := S, rest := [] } error? (round env config S).2 := by
  have drained : Filed (atBoundary env S).2.cache := filed.invalidateAll _
  have same : round env config S = enterBlock env config (atBoundary env S).2 :=
    if_neg fun requested => requested running
  cases found : blockAt env config.maxBlockInstructions (atBoundary env S).2.cpu.pc
      (atBoundary env S).2 with
  | mk block? U =>
      simp only [same, enterBlock, found]
      cases block? with
      | none =>
          exact ⟨some _, rfl, [], _, _, .here _, faults_fetchFault running found⟩
      | some block =>
          have entered : enter? env config S =
              some { session := U, rest := block.instructions } := by
            simp only [enter?, running, found]
            rfl
          have there : block.start = U.cpu.pc := by
            have start := (blockAt_eq_some drained found).1
            have same : U.cpu.context = S.cpu.context := context_of_enter entered
            simp only [start, Cpu.pc, same]
            rfl
          refine ⟨_, rfl, ?_⟩
          simp only [runBlock, there]
          apply (runInstructions_leads U.cache block.instructions U.cpu).before
          intro trail last walks
          exact ⟨trail, .enter rfl entered walks⟩

theorem run_leads (filed : Filed S.cache) (rounds : Nat) {error : CpuError}
    (faulted : run env config rounds S = (.faulted error, T)) :
    Leads env config { session := S, rest := [] } (some error) T := by
  induction rounds generalizing S with
  | zero => cases faulted
  | succ rounds ih =>
      by_cases running : (atBoundary env S).1.2 = 0
      · obtain ⟨error?, result, leads⟩ := round_leads config filed running
        have kept : Filed (round env config S).2.cache := round_filed filed
        unfold run at faulted
        cases ended : round env config S with
        | mk result? next =>
            simp only [ended] at faulted result leads kept
            subst result
            cases error? with
            | none =>
                obtain ⟨trail, walks⟩ := leads
                exact (ih kept faulted).before fun more => ⟨_, walks.trans more⟩
            | some other =>
                cases faulted
                exact leads
      · have halted := (run_of_halts config running rounds).1
        simp [halted] at faulted

end

/-- The caches that a translator may hold. It begins with none, and between runs, in
    whatever environment each was, it may be told that code has changed. -/
inductive Built : BlockCache → Prop
  | empty : Built BlockCache.empty
  | invalidate {cache : BlockCache} (built : Built cache) (addr : Address) (size : UInt64) :
      Built (cache.invalidate addr size)
  | run {τ : Type} {cache : BlockCache} (built : Built cache) (env : Environment τ)
      (config : TranslatorConfig) (rounds : Nat) (cpu : Cpu τ) :
      Built (run env config rounds { cpu, cache }).2.cache

theorem Built.filed {cache : BlockCache} (built : Built cache) : Filed cache := by
  induction built with
  | empty => exact filed_empty
  | invalidate _ addr size ih => exact ih.invalidate addr size
  | run _ env config rounds cpu ih => exact run_filed ih rounds

/-- When a run ends with a fault, the instructions before it were executed in the
    order of the program, each of them whole, and what is left is what they left but
    for the call that failed: the PC is at the instruction, or at the word that cannot
    be fetched, and the other registers are as they were. Only a service that fails
    may have changed registers. -/
theorem run_faulted {cache : BlockCache} (built : Built cache) (env : Environment σ)
    (config : TranslatorConfig) (rounds : Nat) (cpu : Cpu σ) {error : CpuError}
    {final : Session σ}
    (faulted : run env config rounds { cpu, cache } = (.faulted error, final)) :
    ∃ trail stop calls,
      Walks env config { session := { cpu, cache }, rest := [] } trail stop ∧
      ExecutesInOrder env config.cntfrq cpu trail stop.cpu ∧
      Faults env stop error calls final.cpu ∧
      final.cpu.pc = stop.pc ∧
      (final.cpu.context = stop.cpu.context ∨ ∃ number, calls = [.callSupervisor number]) := by
  obtain ⟨trail, stop, calls, walks, faults⟩ := run_leads built.filed rounds faulted
  exact ⟨trail, stop, calls, walks, walks.executesInOrder, faults, faults.context⟩

/-- Three words of code: a move, a store, and a cache operation, which is not
    supported. -/
def refusingEnvironment : Environment Unit where
  readCode addr s :=
    (if addr = 0x1000 then some 0xD28000A0
     else if addr = 0x1004 then some 0xB9000020
     else if addr = 0x1008 then some 0xD50B7E21
     else none, s)
  read _ _ s := (0, s)
  write _ _ _ s := (true, s)
  exclusiveRead _ _ _ := pure 0
  exclusiveWrite _ _ _ _ := pure false
  clearExclusive s := s
  callSupervisor _ := pure ()
  raise _ _ := pure ()
  dataCache pc op addr := throw (.cacheOperation pc (.data op) addr)
  instructionCache _ _ _ := pure ()
  instructionBarrier _ := pure ()
  fallback _ _ := pure ()
  counter s := (0, s)
  takeInvalidations s := ([], s)
  takeHalts s := (0, s)

def refusingConfig : TranslatorConfig :=
  { cntfrq := 0, maxBlockInstructions := 8 }

def refusingStart : Session (Recorded Unit) where
  cpu := { context := { registers := { pc := 0x1000 } }, env := ((), []) }
  cache := BlockCache.empty

/-- The move and the store are done, and nothing more of the cache operation than the
    call that is refused. -/
theorem run_faulted_refusing :
    ∃ final trail stop calls,
      run refusingEnvironment.recording refusingConfig 1 refusingStart =
        (.faulted (.cacheOperation 0x1008 (.data .cleanAndInvalidateByVaToPoc) 0), final) ∧
      Walks refusingEnvironment.recording refusingConfig
        { session := refusingStart, rest := [] } trail stop ∧
      ExecutesInOrder refusingEnvironment.recording 0 refusingStart.cpu trail stop.cpu ∧
      Faults refusingEnvironment.recording stop
        (.cacheOperation 0x1008 (.data .cleanAndInvalidateByVaToPoc) 0) calls final.cpu ∧
      stop.pc = 0x1008 ∧
      final.cpu.context.registers.xzr 0 = 5 ∧
      final.cpu.env.2 = stop.cpu.env.2 ++ calls ∧
      final.cpu.env.2 = [.takeInvalidations, .takeHalts, .write .word 0 5 true,
        .dataCache 0x1008 .cleanAndInvalidateByVaToPoc 0] := by
  have faulted : run refusingEnvironment.recording refusingConfig 1 refusingStart =
      (.faulted (.cacheOperation 0x1008 (.data .cleanAndInvalidateByVaToPoc) 0), _) :=
    Prod.ext (by decide +kernel) rfl
  obtain ⟨trail, stop, calls, walks, inOrder, faults, there, _⟩ :=
    run_faulted Built.empty refusingEnvironment.recording refusingConfig 1 refusingStart.cpu faulted
  refine ⟨_, trail, stop, calls, faulted, walks, inOrder, faults, ?_, ?_, faults.recorded, ?_⟩
  · simp only [← there]
    decide +kernel
  · decide +kernel
  · decide +kernel

end Translator

end GuestMachine
