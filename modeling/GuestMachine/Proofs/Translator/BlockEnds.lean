import GuestMachine.Proofs.Translator.PreciseFaults

/-! # Ends of blocks

The decoder says which instructions end a block, and the executor says after which ones
a block goes on. They agree on every instruction that a word stands for. So a block is
left by its last instruction only, and one that is left without a fault was executed from
its first instruction to its last.
-/

namespace GuestMachine

open A64 Translator

namespace A64

/-- A write to a system register is to one that guest code may write. -/
def Instruction.SparesReadOnly : Instruction → Prop
  | .msr _ reg => reg.isWritable = true
  | _ => True

section

variable (raw : BitVec 32)

theorem decodeImmediate_sparesReadOnly : (decodeImmediate raw).SparesReadOnly := by
  unfold decodeImmediate
  dsimp only
  repeat' split
  all_goals trivial

theorem decodeSystem_sparesReadOnly : (decodeSystem raw).SparesReadOnly := by
  unfold decodeSystem
  dsimp only
  repeat' split
  -- Of the registers only the writable ones pass the last test before a write.
  all_goals first | assumption | trivial

theorem decodeBranchSystem_sparesReadOnly : (decodeBranchSystem raw).SparesReadOnly := by
  unfold decodeBranchSystem decodeException decodeBranchRegister
  dsimp only
  repeat' split
  all_goals first | exact decodeSystem_sparesReadOnly raw | trivial

theorem decodeLoadStore_sparesReadOnly : (decodeLoadStore raw).SparesReadOnly := by
  unfold decodeLoadStore decodeExclusive decodeLiteral decodePair decodeRegister
  dsimp only
  repeat' split
  all_goals trivial

theorem decodeDataRegister_sparesReadOnly : (decodeDataRegister raw).SparesReadOnly := by
  unfold decodeDataRegister
  dsimp only
  repeat' split
  all_goals trivial

theorem decode_sparesReadOnly : (decode raw).SparesReadOnly := by
  unfold decode
  split
  · exact decodeImmediate_sparesReadOnly raw
  · exact decodeImmediate_sparesReadOnly raw
  · exact decodeBranchSystem_sparesReadOnly raw
  · exact decodeBranchSystem_sparesReadOnly raw
  · exact decodeLoadStore_sparesReadOnly raw
  · exact decodeLoadStore_sparesReadOnly raw
  · exact decodeLoadStore_sparesReadOnly raw
  · exact decodeLoadStore_sparesReadOnly raw
  · exact decodeDataRegister_sparesReadOnly raw
  · exact decodeDataRegister_sparesReadOnly raw
  · split <;> trivial
  · trivial

end

/-- The block goes on after it, unless it fails. -/
def AlwaysNext (x : Exec σ Flow) : Prop :=
  ∀ cpu flow after, x cpu = .ok flow after → flow = .next

namespace AlwaysNext

theorem next : AlwaysNext (pure .next : Exec σ Flow) := by
  intro cpu flow after ended
  cases ended
  rfl

theorem bind {x : Exec σ α} {f : α → Exec σ Flow} (goesOn : ∀ a, AlwaysNext (f a)) :
    AlwaysNext (x >>= f) := by
  intro cpu flow after ended
  obtain ⟨a, between, _, there⟩ := Operation.bind_eq_ok ended
  exact goesOn a between flow after there

end AlwaysNext

section

variable (env : Environment σ) (cntfrq : UInt64) (pc : Address)

theorem execute_alwaysNext {instruction : Instruction} (spares : instruction.SparesReadOnly)
    (goesOn : instruction.endsBlock = false) : AlwaysNext (execute env cntfrq pc instruction) := by
  cases instruction with
  | moveWide | addSubImm | addSubReg | logicalImm | logicalReg | bitfield | condSelect | mulAdd
  | dataProc2 | adr => exact .bind fun _ => .next
  | loadLiteral => exact .bind fun _ => .next
  | loadAcquire | storeRelease | loadExclusivePair | storeExclusivePair =>
      exact .bind fun _ => .bind fun _ => .next
  | loadStore | loadExclusive | storeExclusive =>
      exact .bind fun _ => .bind fun _ => .bind fun _ => .next
  | loadStorePair => exact .bind fun _ => .bind fun _ => .bind fun _ => .bind fun _ => .next
  | clearExclusive => exact .bind fun _ => .next
  | barrier => exact .next
  | hint op =>
      cases op with
      | nop => exact .next
      | _ => cases goesOn
  | dataCache op rt =>
      cases op with
      | zeroByVa => exact .bind fun _ => .bind fun _ => .next
      | _ => cases goesOn
  | mrs => exact .bind fun _ => .bind fun _ => .next
  | msr rt reg =>
      refine .bind fun ctx => ?_
      cases reg with
      | tpidrEl0 | fpcr | fpsr | nzcv => exact .bind fun _ => .next
      | _ => cases spares
  | _ => cases goesOn

theorem execute_next_iff {instruction : Instruction} (spares : instruction.SparesReadOnly)
    {cpu after : Cpu σ} {flow : Flow}
    (executed : execute env cntfrq pc instruction cpu = .ok flow after) :
    flow = .next ↔ instruction.endsBlock = false := by
  cases ends : instruction.endsBlock with
  | false =>
      have goesOn := execute_alwaysNext env cntfrq pc spares ends cpu flow after executed
      exact iff_of_true goesOn rfl
  | true =>
      refine iff_of_false ?_ Bool.noConfusion
      rintro rfl
      exact execute_neverNext env cntfrq pc ends cpu after executed

end

end A64

/-- Instructions as the decoder strings them together: none but the last ends a block. -/
structure Decoded (instructions : List Instruction) : Prop where
  spares : ∀ instruction ∈ instructions, instruction.SparesReadOnly
  goesOn : ∀ instruction ∈ instructions.dropLast, instruction.endsBlock = false

namespace Decoded

variable {instruction next : Instruction} {rest : List Instruction}

theorem nil : Decoded [] where
  spares := List.forall_mem_nil _
  goesOn := List.forall_mem_nil _

theorem single (spares : instruction.SparesReadOnly) : Decoded [instruction] where
  spares := List.forall_mem_singleton.mpr spares
  goesOn := List.forall_mem_nil _

theorem cons (spares : instruction.SparesReadOnly) (goesOn : instruction.endsBlock = false)
    (decoded : Decoded rest) : Decoded (instruction :: rest) where
  spares := List.forall_mem_cons.mpr ⟨spares, decoded.spares⟩
  goesOn := by
    cases rest with
    | nil => exact List.forall_mem_nil _
    | cons next rest => exact List.forall_mem_cons.mpr ⟨goesOn, decoded.goesOn⟩

theorem head (decoded : Decoded (instruction :: next :: rest)) :
    instruction.SparesReadOnly ∧ instruction.endsBlock = false :=
  ⟨(List.forall_mem_cons.mp decoded.spares).1, (List.forall_mem_cons.mp decoded.goesOn).1⟩

theorem tail (decoded : Decoded (instruction :: next :: rest)) : Decoded (next :: rest) where
  spares := (List.forall_mem_cons.mp decoded.spares).2
  goesOn := (List.forall_mem_cons.mp decoded.goesOn).2

end Decoded

theorem Block.decodeFrom_decoded (origin : Environment τ) (pc : Address) (limit : Nat) (s : τ) :
    Decoded (Block.decodeFrom origin pc limit s).1 := by
  induction limit generalizing pc s with
  | zero => exact .nil
  | succ limit ih =>
      unfold decodeFrom
      split
      · exact .nil
      · simp only
        split
        · exact .single (decode_sparesReadOnly _)
        · rename_i goesOn
          exact .cons (decode_sparesReadOnly _) (eq_false_of_ne_true goesOn) (ih (pc + 4) _)

theorem Block.translate_decoded {origin : Environment τ} {limit : Nat} {start : Address} {s s' : τ}
    {block : Block} (translated : Block.translate origin limit start s = (some block, s')) :
    block.start = start ∧ block.instructions ≠ [] ∧ Decoded block.instructions := by
  have decoded := Block.decodeFrom_decoded origin start (max limit 1) s
  unfold translate at translated
  split at translated
  · cases translated
  · rename_i instructions _ nonempty found
    cases translated
    rw [found] at decoded
    exact ⟨rfl, nonempty, decoded⟩

/-- Instructions with their addresses, the first of which is `pc`. -/
def addressed (pc : Address) (instructions : List Instruction) : List (Address × Instruction) :=
  instructions.mapIdx fun i instruction => (pc + UInt64.ofNat (4 * i), instruction)

theorem addressed_cons (pc : Address) (instruction : Instruction) (rest : List Instruction) :
    addressed pc (instruction :: rest) = (pc, instruction) :: addressed (pc + 4) rest := by
  have shift (i : Nat) : pc + UInt64.ofNat (4 * (i + 1)) = pc + 4 + UInt64.ofNat (4 * i) := by
    rw [Nat.mul_add, Nat.add_comm, UInt64.ofNat_add, ← UInt64.add_assoc]
    rfl
  have first : pc + UInt64.ofNat (4 * 0) = pc := UInt64.add_zero pc
  simp only [addressed, List.mapIdx_cons, shift, first]

namespace Translator

/-- How a block is left after its last instruction. -/
def exitAfter (cpu : Cpu σ) : Flow → BlockExit × Cpu σ
  | .next | .endBlock => (.left, cpu)
  | .jump target => (.left, cpu.setPc target)
  | .invalidate range => (.invalidate range, cpu)

/-- Every instruction of the list is executed once, in the order of the list, and none of
    them fails. After the last one the block is left. -/
inductive RunsThrough (env : Environment σ) (cntfrq : UInt64) :
    List (Address × Instruction) → Cpu σ → BlockExit × Cpu σ → Prop
  | last {pc : Address} {instruction : Instruction} {cpu after : Cpu σ} {flow : Flow}
      (executed : execute env cntfrq pc instruction (cpu.setPc (pc + 4)) = .ok flow after) :
      RunsThrough env cntfrq [(pc, instruction)] cpu (exitAfter after flow)
  | next {pc : Address} {instruction : Instruction} {cpu between : Cpu σ}
      {rest : List (Address × Instruction)} {left : BlockExit × Cpu σ}
      (executed : execute env cntfrq pc instruction (cpu.setPc (pc + 4)) = .ok .next between)
      (more : RunsThrough env cntfrq rest between left) :
      RunsThrough env cntfrq ((pc, instruction) :: rest) cpu left

section

variable (env : Environment σ) (cntfrq : UInt64)

/-- A single instruction is the last one, whatever comes after it. -/
theorem runInstructions_single {pc : Address} {instruction : Instruction} {cpu after : Cpu σ}
    {flow : Flow}
    (executed : execute env cntfrq pc instruction (cpu.setPc (pc + 4)) = .ok flow after) :
    runInstructions env cntfrq pc [instruction] cpu = exitAfter after flow := by
  unfold runInstructions
  rw [executed]
  cases flow <;> rfl

theorem runInstructions_through {instructions : List Instruction} (decoded : Decoded instructions)
    (nonempty : instructions ≠ []) (pc : Address) (cpu : Cpu σ)
    (whole : (runInstructions env cntfrq pc instructions cpu).1.error? = none) :
    RunsThrough env cntfrq (addressed pc instructions) cpu
      (runInstructions env cntfrq pc instructions cpu) := by
  induction instructions generalizing pc cpu with
  | nil => exact absurd rfl nonempty
  | cons instruction rest ih =>
      rw [addressed_cons]
      cases executed : execute env cntfrq pc instruction (cpu.setPc (pc + 4)) with
      | error error after =>
          unfold runInstructions at whole
          rw [executed] at whole
          cases whole
      | ok flow after =>
          cases rest with
          | nil =>
              rw [runInstructions_single env cntfrq executed]
              exact .last executed
          | cons next rest =>
              obtain ⟨spares, goesOn⟩ := decoded.head
              obtain rfl := (execute_next_iff env cntfrq pc spares executed).mpr goesOn
              have same : runInstructions env cntfrq pc (instruction :: next :: rest) cpu =
                  runInstructions env cntfrq (pc + 4) (next :: rest) after := by
                rw [runInstructions, executed]
              rw [same] at whole ⊢
              exact .next executed (ih decoded.tail (List.cons_ne_nil _ _) (pc + 4) after whole)

/-- Whether the block goes on after the instruction of a word is decided by the word
    alone: if it is executed without a fault, the block goes on exactly if the word does
    not end a block. So only the last instruction of a translated block can leave it, and
    a block that runs without a fault runs from its first instruction to its last, each at
    its address. -/
theorem blocks_leave_at_end {τ : Type} (origin : Environment τ) :
    (∀ word pc cpu flow after, execute env cntfrq pc (decode word) cpu = .ok flow after →
        (flow = .next ↔ (decode word).endsBlock = false)) ∧
      ∀ limit start s s' block, Block.translate origin limit start s = (some block, s') →
        (∀ instruction ∈ block.instructions.dropLast, ∀ pc cpu flow after,
          execute env cntfrq pc instruction cpu = .ok flow after → flow = .next) ∧
        ∀ session, (runBlock env cntfrq block session).1 = none →
          ∃ exit, RunsThrough env cntfrq (addressed start block.instructions) session.cpu
              (exit, (runBlock env cntfrq block session).2.cpu) ∧
            (runBlock env cntfrq block session).2.cache = exit.cacheAfter session.cache := by
  constructor
  · intro word pc cpu flow after executed
    exact execute_next_iff env cntfrq pc (decode_sparesReadOnly word) executed
  · intro limit start s s' block translated
    obtain ⟨rfl, nonempty, decoded⟩ := Block.translate_decoded translated
    constructor
    · intro instruction member pc cpu flow after executed
      have spares := decoded.spares instruction ((List.dropLast_sublist _).subset member)
      exact (execute_next_iff env cntfrq pc spares executed).mpr (decoded.goesOn instruction member)
    · intro session whole
      exact ⟨_, runInstructions_through env cntfrq decoded nonempty block.start session.cpu whole,
        rfl⟩

end

/-- As in `refusingEnvironment`, but the cache operation at the end is accepted. -/
def acceptingEnvironment : Environment Unit :=
  { refusingEnvironment with dataCache := fun _ _ _ => pure () }

/-- The move, the store and the cache operation are one block, which runs through. -/
theorem blocks_leave_at_end_accepting :
    ∃ block exit after,
      (Block.translate acceptingEnvironment 8 0x1000 ()).1 = some block ∧
      RunsThrough acceptingEnvironment 0
        [(0x1000, decode 0xD28000A0), (0x1004, decode 0xB9000020), (0x1008, decode 0xD50B7E21)]
        { context := {}, env := () } (exit, after) := by
  have translated : Block.translate acceptingEnvironment 8 0x1000 () =
      (some { start := 0x1000, finish := 0x100C, instructions :=
        [decode 0xD28000A0, decode 0xB9000020, decode 0xD50B7E21] }, ()) := by decide +kernel
  obtain ⟨-, block⟩ := blocks_leave_at_end acceptingEnvironment 0 acceptingEnvironment
  obtain ⟨-, runs⟩ := block 8 0x1000 () () _ translated
  obtain ⟨exit, through, -⟩ := runs { cpu := { context := {}, env := () }, cache := .empty }
    (by decide +kernel)
  exact ⟨_, exit, _, congrArg Prod.fst translated, through⟩

end Translator

end GuestMachine
