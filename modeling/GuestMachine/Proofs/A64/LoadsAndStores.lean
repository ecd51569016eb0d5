import GuestMachine.Proofs.A64.RegisterPlaces
import GuestMachine.Proofs.Board.Publication
import GuestMachine.Proofs.Memory.Blocks

/-! # Loads and stores

An instruction that stores puts the low bits of its registers into memory, one
value behind the other, and one that loads from there gives these bits back.
How the address comes about and what becomes of the base register is a matter
of the operand alone.
-/

namespace GuestMachine

open A64 Layout

/-- Plain stores and store-release. -/
inductive StoreForm where
  | single (bank : Bank) (rt rn : RegNum) (addressing : Addressing)
  | pair (bank : Bank) (rt rt2 rn : RegNum) (addressing : Addressing)
  | release (rt rn : RegNum)

/-- What a load makes of the bits it reads. -/
inductive Reading where
  | zeroExtended
  /-- To the 64 bits of an X register, or to the 32 bits of a W register. -/
  | signExtended (to64 : Bool)
  | vector

/-- Plain loads and load-acquire. -/
inductive LoadForm where
  | single (reading : Reading) (rt rn : RegNum) (addressing : Addressing)
  | literal (reading : Reading) (rt : RegNum) (offset : Int)
  | pair (bank : Bank) (rt rt2 rn : RegNum) (addressing : Addressing)
  | acquire (rt rn : RegNum)

namespace Bank

def storeOp : Bank → MemOp
  | general => .store
  | vector => .storeVector

def isVector : Bank → Bool
  | general => false
  | vector => true

/-- The low bits of a register. -/
def low (bank : Bank) (w : Width) (regs : RegisterFile) (n : RegNum) : BitVec w.bits :=
  match bank with
  | general => (regs.xzr n).toBitVec.setWidth w.bits
  | vector => (regs.vector n).setWidth w.bits

/-- How pairs are read. -/
def reading : Bank → Reading
  | general => .zeroExtended
  | vector => .vector

end Bank

namespace Reading

def op : Reading → MemOp
  | zeroExtended => .load
  | signExtended to64 => .loadSigned to64
  | vector => .loadVector

def bank : Reading → Bank
  | zeroExtended | signExtended _ => .general
  | vector => .vector

/-- A register into which these bits were read. -/
def extend (reading : Reading) {w : Width} (value : BitVec w.bits) : BitVec 128 :=
  match reading with
  | zeroExtended => (value.setWidth 64).setWidth 128
  | signExtended true => (value.signExtend 64).setWidth 128
  | signExtended false => (value.signExtend 32).setWidth 128
  | vector => value.setWidth 128

/-- Into a register goes what was read. -/
def assignment (reading : Reading) {w : Width} (rt : RegNum) (value : BitVec w.bits) : Assignment :=
  (reading.bank.place? rt, reading.extend value)

theorem fits_extend {reading : Reading} {w : Width} (value : BitVec w.bits) {rt : RegNum}
    {place : Place} (here : reading.bank.place? rt = some place) :
    place.Fits (reading.extend value) := by
  cases reading with
  | zeroExtended => exact place.fits_of_small _ (Nat.le_refl _)
  | signExtended to64 =>
      cases to64 with
      | true => exact place.fits_of_small _ (Nat.le_refl _)
      | false => exact place.fits_of_small _ (by decide)
  | vector =>
      cases here
      trivial

end Reading

namespace A64.Addressing

/-- By how much the base register is moved. -/
def step? : Addressing → Option Int
  | preIndex bytes | postIndex bytes => some bytes
  | offset _ | register .. => none

/-- What becomes of the base register. -/
def rebase (regs : RegisterFile) (rn : RegNum) (addressing : Addressing) : List Assignment :=
  addressing.step?.toList.map fun bytes =>
    (some (basePlace rn), (displace (regs.xsp rn) bytes).toBitVec.setWidth 128)

theorem writeBack_eq (regs regs' : RegisterFile) (rn : RegNum) (addressing : Addressing) :
    writeBack rn (effectiveAddress regs rn addressing).2 regs' =
      regs'.assignAll (addressing.rebase regs rn) := by
  cases addressing with
  | preIndex bytes | postIndex bytes => exact regs'.setXsp_eq_assign rn _
  | offset bytes | register rm extend shift => rfl

end A64.Addressing

namespace StoreForm

def instruction (w : Width) : StoreForm → Instruction
  | single bank rt rn addressing => .loadStore bank.storeOp w rt rn addressing
  | pair bank rt rt2 rn addressing => .loadStorePair false bank.isVector w rt rt2 rn addressing
  | release rt rn => .storeRelease w rt rn

/-- Where the first byte goes. -/
def address (regs : RegisterFile) : StoreForm → Address
  | single _ _ rn addressing | pair _ _ _ rn addressing => (effectiveAddress regs rn addressing).1
  | release _ rn => regs.xsp rn

/-- The low bits of the registers that are stored. -/
def values (w : Width) (regs : RegisterFile) : StoreForm → List (BitVec w.bits)
  | single bank rt _ _ => [bank.low w regs rt]
  | pair bank rt rt2 _ _ => [bank.low w regs rt, bank.low w regs rt2]
  | release rt _ => [Bank.general.low w regs rt]

def rebase (regs : RegisterFile) : StoreForm → List Assignment
  | single _ _ rn addressing | pair _ _ _ rn addressing => addressing.rebase regs rn
  | release .. => []

end StoreForm

namespace LoadForm

def instruction (w : Width) : LoadForm → Instruction
  | single reading rt rn addressing => .loadStore reading.op w rt rn addressing
  | literal reading rt offset => .loadLiteral reading.op w rt offset
  | pair bank rt rt2 rn addressing => .loadStorePair true bank.isVector w rt rt2 rn addressing
  | acquire rt rn => .loadAcquire w rt rn

/-- Where the first byte comes from. -/
def address (pc : Address) (regs : RegisterFile) : LoadForm → Address
  | single _ _ rn addressing | pair _ _ _ rn addressing => (effectiveAddress regs rn addressing).1
  | literal _ _ offset => displace pc offset
  | acquire _ rn => regs.xsp rn

def reading : LoadForm → Reading
  | single reading .. | literal reading .. => reading
  | pair bank .. => bank.reading
  | acquire .. => .zeroExtended

/-- The registers to load, in order. -/
def targets : LoadForm → List RegNum
  | single _ rt .. | literal _ rt _ | acquire rt _ => [rt]
  | pair _ rt rt2 .. => [rt, rt2]

def rebase (regs : RegisterFile) : LoadForm → List Assignment
  | single _ _ rn addressing | pair _ _ _ rn addressing => addressing.rebase regs rn
  | literal .. | acquire .. => []

/-- What becomes of all registers, if these values are read. -/
def assignments {w : Width} (load : LoadForm) (values : List (BitVec w.bits))
    (regs : RegisterFile) : List Assignment :=
  List.zipWith load.reading.assignment load.targets values ++ load.rebase regs

/-- Where the instruction leaves a value. -/
def places (load : LoadForm) : List Place :=
  load.targets.filterMap load.reading.bank.place? ++
    match load with
    | single _ _ rn addressing | pair _ _ _ rn addressing =>
        addressing.step?.toList.map fun _ => basePlace rn
    | literal .. | acquire .. => []

end LoadForm

namespace A64

/-- The environment keeps guest memory in its state. -/
structure Environment.BackedBy (memory : σ → AddressSpace) (env : Environment σ) : Prop where
  read : ∀ w addr s, (env.read w addr s).1 = (memory s).load w addr
  reads : ∀ w addr s, memory (env.read w addr s).2 = memory s
  write : ∀ w addr value s, memory (env.write w addr value s).2 = ((memory s).store w addr value).2

/-- Guest memory of a core is that of its board, with or without a monitor. -/
theorem backedBy_core (os : OperatingSystem κ) (core : Core) :
    (core.environment os).BackedBy fun machine => machine.board.memory where
  read _ _ _ := rfl
  reads _ _ _ := rfl
  write w addr value machine := by
    obtain ⟨between, through, memory, _⟩ := machine.board.storeThrough_storeAndBreak core.monitor
      (some core.index) addr w.size fun memory => memory.store w addr value
    change (machine.board.coreStore core.index core.monitor w addr value).2.memory = _
    simp only [Board.coreStore, ExclusiveMonitor.guardedStore, through]
    split
    · exact memory
    · exact memory

variable (env : Environment σ) (w : Width)

/-- Store one value behind the other. -/
def storeAll : List (BitVec w.bits) → Address → Cpu σ → Cpu σ
  | [], _, cpu => cpu
  | value :: rest, addr, cpu =>
      storeAll rest (addr + w.size) { cpu with env := (env.write w addr value cpu.env).2 }

/-- Load one value after the other. -/
def loadAll (reading : Reading) : List RegNum → Address → Cpu σ → Cpu σ
  | [], _, cpu => cpu
  | rt :: rest, addr, cpu =>
      let (value, env') := env.read w addr cpu.env
      loadAll reading rest (addr + w.size)
        { context := { cpu.context with
            registers := cpu.context.registers.assign (reading.assignment rt value) }
          env := env' }

def assignAll (assignments : List Assignment) (cpu : Cpu σ) : Cpu σ :=
  { cpu with context := { cpu.context with
      registers := cpu.context.registers.assignAll assignments } }

variable {env w}

theorem access_store (bank : Bank) (rt : RegNum) (addr : Address) (cpu : Cpu σ) :
    access env bank.storeOp w rt addr cpu =
      .ok () (storeAll env w [bank.low w cpu.context.registers rt] addr cpu) := by
  cases bank <;> rfl

theorem access_load (reading : Reading) (rt : RegNum) (addr : Address) (cpu : Cpu σ) :
    access env reading.op w rt addr cpu = .ok () (loadAll env w reading [rt] addr cpu) := by
  cases reading with
  | zeroExtended =>
      change EStateM.Result.ok () _ = _
      simp only [loadAll, Reading.assignment, RegisterFile.setXzr_eq_assign]
      rfl
  | signExtended to64 =>
      change EStateM.Result.ok () _ = _
      simp only [loadAll, Reading.assignment, RegisterFile.setXzr_eq_assign, Reading.extend]
      cases to64 with
      | true => rfl
      | false =>
          simp only [Bool.false_eq_true, if_false]
          rw [setWidth_setWidth_of_small _ (by decide)]
          rfl
  | vector => rfl

theorem pairAccess_store (bank : Bank) (rt : RegNum) (addr : Address) (cpu : Cpu σ) :
    access env (pairAccess false bank.isVector) w rt addr cpu =
      .ok () (storeAll env w [bank.low w cpu.context.registers rt] addr cpu) := by
  cases bank <;> rfl

theorem pairAccess_load (bank : Bank) (rt : RegNum) (addr : Address) (cpu : Cpu σ) :
    access env (pairAccess true bank.isVector) w rt addr cpu =
      .ok () (loadAll env w bank.reading [rt] addr cpu) := by
  cases bank with
  | general => exact access_load .zeroExtended rt addr cpu
  | vector => exact access_load .vector rt addr cpu

section

variable {x y : Exec σ Unit} {cpu middle after : Cpu σ}

theorem next_of_ok (done : x cpu = .ok () after) :
    (do x; pure .next : Exec σ Flow) cpu = .ok .next after :=
  Operation.bind_of_ok done

/-- An access, then the base register is moved. -/
theorem rebase_of_ok (done : x cpu = .ok () after) (regs : RegisterFile) (rn : RegNum)
    (addressing : Addressing) :
    (do
      x
      Exec.modifyRegisters (writeBack rn (effectiveAddress regs rn addressing).2)
      pure .next : Exec σ Flow) cpu = .ok .next (assignAll (addressing.rebase regs rn) after) := by
  rw [Operation.bind_of_ok done]
  change EStateM.Result.ok Flow.next _ = _
  rw [Addressing.writeBack_eq]
  rfl

theorem rebase_of_both (first : x cpu = .ok () middle) (second : y middle = .ok () after)
    (regs : RegisterFile) (rn : RegNum) (addressing : Addressing) :
    (do
      x
      y
      Exec.modifyRegisters (writeBack rn (effectiveAddress regs rn addressing).2)
      pure .next : Exec σ Flow) cpu = .ok .next (assignAll (addressing.rebase regs rn) after) := by
  rw [Operation.bind_of_ok first]
  exact rebase_of_ok second regs rn addressing

end

theorem execute_store (form : StoreForm) (cntfrq : UInt64) (pc : Address) (cpu : Cpu σ) :
    execute env cntfrq pc (form.instruction w) cpu =
      .ok .next (assignAll (form.rebase cpu.context.registers)
        (storeAll env w (form.values w cpu.context.registers) (form.address cpu.context.registers)
          cpu)) := by
  cases form with
  | single bank rt rn addressing =>
      exact rebase_of_ok (access_store bank rt _ cpu) cpu.context.registers rn addressing
  | pair bank rt rt2 rn addressing =>
      exact rebase_of_both (pairAccess_store bank rt _ cpu) (pairAccess_store bank rt2 _ _)
        cpu.context.registers rn addressing
  | release rt rn => exact next_of_ok (access_store .general rt _ cpu)

theorem execute_load (form : LoadForm) (cntfrq : UInt64) (pc : Address) (cpu : Cpu σ) :
    execute env cntfrq pc (form.instruction w) cpu =
      .ok .next (assignAll (form.rebase cpu.context.registers)
        (loadAll env w form.reading form.targets (form.address pc cpu.context.registers) cpu)) := by
  cases form with
  | single reading rt rn addressing =>
      exact rebase_of_ok (access_load reading rt _ cpu) cpu.context.registers rn addressing
  | literal reading rt offset => exact next_of_ok (access_load reading rt _ cpu)
  | pair bank rt rt2 rn addressing =>
      exact rebase_of_both (pairAccess_load bank rt _ cpu) (pairAccess_load bank rt2 _ _)
        cpu.context.registers rn addressing
  | acquire rt rn => exact next_of_ok (access_load .zeroExtended rt _ cpu)

theorem context_storeAll (values : List (BitVec w.bits)) (addr : Address) (cpu : Cpu σ) :
    (storeAll env w values addr cpu).context = cpu.context := by
  induction values generalizing addr cpu with
  | nil => rfl
  | cons value rest ih => exact ih _ _

variable {memory : σ → AddressSpace}

theorem Environment.BackedBy.storeAll_written (backed : env.BackedBy memory)
    (values : List (BitVec w.bits)) {addr : Address} {cpu : Cpu σ}
    (allowed : (memory cpu.env).Allows PageFlags.w addr.toNat (values.length * w.bytes)) :
    (memory cpu.env).Written (memory (storeAll env w values addr cpu).env) addr.toNat
      (values.flatMap w.toBytes) := by
  induction values generalizing addr cpu with
  | nil => exact .refl _ _
  | cons value rest ih =>
      have extent : (value :: rest).length * w.bytes = w.bytes + rest.length * w.bytes := by
        rw [List.length_cons, Nat.succ_mul, Nat.add_comm]
      rw [extent] at allowed
      have first := allowed.part (Nat.le_refl _) (Nat.add_le_add_left (Nat.le_add_right _ _) _)
      have next := AddressSpace.toNat_add_size first.1
      have written := AddressSpace.Written.of_store first value
      rw [← backed.write w addr value cpu.env] at written
      let middle : Cpu σ := { cpu with env := (env.write w addr value cpu.env).2 }
      have behind : (memory middle.env).Allows PageFlags.w (addr + w.size).toNat
          (rest.length * w.bytes) :=
        written.allows_iff.mpr (allowed.part (by omega) (by omega))
      have others := ih behind
      rw [next, ← w.length_toBytes value] at others
      exact written.append others

theorem Environment.BackedBy.loadAll_eq (backed : env.BackedBy memory) (reading : Reading)
    (targets : List RegNum) (addr : Address) (cpu : Cpu σ) :
    memory (loadAll env w reading targets addr cpu).env = memory cpu.env ∧
      (loadAll env w reading targets addr cpu).context =
        { cpu.context with
          registers := cpu.context.registers.assignAll (List.zipWith reading.assignment targets
            ((memory cpu.env).loads w addr targets.length)) } := by
  induction targets generalizing addr cpu with
  | nil => exact ⟨rfl, rfl⟩
  | cons rt rest ih =>
      have reads := backed.reads w addr cpu.env
      obtain ⟨kept, registers⟩ := ih (addr + w.size)
        { context := { cpu.context with
            registers := cpu.context.registers.assign
              (reading.assignment rt (env.read w addr cpu.env).1) }
          env := (env.read w addr cpu.env).2 }
      refine ⟨kept.trans reads, registers.trans ?_⟩
      simp only [reads, backed.read]
      rfl

end A64

/-- The values are in memory and nothing else has changed there, and among the
    registers none but the base. -/
structure StoreForm.Stored (store : StoreForm) (w : Width) (memory : σ → AddressSpace)
    (before after : Cpu σ) : Prop where
  memory : (memory before.env).Written (memory after.env)
    (store.address before.context.registers).toNat
    ((store.values w before.context.registers).flatMap w.toBytes)
  registers : before.context.Receives after.context (store.rebase before.context.registers)

/-- The values are in the registers. Memory is as before, and so are all registers but
    these and the base. -/
structure LoadForm.Loaded {w : Width} (load : LoadForm) (values : List (BitVec w.bits))
    (memory : σ → AddressSpace) (before after : Cpu σ) : Prop where
  memory : memory after.env = memory before.env
  registers : before.context.Receives after.context
    (load.assignments values before.context.registers)

section

variable {env : Environment σ} {memory : σ → AddressSpace} {w : Width}

theorem A64.Addressing.fits_rebase {regs : RegisterFile} {rn : RegNum} {addressing : Addressing}
    {place : Place} {value : BitVec 128} (member : (some place, value) ∈ addressing.rebase regs rn) :
    place.Fits value := by
  obtain ⟨bytes, _, same⟩ := List.mem_map.mp member
  cases same
  exact Place.fits_of_small _ (Nat.le_refl _) _

theorem A64.Addressing.nodup_rebase (regs : RegisterFile) (rn : RegNum) (addressing : Addressing) :
    ((addressing.rebase regs rn).filterMap (·.1)).Nodup := by
  cases addressing <;> simp [Addressing.rebase, Addressing.step?]

theorem execute_store_stored (backed : env.BackedBy memory) (store : StoreForm) (cntfrq : UInt64)
    (pc : Address) {before : Cpu σ}
    (allowed : (memory before.env).Allows PageFlags.w
      (store.address before.context.registers).toNat
      ((store.values w before.context.registers).length * w.bytes)) :
    ∃ after, execute env cntfrq pc (store.instruction w) before = .ok .next after ∧
      store.Stored w memory before after := by
  refine ⟨_, execute_store store cntfrq pc before, backed.storeAll_written _ allowed, ?_⟩
  rw [assignAll, context_storeAll]
  apply ThreadContext.receives_assignAll
  · cases store with
    | single _ _ rn addressing | pair _ _ _ rn addressing =>
        exact Addressing.nodup_rebase _ rn addressing
    | release => exact .nil
  · intro place value member
    cases store with
    | single _ _ rn addressing | pair _ _ _ rn addressing => exact Addressing.fits_rebase member
    | release => cases member

theorem Reading.filterMap_assignments (reading : Reading) {targets : List RegNum}
    {values : List (BitVec w.bits)} (enough : targets.length ≤ values.length) :
    (List.zipWith reading.assignment targets values).filterMap (·.1) =
      targets.filterMap reading.bank.place? := by
  induction targets generalizing values with
  | nil => rfl
  | cons rt rest ih =>
      cases values with
      | nil => simp at enough
      | cons value values =>
          rw [List.zipWith_cons_cons, List.filterMap_cons, List.filterMap_cons,
            ih (Nat.le_of_succ_le_succ enough)]
          rfl

theorem LoadForm.filterMap_assignments (load : LoadForm) {values : List (BitVec w.bits)}
    (enough : load.targets.length ≤ values.length) (regs : RegisterFile) :
    (load.assignments values regs).filterMap (·.1) = load.places := by
  rw [assignments, List.filterMap_append, load.reading.filterMap_assignments enough, places.eq_def]
  congr 1
  cases load with
  | single _ _ rn addressing | pair _ _ _ rn addressing => cases addressing <;> rfl
  | literal | acquire => rfl

theorem LoadForm.fits_assignments {load : LoadForm} {values : List (BitVec w.bits)}
    {regs : RegisterFile} {place : Place} {value : BitVec 128}
    (member : (some place, value) ∈ load.assignments values regs) : place.Fits value := by
  rcases List.mem_append.mp member with read | moved
  · obtain ⟨i, inside, same⟩ := List.getElem_of_mem read
    rw [List.getElem_zipWith, Reading.assignment, Prod.mk.injEq] at same
    obtain ⟨here, rfl⟩ := same
    exact Reading.fits_extend _ here
  · cases load with
    | single _ _ rn addressing | pair _ _ _ rn addressing => exact Addressing.fits_rebase moved
    | literal | acquire => cases moved

theorem execute_load_loaded (backed : env.BackedBy memory) (load : LoadForm)
    (distinct : load.places.Nodup) (cntfrq : UInt64) (pc : Address) {before : Cpu σ}
    {values : List (BitVec w.bits)} (enough : load.targets.length ≤ values.length)
    (held : (memory before.env).loads w (load.address pc before.context.registers)
      load.targets.length = values.take load.targets.length) :
    ∃ after, execute env cntfrq pc (load.instruction w) before = .ok .next after ∧
      load.Loaded values memory before after := by
  obtain ⟨kept, registers⟩ := backed.loadAll_eq (w := w) load.reading load.targets
    (load.address pc before.context.registers) before
  have truncated : List.zipWith load.reading.assignment load.targets values =
      List.zipWith load.reading.assignment (load.targets.take _) (values.take _) :=
    List.zipWith_eq_zipWith_take_min
  rw [Nat.min_eq_left enough, List.take_length] at truncated
  refine ⟨_, execute_load load cntfrq pc before, kept, ?_⟩
  rw [assignAll, registers, held, ← truncated]
  dsimp only
  rw [← RegisterFile.assignAll_append]
  refine before.context.receives_assignAll ?_ fun place value => LoadForm.fits_assignments
  rw [← LoadForm.assignments, load.filterMap_assignments enough]
  exact distinct

theorem displace_displace_neg (base : Address) (bytes : Int) :
    displace (displace base bytes) (-bytes) = base := by
  rw [displace, displace, UInt64.ofInt_neg, UInt64.add_assoc, UInt64.add_right_neg,
    UInt64.add_zero]

theorem Bank.bank_reading (bank : Bank) : bank.reading.bank = bank := by
  cases bank <;> rfl

/-- What a pair stores and loads again are the low bits of a register. -/
theorem Bank.extend_low {bank : Bank} {n : RegNum} {place : Place}
    (here : bank.place? n = some place) (w : Width) (regs : RegisterFile) :
    bank.reading.extend (bank.low w regs n) = ((regs.get place).setWidth w.bits).setWidth 128 := by
  cases bank with
  | general =>
      rw [regs.get_of_general n here]
      change (((regs.xzr n).toBitVec.setWidth w.bits).setWidth 64).setWidth 128 = _
      generalize (regs.xzr n).toBitVec = x
      have below : x.toNat % 2 ^ w.bits < 2 ^ 64 := Nat.lt_of_le_of_lt (Nat.mod_le _ _) x.isLt
      have whole : x.toNat < 2 ^ 128 := Nat.lt_of_lt_of_le x.isLt (by decide)
      apply BitVec.eq_of_toNat_eq
      simp only [BitVec.toNat_setWidth]
      rw [Nat.mod_eq_of_lt below, Nat.mod_eq_of_lt whole]
  | vector =>
      cases here
      rfl

theorem Bank.restored {bank : Bank} {n : RegNum} {place : Place} {w : Width}
    (here : bank.place? n = some place) (regs : RegisterFile) (whole : bank.bits ≤ w.bits) :
    ((regs.get place).setWidth w.bits).setWidth 128 = regs.get place := by
  have below : (regs.get place).toNat < 2 ^ w.bits :=
    Nat.lt_of_lt_of_le (regs.toNat_get_lt n here) (Nat.pow_le_pow_right (by decide) whole)
  apply BitVec.eq_of_toNat_eq
  rw [BitVec.toNat_setWidth, BitVec.toNat_setWidth, Nat.mod_eq_of_lt below,
    Nat.mod_eq_of_lt (regs.get place).isLt]

/-- In an environment with this memory the values can be loaded from `addr`. -/
def ReadsBack (env : Environment σ) (memory : σ → AddressSpace) (cntfrq : UInt64)
    (space : AddressSpace) (addr : Address) (values : List (BitVec w.bits)) : Prop :=
  ∀ (load : LoadForm) (pc : Address) (before : Cpu σ), memory before.env = space →
    load.address pc before.context.registers = addr → load.targets.length ≤ values.length →
    load.places.Nodup →
    ∃ after, execute env cntfrq pc (load.instruction w) before = .ok .next after ∧
      load.Loaded values memory before after

theorem readsBack_of_written (backed : env.BackedBy memory) (cntfrq : UInt64)
    {space after : AddressSpace} {addr : Address} {values : List (BitVec w.bits)}
    (written : space.Written after addr.toNat (values.flatMap w.toBytes))
    (readable : space.Allows PageFlags.r addr.toNat (values.length * w.bytes)) :
    ReadsBack env memory cntfrq after addr values := by
  intro load pc before same source enough distinct
  apply execute_load_loaded backed load distinct cntfrq pc enough
  rw [same, source]
  exact written.loads readable enough

theorem execute_store_readsBack (backed : env.BackedBy memory) (cntfrq : UInt64)
    (store : StoreForm) (pc : Address) {before : Cpu σ}
    (allowed : (memory before.env).Allows PageFlags.rw
      (store.address before.context.registers).toNat
      ((store.values w before.context.registers).length * w.bytes)) :
    ∃ between, execute env cntfrq pc (store.instruction w) before = .ok .next between ∧
      store.Stored w memory before between ∧
      ReadsBack env memory cntfrq (memory between.env) (store.address before.context.registers)
        (store.values w before.context.registers) := by
  obtain ⟨between, executes, stored⟩ := execute_store_stored backed store cntfrq pc
    (allowed.weaken PageFlags.contains_w_of_rw)
  exact ⟨between, executes, stored, readsBack_of_written backed cntfrq stored.memory
    (allowed.weaken PageFlags.contains_r_of_rw)⟩

/-- `after` has the base and, of two registers of the bank, the low bits that `before`
    had. -/
structure Restores (bank : Bank) (w : Width) (rt rt2 rn : RegNum) (before after : RegisterFile) :
    Prop where
  base : after.xsp rn = before.xsp rn
  low : ∀ n ∈ [rt, rt2], ∀ place, bank.place? n = some place →
    after.get place = ((before.get place).setWidth w.bits).setWidth 128
  whole : bank.bits ≤ w.bits → ∀ n ∈ [rt, rt2], ∀ place, bank.place? n = some place →
    after.get place = before.get place

theorem pop_of_push (backed : env.BackedBy memory) (cntfrq : UInt64) {bank : Bank}
    {rt rt2 rn : RegNum} {bytes : Int} (pc : Address) {before : Cpu σ}
    (distinct : (LoadForm.pair bank rt rt2 rn (.postIndex (-bytes))).places.Nodup)
    (allowed : (memory before.env).Allows PageFlags.rw
      (displace (before.context.registers.xsp rn) bytes).toNat (2 * w.bytes)) :
    ∃ between, execute env cntfrq pc
        (.loadStorePair false bank.isVector w rt rt2 rn (.preIndex bytes)) before =
          .ok .next between ∧
      ∀ (pc' : Address) (reader : Cpu σ), memory reader.env = memory between.env →
        reader.context.registers.xsp rn = between.context.registers.xsp rn →
        ∃ after, execute env cntfrq pc'
            (.loadStorePair true bank.isVector w rt rt2 rn (.postIndex (-bytes))) reader =
              .ok .next after ∧
          Restores bank w rt rt2 rn before.context.registers after.context.registers := by
  obtain ⟨between, pushes, stored, readsBack⟩ :=
    execute_store_readsBack backed cntfrq (.pair bank rt rt2 rn (.preIndex bytes)) pc allowed
  have moved : between.context.registers.xsp rn =
      displace (before.context.registers.xsp rn) bytes :=
    RegisterFile.xsp_of_get (stored.registers.holds _ _ (.head _))
  refine ⟨between, pushes, fun pc' reader same base => ?_⟩
  rw [moved] at base
  obtain ⟨after, pops, loaded⟩ := readsBack (.pair bank rt rt2 rn (.postIndex (-bytes))) pc' reader
    same base (Nat.le_refl _) distinct
  have low (n : RegNum) (member : n ∈ [rt, rt2]) (place : Place)
      (here : bank.place? n = some place) : after.context.registers.get place =
        ((before.context.registers.get place).setWidth w.bits).setWidth 128 := by
    have assigned : (some place, bank.reading.extend (bank.low w before.context.registers n)) =
        bank.reading.assignment n (bank.low w before.context.registers n) := by
      rw [← here, Reading.assignment, bank.bank_reading]
    rw [← Bank.extend_low here]
    apply loaded.registers.holds
    rw [assigned]
    cases member with
    | head => exact .head _
    | tail _ member =>
        cases List.mem_singleton.mp member
        exact .tail _ (.head _)
  refine ⟨after, pops, ?_, low, fun whole n member place here => ?_⟩
  · have back := loaded.registers.holds (basePlace rn) _ (List.mem_append_right _ (.head _))
    rw [RegisterFile.xsp_of_get back, base]
    exact displace_displace_neg _ bytes
  · rw [low n member place here]
    exact Bank.restored here _ whole

end

/-- Loads from where something was stored give the low bits of the registers that were
    stored. In particular a pair that was pushed can be popped. -/
theorem load_after_store {memory : σ → AddressSpace} {env : Environment σ}
    (backed : env.BackedBy memory) (cntfrq : UInt64) (w : Width) :
    (∀ (store : StoreForm) (pc : Address) (before : Cpu σ),
      let addr := store.address before.context.registers
      let values := store.values w before.context.registers
      (memory before.env).Allows PageFlags.rw addr.toNat (values.length * w.bytes) →
      ∃ between, execute env cntfrq pc (store.instruction w) before = .ok .next between ∧
        store.Stored w memory before between ∧
        ReadsBack env memory cntfrq (memory between.env) addr values) ∧
    (∀ (bank : Bank) (rt rt2 rn : RegNum) (bytes : Int) (pc : Address) (before : Cpu σ),
      (LoadForm.pair bank rt rt2 rn (.postIndex (-bytes))).places.Nodup →
      (memory before.env).Allows PageFlags.rw
        (displace (before.context.registers.xsp rn) bytes).toNat (2 * w.bytes) →
      ∃ between, execute env cntfrq pc
          (.loadStorePair false bank.isVector w rt rt2 rn (.preIndex bytes)) before =
            .ok .next between ∧
        ∀ (pc' : Address) (reader : Cpu σ), memory reader.env = memory between.env →
          reader.context.registers.xsp rn = between.context.registers.xsp rn →
          ∃ after, execute env cntfrq pc'
              (.loadStorePair true bank.isVector w rt rt2 rn (.postIndex (-bytes))) reader =
                .ok .next after ∧
            Restores bank w rt rt2 rn before.context.registers after.context.registers) :=
  ⟨fun store pc _ => execute_store_readsBack backed cntfrq store pc,
    fun _ _ _ _ _ pc _ => pop_of_push backed cntfrq pc⟩

/-- Frame pointer and link register at work, eight bytes above the page of code. -/
def framed : Cpu (Machine Unit) where
  context :=
    { registers := ((({} : RegisterFile).setXsp 31 0x11008).setXzr 29 0x1111).setXzr 30 0x2222 }
  env := edgeOfCode

/-- They are pushed to the last bytes of one page and the first ones of the next, and
    popped again. -/
theorem load_after_store_framed :
    ∃ between after,
      execute (edgeOfCodeCore.environment idleSystem) 0 0x8000000
          (.loadStorePair false false .double 29 30 31 (.preIndex (-16))) framed =
        .ok .next between ∧
      execute (edgeOfCodeCore.environment idleSystem) 0 0x8000004
          (.loadStorePair true false .double 29 30 31 (.postIndex 16)) between =
        .ok .next after ∧
      Restores .general .double 29 30 31 framed.context.registers after.context.registers := by
  have page : pageSize = 4096 := rfl
  have allowed : framed.env.board.memory.Allows PageFlags.rw
      (displace (framed.context.registers.xsp 31) (-16)).toNat (2 * Width.double.bytes) := by
    have addr : (displace (framed.context.registers.xsp 31) (-16)).toNat = 0x10ff8 := by decide
    have length : 2 * Width.double.bytes = 16 := rfl
    rw [addr, length]
    refine ⟨by decide, fun i lower upper => ?_⟩
    rw [page]
    obtain here | behind : i / 4096 = 0x10 ∨ i / 4096 = 0x11 := by omega
    · rw [here]
      exact ⟨PageFlags.rw, by decide +kernel, by decide⟩
    · rw [behind]
      exact ⟨PageFlags.rwx, by decide +kernel, by decide⟩
  obtain ⟨between, pushes, pop⟩ := (load_after_store (backedBy_core idleSystem edgeOfCodeCore) 0
    .double).2 .general 29 30 31 (-16) 0x8000000 framed (by decide) allowed
  obtain ⟨after, pops, restores⟩ := pop 0x8000004 between rfl rfl
  exact ⟨between, after, pushes, pops, restores⟩

end GuestMachine
