import GuestMachine.Proofs.Board.CoreReservations
import GuestMachine.Proofs.Board.Publication
import GuestMachine.Proofs.Kernel.Refusals
import GuestMachine.Proofs.Memory.Blocks

/-! # Writes on the guest's behalf

The operating system may write a block of any length in one go. Reservations on
the block are looked for byte by byte. Whether it is code is decided by its
first and last byte, which is enough for a block on two pages but not for a
longer one.
-/

namespace GuestMachine

open Layout

/-- No byte of a block inside the address space goes unnoticed. -/
theorem Reservation.overlaps_of_sharesByte {r : Reservation} {addr size : UInt64}
    (inside : addr.toNat + size.toNat ≤ addressSpaceSize)
    (shared : SharesByte r.addr.toNat r.size.toNat addr.toNat size.toNat) :
    r.overlaps addr size := by
  have top : addressSpaceSize < 2 ^ 64 - 1 := by decide
  obtain ⟨i, _, _⟩ := id shared
  have extent : (saturatingAdd addr size).toNat = addr.toNat + size.toNat := by
    rw [toNat_saturatingAdd]
    omega
  obtain ⟨before, behind⟩ :=
    (sharesByte_iff_lt (by omega) (by omega) extent (by omega)).mpr shared
  simp [overlaps, before, behind]

namespace Board

variable {board : Board}

theorem reservation?_storeThrough (counted : board.Counted) (handle : Option MonitorHandle)
    (writer : Option CoreIndex) (addr : Address) (size : UInt64)
    (store : AddressSpace → Bool × AddressSpace) (core : CoreIndex) (r : Reservation) :
    (board.storeThrough handle
        (fun monitor => monitor.storeAndBreak board.memory writer addr size store)
        (store board.memory)).2.reservation? core handle = some r ↔
      board.reservation? core handle = some r ∧
        ((store board.memory).1 → r.overlaps addr size → writer = some core) := by
  cases live : handle.bind board.manager.monitorOf? with
  | none =>
      have after : (board.storeThrough handle
          (fun monitor => monitor.storeAndBreak board.memory writer addr size store)
          (store board.memory)).2.reservation? core handle = none := by
        simp only [storeThrough, live]
        exact reservation?_of_unwired live
      rw [after, reservation?_of_unwired live]
      simp
  | some monitor =>
      obtain ⟨left, outcome, _, _, kept⟩ :=
        monitor.storeAndBreak_spec (counted_of_live counted live) board.memory writer addr size store
      have before : board.reservation? core handle = monitor.reservation? core := by
        rw [reservation?, live, Option.bind_some]
      have after : (board.storeThrough handle
          (fun monitor => monitor.storeAndBreak board.memory writer addr size store)
          (store board.memory)).2.reservation? core handle = left.reservation? core := by
        simp only [storeThrough, live, outcome]
        exact reservation?_of_set live rfl rfl
      rw [after, before]
      exact kept core r

end Board

/-- The first or the last byte of the block is code. -/
def AddressSpace.BordersCode (memory : AddressSpace) (addr : Address) (data : List UInt8) : Prop :=
  data ≠ [] ∧ (memory.HoldsCode addr.toNat ∨ memory.HoldsCode (addr.toNat + data.length - 1))

/-- Memory holds the block and nobody has reserved a byte of it. It is in every
    queue if it begins or ends in code. -/
structure Board.HoldsBlock (before after : Board) (handle : Option MonitorHandle) (addr : Address)
    (data : List UInt8) : Prop where
  memory : before.memory.Written after.memory addr.toNat data
  reservation : ∀ core r, after.reservation? core handle = some r →
    ¬ SharesByte r.addr.toNat r.size.toNat addr.toNat data.length
  published : before.memory.BordersCode addr data →
    before.Published after [(addr, UInt64.ofNat data.length)]
  unpublished : ¬ before.memory.BordersCode addr data → before.Published after []

theorem AddressSpace.bordersCode_iff {memory : AddressSpace} {addr : Address} {data : List UInt8}
    (inside : addr.toNat + data.length ≤ addressSpaceSize) :
    memory.BordersCode addr data ↔
      !data.isEmpty && (memory.isExecutable addr ||
        memory.isExecutable (saturatingAdd addr (UInt64.ofNat data.length - 1))) := by
  have top : addressSpaceSize < 2 ^ 64 - 1 := by decide
  by_cases empty : data = []
  · simp [BordersCode, empty]
  · have positive : 0 < data.length := List.length_pos_iff.mpr empty
    have size : (UInt64.ofNat data.length - 1).toNat = data.length - 1 := by
      rw [UInt64.toNat_sub, UInt64.toNat_ofNat', UInt64.toNat_one]
      omega
    have last : (saturatingAdd addr (UInt64.ofNat data.length - 1)).toNat =
        addr.toNat + data.length - 1 := by
      rw [toNat_saturatingAdd, size]
      omega
    have nonempty : (!data.isEmpty) = true := by simpa using empty
    rw [BordersCode, nonempty, Bool.true_and, Bool.or_eq_true, isExecutable_iff, isExecutable_iff,
      last]
    exact and_iff_right empty

theorem Board.externalStore_holdsBlock {board : Board} (counted : board.Counted)
    (handle : Option MonitorHandle) {addr : Address} {data : List UInt8}
    (allowed : board.memory.Allows PageFlags.w addr.toNat data.length) :
    ∃ after, board.externalStore handle addr data = (true, after) ∧
      board.HoldsBlock after handle addr data := by
  obtain ⟨_, memory, wrote, written⟩ | ⟨refused, _⟩ := board.memory.writeBlock_cases addr data
  case inr => exact absurd allowed refused
  have size : (UInt64.ofNat data.length).toNat = data.length := by
    have top : addressSpaceSize < 2 ^ 64 - 1 := by decide
    have inside := allowed.1
    rw [UInt64.toNat_ofNat']
    omega
  have broken := reservation?_storeThrough counted handle none addr (UInt64.ofNat data.length)
    fun memory => memory.writeBlock addr data
  obtain ⟨between, through, stored, bus⟩ := board.storeThrough_storeAndBreak handle none addr
    (UInt64.ofNat data.length) fun memory => memory.writeBlock addr data
  simp only [wrote] at through stored
  have kept : board.Published between [] := by
    apply Published.of_bus_eq _ bus
    intro page
    rw [stored, written.flags]
  simp only [through, wrote] at broken
  have free : ∀ core r, between.reservation? core handle = some r →
      ¬ SharesByte r.addr.toNat r.size.toNat addr.toNat data.length := by
    intro core r held shared
    rw [← size] at shared
    have lost := Reservation.overlaps_of_sharesByte (size.symm ▸ allowed.1) shared
    exact absurd (((broken core r).mp held).2 trivial lost) (by simp)
  have told : board.memory.BordersCode addr data ↔ _ := AddressSpace.bordersCode_iff allowed.1
  simp only [externalStore, ExclusiveMonitor.externalStore, through, wrote, Bool.true_and]
  simp only [kept.isExecutable_eq]
  by_cases borders : board.memory.BordersCode addr data
  · rw [if_pos (told.mp borders)]
    refine ⟨_, rfl, ?_, free, ?_, ?_⟩
    · change board.memory.Written between.memory addr.toNat data
      rw [stored]
      exact written
    · exact fun _ => kept.trans (published_publish between addr _)
    · exact fun other => absurd borders other
  · rw [if_neg fun executable => borders (told.mpr executable)]
    refine ⟨_, rfl, ?_, free, ?_, ?_⟩
    · rw [stored]
      exact written
    · exact fun other => absurd other borders
    · exact fun _ => kept

/-- Of a block that borders on code every core is told. Of any other block with
    code in it a core only knows what it had been told before. -/
theorem Board.HoldsBlock.tells_iff {before after : Board} {handle : Option MonitorHandle}
    {addr : Address} {data : List UInt8} (holds : before.HoldsBlock after handle addr data) :
    let block := (addr, UInt64.ofNat data.length)
    after.Informed [block] ↔
      (ChangesCode before.memory block → before.memory.BordersCode addr data ∨
        ∀ core queued, before.manager.bus.waiting? core = some queued →
          ∃ range ∈ queued, CoversCode before.memory range block) := by
  dsimp only
  by_cases borders : before.memory.BordersCode addr data
  · rw [(holds.published borders).tells_iff]
    simp [borders, CoversCode.refl]
  · rw [(holds.unpublished borders).tells_iff]
    simp [borders]

/-- A block no longer than a page has its code on the page where it begins or on
    the one where it ends. -/
theorem AddressSpace.bordersCode_of_short {memory : AddressSpace} {addr : Address}
    {data : List UInt8} (short : data.length ≤ pageSize)
    (changes : ChangesCode memory (addr, UInt64.ofNat data.length)) :
    memory.BordersCode addr data := by
  have size : (UInt64.ofNat data.length).toNat = data.length :=
    UInt64.toNat_ofNat_of_lt' (Nat.lt_of_le_of_lt short (by decide))
  obtain ⟨i, inside, flags, found, execute⟩ := changes
  dsimp only at inside
  rw [size] at inside
  have nonempty : data ≠ [] := List.length_pos_iff.mp (by omega)
  have pages : i / pageSize = addr.toNat / pageSize ∨
      i / pageSize = (addr.toNat + data.length - 1) / pageSize := by
    have page : pageSize = 4096 := rfl
    rw [page] at short ⊢
    omega
  refine ⟨nonempty, pages.imp (fun same => ?_) fun same => ?_⟩
  · exact ⟨flags, same ▸ found, execute⟩
  · exact ⟨flags, same ▸ found, execute⟩

namespace Machine

variable {machine : Machine Kernel}

theorem writeGuest_holdsBlock (counted : machine.board.Counted) {addr : Address}
    {data : List UInt8}
    (allowed : machine.board.memory.Allows PageFlags.w addr.toNat data.length) :
    ∃ board, machine.writeGuest addr data = (true, { machine with board }) ∧
      machine.board.HoldsBlock board machine.os.monitor addr data := by
  obtain ⟨board, wrote, holds⟩ :=
    Board.externalStore_holdsBlock counted machine.os.monitor allowed
  exact ⟨board, by simp only [writeGuest, onBoard, wrote], holds⟩

theorem writeGuest_of_not_allows {addr : Address} {data : List UInt8}
    (refused : ¬ machine.board.memory.Allows PageFlags.w addr.toNat data.length) :
    machine.writeGuest addr data = (false, machine) := by
  have failed : (machine.writeGuest addr data).1 = false := by
    change (machine.board.externalStore machine.os.monitor addr data).1 = false
    rw [Board.externalStore_stored, ← Bool.not_eq_true, AddressSpace.writeBlock_stored_iff]
    exact refused
  exact Prod.ext failed (writeGuest_refused (Prod.ext failed rfl))

/-- Of a block no longer than a page every core is told. -/
theorem writeGuest_informs_of_short (counted : machine.board.Counted) {addr : Address}
    {data : List UInt8} (short : data.length ≤ pageSize)
    (allowed : machine.board.memory.Allows PageFlags.w addr.toNat data.length) :
    (machine.writeGuest addr data).2.board.Informed [(addr, UInt64.ofNat data.length)] := by
  obtain ⟨board, wrote, holds⟩ := writeGuest_holdsBlock counted allowed
  rw [wrote]
  exact holds.tells_iff.mpr fun changes => .inl (AddressSpace.bordersCode_of_short short changes)

/-- The operating system writes a block exactly where all of it may be written,
    and otherwise does nothing. No core still has a byte of a block that was
    written reserved. Every core knows of all code in it exactly if the block
    begins or ends in code, or if there is no code in it that the core had not been
    told of before. -/
theorem writeGuest_spec (counted : machine.board.Counted) (addr : Address) (data : List UInt8) :
    let (stored, after) := machine.writeGuest addr data
    let memory := machine.board.memory
    let block := (addr, UInt64.ofNat data.length)
    (stored ↔ memory.Allows PageFlags.w addr.toNat data.length) ∧
    (stored →
      memory.Written after.board.memory addr.toNat data ∧
      (∀ core r, after.board.reservation? core machine.os.monitor = some r →
        ¬ SharesByte r.addr.toNat r.size.toNat addr.toNat data.length) ∧
      (after.board.Informed [block] ↔
        (ChangesCode memory block → memory.BordersCode addr data ∨
          ∀ core queued, machine.board.manager.bus.waiting? core = some queued →
            ∃ range ∈ queued, CoversCode memory range block))) ∧
    (¬ stored → after = machine) := by
  by_cases allowed : machine.board.memory.Allows PageFlags.w addr.toNat data.length
  · obtain ⟨board, wrote, holds⟩ := writeGuest_holdsBlock counted allowed
    rw [wrote]
    refine ⟨by simp [allowed], fun _ => ?_, fun refused => absurd rfl refused⟩
    exact ⟨holds.memory, holds.reservation, holds.tells_iff⟩
  · rw [writeGuest_of_not_allows allowed]
    exact ⟨by simp [allowed], fun stored => absurd stored Bool.false_ne_true, fun _ => rfl⟩

end Machine

/-- All three pages may be written. Core 0 has reserved the first bytes of code. -/
def codeBetweenData : Machine Kernel where
  board :=
    { memory :=
        { pages := ((Std.TreeMap.empty.insert 0x10 (Page.zeroed PageFlags.rw)).insert 0x11
            (Page.zeroed PageFlags.rwx)).insert 0x12 (Page.zeroed PageFlags.rw)
          everMapped := true }
      manager :=
        { bus := ({} : InvalidationBus).register 0
          monitor := some (0, (ExclusiveMonitor.ofCores 1).reserve 0 ⟨0x11000, 4, 0⟩)
          created := 1 } }
  os := Kernel.create 1 false (some { manager := 0, serial := 0 })

theorem counted_codeBetweenData : codeBetweenData.board.Counted := by
  intro live found
  cases found
  exact ExclusiveMonitor.counted_reserve (ExclusiveMonitor.counted_ofCores 1) 0 _

theorem codeBetweenData_allows {addr len : Nat} (front : 0x10000 ≤ addr)
    (back : addr + len ≤ 0x13000) :
    codeBetweenData.board.memory.Allows PageFlags.w addr len := by
  have page : pageSize = 4096 := rfl
  refine ⟨Nat.le_trans back (by decide), fun i lower upper => ?_⟩
  rw [page]
  obtain first | middle | last : i / 4096 = 0x10 ∨ i / 4096 = 0x11 ∨ i / 4096 = 0x12 := by omega
  · rw [first]
    exact ⟨PageFlags.rw, by decide +kernel, by decide⟩
  · rw [middle]
    exact ⟨PageFlags.rwx, by decide +kernel, by decide⟩
  · rw [last]
    exact ⟨PageFlags.rw, by decide +kernel, by decide⟩

/-- Eight bytes that end in code are told of, and core 0 loses its reservation. -/
theorem writeGuest_to_edge :
    codeBetweenData.board.Counted ∧
      let (stored, after) := codeBetweenData.writeGuest 0x10ffc (List.replicate 8 0)
      stored ∧ after.board.Informed [(0x10ffc, 8)] ∧
        ∀ r, after.board.reservation? 0 codeBetweenData.os.monitor = some r →
          ¬ SharesByte r.addr.toNat r.size.toNat 0x10ffc 8 := by
  refine ⟨counted_codeBetweenData, ?_⟩
  have spec := Machine.writeGuest_spec counted_codeBetweenData 0x10ffc (List.replicate 8 0)
  dsimp only at spec ⊢
  obtain ⟨stored, holds, _⟩ := spec
  have stored := stored.mpr (codeBetweenData_allows (by decide) (by decide))
  obtain ⟨_, free, informed⟩ := holds stored
  refine ⟨stored, informed.mpr fun _ => .inl ⟨by decide, .inr ?_⟩, free 0⟩
  exact ⟨PageFlags.rwx, by decide +kernel, rfl⟩

/-- A block that begins and ends in data has the whole page of code overwritten, and
    the core does not hear of it. -/
theorem not_informed_of_writeGuest_over_code :
    ∃ after, codeBetweenData.writeGuest 0x10fff (List.replicate 0x1002 0) = (true, after) ∧
      ¬ after.board.Informed [(0x10fff, 0x1002)] := by
  have length : (List.replicate 0x1002 (0 : UInt8)).length = 0x1002 := List.length_replicate
  have allowed : codeBetweenData.board.memory.Allows PageFlags.w (0x10fff : Address).toNat
      (List.replicate 0x1002 (0 : UInt8)).length := by
    rw [length]
    exact codeBetweenData_allows (by decide) (by decide)
  obtain ⟨board, wrote, holds⟩ := Machine.writeGuest_holdsBlock counted_codeBetweenData allowed
  have known := holds.tells_iff
  simp only [AddressSpace.BordersCode, length] at known
  have data : ∀ i, i = 0x10fff ∨ i = 0x12000 → ¬ codeBetweenData.board.memory.HoldsCode i := by
    intro i edge holds
    obtain ⟨flags, found, execute⟩ := holds
    have here : codeBetweenData.board.memory.flags? (i / pageSize) = some PageFlags.rw := by
      obtain rfl | rfl := edge
      · decide +kernel
      · decide +kernel
    cases here.symm.trans found
    cases execute
  refine ⟨_, wrote, fun informed => ?_⟩
  have code : ChangesCode codeBetweenData.board.memory (0x10fff, 0x1002) :=
    ⟨0x11000, by decide, PageFlags.rwx, by decide +kernel, rfl⟩
  obtain ⟨_, first | last⟩ | before := known.mp informed code
  · exact data _ (.inl rfl) first
  · exact data _ (.inr rfl) last
  · obtain ⟨range, member, _⟩ := before 0 [] (by decide +kernel)
    cases member

end GuestMachine
