import GuestMachine.Proofs.Board.Broadcasts
import GuestMachine.Proofs.Loader.Installation

/-! # A loaded module

A module that is sound and not too large can be loaded into the code region of a
new process. Then the region holds the module and zeros, its pages have the
permissions of the parts they belong to, every core is told to drop what it has
translated there, and nothing else has changed.
-/

namespace GuestMachine

open Layout

/-- The code region of the process has just been mapped. -/
structure Handoff.Reserved (handoff : Handoff) (process : GuestProcess) : Prop where
  current : handoff.loader.process.bind handoff.machine.os.processes.find? = some process
  codeBase : process.codeBase = Layout.codeBase
  whole : process.codeSize.toNat % pageSize = 0
  inside : process.codeSize ≤ Layout.codeSize
  flags : ∀ o < process.codeSize.toNat,
    handoff.machine.board.memory.flags? ((Layout.codeBase.toNat + o) / pageSize) = some PageFlags.rw
  bytes : ∀ o < process.codeSize.toNat,
    handoff.machine.board.memory.byte? (Layout.codeBase.toNat + o) = some 0

theorem Handoff.codeExtent?_eq_some {codeSize size : UInt64}
    (extent : codeExtent? codeSize = some size) :
    size.toNat % pageSize = 0 ∧ 0 < size.toNat ∧ size ≤ Layout.codeSize := by
  obtain ⟨rounded, fits⟩ := Option.filter_eq_some_iff.mp extent
  simp only [Bool.and_eq_true, decide_eq_true_eq, UInt64.lt_iff_toNat_lt] at fits
  refine ⟨?_, fits.1, fits.2⟩
  rw [pageAlignUp?] at rounded
  split at rounded
  · rename_i small
    cases rounded
    rw [UInt64.toNat_ofNat_of_lt' (Nat.lt_of_le_of_lt (Nat.div_mul_le_self _ _) small)]
    exact Nat.mul_mod_left _ _
  · cases rounded

theorem Handoff.reserved_of_createApplication {codeSize : UInt64} {metadata : ProgramMetadata}
    {before created : Handoff} {base : Address} {pid : ProcessId}
    (room : before.machine.os.processes.slots.size < 2 ^ 64)
    (creates : createApplication codeSize metadata before = .ok (base, pid) created) :
    base = Layout.codeBase ∧ created.loader.cores = before.loader.cores ∧
      created.machine.board.manager.bus = before.machine.board.manager.bus ∧
      ∃ process, created.machine.os.processes.find? pid = some process ∧
        created.Reserved process := by
  obtain ⟨e, refused⟩ | ⟨size, memory, number, kernel, _, extent, maps, made, accepted⟩ :=
    createApplication_cases codeSize metadata before
  · cases refused.symm.trans creates
  cases accepted.symm.trans creates
  obtain ⟨whole, positive, inside⟩ := codeExtent?_eq_some extent
  have found : kernel.processes.find? pid =
      some (.ofParams pid (processParams before.machine.os metadata size)) := by
    rw [Kernel.createApplication] at made
    split at made
    · cases made
    · cases made
      change (before.machine.os.processes.insert _).find? _ = _
      rw [ObjectTable.find?_insert room, if_pos rfl]
  have top : Layout.codeBase.toNat + Layout.codeSize.toNat ≤ addressSpaceSize := by decide
  have small := UInt64.le_iff_toNat_le.mp inside
  obtain ⟨span, request, filled⟩ := AddressSpace.Filled.of_map maps
  have aligned : Layout.codeBase.toNat % pageSize = 0 := by decide
  obtain ⟨span', request', contains⟩ :=
    PageSpan.ofRequest_of_whole aligned whole positive (by omega)
  cases request.symm.trans request'
  have covers (o : Nat) (below : o < size.toNat) :
      span.Contains ((Layout.codeBase.toNat + o) / pageSize) :=
    (contains _).mpr ⟨by omega, by omega⟩
  refine ⟨rfl, rfl, rfl, _, found, found, rfl, whole, inside, fun o below => ?_, fun o below => ?_⟩
  · exact (filled.flags _).trans (if_pos (covers o below))
  · exact (filled.bytes _).trans (if_pos (covers o below))

/-- The module lies in memory at `base`, where a region of `size` bytes belongs to it,
    and `before` and `after` differ in nothing else. -/
structure ModuleImage.Occupies (image : ModuleImage) (base size : Nat)
    (before after : AddressSpace) : Prop where
  held : ∀ kind o, (image.segment kind).Holds o → o < size ∧
    after.byte? (base + o) = (image.segment kind).bytes[o - (image.segment kind).offset.toNat]?
  zeros : ∀ o < size, (∀ kind, ¬ (image.segment kind).Holds o) → after.byte? (base + o) = some 0
  text : ∀ o, image.text.OnPage (o / pageSize) →
    after.flags? ((base + o) / pageSize) = some PageFlags.rx
  rodata : ∀ o, image.rodata.OnPage (o / pageSize) →
    after.flags? ((base + o) / pageSize) = some PageFlags.r
  others : ∀ o < size, ¬ image.text.OnPage (o / pageSize) → ¬ image.rodata.OnPage (o / pageSize) →
    after.flags? ((base + o) / pageSize) = some PageFlags.rw
  outside : ∀ i, i < base ∨ base + size ≤ i → after.byte? i = before.byte? i ∧
    after.flags? (i / pageSize) = before.flags? (i / pageSize)

theorem ModuleImage.Sound.lt_of_inRegion {image : ModuleImage} (sound : image.Sound)
    {size : UInt64} (fits : image.imageSize ≤ size) {kind : SegmentKind} {o : Nat}
    (here : image.InRegion kind o) : o < size.toNat :=
  Nat.lt_of_lt_of_le here.upper
    ((sound.roundedUp_le_imageSize kind).trans (UInt64.le_iff_toNat_le.mp fits))

namespace AddressSpace

variable {before after : AddressSpace} {image : ModuleImage} {base : Nat}

/-- Zeros stay, or more zeros are copied over them. -/
theorem Copied.byte_of_free {o : Nat} (copied : before.Copied after base image.parts)
    (free : ∀ kind, ¬ (image.segment kind).Holds o) (zero : before.byte? (base + o) = some 0) :
    after.byte? (base + o) = some 0 := by
  by_cases bss : image.bss.Holds o
  · rw [copied.held (.data, image.bss) (by simp [ModuleImage.parts]) o bss]
    obtain ⟨lower, upper⟩ := bss
    apply List.getElem?_replicate_of_lt
    simp only [ModuleImage.bss, List.length_replicate] at lower upper ⊢
    omega
  · rw [copied.other, zero]
    intro part member o' held same
    cases Nat.add_left_cancel same
    rcases List.mem_append.mp member with loaded | zeros
    · rw [ModuleImage.mem_segments_iff] at loaded
      exact free part.1 (loaded ▸ held)
    · cases List.mem_singleton.mp zeros
      exact bss held

theorem Protected.flags_of_inRegion {kind : SegmentKind} {o : Nat}
    (guarded : before.Protected after base image.regions) (here : image.InRegion kind o) :
    after.flags? ((base + o) / pageSize) = some kind.flags := by
  have member : ModuleRegion.mk kind (image.start kind)
      (ModuleImage.roundedUp (image.finish kind)) ∈ image.regions :=
    ModuleImage.mem_regions_iff.mpr (by simpa only [and_true] using here.nonempty)
  have flags := guarded.held _ member o
  dsimp only at flags
  exact flags here.lower here.upper

/-- What no region reaches keeps its permissions. -/
theorem Protected.flags_of_not_inRegion {i : Nat}
    (guarded : before.Protected after base image.regions)
    (away : ∀ kind o, image.InRegion kind o → i ≠ base + o) :
    after.flags? (i / pageSize) = before.flags? (i / pageSize) := by
  apply guarded.other
  rintro region member ⟨lower, upper⟩
  obtain ⟨nonempty, start, finish⟩ := ModuleImage.mem_regions_iff.mp member
  rw [start] at lower
  rw [finish] at upper
  exact away region.kind (i - base) ⟨nonempty, by omega, by omega⟩ (by omega)

end AddressSpace

namespace Handoff

open HandoffM AddressSpace

variable {handoff : Handoff} {process : GuestProcess} {image : ModuleImage}

theorem Reserved.within (reserved : handoff.Reserved process) :
    Layout.codeBase.toNat + process.codeSize.toNat ≤ addressSpaceSize := by
  have top : Layout.codeBase.toNat + Layout.codeSize.toNat ≤ addressSpaceSize := by decide
  have small := UInt64.le_iff_toNat_le.mp reserved.inside
  omega

theorem Reserved.admits (reserved : handoff.Reserved process) (sound : image.Sound)
    (fits : image.imageSize ≤ process.codeSize) {part : SegmentKind × Segment}
    (member : part ∈ image.parts) :
    handoff.machine.board.memory.Admits Layout.codeBase part := by
  intro nonempty
  have length := List.length_pos_iff.mpr nonempty
  have within := reserved.within
  have top : addressSpaceSize = 2 ^ 39 := rfl
  have below (o : Nat) (held : part.2.Holds o) : o < process.codeSize.toNat :=
    sound.lt_of_inRegion fits (sound.part_inRegion member held)
  have first := below part.2.offset.toNat ⟨Nat.le_refl _, by omega⟩
  have last := below (part.2.offset.toNat + part.2.bytes.length - 1) ⟨by omega, by omega⟩
  refine ⟨?_, by omega, fun i lower upper => ?_⟩
  · rw [UInt64.toNat_add]
    omega
  · obtain ⟨o, rfl⟩ := Nat.exists_eq_add_of_le
      (Nat.le_trans (Nat.le_add_right Layout.codeBase.toNat _) lower)
    exact ⟨PageFlags.rw, reserved.flags o (below o ⟨by omega, by omega⟩), rfl⟩

theorem Reserved.spans (reserved : handoff.Reserved process) (sound : image.Sound)
    (fits : image.imageSize ≤ process.codeSize) {memory : AddressSpace}
    (same : ∀ page, memory.flags? page = handoff.machine.board.memory.flags? page)
    {region : ModuleRegion} (member : region ∈ image.regions) :
    memory.Spans Layout.codeBase region := by
  obtain ⟨nonempty, start, finish⟩ := ModuleImage.mem_regions_iff.mp member
  have within := reserved.within
  have rounded := ModuleImage.toNat_roundedUp (sound.fits region.kind)
  have least : region.finish.toNat ≤ process.codeSize.toNat := by
    rw [finish]
    exact (sound.roundedUp_le_imageSize _).trans (UInt64.le_iff_toNat_le.mp fits)
  constructor
  · rw [start]
    exact sound.aligned region.kind
  · rw [finish, rounded]
    exact Nat.mul_mod_left _ _
  · rw [UInt64.lt_iff_toNat_lt] at nonempty ⊢
    rw [start, finish, rounded]
    have page : pageSize = 4096 := rfl
    rw [page]
    omega
  · omega
  · intro i lower upper
    obtain ⟨o, rfl⟩ := Nat.exists_eq_add_of_le lower
    rw [same, reserved.flags o (by omega)]
    rfl

/-- Copied and protected, the module is where it should be. -/
theorem Reserved.occupies (reserved : handoff.Reserved process) (sound : image.Sound)
    (fits : image.imageSize ≤ process.codeSize) {between after : AddressSpace}
    (copied : handoff.machine.board.memory.Copied between Layout.codeBase.toNat image.parts)
    (guarded : between.Protected after Layout.codeBase.toNat image.regions) :
    image.Occupies Layout.codeBase.toNat process.codeSize.toNat handoff.machine.board.memory
      after := by
  have text (o : Nat) : image.text.OnPage (o / pageSize) ↔ image.InRegion .text o :=
    sound.onPage_iff (show SegmentKind.text ≠ .data by decide)
  have rodata (o : Nat) : image.rodata.OnPage (o / pageSize) ↔ image.InRegion .rodata o :=
    sound.onPage_iff (show SegmentKind.rodata ≠ .data by decide)
  constructor
  · intro kind o held
    have part := image.segment_mem_parts kind
    refine ⟨sound.lt_of_inRegion fits (sound.part_inRegion part held), ?_⟩
    rw [guarded.bytes]
    exact copied.held _ part o held
  · intro o below free
    rw [guarded.bytes]
    exact copied.byte_of_free free (reserved.bytes o below)
  · intro o page
    exact guarded.flags_of_inRegion ((text o).mp page)
  · intro o page
    exact guarded.flags_of_inRegion ((rodata o).mp page)
  · intro o below noText noRodata
    by_cases data : image.InRegion .data o
    · exact guarded.flags_of_inRegion data
    · rw [guarded.flags_of_not_inRegion, copied.flags, reserved.flags o below]
      intro kind o' here same
      cases Nat.add_left_cancel same
      cases kind with
      | text => exact noText ((text o).mpr here)
      | rodata => exact noRodata ((rodata o).mpr here)
      | data => exact data here
  · intro i outside
    constructor
    · rw [guarded.bytes, copied.other]
      intro part member o held
      have below := sound.lt_of_inRegion fits (sound.part_inRegion member held)
      omega
    · rw [guarded.flags_of_not_inRegion, copied.flags]
      intro kind o here
      have below := sound.lt_of_inRegion fits here
      omega

/-- The cores have been told of the code, and it may be entered. -/
def announce (handoff : Handoff) (base : Address) (size : UInt64) (entry : Address) : Handoff where
  loader := { handoff.loader with entry := some entry }
  machine := handoff.machine.mapBoard fun board =>
    { board with manager := { board.manager with
      bus := handoff.loader.cores.foldl (fun bus core => bus.publishTo core base size)
        board.manager.bus } }

theorem Reserved.loadModule_eq (reserved : handoff.Reserved process) (sound : image.Sound)
    (valid : image.validate = .ok ()) (fits : image.imageSize ≤ process.codeSize) :
    ∃ memory,
      image.Occupies Layout.codeBase.toNat process.codeSize.toNat handoff.machine.board.memory
        memory ∧
      loadModule image Layout.codeBase handoff =
        .ok () ((handoff.withMemory memory).announce Layout.codeBase process.codeSize
          (Layout.codeBase + image.entryOffset)) := by
  obtain ⟨between, copies, copied⟩ :=
    copySegments_copied (fun part member => reserved.admits sound fits member) sound.parts_apart
  have spans : ∀ region ∈ image.regions,
      (handoff.withMemory between).machine.board.memory.Spans Layout.codeBase region :=
    fun region member => reserved.spans sound fits copied.flags member
  obtain ⟨after, protects, guarded⟩ := protectRegions_protected (by decide) spans sound.ordered
  have required := requireProcess_eq handoff
  rw [reserved.current] at required
  have elsewhere : ¬ Layout.codeBase ≠ process.codeBase := not_not_intro reserved.codeBase.symm
  refine ⟨after, reserved.occupies sound fits copied guarded, ?_⟩
  rw [Handoff.loadModule_eq, Operation.bind_of_ok required, valid]
  change (if _ then _ else _ : HandoffM Unit) handoff = _
  rw [if_neg elsewhere, if_neg (UInt64.not_lt.mpr fits), install, Operation.bind_of_ok copies,
    Operation.bind_of_ok protects]
  rfl

end Handoff

/-- The module has been loaded to the code region and `cores` have been told. Nothing
    else has happened between `before` and `after`. -/
structure ModuleImage.LoadedAt (image : ModuleImage) (base : Address) (size : UInt64)
    (cores : List CoreIndex) (before after : Handoff) : Prop where
  memory : image.Occupies base.toNat size.toNat before.machine.board.memory
    after.machine.board.memory
  exclusive : ∀ o < size.toNat, ∀ flags,
    after.machine.board.memory.flags? ((base.toNat + o) / pageSize) = some flags →
      ¬ (flags.write ∧ flags.execute)
  entry : ∃ entry, after.loader.entry = some entry ∧
    entry.toNat = base.toNat + image.entryOffset.toNat ∧ entry.toNat % 4 = 0 ∧
      image.text.Holds image.entryOffset.toNat
  told : ∀ core ∈ cores, (base, size) ∈ (after.machine.board.takeInvalidations core).1
  queues : ∀ core, after.machine.board.manager.bus.waiting? core =
    (before.machine.board.manager.bus.waiting? core).map
      (· ++ if core ∈ cores then [(base, size)] else [])
  same : after =
    { loader := { before.loader with entry := after.loader.entry }
      machine := before.machine.mapBoard fun board =>
        { board with
          memory := after.machine.board.memory
          manager := { board.manager with bus := after.machine.board.manager.bus } } }

theorem ModuleImage.Occupies.exclusive {image : ModuleImage} {base size : Nat}
    {before after : AddressSpace} (occupies : image.Occupies base size before after) {o : Nat}
    (below : o < size) {flags : PageFlags}
    (found : after.flags? ((base + o) / pageSize) = some flags) :
    ¬ (flags.write ∧ flags.execute) := by
  by_cases text : image.text.OnPage (o / pageSize)
  · cases (occupies.text o text).symm.trans found
    simp [PageFlags.rx]
  · by_cases rodata : image.rodata.OnPage (o / pageSize)
    · cases (occupies.rodata o rodata).symm.trans found
      simp [PageFlags.r]
    · cases (occupies.others o below text rodata).symm.trans found
      simp [PageFlags.rw]

theorem Handoff.Reserved.loadModule_loaded {handoff : Handoff} {process : GuestProcess}
    {image : ModuleImage} (reserved : handoff.Reserved process) (sound : image.Sound)
    (valid : image.validate = .ok ()) (fits : image.imageSize ≤ process.codeSize)
    (distinct : handoff.loader.cores.Nodup)
    (registered : ∀ core ∈ handoff.loader.cores,
      (handoff.machine.board.manager.bus.waiting? core).isSome) :
    ∃ loaded, loadModule image Layout.codeBase handoff = .ok () loaded ∧
      image.LoadedAt Layout.codeBase process.codeSize handoff.loader.cores handoff loaded := by
  obtain ⟨memory, occupies, loads⟩ := reserved.loadModule_eq sound valid fits
  refine ⟨_, loads, occupies, fun o below flags => occupies.exclusive below, ?_, ?_, ?_, rfl⟩
  · have entry := sound.lt_of_inRegion fits
      (sound.part_inRegion (image.segment_mem_parts .text) sound.enters)
    have within := reserved.within
    have top : addressSpaceSize = 2 ^ 39 := rfl
    have sum : (Layout.codeBase + image.entryOffset).toNat =
        Layout.codeBase.toNat + image.entryOffset.toNat := by
      rw [UInt64.toNat_add]
      omega
    have base : Layout.codeBase.toNat = 0x8000000 := rfl
    have instruction := sound.instruction
    refine ⟨_, rfl, sum, ?_, sound.enters⟩
    omega
  · intro core member
    exact InvalidationBus.mem_take_foldl_publishTo distinct member (registered core member)
  · intro core
    exact InvalidationBus.waiting?_foldl_publishTo distinct _

/-- A module that passes its checks can be loaded into a new process that has room for
    it, and then lies there as it should. The machine is a console, perhaps used
    already, with all of its cores still on the bus. -/
theorem loadModule_loads {settings : Settings} {console : Console} {machine : Machine Kernel}
    {codeSize : UInt64} {metadata : ProgramMetadata} {base : Address} {pid : ProcessId}
    {created : Handoff} {process : GuestProcess} {image : ModuleImage}
    (built : Console.create settings = .ok console)
    (connected : ∀ core, (console.machine.board.manager.bus.waiting? core).isSome →
      (machine.board.manager.bus.waiting? core).isSome)
    (room : machine.os.processes.slots.size < 2 ^ 64)
    (creates : Handoff.createApplication codeSize metadata
      { loader := { cores := List.range console.coreCount }, machine } = .ok (base, pid) created)
    (found : created.machine.os.processes.find? pid = some process)
    (sized : ∀ kind, (image.segment kind).bytes.length < 2 ^ 64)
    (valid : image.validate = .ok ()) (fits : image.imageSize ≤ process.codeSize) :
    ∃ loaded, Handoff.loadModule image base created = .ok () loaded ∧
      image.LoadedAt base process.codeSize (List.range console.coreCount) created loaded := by
  obtain ⟨rfl, cores, bus, process', found', reserved⟩ :=
    Handoff.reserved_of_createApplication room creates
  cases found.symm.trans found'
  rw [show List.range console.coreCount = created.loader.cores from cores.symm]
  refine reserved.loadModule_loaded (ModuleImage.sound_of_validate sized valid) valid fits ?_ ?_
  · rw [cores]
    exact List.nodup_range
  · intro core member
    rw [cores, List.mem_range] at member
    rw [bus]
    exact connected core (Console.create_registered built core member)

/-- Text and rodata with a gap between them, and zeros without data. -/
def gappedImage : ModuleImage where
  text := { bytes := [0x21, 0x00, 0x00, 0xd4] }
  rodata := { offset := 0x2000, bytes := [7] }
  data := { offset := 0x3000 }
  bssSize := 8

/-- It is loaded for a process with one more page. -/
theorem loadModule_loads_gapped :
    ∃ created loaded, Handoff.createApplication 0x5000 {}
        { loader := { cores := List.range newConsole.coreCount }, machine := newConsole.machine } =
          .ok (Layout.codeBase, 0x51) created ∧
      Handoff.loadModule gappedImage Layout.codeBase created = .ok () loaded ∧
      gappedImage.LoadedAt Layout.codeBase 0x5000 (List.range newConsole.coreCount) created
        loaded := by
  have accepted : (match Handoff.createApplication 0x5000 {}
      { loader := { cores := List.range newConsole.coreCount }, machine := newConsole.machine } with
    | .ok (base, pid) created =>
        (created.machine.os.processes.find? pid).map fun process => (base, pid, process.codeSize)
    | .error _ _ => none) = some (Layout.codeBase, 0x51, 0x5000) := by
    decide +kernel
  cases creates : Handoff.createApplication 0x5000 {}
      { loader := { cores := List.range newConsole.coreCount }, machine := newConsole.machine } with
  | error e created =>
      rw [creates] at accepted
      cases accepted
  | ok made created =>
      rw [creates] at accepted
      obtain ⟨process, found, same⟩ := Option.map_eq_some_iff.mp accepted
      obtain ⟨base, pid⟩ := made
      injection same with base number
      injection number with pid size
      subst base pid
      have sized (kind : SegmentKind) : (gappedImage.segment kind).bytes.length < 2 ^ 64 := by
        cases kind <;> decide
      have built : Console.create {} = .ok newConsole := rfl
      obtain ⟨loaded, loads, at_base⟩ := loadModule_loads built (fun _ => id)
        (by decide +kernel) creates found sized (by decide +kernel) (by rw [size]; decide +kernel)
      rw [size] at at_base
      exact ⟨created, loaded, rfl, loads, at_base⟩

end GuestMachine
