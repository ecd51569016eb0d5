import GuestMachine.Proofs.Memory.Mapping

/-! # The address space refines flat memory

Mapped pages represent a flat memory when both show the same bytes and the
same permissions. Every call keeps this and gets the same answer from both, so
no sequence of calls can tell them apart.
-/

namespace GuestMachine

open Layout

/-- A request to memory. A read comes with the caller's buffer, which says how
    many bytes are wanted. -/
inductive MemoryCall where
  | map (addr : Address) (size : UInt64) (flags : PageFlags)
  | unmap (addr : Address) (size : UInt64)
  | protect (addr : Address) (size : UInt64) (flags : PageFlags)
  | read (addr : Address) (buffer : List UInt8)
  | write (addr : Address) (data : List UInt8)
  | compareExchange (addr : Address) (expected new : List UInt8)
  deriving Repr, DecidableEq

/-- The bytes the caller has before the call. -/
def MemoryCall.buffer : MemoryCall → List UInt8
  | .read _ buffer => buffer
  | _ => []

inductive MemoryReply where
  | done
  | compared (equal : Bool)
  | refused (error : MemoryError)
  deriving Repr, DecidableEq

/-- What there is after a call, also after one that is refused. -/
structure MemoryOutcome (μ : Type) where
  reply : MemoryReply
  memory : μ
  /-- The caller's buffer, empty for a call that has none. -/
  buffer : List UInt8

/-- Anything that can serve these calls. The state of a read is the caller's
    buffer. -/
structure MemoryInterface (μ : Type) where
  map : Address → UInt64 → PageFlags → Operation MemoryError μ Unit
  unmap : Address → UInt64 → Operation MemoryError μ Unit
  protect : Address → UInt64 → PageFlags → Operation MemoryError μ Unit
  read : μ → Address → Operation MemoryError (List UInt8) Unit
  write : Address → List UInt8 → Operation MemoryError μ Unit
  compareExchange : Address → List UInt8 → List UInt8 → Operation MemoryError μ Bool

namespace MemoryInterface

/-- Memory is as the operation left it. -/
def changed (reply : α → MemoryReply) : EStateM.Result MemoryError μ α → MemoryOutcome μ
  | .ok a memory => ⟨reply a, memory, []⟩
  | .error e memory => ⟨.refused e, memory, []⟩

/-- The buffer is as the operation left it. -/
def filled (memory : μ) : EStateM.Result MemoryError (List UInt8) Unit → MemoryOutcome μ
  | .ok () buffer => ⟨.done, memory, buffer⟩
  | .error e buffer => ⟨.refused e, memory, buffer⟩

def perform (interface : MemoryInterface μ) (memory : μ) : MemoryCall → MemoryOutcome μ
  | .map addr size flags => changed (fun _ => .done) (interface.map addr size flags memory)
  | .unmap addr size => changed (fun _ => .done) (interface.unmap addr size memory)
  | .protect addr size flags => changed (fun _ => .done) (interface.protect addr size flags memory)
  | .read addr buffer => filled memory (interface.read memory addr buffer)
  | .write addr data => changed (fun _ => .done) (interface.write addr data memory)
  | .compareExchange addr expected new =>
      changed .compared (interface.compareExchange addr expected new memory)

/-- The replies with the buffers, and memory at the end. -/
def performAll (interface : MemoryInterface μ) (memory : μ) :
    List MemoryCall → List (MemoryReply × List UInt8) × μ
  | [] => ([], memory)
  | call :: calls =>
      let outcome := interface.perform memory call
      let (replies, memory) := interface.performAll outcome.memory calls
      ((outcome.reply, outcome.buffer) :: replies, memory)

end MemoryInterface

def AddressSpace.interface : MemoryInterface AddressSpace where
  map := MemoryM.map
  unmap := MemoryM.unmap
  protect := MemoryM.protect
  read := AddressSpace.readInto
  write := MemoryM.write
  compareExchange := MemoryM.compareExchange

/-- Flat memory is asked for the result. What is refused changes nothing. -/
def FlatMemory.interface : MemoryInterface FlatMemory where
  map addr size flags memory :=
    Operation.settle memory ((memory.map addr size flags).map ((), ·))
  unmap addr size memory := Operation.settle memory ((memory.unmap addr size).map ((), ·))
  protect addr size flags memory :=
    Operation.settle memory ((memory.protect addr size flags).map ((), ·))
  read memory addr buffer := Operation.settle buffer ((memory.read addr buffer.length).map ((), ·))
  write addr data memory := Operation.settle memory ((memory.write addr data).map ((), ·))
  compareExchange addr expected new memory :=
    Operation.settle memory (memory.compareExchange addr expected new)

namespace AddressSpace

/-- The pages show exactly what the flat memory holds. -/
structure Represents (space : AddressSpace) (memory : FlatMemory) : Prop where
  byte : ∀ addr, space.byte? addr = memory.byte? addr
  flags : ∀ page, space.flags? page = memory.flags? page

theorem empty_represents : AddressSpace.empty.Represents FlatMemory.empty where
  byte addr := by simp [byte?, AddressSpace.empty, FlatMemory.empty]
  flags page := by simp [flags?, AddressSpace.empty, FlatMemory.empty]

/-- Both fail in the same way, or both succeed with related results. -/
def SameResult (related : α → β → Prop) : Except MemoryError α → Except MemoryError β → Prop
  | .ok a, .ok b => related a b
  | .error e, .error f => e = f
  | _, _ => False

variable {space : AddressSpace} {memory : FlatMemory}

theorem fill_represents (same : space.Represents memory) (span : PageSpan) (flags : PageFlags) :
    Represents ⟨span.pages.foldl (fun pages page => pages.insert page (Page.zeroed flags))
      space.pages, true⟩ (memory.fill span flags) where
  byte addr := by
    have old := same.byte addr
    by_cases inside : span.Contains (addr / pageSize)
    · simp [byte?, FlatMemory.fill, getElem?_foldl_insert, inside]
    · simpa [byte?, FlatMemory.fill, getElem?_foldl_insert, inside] using old
  flags page := by
    have old := same.flags page
    by_cases inside : span.Contains page
    · simp [flags?, FlatMemory.fill, getElem?_foldl_insert, inside, Page.zeroed]
    · simpa [flags?, FlatMemory.fill, getElem?_foldl_insert, inside] using old

theorem drop_represents (same : space.Represents memory) (span : PageSpan) :
    Represents { space with
      pages := span.pages.foldl (fun pages page => pages.erase page) space.pages }
      (memory.drop span) where
  byte addr := by
    have old := same.byte addr
    by_cases inside : span.Contains (addr / pageSize)
    · simp [byte?, FlatMemory.drop, getElem?_foldl_erase, inside]
    · simpa [byte?, FlatMemory.drop, getElem?_foldl_erase, inside] using old
  flags page := by
    have old := same.flags page
    by_cases inside : span.Contains page
    · simp [flags?, FlatMemory.drop, getElem?_foldl_erase, inside]
    · simpa [flags?, FlatMemory.drop, getElem?_foldl_erase, inside] using old

theorem setFlags_represents (same : space.Represents memory) (span : PageSpan)
    (flags : PageFlags) :
    Represents { space with
      pages := span.pages.foldl
        (fun pages page => pages.modify page fun old => { old with flags }) space.pages }
      (memory.setFlags span flags) where
  byte addr := by
    have changed := getElem?_foldl_modify space.pages (f := fun old => { old with flags })
      (fun _ => rfl) span.pages (addr / pageSize)
    rw [byte?, changed, FlatMemory.setFlags, ← same.byte, byte?]
    split
    · rw [Option.map_map]
      rfl
    · rfl
  flags page := by
    have old := same.flags page
    have changed := getElem?_foldl_modify space.pages (f := fun old => { old with flags })
      (fun _ => rfl) span.pages page
    by_cases inside : span.Contains page
    · simp only [flags?, changed, FlatMemory.setFlags, PageSpan.mem_pages, inside, if_true] at old ⊢
      rw [← old, Option.map_map, Option.map_map]
      rfl
    · simpa [flags?, changed, FlatMemory.setFlags, inside] using old

theorem put_represents (same : space.Represents memory) (addr : Nat) (data : List UInt8) :
    Represents { space with pages := putBytes space.pages addr data } (memory.put addr data) where
  byte i := by
    have old := same.byte i
    rw [byte?_putBytes, old]
    rfl
  flags page := by
    have old := same.flags page
    rw [flags?_putBytes, old]
    rfl

theorem map_alike (same : space.Represents memory) (addr : Address) (size : UInt64)
    (flags : PageFlags) :
    SameResult Represents (space.map addr size flags) (memory.map addr size flags) := by
  rw [map_eq, FlatMemory.map]
  cases PageSpan.ofRequest addr size with
  | error error => rfl
  | ok span =>
      simp only [bind, Except.bind, same.flags]
      cases span.pages.find? fun page => (memory.flags? page).isSome with
      | some page => rfl
      | none => exact fill_represents same span flags

theorem unmap_alike (same : space.Represents memory) (addr : Address) (size : UInt64) :
    SameResult Represents (space.unmap addr size) (memory.unmap addr size) := by
  rw [unmap_eq, FlatMemory.unmap, FlatMemory.mappedSpan]
  cases PageSpan.ofRequest addr size with
  | error error => rfl
  | ok span =>
      simp only [bind, Except.bind, same.flags]
      cases span.pages.find? fun page => (memory.flags? page).isNone with
      | some page => rfl
      | none => exact drop_represents same span

theorem protect_alike (same : space.Represents memory) (addr : Address) (size : UInt64)
    (flags : PageFlags) :
    SameResult Represents (space.protect addr size flags) (memory.protect addr size flags) := by
  rw [protect_eq, FlatMemory.protect, FlatMemory.mappedSpan]
  cases PageSpan.ofRequest addr size with
  | error error => rfl
  | ok span =>
      simp only [bind, Except.bind, same.flags]
      cases span.pages.find? fun page => (memory.flags? page).isNone with
      | some page => rfl
      | none => exact setFlags_represents same span flags

theorem validate_eq_check (same : space.Represents memory) (addr : Address) (len : Nat)
    (required : PageFlags) (kind : AccessKind) :
    space.validate addr len required kind = memory.check addr len required kind := by
  have faults : space.fault? required kind = memory.fault? required kind := by
    funext i
    have flags := same.flags (i / pageSize)
    cases found : memory.flags? (i / pageSize) with
    | none => simp only [fault?, FlatMemory.fault?, flags, found]
    | some granted => simp only [fault?, FlatMemory.fault?, flags, found]
  have checked := validate_eq space addr len required kind
  rw [faults] at checked
  exact checked

theorem bytes_eq (same : space.Represents memory) (addr len : Nat) :
    space.bytes addr len = memory.bytes addr len := by
  rw [bytes, FlatMemory.bytes, funext same.byte]

theorem read_alike (same : space.Represents memory) (addr : Address) (len : Nat) :
    SameResult Eq (space.read addr len) (memory.read addr len) := by
  rw [read_eq, FlatMemory.read, validate_eq_check same, bytes_eq same]
  cases memory.check addr len PageFlags.r .read <;> rfl

theorem write_alike (same : space.Represents memory) (addr : Address) (data : List UInt8) :
    SameResult Represents (space.write addr data) (memory.write addr data) := by
  rw [write_eq, FlatMemory.write, validate_eq_check same]
  cases memory.check addr data.length PageFlags.w .write with
  | error error => rfl
  | ok => exact put_represents same addr.toNat data

theorem compareExchange_alike (same : space.Represents memory) (addr : Address)
    (expected new : List UInt8) :
    SameResult (fun a b => a.1 = b.1 ∧ a.2.Represents b.2)
      (space.compareExchange addr expected new) (memory.compareExchange addr expected new) := by
  rw [FlatMemory.compareExchange]
  by_cases length : expected.length = new.length
  · rw [compareExchange_eq space addr length, if_pos length, validate_eq_check same, bytes_eq same]
    cases memory.check addr new.length PageFlags.rw .write with
    | error error => rfl
    | ok =>
        by_cases held : memory.bytes addr.toNat new.length = expected
        · simpa [Except.map, bind, Except.bind, held] using ⟨rfl, put_represents same addr.toNat new⟩
        · simpa [Except.map, bind, Except.bind, held] using ⟨rfl, same⟩
  · rw [compareExchange, Operation.outcome, MemoryM.compareExchange_eq, if_neg length, if_neg length]
    rfl

/-- No reply, no buffer and no byte or permission tells the two apart. -/
structure SameOutcome (paged : MemoryOutcome AddressSpace) (flat : MemoryOutcome FlatMemory) :
    Prop where
  reply : paged.reply = flat.reply
  memory : paged.memory.Represents flat.memory
  buffer : paged.buffer = flat.buffer

theorem SameResult.settled {x : Except MemoryError (α × AddressSpace)}
    {y : Except MemoryError (α × FlatMemory)}
    (result : SameResult (fun a b => a.1 = b.1 ∧ a.2.Represents b.2) x y)
    (same : space.Represents memory) :
    OutcomeAlike Represents (Operation.settle space x) (Operation.settle memory y) := by
  cases x with
  | error e =>
      cases y with
      | error e' => exact ⟨result, same⟩
      | ok b => exact result.elim
  | ok a =>
      cases y with
      | error e => exact result.elim
      | ok b => exact result

theorem SameResult.unit {x : Except MemoryError AddressSpace} {y : Except MemoryError FlatMemory}
    (result : SameResult Represents x y) :
    SameResult (fun a b => a.1 = b.1 ∧ a.2.Represents b.2) (x.map ((), ·)) (y.map ((), ·)) := by
  cases x with
  | error e =>
      cases y with
      | error e' => exact result
      | ok b => exact result.elim
  | ok a =>
      cases y with
      | error e => exact result.elim
      | ok b => exact ⟨rfl, result⟩

theorem changed_alike {x : EStateM.Result MemoryError AddressSpace α}
    {y : EStateM.Result MemoryError FlatMemory α} (alike : OutcomeAlike Represents x y)
    (reply : α → MemoryReply) :
    SameOutcome (MemoryInterface.changed reply x) (MemoryInterface.changed reply y) := by
  rcases alike.cases with ⟨a, s, t, rfl, rfl, same⟩ | ⟨e, s, t, rfl, rfl, same⟩
  · exact ⟨rfl, same, rfl⟩
  · exact ⟨rfl, same, rfl⟩

/-- An operation that reverts when it is refused does what its result says. -/
theorem result_alike {action : MemoryM Unit} (atomic : Operation.Atomic action)
    {result : Except MemoryError FlatMemory} (same : space.Represents memory)
    (alike : SameResult Represents (action.result space) result) :
    OutcomeAlike Represents (action space) (Operation.settle memory (result.map ((), ·))) := by
  rw [atomic.run_eq_result space]
  exact alike.unit.settled same

theorem perform_alike (same : space.Represents memory) (call : MemoryCall) :
    SameOutcome (AddressSpace.interface.perform space call)
      (FlatMemory.interface.perform memory call) := by
  cases call with
  | map addr size flags =>
      exact changed_alike
        (result_alike (MemoryM.map_atomic addr size flags) same (map_alike same addr size flags)) _
  | unmap addr size =>
      exact changed_alike
        (result_alike (MemoryM.unmap_atomic addr size) same (unmap_alike same addr size)) _
  | protect addr size flags =>
      exact changed_alike (result_alike (MemoryM.protect_atomic addr size flags) same
        (protect_alike same addr size flags)) _
  | read addr buffer =>
      have alike := read_alike same addr buffer.length
      rw [read_eq] at alike
      change SameOutcome (MemoryInterface.filled space (space.readInto addr buffer))
        (MemoryInterface.filled memory
          (Operation.settle buffer ((memory.read addr buffer.length).map ((), ·))))
      rw [readInto_eq]
      cases checked : space.validate addr buffer.length PageFlags.r .read with
      | error e =>
          cases answered : memory.read addr buffer.length with
          | error e' =>
              rw [checked, answered] at alike
              exact ⟨congrArg MemoryReply.refused alike, same, rfl⟩
          | ok data => exact (by rwa [checked, answered] at alike : False).elim
      | ok =>
          cases answered : memory.read addr buffer.length with
          | error e => exact (by rwa [checked, answered] at alike : False).elim
          | ok data =>
              rw [checked, answered] at alike
              exact ⟨rfl, same, alike⟩
  | write addr data =>
      exact changed_alike
        (result_alike (MemoryM.write_atomic addr data) same (write_alike same addr data)) _
  | compareExchange addr expected new =>
      have alike := (compareExchange_alike same addr expected new).settled same
      rw [compareExchange, ← (MemoryM.compareExchange_atomic addr expected new).run_eq] at alike
      exact changed_alike alike _

/-- A refused call changes neither memory nor the caller's buffer. -/
theorem perform_refused {call : MemoryCall} {error : MemoryError}
    (refused : (AddressSpace.interface.perform space call).reply = .refused error) :
    (AddressSpace.interface.perform space call).memory = space ∧
      (AddressSpace.interface.perform space call).buffer = call.buffer := by
  have changed {α : Type} {action : MemoryM α} {reply : α → MemoryReply}
      (atomic : Operation.Atomic action) (served : ∀ a, reply a ≠ .refused error)
      (refused : (MemoryInterface.changed reply (action space)).reply = .refused error) :
      (MemoryInterface.changed reply (action space)).memory = space ∧
        (MemoryInterface.changed reply (action space)).buffer = [] := by
    cases acted : action space with
    | ok a after =>
        rw [acted] at refused
        exact absurd refused (served a)
    | error e after => exact ⟨atomic _ _ _ acted, rfl⟩
  cases call with
  | map addr size flags => exact changed (MemoryM.map_atomic addr size flags) nofun refused
  | unmap addr size => exact changed (MemoryM.unmap_atomic addr size) nofun refused
  | protect addr size flags => exact changed (MemoryM.protect_atomic addr size flags) nofun refused
  | read addr buffer =>
      change (MemoryInterface.filled space (space.readInto addr buffer)).reply = _ at refused
      change (MemoryInterface.filled space (space.readInto addr buffer)).memory = _ ∧
        (MemoryInterface.filled space (space.readInto addr buffer)).buffer = buffer
      cases served : space.readInto addr buffer with
      | ok _ filled =>
          rw [served] at refused
          cases refused
      | error e left => exact ⟨rfl, space.readInto_atomic addr _ _ _ served⟩
  | write addr data => exact changed (MemoryM.write_atomic addr data) nofun refused
  | compareExchange addr expected new =>
      exact changed (MemoryM.compareExchange_atomic addr expected new) nofun refused

theorem performAll_alike (same : space.Represents memory) (calls : List MemoryCall) :
    (AddressSpace.interface.performAll space calls).1 =
        (FlatMemory.interface.performAll memory calls).1 ∧
      (AddressSpace.interface.performAll space calls).2.Represents
        (FlatMemory.interface.performAll memory calls).2 := by
  induction calls generalizing space memory with
  | nil => exact ⟨rfl, same⟩
  | cons call calls ih =>
      have outcome := perform_alike same call
      obtain ⟨replies, final⟩ := ih outcome.memory
      exact ⟨congrArg₂ List.cons (Prod.ext outcome.reply outcome.buffer) replies, final⟩

/-- From an empty start, no sequence of calls tells the pages from flat memory:
    every reply and every buffer is the same, so are all bytes and permissions at
    the end, and a call that is refused there changes neither memory nor the
    caller's buffer. -/
theorem refines_flat_memory (calls : List MemoryCall) :
    let paged := AddressSpace.interface.performAll AddressSpace.empty calls
    let flat := FlatMemory.interface.performAll FlatMemory.empty calls
    paged.1 = flat.1 ∧ paged.2.Represents flat.2 ∧
      ∀ call error, (AddressSpace.interface.perform paged.2 call).reply = .refused error →
        (AddressSpace.interface.perform paged.2 call).memory = paged.2 ∧
          (AddressSpace.interface.perform paged.2 call).buffer = call.buffer := by
  intro paged flat
  obtain ⟨replies, final⟩ := performAll_alike empty_represents calls
  exact ⟨replies, final, fun _ _ => perform_refused⟩

end AddressSpace

end GuestMachine
