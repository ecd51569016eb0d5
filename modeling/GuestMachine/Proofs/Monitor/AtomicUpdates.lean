import GuestMachine.Proofs.Monitor.History

/-! # Updates by exclusive accesses

Any number of cores read the same bytes exclusively, compute a new value from
what they read and try to write it exclusively, among calls of all kinds to the
monitor. The value is always what the committed updates make of the first one.
-/

namespace GuestMachine

open Layout

/-- Bytes and permissions are as before in the range. -/
structure AddressSpace.Untouched (before after : AddressSpace) (addr len : Nat) : Prop where
  bytes : ∀ i, addr ≤ i → i < addr + len → after.byte? i = before.byte? i
  flags : ∀ i, addr ≤ i → i < addr + len →
    after.flags? (i / pageSize) = before.flags? (i / pageSize)

namespace AddressSpace

variable {before after : AddressSpace}

theorem Untouched.refl (space : AddressSpace) (addr len : Nat) : space.Untouched space addr len :=
  ⟨fun _ _ _ => rfl, fun _ _ _ => rfl⟩

theorem Untouched.allows {addr len : Nat} {required : PageFlags}
    (untouched : before.Untouched after addr len) (allowed : before.Allows required addr len) :
    after.Allows required addr len := by
  refine ⟨allowed.1, fun i lower upper => ?_⟩
  rw [untouched.flags i lower upper]
  exact allowed.2 i lower upper

theorem Untouched.load {w : Width} {addr : Address}
    (untouched : before.Untouched after addr.toNat w.bytes)
    (readable : before.Allows PageFlags.r addr.toNat w.bytes) :
    after.load w addr = before.load w addr := by
  have same : after.bytes addr.toNat w.bytes = before.bytes addr.toNat w.bytes := by
    apply List.filterMap_congr
    intro i member
    obtain ⟨lower, upper⟩ := List.mem_range'_1.mp member
    exact untouched.bytes i lower upper
  rw [load_eq (untouched.allows readable), load_eq readable, same]

theorem Written.untouched {start : Nat} {data : List UInt8} {addr len : Nat}
    (written : before.Written after start data) (apart : ¬ SharesByte start data.length addr len) :
    before.Untouched after addr len := by
  refine ⟨fun i lower upper => written.outside i ?_, fun i _ _ => written.flags _⟩
  by_contra within
  exact apart ⟨i, by omega, lower, upper⟩

end AddressSpace

/-- The value, if this is an exclusive read of these bytes by the core. -/
def MonitorEvent.readOf? (w : ExclusiveWidth) (addr : Address) (core : CoreIndex) :
    MonitorEvent → Option (BitVec w.val.bits)
  | .exclusiveRead c w' a value =>
      if same : w' = w then if c = core ∧ a = addr then some (same ▸ value) else none else none
  | _ => none

/-- What the core's latest exclusive read of these bytes gave. -/
def lastRead? (w : ExclusiveWidth) (addr : Address) (core : CoreIndex)
    (history : List MonitorEvent) : Option (BitVec w.val.bits) :=
  history.reverse.findSome? (·.readOf? w addr core)

theorem MonitorEvent.readOf?_of_not_ends {event : MonitorEvent} {core : CoreIndex}
    (quiet : ¬ event.Ends core) (w : ExclusiveWidth) (addr : Address) :
    event.readOf? w addr core = none := by
  cases event with
  | exclusiveRead c w' a value =>
      have other : c ≠ core := quiet
      simp [readOf?, other]
  | _ => rfl

theorem lastRead?_of_live {history : List MonitorEvent} {core : CoreIndex} {w : ExclusiveWidth}
    {addr : Address} {value : BitVec w.val.bits} (live : Live history core w addr value) :
    lastRead? w addr core history = some value := by
  obtain ⟨before, after, rfl, quiet⟩ := live
  have silent : after.reverse.findSome? (·.readOf? w addr core) = none := by
    rw [List.findSome?_eq_none_iff]
    intro event member
    exact MonitorEvent.readOf?_of_not_ends (quiet event (List.mem_reverse.mp member)).1 w addr
  rw [lastRead?, List.reverse_append, List.reverse_cons, List.append_assoc, List.findSome?_append,
    silent]
  simp [MonitorEvent.readOf?]

/-- The call writes nothing to the range. A store may do what it likes
    elsewhere. -/
def MonitorCall.WritesElsewhere (state : MonitoredMemory) (addr len : Nat) : MonitorCall → Prop
  | .exclusiveWrite core w a value =>
      (state.monitor.exclusiveWrite state.memory w.val core a value).1 →
        ¬ SharesByte a.toNat w.val.bytes addr len
  | .guardedStore _ _ _ _ store => state.memory.Untouched (store state.memory).2 addr len
  | .externalStore _ _ _ store => state.memory.Untouched (store state.memory).2 addr len
  | .exclusiveRead .. => True
  | .clearExclusive .. => True

/-- What a core does about the bytes that all of them update. -/
inductive UpdateStep (w : ExclusiveWidth) where
  /-- Any call to the monitor. The exclusive reads of the bytes are among them. -/
  | call (call : MonitorCall)
  /-- Apply `f` to what the core read last, and write the result exclusively. A
      core that has read nothing does nothing. -/
  | attempt (core : CoreIndex) (f : BitVec w.val.bits → BitVec w.val.bits)

structure UpdateRun (w : ExclusiveWidth) where
  history : List MonitorEvent
  state : MonitoredMemory
  /-- The update functions of the attempts that were committed, in this order. -/
  committed : List (BitVec w.val.bits → BitVec w.val.bits) := []

namespace UpdateRun

variable {w : ExclusiveWidth} {addr : Address}

def perform (addr : Address) (run : UpdateRun w) : UpdateStep w → UpdateRun w
  | .call call =>
      let (event, state) := run.state.perform call
      { run with history := run.history ++ [event], state }
  | .attempt core f =>
      match lastRead? w addr core run.history with
      | none => run
      | some value =>
          let (committed, memory, monitor) :=
            run.state.monitor.exclusiveWrite run.state.memory w.val core addr (f value)
          { history := run.history ++ [.exclusiveWrite core w addr committed]
            state := { memory, monitor }
            committed := if committed then run.committed ++ [f] else run.committed }

def performAll (addr : Address) (run : UpdateRun w) (steps : List (UpdateStep w)) : UpdateRun w :=
  steps.foldl (perform addr) run

/-- Only the attempts write to the bytes, as far as these steps go. -/
def OnlyAttemptsWrite (addr : Address) (run : UpdateRun w) : List (UpdateStep w) → Prop
  | [] => True
  | .call call :: rest =>
      call.WritesElsewhere run.state addr.toNat w.val.bytes ∧
        OnlyAttemptsWrite addr (run.perform addr (.call call)) rest
  | .attempt core f :: rest => OnlyAttemptsWrite addr (run.perform addr (.attempt core f)) rest

/-- The committed updates, applied to `value` one after the other. -/
def updated (run : UpdateRun w) (value : BitVec w.val.bits) : BitVec w.val.bits :=
  run.committed.foldl (fun value f => f value) value

/-- The bytes can still be used, and hold what the committed updates make of
    the value they held at first. -/
structure Accounts (cores : Nat) (addr : Address) (first : BitVec w.val.bits)
    (run : UpdateRun w) : Prop where
  summary : Summarises cores run.state.monitor run.history
  allowed : run.state.memory.Allows PageFlags.rw addr.toNat w.val.bytes
  value : run.state.memory.load w.val addr = run.updated first

variable {cores : Nat} {first : BitVec w.val.bits} {run : UpdateRun w}

theorem untouched_of_writesElsewhere {state : MonitoredMemory} {call : MonitorCall} {len : Nat}
    (counted : state.monitor.Counted) (elsewhere : call.WritesElsewhere state addr.toNat len) :
    state.memory.Untouched (state.perform call).2.memory addr.toNat len := by
  cases call with
  | exclusiveRead core w' a => exact .refl _ _ _
  | clearExclusive core => exact .refl _ _ _
  | exclusiveWrite core w' a value =>
      have effect := state.monitor.exclusiveWrite_effect state.memory w'.val core a value
      simp only [MonitorCall.WritesElsewhere, MonitoredMemory.perform] at elsewhere ⊢
      generalize state.monitor.exclusiveWrite state.memory w'.val core a value = outcome
        at effect elsewhere ⊢
      obtain ⟨committed, after, monitor⟩ := outcome
      obtain ⟨written, refused, _⟩ := effect
      by_cases done : committed
      · apply (written done).1.untouched
        rw [Width.length_toBytes]
        exact elsewhere done
      · rw [show after = state.memory from refused done]
        exact .refl _ _ _
  | guardedStore core a size nonempty store =>
      obtain ⟨_, outcome, _⟩ := ExclusiveMonitor.storeAndBreak_spec counted state.memory (some core)
        a size store
      simp only [MonitoredMemory.perform, ExclusiveMonitor.guardedStore, outcome]
      exact elsewhere
  | externalStore a size nonempty store =>
      obtain ⟨_, outcome, _⟩ := ExclusiveMonitor.storeAndBreak_spec counted state.memory none
        a size store
      simp only [MonitoredMemory.perform, ExclusiveMonitor.externalStore, outcome]
      exact elsewhere

theorem Accounts.call (accounts : run.Accounts cores addr first) {call : MonitorCall}
    (elsewhere : call.WritesElsewhere run.state addr.toNat w.val.bytes) :
    (run.perform addr (.call call)).Accounts cores addr first := by
  have untouched := untouched_of_writesElsewhere accounts.summary.counted elsewhere
  have readable := accounts.allowed.weaken PageFlags.contains_r_of_rw
  exact ⟨MonitoredMemory.perform_summarises accounts.summary call, untouched.allows accounts.allowed,
    (untouched.load readable).trans accounts.value⟩

/-- A committed attempt was computed from the value that memory still holds. -/
theorem Accounts.attempt (accounts : run.Accounts cores addr first) (core : CoreIndex)
    (f : BitVec w.val.bits → BitVec w.val.bits) :
    (run.perform addr (.attempt core f)).Accounts cores addr first := by
  rw [perform]
  cases seen : lastRead? w addr core run.history with
  | none => exact accounts
  | some value =>
      have summary := MonitoredMemory.perform_summarises accounts.summary
        (.exclusiveWrite core w addr (f value))
      have commits := MonitoredMemory.exclusiveWrite_committed_iff accounts.summary core w addr
        (f value)
      have effect := run.state.monitor.exclusiveWrite_effect run.state.memory w.val core addr (f value)
      simp only [MonitoredMemory.perform] at summary
      dsimp only
      generalize run.state.monitor.exclusiveWrite run.state.memory w.val core addr (f value) = outcome
        at summary commits effect ⊢
      obtain ⟨committed, memory, monitor⟩ := outcome
      obtain ⟨written, refused, _⟩ := effect
      cases committed with
      | false =>
          have same : memory = run.state.memory := refused Bool.false_ne_true
          subst same
          exact ⟨summary, accounts.allowed, accounts.value⟩
      | true =>
          obtain ⟨_, read, live, _, held⟩ := commits.mp rfl
          obtain rfl : value = read := Option.some.inj (seen.symm.trans (lastRead?_of_live live))
          obtain ⟨written, stored⟩ := written rfl
          refine ⟨summary, written.allows_iff.mpr accounts.allowed, ?_⟩
          rw [accounts.value] at held
          simp only [updated, if_true, List.foldl_append, List.foldl_cons, List.foldl_nil] at held ⊢
          rw [held]
          exact stored

theorem Accounts.performAll (accounts : run.Accounts cores addr first)
    {steps : List (UpdateStep w)} (writes : run.OnlyAttemptsWrite addr steps) :
    (run.performAll addr steps).Accounts cores addr first := by
  induction steps generalizing run with
  | nil => exact accounts
  | cons step rest ih =>
      cases step with
      | call call => exact ih (accounts.call writes.1) writes.2
      | attempt core f => exact ih (accounts.attempt core f) writes

theorem attempted_of_mem_committed {start : UpdateRun w} {steps : List (UpdateStep w)}
    {f : BitVec w.val.bits → BitVec w.val.bits}
    (member : f ∈ (start.performAll addr steps).committed) :
    f ∈ start.committed ∨ ∃ core, .attempt core f ∈ steps := by
  induction steps generalizing start with
  | nil => exact .inl member
  | cons step rest ih =>
      rcases ih member with here | ⟨core, later⟩
      · cases step with
        | call call => exact .inl here
        | attempt core g =>
            rw [perform] at here
            cases seen : lastRead? w addr core start.history with
            | none =>
                rw [seen] at here
                exact .inl here
            | some value =>
                simp only [seen] at here
                split at here
                · rcases List.mem_append.mp here with old | new
                  · exact .inl old
                  · rw [List.mem_singleton.mp new]
                    exact .inr ⟨core, List.mem_cons_self⟩
                · exact .inl here
      · exact .inr ⟨core, List.mem_cons_of_mem step later⟩

theorem foldl_increments {updates : List (BitVec n → BitVec n)}
    (increments : ∀ f ∈ updates, ∀ value, f value = value + 1) (value : BitVec n) :
    updates.foldl (fun value f => f value) value = value + BitVec.ofNat n updates.length := by
  induction updates generalizing value with
  | nil => simp
  | cons f rest ih =>
      have here := increments f List.mem_cons_self value
      have others : ∀ g ∈ rest, ∀ value, g value = value + 1 :=
        fun g member => increments g (List.mem_cons_of_mem f member)
      rw [List.foldl_cons, here, ih others, List.length_cons, BitVec.ofNat_add, BitVec.add_assoc]
      exact congrArg (value + ·) (BitVec.add_comm _ _)

/-- The run that starts when cores have made these calls to a new monitor. -/
def ofCalls (w : ExclusiveWidth) (memory : AddressSpace) (cores : Nat) (calls : List MonitorCall) :
    UpdateRun w :=
  let start : MonitoredMemory := { memory, monitor := ExclusiveMonitor.ofCores cores }
  let (history, state) := start.performAll calls
  { history, state }

/-- No update is lost. Whatever cores called before and however their calls
    interleave, the bytes hold what the committed updates make of the value they
    held at first, as long as they may be read and written and only attempts write
    to them. So if all attempts are increments, they have grown by as many as were
    committed. -/
theorem load_eq_updated {memory : AddressSpace} {cores : Nat} {earlier : List MonitorCall}
    {steps : List (UpdateStep w)}
    (allowed : (ofCalls w memory cores earlier).state.memory.Allows PageFlags.rw addr.toNat
      w.val.bytes)
    (writes : (ofCalls w memory cores earlier).OnlyAttemptsWrite addr steps) :
    let start := ofCalls w memory cores earlier
    let run := start.performAll addr steps
    let first := start.state.memory.load w.val addr
    run.state.memory.load w.val addr = run.updated first ∧
      ((∀ core f, .attempt core f ∈ steps → ∀ value, f value = value + 1) →
        run.state.memory.load w.val addr = first + BitVec.ofNat _ run.committed.length) := by
  intro start run first
  have summary : Summarises cores start.state.monitor start.history :=
    @MonitoredMemory.performAll_summarises cores [] _ (summarises_ofCores cores) earlier
  have accounts : run.Accounts cores addr first := Accounts.performAll ⟨summary, allowed, rfl⟩ writes
  refine ⟨accounts.value, fun increments => ?_⟩
  rw [accounts.value, updated, foldl_increments]
  intro f member
  rcases attempted_of_mem_committed member with before | ⟨core, attempted⟩
  · cases before
  · exact increments core f attempted

def wordWidth : ExclusiveWidth := ⟨.word, by decide⟩

/-- Both cores read the counter before either of them writes, and one writes
    elsewhere in between. -/
def contendedSteps : List (UpdateStep wordWidth) :=
  [.call (.exclusiveRead 0 wordWidth 0x10000), .call (.exclusiveRead 1 wordWidth 0x10000),
    .call (.exclusiveRead 2 wordWidth 0x10008), .attempt 1 (· + 1),
    .call (.exclusiveWrite 2 wordWidth 0x10008 7), .attempt 0 (· + 1),
    .call (.exclusiveRead 0 wordWidth 0x10000), .attempt 0 (· + 1)]

/-- A page of data. -/
def dataPage : AddressSpace :=
  { pages := Std.TreeMap.empty.insert 0x10 (Page.zeroed PageFlags.rw), everMapped := true }

/-- Of three increments one comes too late, and the counter is at two. -/
theorem load_eq_updated_contended :
    let run := (ofCalls wordWidth dataPage 4 []).performAll 0x10000 contendedSteps
    run.committed.length = 2 ∧ run.state.memory.load wordWidth.val 0x10000 = 2 := by
  intro run
  have checked : (ofCalls wordWidth dataPage 4 []).state.memory.validate 0x10000 4 PageFlags.rw
      .write = .ok () := by
    decide +kernel
  have apart : ¬ SharesByte (0x10008 : Address).toNat 4 (0x10000 : Address).toNat 4 := by
    rw [sharesByte_iff (by decide) (by decide)]
    decide
  have increments : ∀ core f, .attempt core f ∈ contendedSteps → ∀ value, f value = value + 1 := by
    intro core f member
    simp only [contendedSteps, List.mem_cons, UpdateStep.attempt.injEq, reduceCtorEq, false_or,
      List.not_mem_nil, or_false] at member
    rcases member with ⟨_, rfl⟩ | ⟨_, rfl⟩ | ⟨_, rfl⟩ <;> exact fun _ => rfl
  have two : run.committed.length = 2 := by decide +kernel
  have first : (ofCalls wordWidth dataPage 4 []).state.memory.load wordWidth.val 0x10000 = 0 := by
    decide +kernel
  have writes : (ofCalls wordWidth dataPage 4 []).OnlyAttemptsWrite 0x10000 contendedSteps :=
    ⟨trivial, trivial, trivial, fun _ => apart, trivial, trivial⟩
  obtain ⟨_, grown⟩ := load_eq_updated (AddressSpace.validate_eq_ok_iff.mp checked) writes
  refine ⟨two, (grown increments).trans ?_⟩
  rw [first, two]
  rfl

end UpdateRun

end GuestMachine
