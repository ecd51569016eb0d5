import GuestMachine.Cpu.Core
import GuestMachine.Proofs.Translator.RunInvariants

/-! # Halt requests

A halt line collects requests until its core takes all of them at once. The
hooks of a core add to what is pending and take nothing back; only the end of a
burst does, and it may ask again for what has to wait.
-/

namespace GuestMachine

open A64

namespace HaltReason

/-- Several requests in one word. -/
def bits (reasons : List HaltReason) : UInt32 :=
  reasons.foldr (fun reason rest => reason.bit ||| rest) 0

/-- The reason is one of those that the bits stand for. -/
def Among (reason : HaltReason) (bits : UInt32) : Prop :=
  bits &&& reason.bit ≠ 0

instance (reason : HaltReason) (bits : UInt32) : Decidable (reason.Among bits) :=
  inferInstanceAs (Decidable (_ ≠ _))

/-- Nothing but reasons to halt was ever requested here. -/
def Known (requested : UInt32) : Prop :=
  ∃ reasons, requested = bits reasons

theorem bits_append (first second : List HaltReason) :
    bits (first ++ second) = bits first ||| bits second := by
  induction first with
  | nil => exact UInt32.zero_or.symm
  | cons reason rest ih =>
      change reason.bit ||| bits (rest ++ second) = _
      rw [ih, ← UInt32.or_assoc]
      rfl

theorem bits_singleton (reason : HaltReason) : bits [reason] = reason.bit :=
  UInt32.or_zero

/-- Only which reasons there are matters, not how often or in which order. -/
theorem bits_eq (reasons : List HaltReason) :
    bits reasons = (if breakLoop ∈ reasons then breakLoop.bit else 0) |||
      (if supervisorCall ∈ reasons then supervisorCall.bit else 0) |||
      (if stopped ∈ reasons then stopped.bit else 0) := by
  induction reasons with
  | nil => rfl
  | cons reason rest ih =>
      change reason.bit ||| bits rest = _
      rw [ih]
      simp only [List.mem_cons]
      by_cases a : breakLoop ∈ rest <;> by_cases b : supervisorCall ∈ rest <;>
        by_cases c : stopped ∈ rest <;> cases reason <;> simp only [a, b, c] <;> decide

theorem among_bits (reason : HaltReason) (reasons : List HaltReason) :
    reason.Among (bits reasons) ↔ reason ∈ reasons := by
  rw [Among, bits_eq]
  by_cases a : breakLoop ∈ reasons <;> by_cases b : supervisorCall ∈ reasons <;>
    by_cases c : stopped ∈ reasons <;> cases reason <;> simp only [a, b, c] <;> decide

theorem among_bit (reason other : HaltReason) : reason.Among other.bit ↔ reason = other := by
  rw [← bits_singleton, among_bits, List.mem_singleton]

namespace Known

variable {first second : UInt32}

theorem zero : Known 0 :=
  ⟨[], rfl⟩

theorem bit (reason : HaltReason) : Known reason.bit :=
  ⟨[reason], (bits_singleton reason).symm⟩

theorem or (known : Known first) (known' : Known second) : Known (first ||| second) := by
  obtain ⟨reasons, rfl⟩ := known
  obtain ⟨reasons', rfl⟩ := known'
  exact ⟨reasons ++ reasons', (bits_append reasons reasons').symm⟩

theorem among_or (known : Known first) (known' : Known second) (reason : HaltReason) :
    reason.Among (first ||| second) ↔ reason.Among first ∨ reason.Among second := by
  obtain ⟨reasons, rfl⟩ := known
  obtain ⟨reasons', rfl⟩ := known'
  rw [← bits_append, among_bits, among_bits, among_bits, List.mem_append]

/-- What is made of requests: a stop before a supervisor call before a break, and
    only a break is asked for again. -/
theorem ofBits_eq (known : Known first) (requested : first ≠ 0) :
    ofBits first = .ok
      (if stopped.Among first then (stopped, 0)
        else if supervisorCall.Among first then
          (supervisorCall, if breakLoop.Among first then breakLoop.bit else 0)
        else (breakLoop, 0)) := by
  obtain ⟨reasons, rfl⟩ := known
  simp only [among_bits]
  revert requested
  rw [bits_eq]
  by_cases a : breakLoop ∈ reasons <;> by_cases b : supervisorCall ∈ reasons <;>
    by_cases c : stopped ∈ reasons <;> simp only [a, b, c] <;>
    first | exact fun _ => rfl | exact fun requested => absurd rfl requested

theorem among_of_ne_zero (known : Known first) (requested : first ≠ 0) :
    ∃ reason : HaltReason, reason.Among first := by
  obtain ⟨reasons, rfl⟩ := known
  cases reasons with
  | nil => exact absurd rfl requested
  | cons reason rest => exact ⟨reason, (among_bits reason _).mpr List.mem_cons_self⟩

end Known

theorem Among.ne_zero {reason : HaltReason} {bits : UInt32} (among : reason.Among bits) :
    bits ≠ 0 := by
  rintro rfl
  exact among UInt32.zero_and

end HaltReason

theorem HaltLines.length_request (lines : HaltLines) (line : Nat) (bits : UInt32) :
    (lines.request line bits).bits.length = lines.bits.length :=
  List.length_modify ..

theorem HaltLines.pending_request (lines : HaltLines) (line : Nat) (bits : UInt32) (line' : Nat) :
    (lines.request line bits).pending line' =
      if line' = line ∧ line < lines.bits.length then lines.pending line' ||| bits
      else lines.pending line' := by
  simp only [pending, request, List.getElem?_modify]
  by_cases same : line' = line
  · subst same
    by_cases known : line' < lines.bits.length
    · simp [known]
    · simp [known]
  · simp [same, Ne.symm same]

theorem HaltLines.pending_take (lines : HaltLines) (line line' : Nat) :
    (lines.take line).2.pending line' = if line' = line then 0 else lines.pending line' := by
  simp only [pending, take, List.getElem?_set]
  by_cases same : line' = line
  · subst same
    by_cases known : line' < lines.bits.length
    · simp [known]
    · simp [known]
  · simp [same, Ne.symm same]

theorem HaltLines.length_take (lines : HaltLines) (line : Nat) :
    (lines.take line).2.bits.length = lines.bits.length :=
  List.length_set

theorem HaltLines.pending_request_take {lines : HaltLines} {line : Nat}
    (within : line < lines.bits.length) (again : UInt32) :
    ((lines.take line).2.request line again).pending line = again := by
  rw [pending_request, length_take, if_pos ⟨rfl, within⟩, pending_take, if_pos rfl, UInt32.zero_or]

/-- No request on this line is gone, and what is new was requested. -/
def Machine.Asks (line : Nat) (before after : Machine κ) : Prop :=
  (line < before.board.halts.bits.length → line < after.board.halts.bits.length) ∧
    ∃ asked, HaltReason.Known asked ∧
      after.board.halts.pending line = before.board.halts.pending line ||| asked

namespace Machine.Asks

theorem trans {line : Nat} {first second third : Machine κ} (step : Asks line first second)
    (next : Asks line second third) : Asks line first third := by
  obtain ⟨within, asked, known, pending⟩ := step
  obtain ⟨within', more, known', pending'⟩ := next
  exact ⟨within' ∘ within, asked ||| more, known.or known',
    by rw [pending', pending, UInt32.or_assoc]⟩

end Machine.Asks

/-- Halt requests are added at most. -/
structure HaltLines.Grow (before after : HaltLines) : Prop where
  lines : after.bits.length = before.bits.length
  asked : ∀ line, ∃ asked, HaltReason.Known asked ∧
    after.pending line = before.pending line ||| asked

namespace HaltLines.Grow

theorem refl (lines : HaltLines) : lines.Grow lines :=
  ⟨rfl, fun _ => ⟨0, .zero, UInt32.or_zero.symm⟩⟩

theorem trans {first second third : HaltLines} (step : first.Grow second)
    (next : second.Grow third) : first.Grow third := by
  refine ⟨next.lines.trans step.lines, fun line => ?_⟩
  obtain ⟨asked, known, pending⟩ := step.asked line
  obtain ⟨more, known', pending'⟩ := next.asked line
  exact ⟨asked ||| more, known.or known', by rw [pending', pending, UInt32.or_assoc]⟩

theorem asks {before after : Machine κ} (grow : before.board.halts.Grow after.board.halts)
    (line : Nat) : Machine.Asks line before after :=
  ⟨fun within => grow.lines ▸ within, grow.asked line⟩

theorem pending {before after : HaltLines} (grow : before.Grow after) (line : Nat) :
    before.pending line ||| after.pending line = after.pending line := by
  obtain ⟨asked, _, pending⟩ := grow.asked line
  rw [pending, ← UInt32.or_assoc, UInt32.or_self]

theorem request (lines : HaltLines) (line : Nat) (reason : HaltReason) :
    lines.Grow (lines.request line reason.bit) := by
  refine ⟨length_request .., fun line' => ?_⟩
  rw [pending_request]
  split
  · exact ⟨reason.bit, .bit reason, rfl⟩
  · exact ⟨0, .zero, UInt32.or_zero.symm⟩

/-- Looking for a halt request changes nothing if there is none. -/
theorem take {lines : HaltLines} {line : Nat} (idle : (lines.take line).1 = 0) :
    lines.Grow (lines.take line).2 := by
  refine ⟨length_take .., fun line' => ⟨0, .zero, ?_⟩⟩
  rw [pending_take, UInt32.or_zero]
  split
  · rename_i same
    change lines.pending line = 0 at idle
    rw [same, idle]
  · rfl

end HaltLines.Grow

/-- The operating system is the same, and halt requests are added at most. -/
structure Machine.Continues (before after : Machine κ) : Prop
    extends HaltLines.Grow before.board.halts after.board.halts where
  os : after.os = before.os

namespace Board

theorem halts_storeThrough (board : Board) (handle : Option MonitorHandle)
    (guarded : ExclusiveMonitor → Bool × AddressSpace × ExclusiveMonitor)
    (direct : Bool × AddressSpace) :
    (board.storeThrough handle guarded direct).2.halts = board.halts := by
  rw [storeThrough]
  split <;> rfl

theorem halts_externalStore (board : Board) (handle : Option MonitorHandle) (addr : Address)
    (data : List UInt8) : (board.externalStore handle addr data).2.halts = board.halts := by
  rw [externalStore]
  dsimp only
  split
  · exact halts_storeThrough ..
  · exact halts_storeThrough ..

theorem halts_coreStore (board : Board) (core : CoreIndex) (handle : Option MonitorHandle)
    (w : Width) (addr : Address) (value : BitVec w.bits) :
    (board.coreStore core handle w addr value).2.halts = board.halts := by
  rw [coreStore]
  dsimp only
  split
  · exact halts_storeThrough ..
  · exact halts_storeThrough ..

theorem halts_coreExclusiveRead (board : Board) (core : CoreIndex) (handle : Option MonitorHandle)
    (w : Width) (addr : Address) :
    (board.coreExclusiveRead core handle w addr).2.halts = board.halts := by
  rw [coreExclusiveRead]
  split <;> rfl

theorem halts_coreExclusiveWrite (board : Board) (core : CoreIndex) (handle : Option MonitorHandle)
    (w : Width) (addr : Address) (value : BitVec w.bits) :
    (board.coreExclusiveWrite core handle w addr value).2.halts = board.halts := by
  rw [coreExclusiveWrite]
  split
  · dsimp only
    split <;> rfl
  · rfl

theorem halts_clearExclusive (board : Board) (core : CoreIndex) (handle : Option MonitorHandle) :
    (board.clearExclusive core handle).halts = board.halts := by
  rw [clearExclusive]
  split <;> rfl

end Board

theorem Board.halts_atBlockBoundary (board : Board) (line : Nat) :
    (board.atBlockBoundary line).halts =
      if (board.clock.pass blockTicks).takePreemption.1 then
        board.halts.request line HaltReason.breakLoop.bit
      else board.halts := by
  rw [atBlockBoundary]
  dsimp only
  split <;> rfl

namespace Core

variable {core : Core} {os : OperatingSystem κ} {inv : Machine κ → Prop}

/-- What a callback can do to the board, supervisor calls apart. Requests are taken
    where there are none. -/
inductive Does (core : Core) (board : Board) : Board → Prop where
  | nothing : Does core board board
  | store (w : Width) (addr : Address) (value : BitVec w.bits) :
      Does core board (board.coreStore core.index core.monitor w addr value).2
  | exclusiveRead (w : Width) (addr : Address) :
      Does core board (board.coreExclusiveRead core.index core.monitor w addr).2
  | exclusiveWrite (w : Width) (addr : Address) (value : BitVec w.bits) :
      Does core board (board.coreExclusiveWrite core.index core.monitor w addr value).2
  | clearExclusive : Does core board (board.clearExclusive core.index core.monitor)
  | request (reason : HaltReason) : Does core board (board.requestHalt core.line reason.bit)
  | boundary : Does core board (board.atBlockBoundary core.line)
  | drain : Does core board (board.takeInvalidations core.index).2
  | look (idle : (board.takeHalts core.line).1 = 0) : Does core board (board.takeHalts core.line).2

theorem Does.grow {board after : Board} (does : core.Does board after) :
    board.halts.Grow after.halts := by
  cases does with
  | nothing => exact .refl _
  | store => exact Board.halts_coreStore .. ▸ .refl _
  | exclusiveRead => exact Board.halts_coreExclusiveRead .. ▸ .refl _
  | exclusiveWrite => exact Board.halts_coreExclusiveWrite .. ▸ .refl _
  | clearExclusive => exact Board.halts_clearExclusive .. ▸ .refl _
  | request reason => exact .request _ core.line reason
  | boundary =>
      rw [Board.halts_atBlockBoundary]
      split
      · exact .request _ core.line .breakLoop
      · exact .refl _
  | drain => exact .refl _
  | look idle => exact .take idle

theorem Does.continues {machine : Machine κ} {board : Board}
    (does : core.Does machine.board board) : Machine.Continues machine { machine with board } :=
  ⟨does.grow, rfl⟩

theorem environment_preserves
    (steps : ∀ machine board, core.Does machine.board board → inv machine →
      inv { machine with board })
    (calls : ∀ number cpu, inv cpu.env →
      inv (outcomeState ((core.environment os).callSupervisor number cpu)).env) :
    (core.environment os).PreservesUntilHalt inv where
  read _ _ _ holds := holds
  write w addr value machine holds := steps machine _ (.store w addr value) holds
  exclusiveRead w pc addr machine holds := by
    simp only [environment]
    split
    · exact holds
    · exact steps machine _ (.exclusiveRead w addr) holds
  exclusiveWrite w pc addr value machine holds := by
    simp only [environment]
    split
    · exact holds
    · exact steps machine _ (.exclusiveWrite w addr value) holds
  clearExclusive machine holds := steps machine _ .clearExclusive holds
  raise pc event machine holds := by
    cases event with
    | yield => exact steps machine _ (.request .breakLoop) holds
    | waitForEvent => exact steps machine _ (.request .breakLoop) holds
    | _ => exact holds
  dataCache _ _ _ _ holds := holds
  instructionCache _ _ _ _ holds := holds
  instructionBarrier _ _ holds := holds
  fallback _ _ _ holds := holds
  counter _ holds := holds
  readCode _ _ holds := holds
  callSupervisor number cpu holds := calls number cpu holds
  takeInvalidations machine holds := by
    have waited := steps machine _ .boundary holds
    exact steps { machine with board := machine.board.atBlockBoundary core.line } _ .drain waited
  takeHalts machine holds idle := steps machine _ (.look idle) holds

/-- A supervisor call is a service call, and then asks the core to halt. -/
theorem callSupervisor_steps {related : Machine κ → Machine κ → Prop}
    (trans : ∀ s t u, related s t → related t u → related s u)
    (request : ∀ machine, related machine
      (machine.mapBoard (·.requestHalt core.line HaltReason.supervisorCall.bit)))
    {number : UInt32} (service : Exec.Steps related (os.serviceCall core.index number)) :
    Exec.Steps related ((core.environment os).callSupervisor number) :=
  service.bind trans fun _ => .hook request

/-- A run that reports halt requests took them from this state; any other left the
    state as it is. -/
def TookFrom (core : Core) (before : Machine κ) : RunResult → (after : Machine κ) → Prop
  | .halted bits, after => before.onBoard (·.takeHalts core.line) = (bits, after)
  | _, after => after = before

/-- The state before a burst took its halt requests, if it did, what there was to
    take and what is pending again. -/
structure EndsFrom (core : Core) (before : Machine κ) (result : BurstResult) (core' : Core)
    (after : Machine κ) : Prop where
  index : core'.index = core.index
  line : core'.line = core.line
  os : after.os = before.os
  lines : after.board.halts.bits.length = before.board.halts.bits.length
  manager : after.board.manager = before.board.manager
  reason : ∀ reason, result = .halted reason → ∃ again,
    HaltReason.ofBits (before.board.halts.pending core.line) = .ok (reason, again) ∧
      (core.line < before.board.halts.bits.length → after.board.halts.pending core.line = again)
  paused : result = .outOfRounds → after = before
  /-- The core goes on only if it has nothing to stop for. -/
  idle : core'.state = .idle ↔
    core.state = .idle ∧ result ≠ .halted .stopped ∧ ∀ error, result ≠ .faulted error

theorem finish_endsFrom (core : Core) {before after : Machine κ} {result : RunResult}
    (ended : core.TookFrom before result after) :
    core.EndsFrom before (core.finish after result).1 (core.finish after result).2.1
      (core.finish after result).2.2 := by
  cases result with
  | outOfRounds =>
      cases ended
      exact ⟨rfl, rfl, rfl, rfl, rfl, nofun, fun _ => rfl, by simp [finish]⟩
  | faulted error =>
      cases ended
      exact ⟨rfl, rfl, rfl, rfl, rfl, nofun, nofun, by simp [finish]⟩
  | halted bits =>
      cases ended
      have taken : (before.onBoard (·.takeHalts core.line)).2.board.halts.bits.length =
          before.board.halts.bits.length := HaltLines.length_take ..
      rw [finish]
      dsimp only
      split
      · exact ⟨rfl, rfl, rfl, taken, rfl, nofun, nofun, by simp⟩
      · rename_i reason again named
        refine ⟨rfl, rfl, rfl, (HaltLines.length_request ..).trans taken, rfl, ?_, nofun, ?_⟩
        · intro _ same
          cases same
          exact ⟨again, named, fun within => HaltLines.pending_request_take within again⟩
        · by_cases stopped : reason = .stopped <;> simp [stopped]

theorem finish_context (core : Core) (machine : Machine κ) (result : RunResult) :
    (core.finish machine result).2.1.context = core.context := by
  cases result with
  | halted bits =>
      rw [finish]
      dsimp only
      split <;> rfl
  | _ => rfl

/-- Requests that were taken end a burst with a halt and not with a fault. -/
theorem finish_of_known {bits : UInt32} (known : HaltReason.Known bits) (requested : bits ≠ 0)
    (core : Core) (machine : Machine κ) :
    ∃ reason, (core.finish machine (.halted bits)).1 = .halted reason := by
  simp only [finish, known.ofBits_eq requested]
  exact ⟨_, rfl⟩

/-- What a core reports of the requests that it took from its line, and what it
    asks for again. -/
inductive Answers (line : Nat) (taken : UInt32) : BurstResult → Core → Machine κ → Prop where
  | stop {core : Core} {after : Machine κ} (asked : HaltReason.stopped.Among taken) :
      Answers line taken (.halted .stopped) core after
  | call {core : Core} {after : Machine κ} (other : ¬ HaltReason.stopped.Among taken)
      (asked : HaltReason.supervisorCall.Among taken) (idle : core.state = .idle)
      (again : after.board.halts.pending line =
        if HaltReason.breakLoop.Among taken then HaltReason.breakLoop.bit else 0) :
      Answers line taken (.halted .supervisorCall) core after
  | break {core : Core} {after : Machine κ} (other : ¬ HaltReason.stopped.Among taken)
      (again : after.board.halts.pending line = 0) :
      Answers line taken (.halted .breakLoop) core after

theorem EndsFrom.answers {before after : Machine κ} {result : BurstResult} {core' : Core}
    {reason : HaltReason} (ended : core.EndsFrom before result core' after)
    (idle : core.state = .idle) (within : core.line < before.board.halts.bits.length)
    (known : HaltReason.Known (before.board.halts.pending core.line))
    (halted : result = .halted reason) :
    Answers core.line (before.board.halts.pending core.line) result core' after := by
  obtain ⟨again, named, left⟩ := ended.reason reason halted
  have left := left within
  have requested : before.board.halts.pending core.line ≠ 0 := by
    intro none
    rw [none] at named
    cases named
  have state := ended.idle.mpr
  subst halted
  rw [known.ofBits_eq requested] at named
  split at named
  · rename_i stopped
    cases named
    exact .stop stopped
  · rename_i other
    split at named
    · rename_i called
      cases named
      exact .call other called (state ⟨idle, nofun, nofun⟩) left
    · cases named
      exact .break other left

end Core

end GuestMachine
