import GuestMachine.Proofs.A64.RegisterPlaces
import GuestMachine.Proofs.Kernel.ServiceCalls

/-! # How supervisor calls are answered

A call is a kernel operation and one of a few ways to tell the guest what came
of it. So what a call does to the guest's registers can be said for these few
ways, whatever the operation.
-/

namespace GuestMachine

open A64

/-- What the guest is told about a call. -/
inductive Answer where
  /-- The operation succeeded. -/
  | done
  /-- It succeeded, and gives a value. -/
  | output (value : UInt64)
  | refused (error : KernelError)
  /-- A number in the place of a result code. -/
  | number (value : UInt64)
  | nothing
  deriving Repr, DecidableEq

/-- A kernel operation, and the way its outcome is told. -/
inductive Reply where
  | status (action : KernelM Unit)
  | value (action : KernelM UInt64)
  | number (read : Machine Kernel → UInt64)
  | silent (change : Machine Kernel → Machine Kernel)

/-- What the guest is told, and the machine after the operation. -/
def Reply.run (reply : Reply) (machine : Machine Kernel) : Answer × Machine Kernel :=
  match reply with
  | status action =>
      match action machine with
      | .ok () after => (.done, after)
      | .error e after => (.refused e, after)
  | value action =>
      match action machine with
      | .ok result after => (.output result, after)
      | .error e after => (.refused e, after)
  | number read => (.number (read machine), machine)
  | silent change => (.nothing, change machine)

theorem Reply.eq_value_of_output {reply : Reply} {machine : Machine Kernel} {result : UInt64}
    (given : (reply.run machine).1 = .output result) : ∃ action, reply = .value action := by
  cases reply with
  | value action => exact ⟨action, rfl⟩
  | status action =>
      rw [run] at given
      split at given <;> cases given
  | number read => cases given
  | silent change => cases given

namespace Service

/-- What the thread on `core` asks for, with its arguments in `x`. -/
def reply (core : CoreIndex) (x : RegNum → UInt64) : Service → Reply
  | setHeapSize => .value (resizeHeap core (x 1))
  | queryMemory => .value (do describeMemory (x 0) (x 2); return 0)
  | exitProcess => .silent Machine.exitProcess
  | createThread => .value (do
      let handle ← newThread core (x 1) (x 2) (x 3) (x 4).toUInt32 (x 5).toUInt32.toInt32
      return handle.toUInt64)
  | startThread => .status (start core (x 0).toUInt32)
  | exitThread => .silent (·.mapOs (·.requestSwitch core .exit))
  | sleepThread => .silent fun machine =>
      let request :=
        if (0 : Int64) < (x 0).toInt64 then .sleep (machine.deadlineAfter (x 0)) else .yield
      machine.mapOs (·.requestSwitch core request)
  | getThreadPriority => .value (threadPriority core (x 1).toUInt32)
  | setThreadPriority => .status (changePriority core (x 0).toUInt32 (x 1).toUInt32)
  | getCurrentProcessorNumber => .number fun _ => (UInt32.ofNat core).toUInt64
  | closeHandle => .status (close core (x 0).toUInt32)
  | getSystemTick => .number Machine.counter
  | getProcessId => .value (processNumber core (x 1).toUInt32)
  | getThreadId => .value (threadNumber core (x 1).toUInt32)
  | .break =>
      if (x 0) &&& notificationBit ≠ 0 then .status (pure ())
      else .silent fun machine =>
        (machine.mapOs fun kernel => { kernel with
          breakInfo := some { reason := (x 0), info1 := (x 1), info2 := (x 2) } }).exitProcess
  | outputDebugString => .status (readMessage (x 0) (x 1))
  | getInfo => .value (information core (x 1).toUInt32 (x 2).toUInt32 (x 3))

end Service

/-- What the thread on `core` asks for by number. A number without a service
    stands for an operation that is always refused. -/
def Kernel.reply (core : CoreIndex) (number : UInt32) (x : RegNum → UInt64) : Reply :=
  match Service.ofNumber? number with
  | some service => service.reply core x
  | none => .status (throw (.unknownSyscall number))

namespace Answer

/-- What is left in the registers. -/
def write (answer : Answer) (file : RegisterFile) : RegisterFile :=
  match answer with
  | done => file.setXzr 0 ResultCode.success.raw.toUInt64
  | output value => (file.setXzr 0 ResultCode.success.raw.toUInt64).setXzr 1 value
  | refused e => file.setXzr 0 (ResultCode.ofError e).raw.toUInt64
  | number value => file.setXzr 0 value
  | nothing => file

def tell (answer : Answer) (context : ThreadContext) : ThreadContext :=
  { context with registers := answer.write context.registers }

end Answer

namespace Service

/-- The call does what the reply says, and tells the guest so. -/
def Gives (cpu : Cpu (Machine Kernel)) (reply : Reply) (call : Exec (Machine Kernel) Unit) : Prop :=
  call cpu =
    .ok () { context := (reply.run cpu.env).1.tell cpu.context, env := (reply.run cpu.env).2 }

section

variable {cpu : Cpu (Machine Kernel)}

theorem argument_gives {n : Nat} {reply : Reply} {f : UInt64 → Exec (Machine Kernel) Unit}
    (small : n < 31) (gives : Gives cpu reply (f (cpu.context.registers.xzr (BitVec.ofNat 5 n)))) :
    Gives cpu reply (argument n >>= f) :=
  (Operation.bind_of_ok (run_argument small cpu)).trans gives

theorem answer_gives (action : KernelM Unit) : Gives cpu (.status action) (answer action) := by
  change EStateM.bind (attempt action) _ cpu = _
  rw [EStateM.bind.eq_1, attempt, Reply.run]
  cases action cpu.env <;> rfl

theorem answerWith_gives (action : KernelM UInt64) :
    Gives cpu (.value action) (answerWith action) := by
  change EStateM.bind (attempt action) _ cpu = _
  rw [EStateM.bind.eq_1, attempt, Reply.run]
  cases action cpu.env <;> rfl

end

theorem serve_gives (core : CoreIndex) (service : Service) (cpu : Cpu (Machine Kernel)) :
    Gives cpu (service.reply core cpu.context.registers.xzr) (serve core service) := by
  cases service with
  | setHeapSize => exact argument_gives (by decide) (answerWith_gives _)
  | queryMemory =>
      exact argument_gives (by decide) (argument_gives (by decide) (answerWith_gives _))
  | exitProcess => rfl
  | createThread =>
      refine argument_gives (by decide) (argument_gives (by decide) ?_)
      refine argument_gives (by decide) (argument_gives (by decide) ?_)
      exact argument_gives (by decide) (answerWith_gives _)
  | startThread => exact argument_gives (by decide) (answer_gives _)
  | exitThread => rfl
  | sleepThread => exact argument_gives (by decide) rfl
  | getThreadPriority => exact argument_gives (by decide) (answerWith_gives _)
  | setThreadPriority =>
      exact argument_gives (by decide) (argument_gives (by decide) (answer_gives _))
  | getCurrentProcessorNumber => rfl
  | closeHandle => exact argument_gives (by decide) (answer_gives _)
  | getSystemTick => rfl
  | getProcessId => exact argument_gives (by decide) (answerWith_gives _)
  | getThreadId => exact argument_gives (by decide) (answerWith_gives _)
  | «break» =>
      refine argument_gives (by decide) (argument_gives (by decide) (argument_gives (by decide) ?_))
      simp only [reply, BitVec.ofNat_eq_ofNat]
      split
      · rfl
      · rfl
  | outputDebugString =>
      exact argument_gives (by decide) (argument_gives (by decide) (answer_gives _))
  | getInfo =>
      refine argument_gives (by decide) (argument_gives (by decide) ?_)
      exact argument_gives (by decide) (answerWith_gives _)

end Service

/-- A call by number does what it asks for, and the guest is told so. -/
theorem Kernel.serviceCall_gives (core : CoreIndex) (number : UInt32)
    (cpu : Cpu (Machine Kernel)) :
    Service.Gives cpu (Kernel.reply core number cpu.context.registers.xzr)
      (Kernel.serviceCall core number) := by
  rw [Kernel.serviceCall, Kernel.reply]
  cases Service.ofNumber? number with
  | some service => exact Service.serve_gives core service cpu
  | none => rfl

namespace ResultCode

theorem ofKernel_ne_success (description : UInt32) : ofKernel description ≠ success := by
  intro same
  have lowest : (ofKernel description).raw.toBitVec.getLsbD 0 = true := by
    simp [ofKernel, ofParts]
  rw [same] at lowest
  cases lowest

theorem ofError_eq_ofKernel (e : KernelError) : ∃ description, ofError e = ofKernel description := by
  unfold ofError
  split <;> exact ⟨_, rfl⟩

theorem ofError_ne_success (e : KernelError) : ofError e ≠ success := by
  obtain ⟨description, same⟩ := ofError_eq_ofKernel e
  rw [same]
  exact ofKernel_ne_success description

end ResultCode

namespace Answer

/-- The guest is told a result code. -/
def isCoded : Answer → Bool
  | done | output _ | refused _ => true
  | number _ | nothing => false

/-- The registers of the calling thread before and after it is told agree with
    the convention. -/
structure Follows (answer : Answer) (before after : ThreadContext) : Prop where
  /-- Only general registers are written. -/
  elsewhere : after =
    { before with registers := { before.registers with x := after.registers.x } }
  general : ∀ n : RegNum, 2 ≤ n.toNat → after.registers.xzr n = before.registers.xzr n
  /-- A result code has 32 bits. -/
  code : answer.isCoded → (after.registers.xzr 0).toNat < 2 ^ 32
  success : answer.isCoded → ((after.registers.xzr 0).toUInt32 = 0 ↔ ∀ e, answer ≠ .refused e)
  output : after.registers.xzr 1 ≠ before.registers.xzr 1 →
    answer = .output (after.registers.xzr 1)
  silent : answer = .nothing → after = before

theorem write_general (answer : Answer) (file : RegisterFile) {n : RegNum}
    (above : 2 ≤ n.toNat) : (answer.write file).xzr n = file.xzr n := by
  have first : 0 ≠ n := by
    rintro rfl
    exact absurd above (by decide)
  have second : 1 ≠ n := by
    rintro rfl
    exact absurd above (by decide)
  cases answer <;> simp only [write, RegisterFile.xzr_setXzr, first, second, false_and, if_false]

theorem write_first (answer : Answer) (file : RegisterFile) (coded : answer.isCoded) :
    ∃ code : ResultCode, (answer.write file).xzr 0 = code.raw.toUInt64 ∧
      (code = .success ↔ ∀ e, answer ≠ .refused e) := by
  cases answer with
  | done => exact ⟨.success, by simp [write, RegisterFile.xzr_setXzr], by simp⟩
  | output value => exact ⟨.success, by simp [write, RegisterFile.xzr_setXzr], by simp⟩
  | refused e =>
      exact ⟨.ofError e, by simp [write, RegisterFile.xzr_setXzr],
        by simp [ResultCode.ofError_ne_success]⟩
  | number value => cases coded
  | nothing => cases coded

theorem write_second (answer : Answer) (file : RegisterFile)
    (written : (answer.write file).xzr 1 ≠ file.xzr 1) :
    answer = .output ((answer.write file).xzr 1) := by
  cases answer <;> simp_all [write, RegisterFile.xzr_setXzr]

theorem tell_follows (answer : Answer) (context : ThreadContext) :
    answer.Follows context (answer.tell context) where
  elsewhere := by cases answer <;> rfl
  general n above := answer.write_general context.registers above
  code coded := by
    obtain ⟨code, written, _⟩ := answer.write_first context.registers coded
    change ((answer.write context.registers).xzr 0).toNat < 2 ^ 32
    rw [written, UInt32.toNat_toUInt64]
    exact code.raw.toNat_lt
  success coded := by
    obtain ⟨code, written, succeeds⟩ := answer.write_first context.registers coded
    change ((answer.write context.registers).xzr 0).toUInt32 = 0 ↔ _
    rw [← succeeds, written, UInt32.toUInt32_toUInt64]
    cases code
    simp [ResultCode.success]
  output := answer.write_second context.registers
  silent := by
    rintro rfl
    rfl

end Answer

namespace Service

theorem ofNumber?_number (service : Service) : ofNumber? service.number = some service := by
  cases service <;> decide

theorem number_of_ofNumber? {number : UInt32} {service : Service}
    (found : ofNumber? number = some service) : service.number = number := by
  have same := List.find?_some found
  exact beq_iff_eq.mp same

/-- The services that give a value in `X1`. -/
def hasOutput : Service → Bool
  | setHeapSize | queryMemory | createThread | getThreadPriority | getProcessId | getThreadId
  | getInfo => true
  | _ => false

/-- The calls that tell the guest nothing: those that end it or put it to sleep. -/
def isSilent (x : RegNum → UInt64) : Service → Bool
  | exitProcess | exitThread | sleepThread => true
  | .break => x 0 &&& notificationBit == 0
  | _ => false

theorem hasOutput_of_reply {core : CoreIndex} {x : RegNum → UInt64} {service : Service}
    {action : KernelM UInt64} (valued : service.reply core x = .value action) :
    service.hasOutput := by
  cases service with
  | «break» =>
      rw [reply] at valued
      split at valued <;> cases valued
  | _ => first | rfl | cases valued

theorem run_reply_of_isSilent {core : CoreIndex} {x : RegNum → UInt64} {service : Service}
    (silent : service.isSilent x) (machine : Machine Kernel) :
    ((service.reply core x).run machine).1 = .nothing := by
  cases service with
  | exitProcess => rfl
  | exitThread => rfl
  | sleepThread => rfl
  | «break» =>
      have fatal : ¬ x 0 &&& notificationBit ≠ 0 := not_not_intro (beq_iff_eq.mp silent)
      rw [reply, if_neg fatal]
      rfl
  | _ => cases silent

end Service

/-- Whatever the kernel, the core, the number and the registers, a call never
    fails the core, and the registers get out of it what the convention says. -/
theorem Kernel.serviceCall_follows_convention (core : CoreIndex) (number : UInt32)
    (cpu : Cpu (Machine Kernel)) :
    ∃ context,
      Kernel.serviceCall core number cpu =
        .ok () { context
                 env := ((Kernel.reply core number cpu.context.registers.xzr).run cpu.env).2 } ∧
      ((Kernel.reply core number cpu.context.registers.xzr).run cpu.env).1.Follows
        cpu.context context ∧
      (context.registers.xzr 1 ≠ cpu.context.registers.xzr 1 →
        ∃ service : Service, service.number = number ∧ service.hasOutput) ∧
      ∀ service : Service, service.number = number →
        service.isSilent cpu.context.registers.xzr → context = cpu.context := by
  have follows := ((Kernel.reply core number cpu.context.registers.xzr).run cpu.env).1.tell_follows
    cpu.context
  refine ⟨_, Kernel.serviceCall_gives core number cpu, follows, ?_, ?_⟩
  · intro changed
    have given := follows.output changed
    rw [Kernel.reply] at given
    cases found : Service.ofNumber? number with
    | some service =>
        rw [found] at given
        obtain ⟨action, valued⟩ := Reply.eq_value_of_output given
        exact ⟨service, Service.number_of_ofNumber? found, Service.hasOutput_of_reply valued⟩
    | none =>
        rw [found] at given
        cases given
  · rintro service rfl silent
    apply follows.silent
    rw [Kernel.reply, service.ofNumber?_number]
    exact Service.run_reply_of_isSilent silent cpu.env

end GuestMachine
