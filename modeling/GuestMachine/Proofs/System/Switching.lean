import GuestMachine.Proofs.System.Occupancy
import GuestMachine.System.Console

/-! # Thread switching

A console is watched while its cores take steps in any order and its host goes
about its business. Whatever other threads ran in between, and wherever, a
thread goes on with the registers that its last burst ended with. What became
of memory in the meantime is not covered.
-/

namespace GuestMachine

open Kernel

/-- The registers with which a thread should start its next burst, with the past
    bursts on record, the last one first. -/
def nextStart? (initial : ThreadId → Option ThreadContext) :
    (past : List Burst) → ThreadId → Option ThreadContext
  | [], id => initial id
  | burst :: past, id =>
      if burst.thread = id then some burst.finish else nextStart? initial past id

/-- Each burst starts with the registers that its thread's burst before ended
    with, or if it is the first one with the initial registers. -/
def Lossless (initial : ThreadId → Option ThreadContext) (bursts : List Burst) : Prop :=
  ∀ later burst past, bursts = later ++ burst :: past →
    nextStart? initial past burst.thread = some burst.start

section

variable {initial initial' : ThreadId → Option ThreadContext} {bursts : List Burst} {burst : Burst}
  {id : ThreadId} {start : ThreadContext}

/-- More threads with initial registers do not change the others. -/
theorem nextStart?_mono (more : ∀ id context, initial id = some context → initial' id = some context)
    (known : nextStart? initial bursts id = some start) :
    nextStart? initial' bursts id = some start := by
  induction bursts with
  | nil => exact more id start known
  | cons burst past ih =>
      rw [nextStart?] at known ⊢
      split
      · rename_i same
        rwa [if_pos same] at known
      · rename_i other
        rw [if_neg other] at known
        exact ih known

/-- A thread that has nothing on record starts with its initial registers. -/
theorem nextStart?_of_none (unknown : nextStart? initial bursts id = none) :
    initial id = none ∧ nextStart? initial' bursts id = initial' id := by
  induction bursts with
  | nil => exact ⟨unknown, rfl⟩
  | cons burst past ih =>
      rw [nextStart?] at unknown ⊢
      split at unknown
      · cases unknown
      · rename_i other
        rw [if_neg other]
        exact ih unknown

theorem Lossless.mono (lossless : Lossless initial bursts)
    (more : ∀ id context, initial id = some context → initial' id = some context) :
    Lossless initial' bursts :=
  fun later burst past split => nextStart?_mono more (lossless later burst past split)

theorem Lossless.cons (lossless : Lossless initial bursts)
    (start : nextStart? initial bursts burst.thread = some burst.start) :
    Lossless initial (burst :: bursts) := by
  intro later burst' past split
  cases later with
  | nil =>
      cases split
      exact start
  | cons last later =>
      cases split
      exact lossless later burst' past rfl

end

namespace Console

/-- The registers of a thread: on a core if one has it, else as they were
    saved. -/
inductive Holds (console : Console) (id : ThreadId) : ThreadContext → Prop where
  | onCore {core : Core} (member : core ∈ console.cores)
      (occupied : console.machine.os.currentId? core.index = some id) :
      Holds console id core.context
  | saved {context : ThreadContext} (off : ∀ c, console.machine.os.currentId? c ≠ some id)
      (live : console.machine.os.liveContext? id = some context) :
      Holds console id context

/-- From `before` to `after` no registers are lost, with at most one burst in
    between. -/
structure Passes (before : Console) (burst? : Option Burst) (after : Console) : Prop where
  known : ∀ id, after.machine.os.threads.find? id = none → before.machine.os.threads.find? id = none
  starts : ∀ burst ∈ burst?, before.Holds burst.thread burst.start
  holds : ∀ id context, after.Holds id context →
    (∃ burst ∈ burst?, burst.thread = id ∧ burst.finish = context) ∨
      ((∀ burst ∈ burst?, burst.thread ≠ id) ∧
        (before.Holds id context ∨ (before.machine.os.threads.find? id = none ∧
          after.machine.os.liveContext? id = some context)))

end Console

/-- A console under watch. -/
structure Watch where
  console : Console
  /-- The bursts so far, the last one first. -/
  bursts : List Burst := []
  /-- The registers that each thread was first seen with. -/
  initial : ThreadId → Option ThreadContext := fun _ => none

namespace Watch

/-- Have a look at what has become of the console, after at most one burst. -/
def note (watch : Watch) (burst? : Option Burst) (console : Console) : Watch :=
  { console
    bursts := burst?.toList ++ watch.bursts
    initial := fun id =>
      (watch.initial id).or ((console.machine.os.threads.get? id).map GuestThread.context) }

/-- What was seen accounts for all registers. -/
structure Recalls (watch : Watch) : Prop where
  holds : ∀ id context, watch.console.Holds id context →
    nextStart? watch.initial watch.bursts id = some context
  known : ∀ id, watch.console.machine.os.threads.find? id = none →
    nextStart? watch.initial watch.bursts id = none
  lossless : Lossless watch.initial watch.bursts

variable {watch : Watch} {burst? : Option Burst} {console : Console}

theorem initial_note {id : ThreadId} {context : ThreadContext}
    (known : watch.initial id = some context) :
    (watch.note burst? console).initial id = some context := by
  change (watch.initial id).or _ = _
  rw [known, Option.some_or]

theorem nextStart?_note {id : ThreadId} (other : ∀ burst ∈ burst?, burst.thread ≠ id) :
    nextStart? (watch.note burst? console).initial (watch.note burst? console).bursts id =
      nextStart? (watch.note burst? console).initial watch.bursts id := by
  cases burst? with
  | none => rfl
  | some burst => exact if_neg (other burst rfl)

theorem Recalls.note (recalls : watch.Recalls) (passes : watch.console.Passes burst? console) :
    (watch.note burst? console).Recalls where
  holds id context holds := by
    rcases passes.holds id context holds with ⟨burst, rfl, rfl, rfl⟩ | ⟨other, kept | ⟨unknown, live⟩⟩
    · exact if_pos rfl
    · rw [nextStart?_note other]
      exact nextStart?_mono (fun _ _ => initial_note) (recalls.holds id context kept)
    · obtain ⟨thread, listed, live⟩ := Option.bind_eq_some_iff.mp live
      obtain ⟨fresh, first⟩ := nextStart?_of_none (recalls.known id unknown)
      rw [nextStart?_note other, first]
      change (watch.initial id).or ((console.machine.os.threads.get? id).map _) = _
      rw [fresh, listed, Option.none_or, Option.map_some]
      split at live
      · cases live
      · exact live
  known id unknown := by
    have before := recalls.known id (passes.known id unknown)
    have other (burst : Burst) (ran : burst ∈ burst?) : burst.thread ≠ id := by
      rintro rfl
      cases before.symm.trans (recalls.holds _ _ (passes.starts burst ran))
    obtain ⟨fresh, first⟩ := nextStart?_of_none before
    rw [nextStart?_note other, first]
    change (watch.initial id).or ((console.machine.os.threads.get? id).map _) = _
    change console.machine.os.threads.find? id = none at unknown
    rw [fresh, ObjectTable.get?_eq_ite, unknown, ite_self]
    rfl
  lossless := by
    have kept : Lossless (watch.note burst? console).initial watch.bursts :=
      recalls.lossless.mono fun _ _ => initial_note
    cases burst? with
    | none => exact kept
    | some burst =>
        have starts := recalls.holds _ _ (passes.starts burst rfl)
        exact kept.cons (nextStart?_mono (fun _ _ => initial_note) starts)

end Watch

namespace Console

/-- The cores have numbers of their own, and a halt line each. -/
structure Wired (console : Console) : Prop where
  apart : (console.cores.map Core.index).Nodup
  small : ∀ core ∈ console.cores, core.index < maxCores
  within : ∀ core ∈ console.cores, core.line < console.machine.board.halts.bits.length

/-- No core has been stopped. -/
def Idle (console : Console) : Prop :=
  ∀ core ∈ console.cores, core.state = .idle

variable {console after : Console} {place : Nat} {core core' : Core} {machine' : Machine Kernel}
  {burst : Burst}

theorem passes_of_spared {c : CoreIndex} (cores : after.cores = console.cores)
    (spared : Spared c console.machine.os after.machine.os) : console.Passes none after where
  known := spared.known
  starts _ absent := nomatch absent
  holds id context holds := by
    refine .inr ⟨nofun, ?_⟩
    have current (c : CoreIndex) :
        after.machine.os.currentId? c = console.machine.os.currentId? c := by
      rw [currentId?, spared.current]
      rfl
    cases holds with
    | onCore member occupied =>
        rw [cores] at member
        rw [current] at occupied
        exact .inl (.onCore member occupied)
    | saved off live =>
        rcases spared.contexts id context live with kept | unknown
        · refine .inl (.saved (fun c => ?_) kept)
          rw [← current]
          exact off c
        · exact .inr ⟨unknown, live⟩

/-- The console after something was done to its kernel. -/
def take (console : Console) (step : KernelStep) : Console :=
  { console with machine := step.perform console.machine }

/-- The console after a step of the core at `place`. -/
def withCore (console : Console) (place : Nat) (core : Core) (machine : Machine Kernel) : Console :=
  { console with cores := console.cores.set place core, machine }

theorem map_index_withCore (found : console.cores[place]? = some core)
    (index : core'.index = core.index) :
    (console.withCore place core' machine').cores.map Core.index = console.cores.map Core.index := by
  obtain ⟨within, rfl⟩ := List.getElem?_eq_some_iff.mp found
  have known : place < (console.cores.map Core.index).length := by rwa [List.length_map]
  have same : (console.cores.map Core.index)[place] = core'.index := by rw [List.getElem_map, index]
  rw [withCore, List.map_set, ← same, List.set_getElem_self known]

theorem Wired.withCore (wired : console.Wired) (found : console.cores[place]? = some core)
    (persists : core.Persists console.machine core' machine') :
    (console.withCore place core' machine').Wired := by
  have known := List.mem_of_getElem? found
  refine ⟨?_, fun other member => ?_, fun other member => ?_⟩
  · rw [map_index_withCore found persists.index]
    exact wired.apart
  · rcases List.mem_or_eq_of_mem_set member with member | rfl
    · exact wired.small other member
    · rw [persists.index]
      exact wired.small core known
  · change other.line < machine'.board.halts.bits.length
    rw [persists.lines]
    rcases List.mem_or_eq_of_mem_set member with member | rfl
    · exact wired.within other member
    · rw [persists.line]
      exact wired.within core known

theorem passes_of_ran (wired : console.Wired) (orderly : console.machine.os.Orderly)
    (found : console.cores[place]? = some core) (index : core'.index = core.index)
    (ran : core.Ran burst console.machine.os machine'.os) (finish : burst.finish = core'.context) :
    console.Passes (some burst) (console.withCore place core' machine') where
  known := ran.known
  starts _ same := by
    cases same
    rcases ran.starts with ⟨occupied, registers⟩ | ⟨_, off, live⟩
    · rw [registers]
      exact .onCore (List.mem_of_getElem? found) occupied
    · exact .saved off live
  holds id context holds := by
    obtain ⟨known, _⟩ := List.getElem?_eq_some_iff.mp found
    have apart : ((console.withCore place core' machine').cores.map Core.index).Nodup := by
      rw [map_index_withCore found index]
      exact wired.apart
    cases holds with
    | @onCore other member occupied =>
        by_cases here : other.index = core.index
        · have same : other = core' :=
            List.inj_on_of_nodup_map apart member (List.mem_set known core') (here.trans index.symm)
          rw [here] at occupied
          rw [same]
          exact .inl ⟨burst, rfl, (ran.own id occupied).symm, finish⟩
        · have before : console.machine.os.currentId? other.index = some id := by
            rw [← ran.others other.index here]
            exact occupied
          refine .inr ⟨?_, .inl (.onCore ?_ before)⟩
          · rintro _ ⟨⟩ rfl
            rcases ran.starts with ⟨current, _⟩ | ⟨_, off, _⟩
            · exact here (orderly.core_unique current before)
            · exact off _ before
          · rcases List.mem_or_eq_of_mem_set member with member | rfl
            · exact member
            · exact absurd index here
    | saved off live =>
        rcases ran.contexts id context live (off core.index) with ⟨rfl, rfl⟩ | ⟨other, kept⟩
        · exact .inl ⟨burst, rfl, rfl, rfl⟩
        · refine .inr ⟨?_, ?_⟩
          · rintro _ ⟨⟩ rfl
            exact other rfl
          · rcases kept with kept | unknown
            · refine .inl (.saved (fun c => ?_) kept)
              by_cases here : c = core.index
              · rw [here]
                rcases ran.starts with ⟨current, _⟩ | ⟨free, _⟩
                · rw [current]
                  exact fun same => other (Option.some.inj same).symm
                · rw [free]
                  nofun
              · rw [← ran.others c here]
                exact off c
            · exact .inr ⟨unknown, live⟩

end Console

/-- What can happen to a console while it is watched. -/
inductive ConsoleEvent where
  /-- The core at `place` takes a step. One that is not over in as many rounds
      is not taken. -/
  | step (place rounds : Nat)
  /-- A core is asked to give its thread a rest. -/
  | breakLoop (core : CoreIndex)
  /-- The host creates a thread of the application. -/
  | create (entry : Address) (argument : UInt64) (stackTop : Address) (priority : UInt32)
      (idealCore : Int32)
  /-- The host starts a thread. -/
  | start (id : ThreadId)
  /-- A loader queues the main thread. -/
  | startMain (loader : Loader) (priority : UInt32) (stackSize : UInt64)
  /-- Memory, monitor and clock change. -/
  | adjust (memory : AddressSpace) (manager : CpuManager) (clock : Clock)

namespace ConsoleEvent

/-- What the event makes of a console, and the burst if it comes to one. -/
def perform : ConsoleEvent → Console → Option Burst × Console
  | step place rounds, console =>
      match console.cores[place]? with
      | none => (none, console)
      | some core =>
          match core.step rounds console.machine with
          | (.outOfRounds, _, _) => (none, console)
          | (_, core', machine) =>
              (core.burst? rounds console.machine, console.withCore place core' machine)
  | breakLoop core, console => (none, console.haltCore core .breakLoop)
  | create entry argument stackTop priority idealCore, console =>
      (none, console.take (.create entry argument stackTop priority idealCore))
  | start id, console => (none, console.take (.start id))
  | startMain loader priority stackSize, console =>
      (none, console.take (.startMain loader priority stackSize))
  | adjust memory manager clock, console =>
      (none, console.take (.setBoard { console.machine.board with memory, manager, clock }))

end ConsoleEvent

namespace Console

variable {pid : ProcessId} {console after : Console} {process : GuestProcess}

/-- The kernel's books are in order, and so is who runs where. -/
structure Settled (console : Console) (process : GuestProcess) : Prop where
  consistent : ∀ id, (console.machine.os.threadRecord process id).Consistent
  orderly : console.machine.os.Orderly
  requests : ∀ core, console.machine.os.request? core = none

/-- Thread numbers have not run out. -/
def HasRoom (console : Console) : Prop :=
  console.machine.os.threads.slots.size < 2 ^ 64

/-- What an event does, with at most one burst. What is said of registers
    depends on no core being stopped. -/
structure Proceeds (pid : ProcessId) (console : Console) (burst? : Option Burst) (after : Console) :
    Prop where
  carries : Carries pid console.machine.os after.machine.os
  wired : console.Wired → after.Wired
  idle : after.Idle → console.Idle
  passes : ∀ process, console.machine.os.Hosts pid process → console.Wired →
    console.Settled process → after.Idle → after.HasRoom →
      after.machine.os.Orderly ∧ (∀ core, after.machine.os.request? core = none) ∧
        console.Passes burst? after

/-- The cores are left alone, and nobody is switched. -/
theorem proceeds_of_spares (cores : after.cores = console.cores)
    (lines : after.machine.board.halts.bits.length = console.machine.board.halts.bits.length)
    (carries : Carries pid console.machine.os after.machine.os)
    (spares : Spares pid maxCores console.machine.os after.machine.os) :
    console.Proceeds pid none after where
  carries := carries
  wired wired := by
    constructor
    · rw [cores]
      exact wired.apart
    · rw [cores]
      exact wired.small
    · rw [cores, lines]
      exact wired.within
  idle idle := by
    rwa [Idle, cores] at idle
  passes process hosts _ settled _ room := by
    have spared := spares process hosts room.le
    refine ⟨settled.orderly.of_spared spared, fun core => ?_, passes_of_spared cores spared⟩
    rw [spared.request?]
    exact settled.requests core

theorem idle_of_withCore {place : Nat} {core core' : Core} {machine' : Machine Kernel}
    (found : console.cores[place]? = some core)
    (persists : core.Persists console.machine core' machine')
    (idle : (console.withCore place core' machine').Idle) : console.Idle := by
  intro other member
  obtain ⟨known, _⟩ := List.getElem?_eq_some_iff.mp found
  obtain ⟨place', found'⟩ := List.mem_iff_getElem?.mp member
  by_cases here : place = place'
  · subst here
    cases found.symm.trans found'
    exact persists.idle (idle core' (List.mem_set known core'))
  · refine idle other (List.mem_iff_getElem?.mpr ⟨place', ?_⟩)
    rw [withCore, List.getElem?_set_ne here]
    exact found'

theorem withCore_proceeds {place rounds : Nat} {core core' : Core} {machine' : Machine Kernel}
    {result : StepResult} (found : console.cores[place]? = some core)
    (stepped : core.step rounds console.machine = (result, core', machine'))
    (ended : result ≠ .outOfRounds) :
    console.Proceeds pid (core.burst? rounds console.machine)
      (console.withCore place core' machine') := by
  have carries : Carries pid console.machine.os (core.step rounds console.machine).2.2.os :=
    core.step_carries rounds console.machine
  have persists := core.step_persists rounds console.machine
  rw [stepped] at carries persists
  refine ⟨carries, fun wired => wired.withCore found persists, idle_of_withCore found persists, ?_⟩
  intro process hosts wired settled idle room
  have known := List.mem_of_getElem? found
  obtain ⟨within, same⟩ := List.getElem?_eq_some_iff.mp found
  have idle' : core'.state = .idle := idle core' (List.mem_set within core')
  rcases Core.step_completes hosts settled.consistent settled.orderly settled.requests
    (wired.small core known) (wired.within core known) stepped ended idle' room with
    ⟨burst, rfl, spared⟩ | ⟨thread, start, burst, completes⟩
  · rw [burst]
    refine ⟨settled.orderly.of_spared spared, fun c => ?_, passes_of_spared ?_ spared⟩
    · exact (spared.request? c).trans (settled.requests c)
    · rw [withCore, ← same, List.set_getElem_self]
  · rw [burst]
    exact ⟨completes.orderly, completes.requests,
      passes_of_ran wired settled.orderly found persists.index completes.ran rfl⟩

theorem step_proceeds (pid : ProcessId) (console : Console) (place rounds : Nat) :
    console.Proceeds pid (ConsoleEvent.perform (.step place rounds) console).1
      (ConsoleEvent.perform (.step place rounds) console).2 := by
  have unchanged : console.Proceeds pid none console :=
    proceeds_of_spares rfl rfl (.refl _) (Spared.refl _).spares
  rw [ConsoleEvent.perform]
  split
  · exact unchanged
  · rename_i core found
    split
    · exact unchanged
    · rename_i ended stepped
      exact withCore_proceeds found stepped ended

theorem create_proceeds (pid : ProcessId) (console : Console) (entry : Address) (argument : UInt64)
    (stackTop : Address) (priority : UInt32) (idealCore : Int32) :
    console.Proceeds pid none (console.take (.create entry argument stackTop priority idealCore)) := by
  let step := KernelStep.create entry argument stackTop priority idealCore
  have made : step.perform console.machine = console.machine ∨ ∃ process id made memory,
      console.machine.os.Creates process id made ∧
        step.perform console.machine = { board := { console.machine.board with memory }, os := made } := by
    simp only [step, KernelStep.perform_create]
    split
    · rename_i process _
      split
      · rename_i made memory create
        exact .inr ⟨process, _, made, memory, ⟨_, _, _, _, _, _, _, create⟩, rfl⟩
      · exact .inl rfl
    · exact .inl rfl
  refine proceeds_of_spares rfl ?_ (step.perform_carries _) ?_
  · change (step.perform console.machine).board.halts.bits.length = _
    rcases made with same | ⟨_, _, _, _, _, same⟩
    · rw [same]
    · rw [same]
  · change Spares pid maxCores console.machine.os (step.perform console.machine).os
    rcases made with same | ⟨_, _, _, _, creates, same⟩
    · rw [same]
      exact (Spared.refl _).spares
    · rw [same]
      exact fun _ _ room => (creates.spared room).1

theorem start_proceeds (pid : ProcessId) (console : Console) (id : ThreadId) :
    console.Proceeds pid none (console.take (.start id)) := by
  refine proceeds_of_spares rfl ?_ (KernelStep.perform_carries _ _) ?_
  · simp only [take, KernelStep.perform_start]
    split <;> rfl
  · intro process hosts _
    simp only [take, KernelStep.perform_start]
    split
    · rename_i started
      obtain ⟨thread, found, starts⟩ := exceptBind_eq_ok started
      exact startThread_spared_of_get (hosts.getThread found) starts
    · exact .refl _

theorem startMain_proceeds (pid : ProcessId) (console : Console) (loader : Loader)
    (priority : UInt32) (stackSize : UInt64) :
    console.Proceeds pid none (console.take (.startMain loader priority stackSize)) := by
  refine proceeds_of_spares rfl ?_ (KernelStep.perform_carries _ _) ?_
  · exact congrArg (·.bits.length) (Handoff.startApplication_keepsHalts priority stackSize
      { loader, machine := console.machine })
  · exact (Handoff.startApplication_queued { loader, machine := console.machine } priority
      stackSize).spares

theorem haltCore_proceeds (pid : ProcessId) (console : Console) (core : CoreIndex)
    (reason : HaltReason) : console.Proceeds pid none (console.haltCore core reason) := by
  rw [haltCore]
  split
  · exact proceeds_of_spares rfl (HaltLines.length_request ..) (.refl _) (Spared.refl _).spares
  · exact proceeds_of_spares rfl rfl (.refl _) (Spared.refl _).spares

theorem perform_proceeds (pid : ProcessId) (event : ConsoleEvent) (console : Console) :
    console.Proceeds pid (event.perform console).1 (event.perform console).2 := by
  cases event with
  | step place rounds => exact step_proceeds pid console place rounds
  | breakLoop core => exact haltCore_proceeds pid console core .breakLoop
  | create entry argument stackTop priority idealCore =>
      exact create_proceeds pid console entry argument stackTop priority idealCore
  | start id => exact start_proceeds pid console id
  | startMain loader priority stackSize =>
      exact startMain_proceeds pid console loader priority stackSize
  | adjust memory manager clock =>
      exact proceeds_of_spares rfl rfl (.refl _) fun _ _ _ => .refl _

end Console

namespace Watch

/-- Watch an event. -/
def perform (watch : Watch) (event : ConsoleEvent) : Watch :=
  watch.note (event.perform watch.console).1 (event.perform watch.console).2

def performAll (watch : Watch) (events : List ConsoleEvent) : Watch :=
  events.foldl perform watch

variable {pid : ProcessId} {watch : Watch}

/-- Nothing has been lost as long as no core has been stopped. -/
structure Sound (watch : Watch) (pid : ProcessId) (process : GuestProcess) : Prop where
  hosts : watch.console.machine.os.Hosts pid process
  wired : watch.console.Wired
  settled : watch.console.Idle → watch.console.HasRoom →
    watch.console.Settled process ∧ watch.Recalls

theorem Sound.perform {process : GuestProcess} (sound : watch.Sound pid process)
    (event : ConsoleEvent) : ∃ process', (watch.perform event).Sound pid process' := by
  have proceeds := Console.perform_proceeds pid event watch.console
  obtain ⟨process', carried⟩ := proceeds.carries process sound.hosts
  refine ⟨process', carried.hosts, proceeds.wired sound.wired, fun idle room => ?_⟩
  obtain ⟨settled, recalls⟩ :=
    sound.settled (proceeds.idle idle) (Nat.lt_of_le_of_lt carried.size room)
  obtain ⟨orderly, requests, passes⟩ :=
    proceeds.passes process sound.hosts sound.wired settled idle room
  have consistent (id : ThreadId) := (carried.leads (Nat.le_of_lt room) id (settled.consistent id)).1
  exact ⟨⟨consistent, orderly, requests⟩, recalls.note passes⟩

theorem Sound.performAll {process : GuestProcess} (sound : watch.Sound pid process)
    (events : List ConsoleEvent) : ∃ process', (watch.performAll events).Sound pid process' := by
  induction events generalizing watch process with
  | nil => exact ⟨process, sound⟩
  | cons event rest ih =>
      obtain ⟨process', next⟩ := sound.perform event
      exact ih next

end Watch

namespace Console

theorem createCores_wired {handle : Option MonitorHandle} {maxBlockInstructions : Nat}
    {indices : List CoreIndex} {board board' : Board} {cores : List Core}
    (built : createCores handle maxBlockInstructions indices board = .ok (cores, board')) :
    cores.map Core.index = indices ∧
      board.halts.bits.length ≤ board'.halts.bits.length ∧
      ∀ core ∈ cores, core.index < maxCores ∧ core.line < board'.halts.bits.length := by
  induction indices generalizing board cores with
  | nil =>
      cases built
      exact ⟨rfl, Nat.le_refl _, nofun⟩
  | cons index rest ih =>
      rw [createCores] at built
      obtain ⟨⟨core, middle⟩, created, built⟩ := exceptBind_eq_ok built
      obtain ⟨⟨others, last⟩, created', built⟩ := exceptBind_eq_ok built
      cases built
      obtain ⟨indices, lines, wired⟩ := ih created'
      rw [Core.create] at created
      split at created
      · cases created
      · rename_i real
        cases created
        have grown : board.halts.bits.length < (board.halts.addLine.2).bits.length := by
          simp [HaltLines.addLine]
        refine ⟨?_, (Nat.le_of_lt grown).trans lines, ?_⟩
        · rw [List.map_cons, indices]
        · intro core member
          rcases List.mem_cons.mp member with rfl | member
          · exact ⟨Nat.lt_of_not_le real, Nat.lt_of_lt_of_le grown lines⟩
          · exact wired core member

theorem create_eq_ok {settings : Settings} {console : Console}
    (built : Console.create settings = .ok console) :
    ∃ traceCalls monitor lines,
      console.machine.os = { Kernel.create console.coreCount traceCalls monitor with lines } ∧
      console.Wired := by
  obtain ⟨_, _, built⟩ := exceptBind_eq_ok built
  dsimp only at built
  obtain ⟨⟨cores, board⟩, created, built⟩ := exceptBind_eq_ok built
  cases built
  obtain ⟨indices, _, wired⟩ := createCores_wired (mapError_eq_ok created)
  refine ⟨_, _, _, rfl, ?_, fun core member => (wired core member).1,
    fun core member => (wired core member).2⟩
  change (cores.map Core.index).Nodup
  rw [indices]
  exact List.nodup_range

/-- The console with another kernel. -/
def withKernel (console : Console) (os : Kernel) : Console :=
  { console with machine := { console.machine with os } }

end Console

namespace Watch

theorem sound_of_created {settings : Settings} {console : Console} {params : ProcessParams}
    {pid : ProcessId} {kernel : Kernel} (built : Console.create settings = .ok console)
    (created : console.machine.os.createApplication params = .ok (pid, kernel)) :
    ∃ process, ({ console := console.withKernel kernel } : Watch).Sound pid process := by
  obtain ⟨traceCalls, monitor, lines, os, wired⟩ := Console.create_eq_ok built
  rw [os] at created
  obtain ⟨process, hosts, consistent⟩ := Kernel.createApplication_hosts created
  cases created
  have nobody (kernel : Kernel) (vacant : kernel.current = Vector.replicate maxCores none)
      (core : CoreIndex) (id : ThreadId) : kernel.currentId? core ≠ some id := by
    rw [currentId?_of_vacant vacant]
    exact nofun
  have request (core : CoreIndex) :
      ((Vector.replicate maxCores (none : Option SwitchRequest))[core]?).join = none := by
    rw [Vector.getElem?_replicate]
    split <;> rfl
  have unscheduled (id : ThreadId) : ({} : Scheduler).state? id = none := by
    simp [Scheduler.state?]
  refine ⟨process, hosts, ⟨wired.apart, wired.small, wired.within⟩, fun _ _ =>
    ⟨⟨consistent, ?_, request⟩, ?_⟩⟩
  · refine ⟨fun core id => ⟨fun occupied => absurd occupied (nobody _ rfl core id), fun running => ?_⟩,
      Scheduler.wellFormed_empty, rfl⟩
    cases (unscheduled id).symm.trans running
  · refine ⟨fun id context holds => ?_, fun _ _ => rfl, fun later burst past split => ?_⟩
    · cases holds with
      | onCore member occupied => exact absurd occupied (nobody _ rfl _ id)
      | saved off live => cases live
    · simp at split

/-- Who is on which core is beyond doubt, nobody waits to be switched, and no
    thread has lost its registers. -/
structure SwitchesCleanly (watch : Watch) : Prop where
  /-- A thread is the one on a core just if the scheduler has it running there, so
      that it is on no other. -/
  exclusive : ∀ core id, watch.console.machine.os.currentId? core = some id ↔
    watch.console.machine.os.scheduler.state? id = some (.running core)
  served : ∀ core, watch.console.machine.os.request? core = none
  lossless : Lossless watch.initial watch.bursts

end Watch

/-- Threads are switched cleanly, whatever a new console with an application goes
    through, as long as no core has been stopped and thread numbers have not run
    out. -/
theorem performAll_switchesCleanly {settings : Settings} {console : Console}
    {params : ProcessParams} {pid : ProcessId} {kernel : Kernel}
    (built : Console.create settings = .ok console)
    (created : console.machine.os.createApplication params = .ok (pid, kernel))
    (events : List ConsoleEvent)
    (idle : (Watch.performAll { console := console.withKernel kernel } events).console.Idle)
    (room : (Watch.performAll { console := console.withKernel kernel } events).console.HasRoom) :
    (Watch.performAll { console := console.withKernel kernel } events).SwitchesCleanly := by
  obtain ⟨process, sound⟩ := Watch.sound_of_created built created
  obtain ⟨process', sound⟩ := sound.performAll events
  obtain ⟨settled, recalls⟩ := sound.settled idle room
  exact ⟨settled.orderly.occupied, settled.requests, recalls.lossless⟩

/-- A console as it comes. -/
def newConsole : Console :=
  (Console.create {}).toOption.get rfl

/-- Its kernel, with a small application. -/
def newKernel : Kernel :=
  ((newConsole.machine.os.createApplication smallParams).toOption.get rfl).2

/-- A page of code that counts in X1 and yields, over and over. -/
def countingCode : AddressSpace :=
  let page : AddressSpace :=
    { pages := Std.TreeMap.empty.insert 0x8000 (Page.zeroed PageFlags.rwx), everMapped := true }
  let add := (page.store .word 0x8000000 0x91000421).2
  let yield := (add.store .word 0x8000004 0xd4000161).2
  (yield.store .word 0x8000008 0x17fffffe).2

/-- Two threads count on the same core, which they leave to each other. -/
def takingTurns : List ConsoleEvent :=
  [.adjust countingCode {} {}, .create 0x8000000 0 0x10000 44 0, .create 0x8000000 0 0x20000 44 0,
    .start 1, .start 2, .step 0 9, .step 0 9, .step 1 9, .step 0 9]

/-- When the first of them counts again, it goes on from 1. -/
theorem performAll_switchesCleanly_takingTurns :
    let watch := Watch.performAll { console := newConsole.withKernel newKernel } takingTurns
    watch.bursts.map (fun burst => (burst.thread, burst.start.registers.x[1])) =
        [(1, 1), (2, 0), (1, 0)] ∧
      watch.SwitchesCleanly := by
  have built : Console.create {} = .ok newConsole := rfl
  have created : newConsole.machine.os.createApplication smallParams = .ok (0x51, newKernel) := rfl
  refine ⟨by decide +kernel, performAll_switchesCleanly built created takingTurns ?_ ?_⟩
  · rw [Console.Idle]
    decide +kernel
  · rw [Console.HasRoom]
    decide +kernel

end GuestMachine
