import GuestMachine.Config.Settings
import GuestMachine.System.Step

/-! # The console

A whole machine: memory, kernel, cores and monitor, built from settings. Cores
take turns, each running a burst of guest code at a time, until the application
is over or a core faults. While it runs, busy cores are preempted once per time
slice. Host time passes with the blocks that are executed, and jumps ahead
while every core is idle.
-/

namespace GuestMachine

structure Console where
  settings : Settings
  machine : Machine Kernel
  /-- Number of cores it was built with. -/
  coreCount : Nat
  /-- The cores, none after a shutdown. -/
  cores : List Core
  monitor : Option MonitorHandle

/-- How a run ended. -/
inductive RunOutcome where
  | finished
  | failed (error : EngineError)
  /-- The run did not end within its fuel. -/
  | outOfFuel
  deriving Repr, DecidableEq

namespace Console

/-- Build one core after the other. -/
def createCores (handle : Option MonitorHandle) (maxBlockInstructions : Nat) :
    List CoreIndex → Board → Except CpuError (List Core × Board)
  | [], board => .ok ([], board)
  | index :: rest, board => do
      let (core, board) ← Core.create board handle index maxBlockInstructions
      let (cores, board) ← createCores handle maxBlockInstructions rest board
      return (core :: cores, board)

/-- Build the machine. -/
def create (settings : Settings) : Except EngineError Console := do
  settings.validate.mapError .config
  let coreCount := settings.cpu.coreCount.toNat
  let (monitor, manager) :=
    if settings.cpu.exclusiveMonitor then
      match ({} : CpuManager).createMonitor coreCount with
      | some (handle, manager) => (some handle, manager)
      | none => (none, {})
    else (none, {})
  let kernel := Kernel.create coreCount settings.debug.traceCalls monitor
  let (cores, board) ←
    (createCores monitor settings.cpu.maxBlockInstructions.toNat (List.range coreCount)
      { manager }).mapError .cpu
  let os := { kernel with lines := cores.map Core.line }
  return { settings, machine := { board, os }, coreCount, cores, monitor }

/-- Drop translated code for a range on every core. -/
def invalidateCode (console : Console) (addr : Address) (size : UInt64) : Console :=
  { console with cores := console.cores.map (·.invalidate addr size) }

/-- Ask a core to halt. A core that does not exist is not asked. -/
def haltCore (console : Console) (core : CoreIndex) (reason : HaltReason) : Console :=
  match console.machine.os.lines[core]? with
  | some line =>
      { console with machine := console.machine.mapBoard (·.requestHalt line reason.bit) }
  | none => console

/-- Stop every core, then give up the cores and the monitor. -/
def shutdown (console : Console) : Console :=
  let machine := console.machine.shutdown
  let board := console.cores.foldl (fun board core => core.destroy board) machine.board
  let manager := match console.monitor with
    | some handle => (board.manager.destroyMonitor handle).2
    | none => board.manager
  { console with
    machine := { machine with board := { board with manager } }
    cores := []
    monitor := none }

/-- A core within a run. -/
structure Seat where
  core : Core
  finished : Bool := false

/-- What a turn of all cores came to. -/
inductive TurnResult where
  /-- All cores had their turn; whether any ran a thread. -/
  | done (ran : Bool)
  | faulted (error : CpuError)
  | outOfRounds
  deriving Repr, DecidableEq

/-- Give each core that has not finished one step, in order. A fault ends the
    turn at once. -/
def turn (rounds : Nat) : List Seat → Machine Kernel → TurnResult × List Seat × Machine Kernel
  | [], machine => (.done false, [], machine)
  | seat :: rest, machine =>
      if seat.finished then
        let (result, rest, machine) := turn rounds rest machine
        (result, seat :: rest, machine)
      else
        match seat.core.step rounds machine with
        | (.faulted error, core, machine) => (.faulted error, { core } :: rest, machine)
        | (.outOfRounds, core, machine) => (.outOfRounds, { core } :: rest, machine)
        | (step, core, machine) =>
            let (result, rest, machine) := turn rounds rest machine
            let result := match result with
              | .done ran => .done (ran || step == .ran)
              | other => other
            (result, { core, finished := step == .finished } :: rest, machine)

/-- Longest wait of an idle machine, in host ticks: a millisecond. -/
def idleTicks : UInt64 := ticksOfNanos 1000000

/-- Wait for the next deadline, but not for long. -/
def idle (machine : Machine Kernel) : Machine Kernel :=
  let wait := match machine.os.scheduler.nextDeadline? with
    | some deadline => min idleTicks (UInt64.ofNat (deadline.toNat - machine.ticks.toNat))
    | none => idleTicks
  machine.mapBoard fun board => { board with clock := board.clock.pass wait }

/-- Take turns until every core has finished, at most `fuel` times. -/
def runTurns (rounds : Nat) : (fuel : Nat) → List Seat → Machine Kernel →
    RunOutcome × List Seat × Machine Kernel
  | 0, seats, machine => (.outOfFuel, seats, machine)
  | fuel + 1, seats, machine =>
      if seats.all (·.finished) then (.finished, seats, machine)
      else
        match turn rounds seats machine with
        | (.faulted error, seats, machine) => (.failed error, seats, machine.shutdown)
        | (.outOfRounds, seats, machine) => (.outOfFuel, seats, machine)
        | (.done ran, seats, machine) =>
            runTurns rounds fuel seats
              (if ran || machine.os.exited then machine else idle machine)

/-- Host ticks between two preemptions. -/
def slicePeriod (settings : Settings) : UInt64 :=
  let micros := max 1 settings.cpu.timeSlice.toNat
  UInt64.ofNat (min (micros * baseClockRate.toNat / 1000000) (2 ^ 64 - 1))

/-- Start or stop preempting busy cores. -/
def setPreemption (machine : Machine Kernel) (period : Option UInt64) : Machine Kernel :=
  machine.mapBoard fun board =>
    let preemption := period.map fun period =>
      { period, next := saturatingAdd board.clock.now period : Preemption }
    { board with clock := { board.clock with preemption } }

/-- Run guest threads until the application is over or a core faults. There has
    to be an application with a thread. -/
def run (fuel : Nat) (console : Console) : RunOutcome × Console :=
  if console.machine.os.application.isNone then
    (.failed (.loader .noApplicationProcess), console)
  else if console.machine.os.scheduler.threadCount = 0 then
    (.failed (.kernel (.invalidState "no guest thread has been started")), console)
  else
    let machine := setPreemption console.machine (some (slicePeriod console.settings))
    let seats := console.cores.map fun core => { core : Seat }
    let (outcome, seats, machine) := runTurns fuel fuel seats machine
    (outcome, { console with
      machine := setPreemption machine none
      cores := seats.map Seat.core })

end Console

end GuestMachine
