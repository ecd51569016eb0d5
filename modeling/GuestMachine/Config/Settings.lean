import GuestMachine.Basic
import GuestMachine.Error

/-! # Settings

What a user can choose about the machine, with the values used when nothing is
chosen. Ranges are checked separately, by `Settings.validate`.
-/

namespace GuestMachine

/-- The translators to choose from. -/
inductive Backend where
  | interpreter
  deriving Repr, DecidableEq

def Backend.name : Backend → String
  | interpreter => "Interpreter"

def Backend.all : List Backend := [.interpreter]

inductive LogLevel where
  | off
  | error
  | warn
  | info
  | debug
  | trace
  deriving Repr, DecidableEq

namespace LogLevel

def all : List LogLevel := [off, error, warn, info, debug, trace]

def name : LogLevel → String
  | off => "Off"
  | error => "Error"
  | warn => "Warn"
  | info => "Info"
  | debug => "Debug"
  | trace => "Trace"

/-- The directive that the log understands. -/
def filter : LogLevel → String
  | off => "off"
  | error => "error"
  | warn => "warn"
  | info => "info"
  | debug => "debug"
  | trace => "trace"

end LogLevel

structure CpuSettings where
  backend : Backend := .interpreter
  /-- One host thread per core; otherwise all cores take turns. -/
  useMultiCore : Bool := true
  coreCount : UInt64 := UInt64.ofNat maxCores
  /-- Without the monitor every store-exclusive fails. -/
  exclusiveMonitor : Bool := true
  /-- Microseconds between two preemptions. -/
  timeSlice : UInt64 := 10000
  /-- Most instructions in a translated block. -/
  maxBlockInstructions : UInt64 := 64
  deriving Repr, DecidableEq

structure DebugSettings where
  logLevel : LogLevel := .info
  traceCalls : Bool := false
  deriving Repr, DecidableEq

structure Settings where
  cpu : CpuSettings := {}
  debug : DebugSettings := {}
  deriving Repr, DecidableEq

namespace Settings

/-- Refuse what the cores cannot honour. -/
def validate (settings : Settings) : Except ConfigError Unit :=
  if settings.cpu.coreCount = 0 ∨ maxCores < settings.cpu.coreCount.toNat then
    .error (.rejected ("cpu.core_count must be between 1 and " ++ toString maxCores ++ ", got "
      ++ toString settings.cpu.coreCount.toNat))
  else if settings.cpu.maxBlockInstructions = 0 then
    .error (.rejected "cpu.max_block_instructions must be non-zero")
  else .ok ()

end Settings

end GuestMachine
