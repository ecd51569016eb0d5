import GuestMachine.Config.Settings
import GuestMachine.Toml.Document
import GuestMachine.Toml.Fields

/-! # The settings document

Settings as text: one table for the cores and one for debugging. Reading fills
in what the text leaves out and does not check ranges; writing spells out
everything.
-/

namespace GuestMachine

open Toml

def CpuSettings.ofValue? (value : Value) : Option CpuSettings := do
  let base : CpuSettings := {}
  let fields ← value.fields?
  return {
    backend := ← fields.get 0 "backend" (·.choice? Backend.all Backend.name) base.backend
    useMultiCore := ← fields.get 1 "use_multi_core" (·.bool?) base.useMultiCore
    coreCount := ← fields.get 2 "core_count" (·.uint64?) base.coreCount
    exclusiveMonitor := ← fields.get 3 "exclusive_monitor" (·.bool?) base.exclusiveMonitor
    timeSlice := ← fields.get 4 "time_slice_us" (·.uint64?) base.timeSlice
    maxBlockInstructions :=
      ← fields.get 5 "max_block_instructions" (·.uint64?) base.maxBlockInstructions }

def DebugSettings.ofValue? (value : Value) : Option DebugSettings := do
  let base : DebugSettings := {}
  let fields ← value.fields?
  return {
    logLevel := ← fields.get 0 "log_level" (·.choice? LogLevel.all LogLevel.name) base.logLevel
    traceCalls := ← fields.get 1 "trace_svc" (·.bool?) base.traceCalls }

namespace Settings

def ofValue? (value : Value) : Option Settings := do
  let fields ← value.fields?
  return {
    cpu := ← fields.get 0 "cpu" CpuSettings.ofValue? {}
    debug := ← fields.get 1 "debug" DebugSettings.ofValue? {} }

def parse (text : String) : Except ConfigError Settings :=
  match Value.parse? text >>= ofValue? with
  | none => .error .malformed
  | some settings => do
      settings.validate
      return settings

/-- A number as an integer of a document, which has 63 bits for it. -/
def renderNumber (n : UInt64) : Except ConfigError String :=
  if n.toNat < 2 ^ 63 then .ok (toString n.toNat)
  else .error (.rejected "out-of-range value for u64 type")

def renderName (name : String) : String := "\"" ++ name ++ "\""

def renderBool (b : Bool) : String := if b then "true" else "false"

def renderTable (name : String) (entries : List (String × String)) : String :=
  "[" ++ name ++ "]\n" ++ String.join (entries.map fun (key, value) => key ++ " = " ++ value ++ "\n")

/-- Write settings. Only a number that does not fit into a document is refused,
    so settings out of range can be written. -/
def render (settings : Settings) : Except ConfigError String := do
  let cpu := settings.cpu
  let coreCount ← renderNumber cpu.coreCount
  let timeSlice ← renderNumber cpu.timeSlice
  let maxBlockInstructions ← renderNumber cpu.maxBlockInstructions
  return renderTable "cpu"
      [("backend", renderName cpu.backend.name),
        ("use_multi_core", renderBool cpu.useMultiCore),
        ("core_count", coreCount),
        ("exclusive_monitor", renderBool cpu.exclusiveMonitor),
        ("time_slice_us", timeSlice),
        ("max_block_instructions", maxBlockInstructions)]
    ++ "\n"
    ++ renderTable "debug"
      [("log_level", renderName settings.debug.logLevel.name),
        ("trace_svc", renderBool settings.debug.traceCalls)]

end Settings

end GuestMachine
