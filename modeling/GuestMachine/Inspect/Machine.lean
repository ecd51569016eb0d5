import GuestMachine.Cpu.Trace
import GuestMachine.Inspect.View
import GuestMachine.Kernel.MemoryInfo
import GuestMachine.Kernel.ResultCode
import GuestMachine.Loader.Handoff
import GuestMachine.System.Console

/-! # Views of the machine

Every part that an inspector can ask for, from registers to the whole kernel.
Numbers of objects are counts; addresses, sizes and register contents are
words.
-/

namespace GuestMachine

/-- General registers that are not zero. -/
def RegisterFile.generalView (file : RegisterFile) : View :=
  .nonZero (file.x.toList.map (·.toNat))

def RegisterFile.parts (file : RegisterFile) : List (String × View) :=
  [("fpcr", view file.fpcr), ("fpsr", view file.fpsr), ("nzcv", view file.nzcv),
    ("pc", view file.pc), ("sp", view file.sp), ("x", file.generalView),
    ("v", .nonZero (file.v.toList.map (·.toNat)))]

def ThreadContext.parts (ctx : ThreadContext) : List (String × View) :=
  ("tpidr", view ctx.tpidrEl0) :: ("tpidrro", view ctx.tpidrroEl0) :: ctx.registers.parts

instance : Viewable ThreadContext := ⟨fun ctx => .group ctx.parts⟩

instance : Viewable PageFlags := ⟨fun flags => .text flags.letters⟩

def MemoryRegion.parts (region : MemoryRegion) : List (String × View) :=
  [("base", view region.base), ("size", view region.size), ("end", view region.finish),
    ("flags", view region.flags), ("mapped", view region.mapped)]

instance : Viewable MemoryInfo := ⟨fun info =>
  let count (n : UInt32) : View := .count n.toNat
  .group [("base", view info.base), ("size", view info.size), ("state", count info.state.value),
    ("attribute", count info.attributes), ("permission", count info.permission),
    ("ipc", count info.ipcCount), ("device", count info.deviceCount),
    ("padding", count info.padding)]⟩

instance : Viewable BurstResult := ⟨fun
  | .halted reason => .text reason.name
  | .faulted error => view error
  | .outOfRounds => .nothing⟩

instance : Viewable RunResult := ⟨fun
  | .halted bits => view bits
  | .faulted error => view error
  | .outOfRounds => .nothing⟩

namespace TraceEvent

/-- Short tags, as in an assembler listing. -/
def items : TraceEvent → List View
  | .fetch addr word => [.text "c", view addr, view word]
  | .read w addr value => [.text "r", view w.bytes, view addr, .word value]
  | .write w addr value stored => [.text "w", view w.bytes, view addr, .word value, view stored]
  | .exclusiveRead w addr value => [.text "xr", view w.bytes, view addr, .word value]
  | .exclusiveWrite w addr value stored =>
      [.text "xw", view w.bytes, view addr, .word value, view stored]
  | .clearExclusive => [.text "clrex"]
  | .counter => [.text "cntpct"]
  | .supervisorCall number pc => [.text "svc", .count number.toNat, view pc]
  | .raised pc event => [.text "exc", view pc, .text event.name]
  | .cache pc (.data op) addr => [.text "dc", view pc, .text op.name, view addr]
  | .cache pc (.instruction op) addr => [.text "ic", view pc, .text op.name, view addr]
  | .barrier pc => [.text "isb", view pc]
  | .undefined pc opcode => [.text "undef", view pc, view opcode]

def isFetch : TraceEvent → Bool
  | .fetch _ _ => true
  | _ => false

end TraceEvent

instance : Viewable TraceEvent := ⟨fun event => .items event.items⟩

instance : Viewable KernelObject := ⟨fun
  | .process pid => .items [.text "process", .count pid.toNat]
  | .thread id => .items [.text "thread", .count id.toNat]⟩

instance : Viewable SchedulingState := ⟨fun
  | .ready => .text "Ready"
  | .running core => .items [.text "Running", view core]
  | .sleeping deadline => .items [.text "Sleeping", view deadline]⟩

/-- A sleep without end is told apart. -/
instance : Viewable SwitchRequest := ⟨fun
  | .yield => .text "Yield"
  | .exit => .text "Exit"
  | .sleep deadline => .text (if deadline.toNat = 2 ^ 64 - 1 then "Sleep(max)" else "Sleep")⟩

instance : Viewable BreakInfo := ⟨fun info =>
  .items [view info.reason, view info.info1, view info.info2]⟩

instance : Viewable GuestProcess := ⟨fun process =>
  .group [("pid", .count process.pid.toNat), ("title_id", view process.titleId),
    ("name", view process.name), ("code_base", view process.codeBase),
    ("code_size", view process.codeSize), ("ideal_core", view process.idealCore),
    ("core_mask", view process.coreMask), ("state", view process.state.name),
    ("handles", view process.handles.size), ("heap", view process.heapSize),
    ("threads", .ids process.threads)]⟩

instance : Viewable GuestThread := ⟨fun thread =>
  .group [("id", .count thread.id.toNat), ("process", .count thread.processId.toNat),
    ("entry", view thread.entry), ("stack_top", view thread.stackTop),
    ("ideal_core", view thread.idealCore), ("core_mask", view thread.coreMask),
    ("tls", view thread.tlsAddress), ("state", view thread.state.name),
    ("priority", .count thread.priority.toNat), ("context", view thread.context)]⟩

instance : Viewable Kernel := ⟨fun kernel =>
  let current := (List.range maxCores).map fun core =>
    (kernel.currentId? core).map fun id => id.toNat
  .group [("exited", view kernel.exited), ("break", view kernel.breakInfo),
    ("scheduled", view kernel.scheduler.threadCount), ("ready", view kernel.scheduler.readyCount),
    ("threads", .ids kernel.threads.ids), ("live", view kernel.liveCount),
    ("processes", view kernel.processes.count), ("core_count", view kernel.coreCount),
    ("mask", view kernel.allCoresMask), ("trace_svc", view kernel.traceCalls),
    ("current", view current), ("process", view kernel.applicationProcess?)]⟩

instance : Viewable ResultCode := ⟨fun code =>
  .group [("raw", view code.raw), ("module", .count code.moduleId.toNat),
    ("description", .count code.description.toNat), ("success", view code.isSuccess),
    ("display", view code.display), ("debug", view code.detail)]⟩

instance : Viewable ModuleImage := ⟨fun image =>
  let region (r : ModuleRegion) : View :=
    .items [.text r.kind.name, view r.start, view r.finish, view r.kind.flags]
  let segment (s : Segment) : View :=
    .items [view s.length, view s.isEmpty, view s.finish?, view s.finish]
  .group [("valid", view image.validate), ("image_size", view image.imageSize),
    ("regions", .items (image.regions.map region)),
    ("segments", .items (image.segments.map fun (_, s) => segment s))]⟩

instance : Viewable Loader := ⟨fun loader =>
  .group [("entry", view loader.entry), ("process", view (loader.process.map fun pid => pid.toNat))]⟩

end GuestMachine
