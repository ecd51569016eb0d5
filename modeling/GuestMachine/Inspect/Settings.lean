import GuestMachine.Cli.Session
import GuestMachine.Files.Tree
import GuestMachine.Inspect.View

/-! # Views of settings and sessions

Settings with what the log makes of them, metadata, and the outcome of a
session.
-/

namespace GuestMachine

instance : Viewable Settings := ⟨fun settings =>
  let cpu := settings.cpu
  let debug := settings.debug
  .group [("backend", .text cpu.backend.name), ("use_multi_core", view cpu.useMultiCore),
    ("core_count", .count cpu.coreCount.toNat), ("exclusive_monitor", view cpu.exclusiveMonitor),
    ("time_slice_us", view cpu.timeSlice),
    ("max_block_instructions", view cpu.maxBlockInstructions),
    ("log_level", .text debug.logLevel.name), ("filter", .text debug.logLevel.filter),
    ("trace_svc", view debug.traceCalls)]⟩

instance : Viewable ProgramMetadata := ⟨fun metadata =>
  .group [("title_id", view metadata.titleId), ("name", view metadata.name),
    ("priority", .count metadata.mainPriority.toNat), ("core", view metadata.mainCore),
    ("stack_size", view metadata.stackSize)]⟩

/-- The text of a file, if it is one. -/
def FileTree.textView (tree : FileTree) (path : String) : View :=
  match (FileTree.store.readText path).run tree with
  | (.ok text, _) => .text text
  | (.error _, _) => .nothing

/-- The exit code, and the report unless it is about the command line. -/
def Cli.Outcome.parts (outcome : Cli.Outcome) : List (String × View) :=
  let code := ("code", .count outcome.code.toNat)
  match outcome with
  | .misused _ => [code]
  | _ => [code, ("stderr", .text (outcome.report.getD "").trimAsciiEnd.toString)]

end GuestMachine
