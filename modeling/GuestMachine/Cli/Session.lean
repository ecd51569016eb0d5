import GuestMachine.Cli.Arguments
import GuestMachine.Config.Store
import GuestMachine.Loader.Handoff
import GuestMachine.System.Console

/-! # A session

One run of the program: read the command line, the settings, the metadata and
the image, run the image until the guest is done, and report how it went. A
refusal is told with what was being done, outermost first, and then with every
error behind it.
-/

namespace GuestMachine

/-- Hand an application to the kernel of a console that has none. -/
def Console.loadApplication (console : Console) (image : ModuleImage)
    (metadata : ProgramMetadata) : Except EngineError Console :=
  let loader : Loader := { cores := List.range console.coreCount }
  match Handoff.loadApplication image metadata { loader, machine := console.machine } with
  | .ok _ handoff => .ok { console with machine := handoff.machine }
  | .error e _ => .error e

namespace Cli

inductive Outcome where
  | finished
  /-- Help or the version was asked for. -/
  | informed (request : Request)
  | misused (error : UsageError)
  /-- The messages of a refusal, outermost first. -/
  | refused (chain : List String)
  /-- The guest was still running when the fuel was used up. -/
  | outOfFuel
  deriving Repr, DecidableEq

namespace Outcome

def code : Outcome → UInt8
  | finished => 0
  | informed _ => 0
  | misused _ => 2
  | refused _ => 1
  | outOfFuel => 1

/-- What is told about a refusal. -/
def report : Outcome → Option String
  | misused error => some ("error: " ++ error.message)
  | refused chain => some ("error: " ++ ": ".intercalate chain)
  | outOfFuel => some "error: the guest did not finish"
  | _ => none

end Outcome

variable {m : Type → Type} [Monad m]

/-- Part of a session that may be refused. -/
abbrev Attempt (m : Type → Type) := ExceptT (List String) m

namespace Attempt

/-- A refusal as it is. -/
def plain (action : ExceptT EngineError m α) : Attempt m α :=
  ExceptT.adapt EngineError.chain action

/-- A refusal, with what was being done in front. -/
def during (what : String) (action : ExceptT EngineError m α) : Attempt m α :=
  ExceptT.adapt (fun e => what :: e.chain) action

end Attempt

open Attempt

/-- The settings to use: those of the file, changed by the options. -/
def settingsFor (store : FileStore m) (home : String) (arguments : Arguments) :
    Attempt m Settings := do
  let loaded ← match arguments.config with
    | some path => during ("failed to load config " ++ path) (Settings.loadFrom store path)
    | none =>
        during ("failed to load config " ++ Settings.location home) (Settings.load store home)
  let cpu := loaded.cpu
  let settings : Settings := {
    cpu := { cpu with
      useMultiCore := cpu.useMultiCore && !arguments.singleCore
      coreCount := arguments.cores.getD cpu.coreCount }
    debug := { loaded.debug with
      traceCalls := loaded.debug.traceCalls || arguments.traceCalls } }
  plain (ofExcept (settings.validate.mapError .config))
  return settings

def metadataFor (store : FileStore m) (arguments : Arguments) : Attempt m ProgramMetadata :=
  match arguments.metadata with
  | some path =>
      during ("failed to load metadata " ++ path) (ProgramMetadata.loadFrom store path)
  | none => return {}

def imageFor (store : FileStore m) (arguments : Arguments) : Attempt m (List UInt8) := do
  let path := arguments.image
  let bytes ← ExceptT.adapt (fun e => ["failed to read " ++ path, e.message]) (store.read path)
  if bytes.isEmpty then throw [path ++ " is empty"]
  return bytes

/-- What a guest said when it gave up. -/
def breakReport (info : BreakInfo) : String :=
  "guest raised svcBreak: reason " ++ Text.hex info.reason.toNat ++ ", info "
    ++ Text.hex info.info1.toNat ++ " " ++ Text.hex info.info2.toNat

/-- How a run ended. A fault outranks what the guest said. -/
def outcomeOf (result : RunOutcome) (info : Option BreakInfo) : Outcome :=
  match result, info with
  | .failed error, _ => .refused error.chain
  | .outOfFuel, _ => .outOfFuel
  | .finished, some info => .refused [breakReport info]
  | .finished, none => .finished

def execute (store : FileStore m) (home : String) (fuel : Nat) (arguments : Arguments) :
    Attempt m Outcome := do
  let settings ← settingsFor store home arguments
  let metadata ← metadataFor store arguments
  let image ← imageFor store arguments
  let console ← plain (ofExcept (Console.create settings))
  let console ← during "failed to hand the image over to the kernel"
    (ofExcept (console.loadApplication (.flat image) metadata))
  let (result, console) := console.run fuel
  return outcomeOf result console.machine.os.breakInfo

/-- The whole session. Settings are kept below `home`, and the guest runs for at
    most `fuel` turns. -/
def session (store : FileStore m) (home : String) (fuel : Nat) (arguments : List String) :
    m Outcome := do
  match parse arguments with
  | .error error => return .misused error
  | .ok (.run arguments) =>
      match ← (execute store home fuel arguments).run with
      | .ok outcome => return outcome
      | .error chain => return .refused chain
  | .ok request => return .informed request

end Cli

end GuestMachine
