import GuestMachine.Cli.Session

/-! # The program

The session of `Cli.Session` on the real file system, with its report on
standard error.
-/

namespace GuestMachine.Program

/-- The causes of a refusal that the session tells apart. -/
def fileError : IO.Error → FileError
  | .noFileOrDirectory _ _ _ => .notFound
  | .alreadyExists _ _ _ => .alreadyExists
  | .inappropriateType _ 20 _ => .notADirectory
  | .inappropriateType _ 21 _ => .isADirectory
  | error => .other (toString error)

def attempt (action : IO α) : ExceptT FileError BaseIO α :=
  ExceptT.mk do return (← action.toBaseIO).mapError fileError

def disk : FileStore BaseIO where
  read path := attempt do return (← IO.FS.readBinFile path).data.toList
  write path bytes := attempt (IO.FS.writeBinFile path ⟨bytes.toArray⟩)
  makeDirectories path := attempt (IO.FS.createDirAll path)

/-- The directory for the settings of all programs. -/
def home : BaseIO String := do
  match ← IO.getEnv "XDG_CONFIG_HOME" with
  | some path => if path.startsWith "/" then return path
  | none => pure ()
  match ← IO.getEnv "HOME" with
  | some path => return path ++ "/.config"
  | none => return "."

def usage : String :=
  "Switch CPU/memory/syscall emulator core\n\n" ++
  "Usage: oxidized-nx [OPTIONS] <IMAGE>\n\n" ++
  "Arguments:\n" ++
  "  <IMAGE>  Flat code image, loaded at the code region base with entry at offset 0\n\n" ++
  "Options:\n" ++
  "      --single-core      Time-slice every core onto one host thread\n" ++
  "      --cores <N>        Number of emulated cores (1-4)\n" ++
  "      --config <PATH>    Config file to use instead of the default location\n" ++
  "      --metadata <PATH>  Program metadata (title id, name, main-thread settings) as TOML\n" ++
  "      --trace-svc        Log every supervisor call\n" ++
  "  -h, --help             Print help\n" ++
  "  -V, --version          Print version"

/-- More turns than any run takes. -/
def fuel : Nat := 2 ^ 62

end GuestMachine.Program

open GuestMachine GuestMachine.Program in
def main (arguments : List String) : IO UInt32 := do
  let directory ← home
  let outcome ← (Cli.session disk directory fuel arguments : BaseIO Cli.Outcome)
  match outcome with
  | .informed .version => IO.println "oxidized-nx 0.1.0"
  | .informed _ => IO.println usage
  | _ => pure ()
  if let some report := outcome.report then
    IO.eprintln report
  return outcome.code.toUInt32
