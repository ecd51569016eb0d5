import GuestMachine.Config.Text
import GuestMachine.Files.Store
import GuestMachine.Loader.MetadataText

/-! # Settings in files

Settings come from a file that the user names, or from the default place. The
first time the default place is asked, a file with the default settings is put
there; that this fails does not matter.
-/

namespace GuestMachine

variable {m : Type → Type} [Monad m]

namespace FileStore

/-- What this store does, with its refusals as those of the machine. -/
def lift (action : ExceptT FileError m α) : ExceptT EngineError m α :=
  ExceptT.adapt .io action

end FileStore

namespace Settings

/-- The directory for settings, below that for the settings of all programs. -/
def directory (home : String) : String := home ++ "/oxidized-nx"

/-- The default place. -/
def location (home : String) : String := directory home ++ "/config.toml"

def loadFrom (store : FileStore m) (path : String) : ExceptT EngineError m Settings := do
  let text ← FileStore.lift (store.readText path)
  ofExcept ((parse text).mapError .config)

/-- Load a file if there is one. One that cannot be used is still an error. -/
def loadOrDefault (store : FileStore m) (path : String) : ExceptT EngineError m Settings := do
  if ← store.isPresent path then loadFrom store path else return {}

/-- Write settings to the default place. The directory is created before the
    settings turn out to be writable or not. -/
def save (store : FileStore m) (home : String) (settings : Settings) :
    ExceptT EngineError m Unit := do
  FileStore.lift (store.makeDirectories (directory home))
  let text ← ofExcept (settings.render.mapError .config)
  FileStore.lift (store.writeText (location home) text)

/-- Load from the default place, and leave a file there if there is none. -/
def load (store : FileStore m) (home : String) : ExceptT EngineError m Settings := do
  let present ← store.isPresent (location home)
  let settings ← loadOrDefault store (location home)
  if !present then
    discard (save store home settings).run
  return settings

end Settings

namespace ProgramMetadata

def loadFrom (store : FileStore m) (path : String) : ExceptT EngineError m ProgramMetadata := do
  let text ← FileStore.lift (store.readText path)
  ofExcept ((parse text).mapError .config)

end ProgramMetadata

end GuestMachine
