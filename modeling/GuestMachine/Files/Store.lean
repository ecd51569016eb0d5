import GuestMachine.Error

/-! # Files

What the machine needs of a file system, in any monad, so that the same code
works on a real one and on one that is only a value.
-/

namespace GuestMachine

structure FileStore (m : Type → Type) where
  read : (path : String) → ExceptT FileError m (List UInt8)
  /-- Replace what is in a file, and create it if there is none. -/
  write : (path : String) → List UInt8 → ExceptT FileError m Unit
  /-- Create a directory and all directories above it, unless they are there. -/
  makeDirectories : (path : String) → ExceptT FileError m Unit

namespace FileStore

variable {m : Type → Type} [Monad m]

def isPresent (store : FileStore m) (path : String) : m Bool := do
  match ← (store.read path).run with
  | .error .notFound => return false
  | .error .notADirectory => return false
  | _ => return true

def readText (store : FileStore m) (path : String) : ExceptT FileError m String := do
  match String.fromUTF8? ⟨(← store.read path).toArray⟩ with
  | some text => return text
  | none => throw .invalidText

def writeText (store : FileStore m) (path text : String) : ExceptT FileError m Unit :=
  store.write path text.toUTF8.data.toList

end FileStore

end GuestMachine
