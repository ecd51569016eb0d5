import GuestMachine.Error
import GuestMachine.Loader.Metadata
import GuestMachine.Toml.Document
import GuestMachine.Toml.Fields

/-! # The metadata document

Metadata as text. Values are not checked here; the kernel refuses what it
cannot work with.
-/

namespace GuestMachine.ProgramMetadata

open Toml

def ofValue? (value : Value) : Option ProgramMetadata := do
  let base : ProgramMetadata := {}
  let fields ← value.fields?
  return {
    titleId := ← fields.get 0 "title_id" (·.uint64?) base.titleId
    name := ← fields.get 1 "name" (·.text?) base.name
    mainPriority := ← fields.get 2 "main_thread_priority" (·.uint32?) base.mainPriority
    mainCore := ← fields.get 3 "main_thread_core" (·.int32?) base.mainCore
    stackSize := ← fields.get 4 "main_thread_stack_size" (·.uint64?) base.stackSize }

def parse (text : String) : Except ConfigError ProgramMetadata :=
  match Value.parse? text >>= ofValue? with
  | some metadata => .ok metadata
  | none => .error .malformed

end GuestMachine.ProgramMetadata
