import GuestMachine.Basic

/-! # Program metadata

What an executable says about its process and its main thread, with the values
used when it says nothing.
-/

namespace GuestMachine

structure ProgramMetadata where
  titleId : UInt64 := 0x0100000000001000
  name : String := "application"
  mainPriority : UInt32 := 44
  mainCore : Int32 := 0
  stackSize : UInt64 := 0x100000
  deriving Repr, DecidableEq

end GuestMachine
