import GuestMachine.Error

/-! # Halt requests

A request to a running core is a bit on its halt line; the core sees the bits
at its next block boundary. Bits below 24 belong to the translator itself,
which raises none of them.
-/

namespace GuestMachine

inductive HaltReason where
  /-- The host asked for the core, for instance to let another thread run. -/
  | breakLoop
  /-- The guest made a supervisor call, which has been served. -/
  | supervisorCall
  /-- The core was shut down and cannot run again. -/
  | stopped
  deriving Repr, DecidableEq

namespace HaltReason

def name : HaltReason → String
  | breakLoop => "BreakLoop"
  | supervisorCall => "SupervisorCall"
  | stopped => "Stopped"

def all : List HaltReason := [breakLoop, supervisorCall, stopped]

def bit : HaltReason → UInt32
  | supervisorCall => 0x1000000
  | breakLoop => 0x2000000
  | stopped => 0x4000000

/-- All bits that a core ever requests. -/
def knownBits : UInt32 :=
  supervisorCall.bit ||| breakLoop.bit ||| stopped.bit

/-- The reason a set of bits stands for, and the bits to request again.
    A stop wins over everything. A supervisor call is reported before a break,
    which then waits for the next run. No bits at all, or a bit that no core
    requests, is an engine fault. -/
def ofBits (bits : UInt32) : Except CpuError (HaltReason × UInt32) :=
  if bits = 0 ∨ bits &&& ~~~knownBits ≠ 0 then .error (.unknownHaltReason bits)
  else if bits &&& stopped.bit ≠ 0 then .ok (.stopped, 0)
  else if bits &&& supervisorCall.bit ≠ 0 then .ok (.supervisorCall, bits &&& breakLoop.bit)
  else .ok (.breakLoop, 0)

end HaltReason

/-- The pending bits of each halt line, by line number. -/
structure HaltLines where
  bits : List UInt32 := []
  deriving Repr, DecidableEq, Inhabited

namespace HaltLines

/-- A number for one more line, and the lines with it. -/
def addLine (lines : HaltLines) : Nat × HaltLines :=
  (lines.bits.length, { bits := lines.bits ++ [0] })

def request (lines : HaltLines) (line : Nat) (bits : UInt32) : HaltLines :=
  { bits := lines.bits.modify line (· ||| bits) }

def pending (lines : HaltLines) (line : Nat) : UInt32 :=
  lines.bits[line]?.getD 0

/-- The pending bits, which are then gone. -/
def take (lines : HaltLines) (line : Nat) : UInt32 × HaltLines :=
  (lines.pending line, { bits := lines.bits.set line 0 })

end HaltLines

end GuestMachine
