/-! # Guest-side names

Plain abbreviations for the numbers that guest code and kernel pass around.
-/

namespace GuestMachine

/-- A virtual address in guest memory. -/
abbrev Address := UInt64

abbrev ProcessId := UInt64

abbrev ThreadId := UInt64

/-- A kernel object as guest code names it. -/
abbrev Handle := UInt32

/-- Cores are numbered from zero. -/
abbrev CoreIndex := Nat

def maxCores : Nat := 4

-- A power of two is the core one in every module, also where the theory brings
-- in the powers of Mathlib's monoids.
attribute [instance (high + 1), default_instance high + 1] instPowNat

/-- `a + b`, or the largest number if that takes more than 64 bits. -/
def saturatingAdd (a b : UInt64) : UInt64 :=
  if a.toNat + b.toNat < 2 ^ 64 then a + b else UInt64.ofNat (2 ^ 64 - 1)

end GuestMachine
