import GuestMachine.Kernel.State

/-! # System information

The numbers that a guest can ask for: the layout of its address space, what it
may use, and a few words of entropy that depend on the title alone.
-/

namespace GuestMachine

open Layout

inductive InfoKind where
  | coreMask
  | priorityMask
  | aliasRegionAddress
  | aliasRegionSize
  | heapRegionAddress
  | heapRegionSize
  | totalMemorySize
  | usedMemorySize
  | debuggerAttached
  | randomEntropy
  | aslrRegionAddress
  | aslrRegionSize
  | stackRegionAddress
  | stackRegionSize
  | programId
  | isApplication
  deriving Repr, DecidableEq

namespace InfoKind

def all : List InfoKind :=
  [coreMask, priorityMask, aliasRegionAddress, aliasRegionSize, heapRegionAddress,
    heapRegionSize, totalMemorySize, usedMemorySize, debuggerAttached, randomEntropy,
    aslrRegionAddress, aslrRegionSize, stackRegionAddress, stackRegionSize, programId,
    isApplication]

/-- The number by which guest code asks. -/
def number : InfoKind → UInt32
  | coreMask => 0
  | priorityMask => 1
  | aliasRegionAddress => 2
  | aliasRegionSize => 3
  | heapRegionAddress => 4
  | heapRegionSize => 5
  | totalMemorySize => 6
  | usedMemorySize => 7
  | debuggerAttached => 8
  | randomEntropy => 11
  | aslrRegionAddress => 12
  | aslrRegionSize => 13
  | stackRegionAddress => 14
  | stackRegionSize => 15
  | programId => 18
  | isApplication => 23

def ofNumber? (number : UInt32) : Option InfoKind :=
  all.find? (·.number == number)

end InfoKind

/-- Memory granted to the application. -/
def grantedMemory : UInt64 := 0xCD500000

/-- Word `index` of the splitmix sequence that starts at `seed`. -/
def entropyWord (seed index : UInt64) : UInt64 :=
  let z := seed + (index + 1) * 0x9E3779B97F4A7C15
  let z := (z ^^^ (z >>> (30 : UInt64))) * 0xBF58476D1CE4E5B9
  let z := (z ^^^ (z >>> (27 : UInt64))) * 0x94D049BB133111EB
  z ^^^ (z >>> (31 : UInt64))

/-- Number of entropy words a title has. -/
def entropyWords : UInt64 := 4

namespace InfoKind

/-- The value for a process. The index is used by entropy only. -/
def value (kind : InfoKind) (process : GuestProcess) (memory : AddressSpace) (index : UInt64) :
    UInt64 :=
  match kind with
  | coreMask => process.coreMask
  | priorityMask => UInt64.ofNat (2 ^ 64 - 1)
  | aliasRegionAddress => aliasBase
  | aliasRegionSize => aliasSize
  | heapRegionAddress => heapBase
  | heapRegionSize => heapSize
  | totalMemorySize => grantedMemory
  | usedMemorySize => memory.mappedSize
  | debuggerAttached => 0
  | randomEntropy => entropyWord process.titleId index
  | aslrRegionAddress => codeBase
  | aslrRegionSize => UInt64.ofNat addressSpaceSize - codeBase
  | stackRegionAddress => stackBase
  | stackRegionSize => stackSize
  | programId => process.titleId
  | isApplication => 1

/-- Answer a question about a process. Only entropy has more than one word; an
    index that makes no sense is refused before an unknown number is. -/
def ask (number : UInt32) (process : GuestProcess) (memory : AddressSpace) (index : UInt64) :
    Except KernelError UInt64 :=
  let words := if number = randomEntropy.number then entropyWords else 1
  if words ≤ index then .error .invalidCombination
  else match ofNumber? number with
    | some kind => .ok (kind.value process memory index)
    | none => .error (.invalidEnumValue number)

end InfoKind

end GuestMachine
