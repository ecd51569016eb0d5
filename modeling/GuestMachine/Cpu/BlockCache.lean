import Std.Data.TreeMap
import GuestMachine.A64.Decode
import GuestMachine.A64.Environment

/-! # Translated blocks

Guest code is decoded one block at a time, a block being a run of instructions
up to the first that ends it, and decoded blocks are kept by start address.
-/

namespace GuestMachine

open A64

/-- A decoded run of instructions. -/
structure Block where
  start : Address
  /-- One past the last instruction byte. -/
  finish : Address
  instructions : List Instruction
  deriving Repr, DecidableEq

namespace Block

/-- The block shares a byte with `[addr, addr + size)`. -/
def overlaps (block : Block) (addr : Address) (size : UInt64) : Bool :=
  block.start < saturatingAdd addr size && addr < block.finish

/-- Decode from `pc` on until an instruction ends the block, a word cannot be
    fetched or `limit` instructions are decoded. -/
def decodeFrom (env : Environment σ) (pc : Address) : (limit : Nat) → σ → List Instruction × σ
  | 0, s => ([], s)
  | limit + 1, s =>
      match env.readCode pc s with
      | (none, s) => ([], s)
      | (some word, s) =>
          let instruction := decode word
          if instruction.endsBlock then ([instruction], s)
          else
            let (rest, s) := decodeFrom env (pc + 4) limit s
            (instruction :: rest, s)

/-- The block at `start`, unless its first word cannot be fetched. A limit of
    zero counts as one. -/
def translate (env : Environment σ) (limit : Nat) (start : Address) (s : σ) : Option Block × σ :=
  match decodeFrom env start (max limit 1) s with
  | ([], s) => (none, s)
  | (instructions, s) =>
      (some { start, finish := start + UInt64.ofNat (4 * instructions.length), instructions }, s)

end Block

/-- Decoded blocks by start address. -/
structure BlockCache where
  blocks : Std.TreeMap UInt64 Block := {}

namespace BlockCache

instance : Inhabited BlockCache := ⟨{}⟩

def empty : BlockCache := {}

def size (cache : BlockCache) : Nat :=
  cache.blocks.size

def find? (cache : BlockCache) (pc : Address) : Option Block :=
  cache.blocks[pc]?

def insert (cache : BlockCache) (block : Block) : BlockCache :=
  { blocks := cache.blocks.insert block.start block }

/-- Drop every block that shares a byte with the range. -/
def invalidate (cache : BlockCache) (addr : Address) (size : UInt64) : BlockCache :=
  { blocks := cache.blocks.filter fun _ block => !block.overlaps addr size }

def invalidateAll (cache : BlockCache) (ranges : List (Address × UInt64)) : BlockCache :=
  ranges.foldl (fun cache (addr, size) => cache.invalidate addr size) cache

end BlockCache

end GuestMachine
