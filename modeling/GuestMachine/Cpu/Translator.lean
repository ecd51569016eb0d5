import GuestMachine.A64.Execute
import GuestMachine.Cpu.BlockCache

/-! # Running translated code

The run loop: apply queued invalidations, look at halt requests, find or decode
the block at the PC, execute it. Requests are seen at block boundaries only.
A run is a sequence of such rounds; how many it takes depends on the guest, so
the loop is given a number of rounds and says when they ran out.
-/

namespace GuestMachine

open A64

structure TranslatorConfig where
  cntfrq : UInt64
  maxBlockInstructions : Nat
  deriving Repr, DecidableEq

/-- A translator in the middle of a run. -/
structure Session (σ : Type) where
  cpu : Cpu σ
  cache : BlockCache

inductive RunResult where
  /-- At a block boundary, with these halt requests. -/
  | halted (bits : UInt32)
  /-- At an instruction that cannot be executed; the PC is left there. -/
  | faulted (error : CpuError)
  | outOfRounds
  deriving Repr, DecidableEq

/-- How a block was left. -/
inductive BlockExit where
  /-- The PC register holds the next address. -/
  | left
  /-- As `left`, and translated code has to go: the given range, or all. -/
  | invalidate (range : Option (Address × UInt64))
  | fault (error : CpuError)
  deriving Repr, DecidableEq

namespace BlockExit

def error? : BlockExit → Option CpuError
  | .fault error => some error
  | _ => none

/-- What is left of the cache. -/
def cacheAfter (exit : BlockExit) (cache : BlockCache) : BlockCache :=
  match exit with
  | .invalidate (some (addr, size)) => cache.invalidate addr size
  | .invalidate none => BlockCache.empty
  | _ => cache

end BlockExit

namespace A64.Cpu

def pc (cpu : Cpu σ) : Address :=
  cpu.context.registers.pc

def setPc (cpu : Cpu σ) (pc : Address) : Cpu σ :=
  { cpu with context := { cpu.context with registers := { cpu.context.registers with pc } } }

end A64.Cpu

namespace Translator

/-- Execute the instructions that start at `pc`, until one leaves the block or
    fails. -/
def runInstructions (env : Environment σ) (cntfrq : UInt64) :
    (pc : Address) → List Instruction → Cpu σ → BlockExit × Cpu σ
  | _, [], cpu => (.left, cpu)
  | pc, instruction :: rest, cpu =>
      match execute env cntfrq pc instruction (cpu.setPc (pc + 4)) with
      | .ok .next cpu => runInstructions env cntfrq (pc + 4) rest cpu
      | .ok (.jump target) cpu => (.left, cpu.setPc target)
      | .ok .endBlock cpu => (.left, cpu)
      | .ok (.invalidate range) cpu => (.invalidate range, cpu)
      | .error error cpu => (.fault error, cpu.setPc pc)

/-- Execute one block and apply what it asks of the cache. -/
def runBlock (env : Environment σ) (cntfrq : UInt64) (block : Block) (session : Session σ) :
    Option CpuError × Session σ :=
  let (exit, cpu) := runInstructions env cntfrq block.start block.instructions session.cpu
  (exit.error?, { cpu, cache := exit.cacheAfter session.cache })

/-- The cached block at `pc`, or a freshly decoded one, which is then cached. -/
def blockAt (env : Environment σ) (limit : Nat) (pc : Address) (session : Session σ) :
    Option Block × Session σ :=
  match session.cache.find? pc with
  | some block => (some block, session)
  | none =>
      match Block.translate env limit pc session.cpu.env with
      | (none, s) => (none, { session with cpu := { session.cpu with env := s } })
      | (some block, s) =>
          (some block, { cpu := { session.cpu with env := s }, cache := session.cache.insert block })

/-- The fault of a core whose next word cannot be fetched: what the raised
    event answers, or that it was not handled. -/
def fetchFault (env : Environment σ) (pc : Address) (session : Session σ) :
    CpuError × Session σ :=
  match env.raise pc .noExecuteFault session.cpu.env with
  | .ok () s =>
      (.unhandledException pc .noExecuteFault, { session with cpu := { session.cpu with env := s } })
  | .error error s => (error, { session with cpu := { session.cpu with env := s } })

/-- A block boundary: apply queued invalidations and take the halt requests. -/
def atBoundary (env : Environment σ) (session : Session σ) :
    (List (Address × UInt64) × UInt32) × Session σ :=
  let (ranges, s) := env.takeInvalidations session.cpu.env
  let cache := session.cache.invalidateAll ranges
  let (halts, s) := env.takeHalts s
  ((ranges, halts), { cpu := { session.cpu with env := s }, cache })

/-- Execute the block at the PC. `none` means that the run goes on. -/
def enterBlock (env : Environment σ) (config : TranslatorConfig) (session : Session σ) :
    Option RunResult × Session σ :=
  let pc := session.cpu.pc
  match blockAt env config.maxBlockInstructions pc session with
  | (none, session) =>
      let (error, session) := fetchFault env pc session
      (some (.faulted error), session)
  | (some block, session) =>
      let (error?, session) := runBlock env config.cntfrq block session
      (error?.map .faulted, session)

/-- One round: a block boundary and the block behind it. -/
def round (env : Environment σ) (config : TranslatorConfig) (session : Session σ) :
    Option RunResult × Session σ :=
  let ((_, halts), session) := atBoundary env session
  if halts ≠ 0 then (some (.halted halts), session)
  else enterBlock env config session

/-- Up to `rounds` rounds. -/
def run (env : Environment σ) (config : TranslatorConfig) :
    (rounds : Nat) → Session σ → RunResult × Session σ
  | 0, session => (.outOfRounds, session)
  | rounds + 1, session =>
      match round env config session with
      | (some result, session) => (result, session)
      | (none, session) => run env config rounds session

end Translator

end GuestMachine
