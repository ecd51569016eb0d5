import GuestMachine.A64.Arithmetic
import GuestMachine.A64.BitMask
import GuestMachine.A64.Decode
import GuestMachine.A64.Environment
import GuestMachine.A64.Event
import GuestMachine.A64.Execute
import GuestMachine.A64.Instruction
import GuestMachine.A64.Listing
import GuestMachine.Basic
import GuestMachine.Cli.Arguments
import GuestMachine.Cli.Session
import GuestMachine.Config.Settings
import GuestMachine.Config.Store
import GuestMachine.Config.Text
import GuestMachine.Cpu.BlockCache
import GuestMachine.Cpu.Board
import GuestMachine.Cpu.CallLog
import GuestMachine.Cpu.Core
import GuestMachine.Cpu.Counter
import GuestMachine.Cpu.ExclusiveMonitor
import GuestMachine.Cpu.Halt
import GuestMachine.Cpu.InvalidationBus
import GuestMachine.Cpu.Manager
import GuestMachine.Cpu.Registers
import GuestMachine.Cpu.Trace
import GuestMachine.Cpu.Translator
import GuestMachine.Error
import GuestMachine.Files.Store
import GuestMachine.Files.Tree
import GuestMachine.Inspect.Machine
import GuestMachine.Inspect.Settings
import GuestMachine.Inspect.View
import GuestMachine.Kernel.Control
import GuestMachine.Kernel.GuestTime
import GuestMachine.Kernel.HandleTable
import GuestMachine.Kernel.Info
import GuestMachine.Kernel.MemoryInfo
import GuestMachine.Kernel.ObjectTable
import GuestMachine.Kernel.Process
import GuestMachine.Kernel.ResultCode
import GuestMachine.Kernel.Scheduler
import GuestMachine.Kernel.Service
import GuestMachine.Kernel.State
import GuestMachine.Kernel.Thread
import GuestMachine.Loader.Handoff
import GuestMachine.Loader.Metadata
import GuestMachine.Loader.MetadataText
import GuestMachine.Loader.Module
import GuestMachine.Main
import GuestMachine.Memory.Access
import GuestMachine.Memory.AddressSpace
import GuestMachine.Memory.Layout
import GuestMachine.Memory.Page
import GuestMachine.Memory.Width
import GuestMachine.Operation
import GuestMachine.Proofs.A64.BitfieldMoves
import GuestMachine.Proofs.A64.CheckedArithmetic
import GuestMachine.Proofs.A64.CheckedCompute
import GuestMachine.Proofs.A64.CheckedExecution
import GuestMachine.Proofs.A64.Conditions
import GuestMachine.Proofs.A64.Decoding
import GuestMachine.Proofs.A64.Division
import GuestMachine.Proofs.A64.Encoding
import GuestMachine.Proofs.A64.LoadsAndStores
import GuestMachine.Proofs.A64.NarrowForms
import GuestMachine.Proofs.A64.RegisterNames
import GuestMachine.Proofs.Board.Cluster
import GuestMachine.Proofs.Board.Delivery
import GuestMachine.Proofs.Board.Lifecycle
import GuestMachine.Proofs.Board.Ownership
import GuestMachine.Proofs.Board.Publication
import GuestMachine.Proofs.Kernel.ClockReadings
import GuestMachine.Proofs.Kernel.GuestWrites
import GuestMachine.Proofs.Kernel.HandleAllocation
import GuestMachine.Proofs.Kernel.HeapResizing
import GuestMachine.Proofs.Kernel.Refusals
import GuestMachine.Proofs.Kernel.Replies
import GuestMachine.Proofs.Kernel.ThreadLocals
import GuestMachine.Proofs.Loader.HandoffSteps
import GuestMachine.Proofs.Loader.LoadedModule
import GuestMachine.Proofs.Loader.RefusedStart
import GuestMachine.Proofs.Loader.StartedThread
import GuestMachine.Proofs.Memory.FreeAreas
import GuestMachine.Proofs.Memory.Refinement
import GuestMachine.Proofs.Memory.RegionStates
import GuestMachine.Proofs.Memory.Traversal
import GuestMachine.Proofs.Monitor.AtomicUpdates
import GuestMachine.Proofs.Monitor.History
import GuestMachine.Proofs.Monitor.ShortCut
import GuestMachine.Proofs.Scheduler.Punctuality
import GuestMachine.Proofs.Scheduler.Representation
import GuestMachine.Proofs.Scheduler.SleeperHeap
import GuestMachine.Proofs.Scheduler.Turns
import GuestMachine.Proofs.System.Switching
import GuestMachine.Proofs.System.ThreadLocalHomes
import GuestMachine.Proofs.Translator.BlockEnds
import GuestMachine.Proofs.Translator.Partition
import GuestMachine.Proofs.Translator.PreciseFaults
import GuestMachine.Proofs.Translator.Transparency
import GuestMachine.System.Console
import GuestMachine.System.Step
import GuestMachine.Text.Hex
import GuestMachine.Toml.Document
import GuestMachine.Toml.Fields
import GuestMachine.Toml.Number
import GuestMachine.Toml.Quoted
import GuestMachine.Toml.Scan
import GuestMachine.Toml.Statement
import GuestMachine.Toml.Value
