import GuestMachine.Error

/-! # Views

What an inspector shows of a machine: words in base sixteen, counts in base ten,
texts, and groups of named parts. A view says nothing about layout on a screen
or in a file.
-/

namespace GuestMachine

inductive View where
  | nothing
  | flag (b : Bool)
  /-- Shown in base ten. -/
  | count (n : Int)
  /-- Shown in base sixteen. -/
  | word (n : Nat)
  | text (s : String)
  | items (list : List View)
  /-- Named parts; their order has no meaning. -/
  | group (parts : List (String × View))
  deriving Repr, BEq, Inhabited

class Viewable (α : Type) where
  view : α → View

export Viewable (view)

namespace View

/-- The view of a refusal: what refused, and the wording. -/
def refusal (cause message : String) : View :=
  .group [("error", .text cause), ("message", .text message)]

def ids (list : List UInt64) : View :=
  .items (list.map fun id => .count id.toNat)

/-- The numbered words that are not zero. -/
def nonZero (words : List Nat) : View :=
  .group ((words.zipIdx.filter (·.1 != 0)).map fun (n, i) => (toString i, .word n))

end View

instance : Viewable View := ⟨id⟩
instance : Viewable Unit := ⟨fun _ => .nothing⟩
instance : Viewable Bool := ⟨.flag⟩
instance : Viewable Nat := ⟨fun n => .count n⟩
instance : Viewable Int32 := ⟨fun n => .count n.toInt⟩
instance : Viewable UInt32 := ⟨fun n => .word n.toNat⟩
instance : Viewable UInt64 := ⟨fun n => .word n.toNat⟩
instance : Viewable (BitVec n) := ⟨fun v => .word v.toNat⟩
instance : Viewable String := ⟨.text⟩
instance [Viewable α] : Viewable (Option α) := ⟨fun o => o.elim .nothing view⟩
instance [Viewable α] : Viewable (List α) := ⟨fun l => .items (l.map view)⟩
instance [Viewable α] [Viewable β] : Viewable (α × β) := ⟨fun (a, b) => .items [view a, view b]⟩
instance [Viewable ε] [Viewable α] : Viewable (Except ε α) :=
  ⟨fun | .ok a => view a | .error e => view e⟩

instance : Viewable MemoryError := ⟨fun e => .refusal e.cause e.message⟩
instance : Viewable CpuError := ⟨fun e => .refusal e.cause e.message⟩
instance : Viewable KernelError := ⟨fun e => .refusal e.cause e.message⟩
instance : Viewable LoaderError := ⟨fun e => .refusal e.cause e.message⟩

/-- A settings document that cannot be read has no wording. -/
instance : Viewable EngineError :=
  ⟨fun
    | .config .malformed => .group [("error", .text (EngineError.config .malformed).cause)]
    | e => .refusal e.cause e.message⟩

end GuestMachine
