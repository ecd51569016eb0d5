import Mathlib.Data.Nat.Basic
import GuestMachine.Basic

/-! # Byte ranges

A range is a start and a length. The machine compares 64-bit starts and ends,
with ends that saturate; as long as one of two ranges lies below the last
address this is the same as having a byte in common.
-/

namespace GuestMachine

theorem toNat_saturatingAdd (a b : UInt64) :
    (saturatingAdd a b).toNat = min (a.toNat + b.toNat) (2 ^ 64 - 1) := by
  rw [saturatingAdd]
  split
  · rw [UInt64.toNat_add]
    omega
  · rw [UInt64.toNat_ofNat_of_lt' (by decide)]
    omega

def SharesByte (addr len addr' len' : Nat) : Prop :=
  ∃ i, (addr ≤ i ∧ i < addr + len) ∧ addr' ≤ i ∧ i < addr' + len'

theorem sharesByte_iff {addr len addr' len' : Nat} (nonempty : 0 < len) (nonempty' : 0 < len') :
    SharesByte addr len addr' len' ↔ addr' < addr + len ∧ addr < addr' + len' := by
  constructor
  · rintro ⟨i, _, _⟩
    omega
  · rintro ⟨front, back⟩
    exact ⟨max addr addr', by omega⟩

/-- The comparison of a range that nothing saturates with any other. -/
theorem sharesByte_iff_lt {start finish addr size : UInt64} {len : Nat} (nonempty : 0 < size.toNat)
    (held : 0 < len) (extent : finish.toNat = start.toNat + len) (below : start.toNat < 2 ^ 64 - 1) :
    start < saturatingAdd addr size ∧ addr < finish ↔
      SharesByte addr.toNat size.toNat start.toNat len := by
  rw [sharesByte_iff nonempty held, UInt64.lt_iff_toNat_lt, UInt64.lt_iff_toNat_lt,
    toNat_saturatingAdd, extent]
  omega

end GuestMachine
