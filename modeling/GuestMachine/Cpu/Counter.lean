import GuestMachine.Basic

/-! # System counter

The guest-visible counter runs at a fixed frequency and is derived from host
ticks at the console's clock rate.
-/

namespace GuestMachine

/-- Console CPU clock in Hz. -/
def baseClockRate : UInt64 := 1019215872

def counterFrequency : UInt64 := 19200000

/-- Counter value after `ticks` host ticks, rounded down. The product needs
    more than 64 bits; the quotient does not. -/
def counterOfTicks (ticks : UInt64) : UInt64 :=
  UInt64.ofNat (ticks.toNat * counterFrequency.toNat / baseClockRate.toNat)

end GuestMachine
