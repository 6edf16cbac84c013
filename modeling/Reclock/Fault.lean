/-
**Faults: the ways a run can stop for good.**

A fault is no answer to a caller: it means that the code was used outside its contract or that the
modelled hardware caught a forbidden access, and the run goes no further.  A run can also stall,
when it waits for something that nobody is left to do.

Main definitions:

* `Reclock.Fault` — the causes, each with what identifies it;
* `Reclock.Fault.message` — the one place where they are worded;
* `Reclock.Halt` — a fault or a stall.
-/

import Reclock.Register

set_option relaxedAutoImplicit false
set_option autoImplicit false

namespace Reclock

/-- Why a run stopped for good. -/
inductive Fault
  /-- A shift by at least the width of its operand. -/
  | shiftOverflow
  /-- An index at or past the end of a list of the given length. -/
  | indexOutOfBounds (length index : Nat)
  /-- An access past the end of a memory-mapped register window. -/
  | outsideWindow (r : Register)
  /-- A write to a register of the DRAM power domain while that domain is off. -/
  | writtenUnpowered (r : Register)
  /-- An access to a PHY register while the PHY owns its register bus. -/
  | busNotOwned (r : Register)
  /-- A mode register write while the one before is busy for `left` more reads. -/
  | modeRegisterBusy (left : Nat)
  /-- Power removed while the clock gate still reads `gate`. -/
  | clocksRunning (gate : UInt32)
  /-- The PHY's power-ok input dropped while the domain is powered. -/
  | powerOkDropped
  /-- The PHY's power-ok input raised while the domain is off. -/
  | powerOkRaised
  /-- The board's logger set up although a logger is installed. -/
  | loggerInstalled
  deriving DecidableEq

namespace Fault

/-- The text of a comparison that should have come out equal. -/
private def unequal (reason : String) (left right : Nat) : String :=
  "assertion `left == right` failed: " ++ reason ++ "\n  left: " ++ toString left ++
    "\n right: " ++ toString right

/-- **The text of a fault.** -/
def message : Fault → String
  | shiftOverflow => "attempt to shift left with overflow"
  | indexOutOfBounds length index =>
      "index out of bounds: the len is " ++ toString length ++ " but the index is " ++
        toString index
  | outsideWindow r => r.text ++ " is outside its register window"
  | writtenUnpowered r => r.text ++ " written while powered off"
  | busNotOwned r => "PHY CSR " ++ r.text ++ " accessed without APB ownership"
  | modeRegisterBusy left =>
      unequal "mode register write issued while the previous one is busy" left 0
  | clocksRunning gate => unequal "power removed with DRAM clocks running" gate.toNat 0
  | powerOkDropped => "PHY power-ok dropped while powered"
  | powerOkRaised => "PHY power-ok raised while powered off"
  | loggerInstalled => "Failed to initialise logger: SetLoggerError(())"

end Fault

/-- Why a run goes no further. -/
inductive Halt
  /-- It ran into a fault. -/
  | fault (f : Fault)
  /-- It waits for something that will not happen. -/
  | stalled
  deriving DecidableEq

end Reclock
