/-
**Memory-mapped registers.**

Each window is a block of 32-bit slots.  The register at offset `n` lies at byte
`n * 2 ^ strideShift` of its window, computed in 64 bits with the bits above lost, and so in the
slot of a quarter of that.  Byte offsets have a shift of zero and register numbers a shift of two.

Main definitions:

* `Reclock.MmioWindow`, `Reclock.Mmio` — a window, and the six windows of a register file;
* `Reclock.MmioWindow.slot` — the slot of an offset;
* `Reclock.Mmio.memory` — the slots that do not hold zero.
-/

import Reclock.Register.Access

set_option relaxedAutoImplicit false
set_option autoImplicit false

namespace Reclock

/-- One window of memory-mapped registers. -/
structure MmioWindow where
  /-- What the slots hold. -/
  slots : List UInt32
  /-- The number of positions by which an offset is shifted to get a byte address. -/
  strideShift : UInt32
  deriving DecidableEq, Inhabited

namespace MmioWindow

/-- A window of slots that all hold zero. -/
def zeroed (slots : Nat) (strideShift : UInt32) : MmioWindow :=
  ⟨List.replicate slots 0, strideShift⟩

/-- **The slot of an offset.**  A shift by 64 or more is a fault. -/
def slot (w : MmioWindow) (offset : UInt32) : Except Fault Nat :=
  if w.strideShift.toNat < 64 then .ok ((offset.toUInt64 <<< w.strideShift.toUInt64) / 4).toNat
  else .error .shiftOverflow

end MmioWindow

/-- **A memory-mapped register file.** -/
structure Mmio where
  /-- The windows, in order. -/
  windows : Vector MmioWindow 6
  deriving DecidableEq

namespace Mmio

/-- The slot of a register, if it lies in its window. -/
def locate (m : Mmio) (r : Register) : Except Fault Nat := do
  let slot ← (m.windows[r.window.index]).slot r.offset
  if slot < (m.windows[r.window.index]).slots.length then return slot
  else .error (.outsideWindow r)

/-- What a slot of a window holds. -/
def load (m : Mmio) (w : Window) (slot : Nat) : UInt32 := (m.windows[w.index]).slots.getD slot 0

/-- Gives a slot of a window a value. -/
def store (m : Mmio) (w : Window) (slot : Nat) (value : UInt32) : Mmio :=
  let window := m.windows[w.index]
  ⟨m.windows.set w.index { window with slots := window.slots.set slot value }⟩

/-- Reads a register. -/
def read (r : Register) (m : Mmio) : Except Fault (UInt32 × Mmio) := do
  let slot ← m.locate r
  return (m.load r.window slot, m)

/-- Writes a register. -/
def write (r : Register) (value : UInt32) (m : Mmio) : Except Fault Mmio := do
  let slot ← m.locate r
  return m.store r.window slot value

instance : RegisterFile Mmio := ⟨read, write⟩

/-- The slots of the memory that do not hold zero: window, slot and value, in order. -/
def memory (m : Mmio) : List (Window × Nat × UInt32) :=
  Window.list.flatMap fun w =>
    ((m.windows[w.index]).slots.zipIdx.filter fun entry => entry.1 != 0).map fun (value, slot) =>
      (w, slot, value)

end Mmio

end Reclock
