/-
**Registers of the DRAM subsystem.**

The subsystem is reached through six windows, each a block of 32-bit registers with its own
base address; a register is a window and an offset in it.  Offsets in the PHY window are register
numbers, in the others byte offsets, which matters only to the memory-mapped register file.

Main definitions:

* `Reclock.Window`, `Reclock.Register` — the windows and the registers in them;
* `Reclock.Register.text` — the short form used in messages, `Ddrc+0x3fc`;
* `Reclock.Register.inspect` — the long form, `Register { window: Ddrc, offset: 1020 }`;
* `Reclock.Register.sorted` — registers in order: windows as declared, then offsets.
-/

import Reclock.Hex

set_option relaxedAutoImplicit false
set_option autoImplicit false

namespace Reclock

/-! ### Windows -/

/-- A block of hardware registers with its own base address. -/
inductive Window
  /-- The memory controller. -/
  | ddrc
  /-- The DDR PHY, whose offsets are register numbers. -/
  | phy
  /-- Clock generation: the DRAM PLL, the bypass divider and the clock gates. -/
  | clock
  /-- The platform's power controller. -/
  | power
  /-- The reset controller, including the PHY's power-ok input. -/
  | reset
  /-- The sequencer that switches between two speeds on its own. -/
  | fastSwitch
  deriving DecidableEq, Inhabited

namespace Window

/-- The windows in order. -/
def list : List Window := [ddrc, phy, clock, power, reset, fastSwitch]

/-- The place of a window in the order. -/
def index : Window → Fin 6
  | ddrc => 0
  | phy => 1
  | clock => 2
  | power => 3
  | reset => 4
  | fastSwitch => 5

/-- The name of a window. -/
def name : Window → String
  | ddrc => "Ddrc"
  | phy => "Phy"
  | clock => "Clock"
  | power => "Power"
  | reset => "Reset"
  | fastSwitch => "FastSwitch"

@[simp] theorem getElem?_list (w : Window) : list[w.index]? = some w := by cases w <;> rfl

/-- The windows that belong to the DRAM power domain: their registers are lost with its power. -/
def inDramDomain : Window → Bool
  | ddrc | phy => true
  | _ => false

end Window

/-! ### Registers -/

/-- A single 32-bit register. -/
structure Register where
  /-- The window that holds the register. -/
  window : Window
  /-- Where it lies in its window. -/
  offset : UInt32
  deriving DecidableEq, Inhabited

namespace Register

/-- The short form of a register, `Ddrc+0x3fc`. -/
def text (r : Register) : String := r.window.name ++ "+" ++ hex r.offset.toNat

/-- The long form of a register, which names its two fields. -/
def inspect (r : Register) : String :=
  "Register \x7b window: " ++ r.window.name ++ ", offset: " ++ toString r.offset.toNat ++ " \x7d"

/-- The order of registers: by window, then by offset. -/
def precedes (r s : Register) : Bool :=
  r.window.index < s.window.index || (r.window == s.window && r.offset ≤ s.offset)

/-- A list of registers in order. -/
def sorted (rs : List Register) : List Register := rs.mergeSort precedes

end Register

end Reclock
