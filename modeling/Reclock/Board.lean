/-
**A sample board.**

The sample board has four cores, a controller with three ports, and three frequency points: two
from the PLL, between which the hardware sequencer can switch, and a slow one from the bypass
divider.  Its registers are those of the modelled hardware.

Main definitions:

* `Reclock.Board.samplePoints`, `sampleTable`, `sampleConfig` — the points and the parameters;
* `Reclock.bootFrequency` — the point that the boot loader left the controller at;
* `Reclock.Board.controller`, `boot` — the board's controller, and the board as it comes up.
-/

import Reclock.Hardware
import Reclock.Smc.DramService
import Reclock.System

set_option relaxedAutoImplicit false
set_option autoImplicit false

namespace Reclock

/-- **The frequency point that the boot loader left the controller at.** -/
def bootFrequency {ε : Type} : Sequence ε FrequencyIndex := do
  let value ← Sequence.read Ddrc.mstr2
  return ⟨(value &&& Ddrc.targetFrequencyMask).toUInt8⟩

namespace Board

/-! ### Frequency points -/

/-- A register program whose values carry a data rate and their place among the point's values,
counted from `first`. -/
def taggedProgram (dataRate : UInt32) (first : Nat) (offsets : List UInt32) : RegisterProgram :=
  offsets.zipIdx.map fun (offset, i) => ⟨offset, dataRate <<< 8 ||| UInt32.ofNat (first + i)⟩

/-- A sample point. -/
def samplePoint (dataRate : UInt32) (bypass : Bool) : PointTimings where
  dataRate
  bypass
  controller := taggedProgram dataRate 1 [0x064, 0x0d0, 0x0dc, 0x100, 0x104, 0x190]
  phyInit := taggedProgram dataRate 7 [0x1005f, 0x1015f, 0x20055]
  phyTrained := taggedProgram dataRate 10 [0x200b2, 0x10043, 0x11043, 0x12043]
  phyEngine := taggedProgram dataRate 14 [0x90000, 0x90001]
  modeRegisters := (taggedProgram dataRate 16 [1, 2, 3, 13]).map fun entry =>
    { entry with value := entry.value &&& 0xff }

/-- The sample points: 3200 and 1600 MT/s from the PLL, 400 MT/s from the bypass divider. -/
def samplePoints : List PointTimings :=
  [samplePoint 3200 false, samplePoint 1600 false, samplePoint 400 true]

/-- The table of the sample points, with fast switching between the first two. -/
def sampleTable : TimingTable where
  points := samplePoints
  fast := some ⟨⟨0⟩, ⟨1⟩⟩
  points_ne_nil := by simp [samplePoints]
  length_points_le := by simp [samplePoints, maxPoints]
  fast_lt := by
    intro pair h
    cases h
    decide

/-- The parameters of the sample board, with a small bound on polls. -/
def sampleConfig : Config := ⟨100, 800, 24, 0x1, 3⟩

/-! ### The board -/

/-- The number of cores. -/
def coreCount : Nat := 4

/-- The board's controller. -/
def controller : Controller := ⟨sampleTable, sampleConfig, coreCount⟩

/-- The point that the modelled hardware shows a boot loader to have left it at. -/
def bootPoint (hardware : Hardware) : FrequencyIndex :=
  match RegisterFile.run (ε := Empty) bootFrequency hardware with
  | .ok (.ok index) _ => index
  | _ => ⟨0⟩

/-- The record that announces a board. -/
def announcement (table : TimingTable) (current : FrequencyIndex) : LogRecord :=
  ⟨.info, "DRAM timing table has " ++ toString table.size ++ " frequency points, booted at " ++
    current.text⟩

/-- **The board as it comes up**, its registers holding the first point's programs. -/
def boot : System Hardware :=
  let hardware := Hardware.bootedAt (samplePoint 3200 false)
  let current := bootPoint hardware
  let system := System.start hardware coreCount current
  system.record (.log (announcement sampleTable current))

/-- The answer to a secure monitor call made on the board's first core. -/
def handleCall : Handler := dispatch [DramService.service controller 0]

end Board

end Reclock
