/-
**Registers with a meaning of their own, and tables that keep clear of them.**

The sequences drive the controller and the PHY through registers that they know by name.  A timing
table is free in which registers its programs write, and one that wrote those would interfere with
the sequences.  A table keeps clear if none of its programs does.

Main definitions:

* `Reclock.Register.reserved` — the named registers of the controller and the PHY, with the control
  registers of all ports;
* `Reclock.PointTimings.registers` — the registers that the programs of a point write;
* `Reclock.TimingTable.KeepsClear` — **no program of the table writes a reserved register**.

Main results:

* `Reclock.Ddrc.pctrl_ne` — the control registers of the ports lie apart from the named ones;
* `Reclock.Register.inDramDomain_of_reserved` — every reserved register is lost with the power.
-/

import Mathlib.Data.List.Basic
import Reclock.Board

set_option relaxedAutoImplicit false
set_option autoImplicit false

namespace Reclock

/-! ### Reserved registers -/

/-- The registers of the controller that have a name. -/
def Ddrc.named : List Register :=
  [stat, mrctrl0, mrctrl1, mrstat, mstr2, pwrctl, rfshctl3, zqctl0, dfimisc, dfistat, dbg1, dbgcam,
    dbgcmd, dbgstat, swctl, swstat, pstat]

/-- The control registers of all ports that a controller can have. -/
def Ddrc.portControls : List Register := (List.range 256).map fun port => pctrl (.ofNat port)

/-- **The registers that a program must not write**: those of the controller and of the PHY that
have a name. -/
def Register.reserved : List Register := Ddrc.named ++ Ddrc.portControls ++ Phy.alwaysReachable

theorem Ddrc.window_of_named : ∀ r ∈ named, r.window = .ddrc := by decide

theorem Phy.window_of_reachable : ∀ r ∈ alwaysReachable, r.window = .phy := by decide

theorem Ddrc.toNat_offset_pctrl (port : UInt8) :
    (pctrl port).offset.toNat = 0x490 + 0xb0 * port.toNat := by
  have hport := port.toNat_lt
  simp only [pctrl, UInt32.toNat_add, UInt32.toNat_mul, UInt8.toNat_toUInt32, UInt32.reduceToNat]
  omega

/-- The control registers of the ports lie behind the named ones. -/
theorem Ddrc.pctrl_ne {r : Register} (hr : r.window = .ddrc → r.offset.toNat < 0x490)
    (port : UInt8) : pctrl port ≠ r := by
  rintro rfl
  have h := hr rfl
  rw [toNat_offset_pctrl] at h
  omega

theorem Ddrc.pctrl_mem_reserved (port : UInt8) : pctrl port ∈ Register.reserved := by
  refine List.mem_append_left _ (List.mem_append_right _ ?_)
  exact List.mem_map.2 ⟨port.toNat, List.mem_range.2 port.toNat_lt, by rw [UInt8.ofNat_toNat]⟩

theorem Register.mem_reserved_of_named {r : Register} (h : r ∈ Ddrc.named) : r ∈ reserved :=
  List.mem_append_left _ (List.mem_append_left _ h)

theorem Register.mem_reserved_of_reachable {r : Register} (h : r ∈ Phy.alwaysReachable) :
    r ∈ reserved :=
  List.mem_append_right _ h

/-- A reserved register belongs to the controller or to the PHY. -/
theorem Register.inDramDomain_of_reserved {r : Register} (h : r ∈ reserved) :
    r.window.inDramDomain = true := by
  rcases List.mem_append.1 h with h | h
  · rcases List.mem_append.1 h with h | h
    · rw [Ddrc.window_of_named r h]
      rfl
    · obtain ⟨port, -, rfl⟩ := List.mem_map.1 h
      rfl
  · rw [Phy.window_of_reachable r h]
    rfl

/-! ### What a table writes -/

/-- The registers that a program for a window writes. -/
def RegisterProgram.registers (w : Window) (program : RegisterProgram) : List Register :=
  program.map fun entry => ⟨w, entry.offset⟩

theorem RegisterProgram.registers_append (w : Window) (first second : RegisterProgram) :
    registers w (first ++ second) = registers w first ++ registers w second :=
  List.map_append

namespace PointTimings

/-- The registers of the controller and of the PHY that the programs of a point write. -/
def registers (t : PointTimings) : List Register :=
  RegisterProgram.registers .ddrc t.controller ++ RegisterProgram.registers .phy t.phyInit ++
    RegisterProgram.registers .phy t.phyTrained ++ RegisterProgram.registers .phy t.phyEngine

/-- No program of the point writes a reserved register. -/
def KeepsClear (t : PointTimings) : Prop := ∀ r ∈ t.registers, r ∉ Register.reserved

instance (t : PointTimings) : Decidable t.KeepsClear :=
  inferInstanceAs (Decidable (∀ r ∈ t.registers, r ∉ Register.reserved))

/-- What keeps clear does so part by part. -/
theorem KeepsClear.parts {t : PointTimings} (h : t.KeepsClear) :
    (∀ r ∈ t.controller.registers .ddrc, r ∉ Register.reserved) ∧
      (∀ r ∈ t.phyInit.registers .phy, r ∉ Register.reserved) ∧
        (∀ r ∈ t.phyTrained.registers .phy, r ∉ Register.reserved) ∧
          ∀ r ∈ t.phyEngine.registers .phy, r ∉ Register.reserved := by
  simp only [KeepsClear, registers, List.forall_mem_append] at h
  exact ⟨h.1.1.1, h.1.1.2, h.1.2, h.2⟩

end PointTimings

/-- **No program of the table writes a reserved register.** -/
def TimingTable.KeepsClear (t : TimingTable) : Prop := ∀ timings ∈ t.points, timings.KeepsClear

instance (t : TimingTable) : Decidable t.KeepsClear :=
  inferInstanceAs (Decidable (∀ timings ∈ t.points, timings.KeepsClear))

theorem TimingTable.KeepsClear.timings {t : TimingTable} (h : t.KeepsClear)
    {index : FrequencyIndex} {timings : PointTimings} (ht : t.timings? index = some timings) :
    timings.KeepsClear :=
  h timings (List.mem_of_getElem? ht)

/-- The programs of the sample board write no reserved register. -/
theorem Board.sampleTable_keepsClear : sampleTable.KeepsClear := by decide +kernel

end Reclock
