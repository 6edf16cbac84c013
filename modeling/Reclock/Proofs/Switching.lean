/-
**A switch of the frequency, whatever came before.**

After every history of a system, a switch that is asked for in an active subsystem, and for another
point that can be switched to, succeeds, and leaves the target installed completely.  Controller
and PHY hold what the target's programs write last, the DRAM devices have got its mode registers,
and the selectors read back as the target.

Main results:

* `Reclock.Hardware.Selects.run_bootFrequency`, `dfi_field` — the selectors read back;
* `Reclock.Controller.switch_installs` — **a switch succeeds and installs the target**.
-/

import Reclock.Proofs.History
import Reclock.Proofs.Success

set_option relaxedAutoImplicit false
set_option autoImplicit false

namespace Reclock

/-- The points of a table have small numbers. -/
theorem TimingTable.toNat_lt_of_timings? {t : TimingTable} {index : FrequencyIndex}
    {timings : PointTimings} (h : t.timings? index = some timings) : index.val.toNat < 4 := by
  have hlt := (List.getElem?_eq_some_iff.1 h).1
  exact Nat.lt_of_lt_of_le hlt t.length_points_le

namespace Hardware

variable {h : Hardware} {index : FrequencyIndex}

/-! ### Reading the selectors back -/

/-- The number of a point fits the fields that select it. -/
theorem fields_of_lt (hindex : index.val.toNat < 4) :
    (index.val.toUInt32 &&& Ddrc.targetFrequencyMask).toUInt8 = index.val ∧
      (index.val.toUInt32 <<< Ddrc.dfiFrequencyShift &&& Ddrc.dfiFrequencyMask) >>>
        Ddrc.dfiFrequencyShift = index.val.toUInt32 := by
  have hcases : index.val = 0 ∨ index.val = 1 ∨ index.val = 2 ∨ index.val = 3 := by
    simp only [← UInt8.toNat_inj, UInt8.toNat_ofNat]
    omega
  rcases hcases with h | h | h | h <;> rw [h] <;> decide

/-- **A boot loader's point is read from hardware that selects it.** -/
theorem Selects.run_bootFrequency {ε : Type} (hselects : h.Selects index) (hready : h.Ready)
    (hindex : index.val.toNat < 4) :
    RegisterFile.run (bootFrequency : Sequence ε FrequencyIndex) h = .ok (.ok index) h := by
  have hopen : h.Open Ddrc.mstr2 := hready.open (.inl (.inl (by decide)))
  obtain ⟨v, h₁, hrun, rfl, rfl⟩ := hopen.completes_read (ε := ε) (by decide)
  refine (Procedure.run_bind_of_ok hrun).trans ?_
  rw [hselects.controller, (fields_of_lt hindex).1]
  rfl

/-- The DFI's control has the number of the point in its field. -/
theorem Selects.dfi_field (hselects : h.Selects index) (hindex : index.val.toNat < 4) :
    (h.value Ddrc.dfimisc &&& Ddrc.dfiFrequencyMask) >>> Ddrc.dfiFrequencyShift =
      index.val.toUInt32 := by
  rw [hselects.dfi, (fields_of_lt hindex).2]

end Hardware

namespace Controller

variable {c : Controller} {s : System Hardware}

/-! ### The switch -/

/-- **A switch succeeds and installs the target**, after every history: in an active subsystem,
without pins, for another point of the table, of which the programs that a switch loads are not
empty, and for cores of the system.
Controller and PHY hold what the programs of the target give their registers last, the DRAM devices
have got the target's mode registers, in order and nothing besides, the selectors read back as the
target, its clock is selected, and the subsystem works, so that it can be switched again. -/
theorem switch_installs (hclear : c.table.KeepsClear) (hlimit : 3 ≤ c.config.pollLimit.toNat)
    (hranks : c.config.modeRanks.toNat < 256) (hhistory : c.History s)
    (hunpinned : s.hardware.Unpinned) (hactive : s.retention.state = .active)
    {target : FrequencyIndex} {timings : PointTimings}
    (htimings : c.table.timings? target = some timings)
    (hprograms : [] ∉ [timings.controller, timings.phyInit, timings.phyTrained,
      timings.modeRegisters]) (hother : s.barrier.current ≠ target) {online : CoreMask}
    (hcores : ∀ k, online.contains k = true → k < c.coreCount) {core : Nat} (hcore : core < 32) :
    ∃ s', System.run (c.switchFrequency core target online) s = .ok (.ok ()) s' ∧
      s'.barrier.current = target ∧
      s'.hardware.Installed target timings (timings.phyInit ++ timings.phyTrained) ∧
      s'.hardware.modeWrites.toList = s.hardware.modeWrites.toList ++
        timings.modeRegisters.map (fun entry => (entry.offset &&& 0xff, entry.value)) ∧
      RegisterFile.run (bootFrequency : Sequence Empty FrequencyIndex) s'.hardware =
        .ok (.ok target) s'.hardware ∧
      (s'.hardware.value Ddrc.dfimisc &&& Ddrc.dfiFrequencyMask) >>> Ddrc.dfiFrequencyShift =
        target.val.toUInt32 ∧
      s'.hardware.Works c.config ∧ s'.hardware.Unpinned ∧ s'.retention = s.retention := by
  have hswitchable := PointTimings.switchable_iff.2 hprograms
  have hadmitted := admits_iff.2 hcores
  have hbetween := between_of_history hclear hhistory
  have hready := hbetween.ready hactive hunpinned
  have hindex := TimingTable.toNat_lt_of_timings? htimings
  have hmoves : c.Moves s (.switch target online) _ target :=
    .switch htimings hswitchable hadmitted hother
  have hserves := hready.serves (hmoves.within hclear) (fun _ hr => hr)
    (hready.completes_switchPoint hlimit hranks (hclear.timings htimings) target _)
  obtain ⟨_, s', hrun, ⟨hready', -, hinstalled, ⟨hworks, -⟩, hmode⟩, hcurrent, -, -, hretention⟩ :=
    completes_switchFrequency hbetween.calm hbetween.free hactive htimings hswitchable hadmitted
      hother hcore (hbetween.lt_of_admits hadmitted) (hserves.mono fun _ _ h => h)
  exact ⟨s', hrun, hcurrent, hinstalled, hmode,
    hinstalled.selects.run_bootFrequency hready' hindex, hinstalled.selects.dfi_field hindex,
    hworks, hready'.unpinned, hretention⟩

/-- The sample board switches from its first point to its third, whose clock comes from the bypass
divider, and then to its second, whose clock comes from the PLL. -/
theorem switch_installs_twice :
    Board.controller.History Board.boot ∧ ∃ s₁ s₂,
      System.run (Board.controller.switchFrequency 0 ⟨2⟩ (.all 4)) Board.boot = .ok (.ok ()) s₁ ∧
        s₁.hardware.value Clock.coreSelect &&& Clock.selectBypass = Clock.selectBypass ∧
          System.run (Board.controller.switchFrequency 3 ⟨1⟩ ⟨0x9⟩) s₁ = .ok (.ok ()) s₂ ∧
            s₂.barrier.current = ⟨1⟩ ∧
              s₂.hardware.Holds .ddrc (Board.samplePoint 1600 false).controller ∧
                s₂.hardware.value Clock.coreSelect &&& Clock.selectBypass = 0 := by
  have hlimit : 3 ≤ Board.controller.config.pollLimit.toNat := by decide
  have hranks : Board.controller.config.modeRanks.toNat < 256 := by decide
  have htimings₂ : Board.controller.table.timings? ⟨2⟩ = some (Board.samplePoint 400 true) := rfl
  have htimings₁ : Board.controller.table.timings? ⟨1⟩ = some (Board.samplePoint 1600 false) := rfl
  have hother : Board.boot.barrier.current ≠ ⟨2⟩ := by
    rw [Board.current_boot]
    decide
  have hall : ∀ k, (CoreMask.all 4).contains k = true → k < Board.controller.coreCount :=
    admits_iff.1 (show Board.controller.admits _ = true by decide)
  have hpair : ∀ k, (⟨0x9⟩ : CoreMask).contains k = true → k < Board.controller.coreCount :=
    admits_iff.1 (show Board.controller.admits _ = true by decide)
  have hfirst : 0 < 32 := by decide
  have hlast : 3 < 32 := by decide
  obtain ⟨s₁, hrun₁, hcurrent₁, hinstalled₁, -, -, -, -, hunpinned₁, hretention₁⟩ :=
    switch_installs Board.sampleTable_keepsClear hlimit hranks Board.history_boot (fun _ => rfl)
      rfl htimings₂ (by decide) hother hall hfirst
  have hhistory₁ : Board.controller.History s₁ :=
    Board.history_boot.call 0 (.switch ⟨2⟩ (.all 4)) hrun₁ nofun
  have hother₁ : s₁.barrier.current ≠ ⟨1⟩ := by
    rw [hcurrent₁]
    decide
  obtain ⟨s₂, hrun₂, hcurrent₂, hinstalled₂, -⟩ :=
    switch_installs Board.sampleTable_keepsClear hlimit hranks hhistory₁ hunpinned₁
      (by rw [hretention₁]; rfl) htimings₁ (by decide) hother₁ hpair hlast
  exact ⟨Board.history_boot, s₁, s₂, hrun₁, hinstalled₁.clocked, hrun₂, hcurrent₂,
    hinstalled₂.controller, hinstalled₂.clocked⟩

end Controller

end Reclock
