/-
**What a switch of the frequency point installs.**

A switch begins with what is the same for every point: the DRAM is put into self-refresh, and the
controller comes to rest.  Then selectors, programs and clock of the target are set, and in the end
controller, PHY and DRAM are brought back to work.  On ready hardware the whole switch runs to its
end, and leaves the target installed, whatever the registers held before.

Main definitions:

* `Reclock.Hardware.Works`, `Settled` — the subsystem works, and nothing is left undone;
* `Reclock.Hardware.Programmed`, `Installed` — **the hardware holds a point**, and runs at it.

Main results:

* `Reclock.Hardware.Ready.serves_conclude` — the end of a switch, which installed points survive;
* `Reclock.Hardware.Ready.completes_switchPoint` — **a switch installs the target completely**.
-/

import Reclock.Proofs.Service

set_option relaxedAutoImplicit false
set_option autoImplicit false

namespace Reclock

namespace Hardware

open Procedure Sequences

variable {h h' : Hardware} {config : Config} {set : Register → Prop}

/-! ### Back to work -/

/-- **The subsystem works**: the DRAM is out of self-refresh, the PHY is initialised, the
controller accepts commands, and the ports transactions. -/
structure Works (h : Hardware) (config : Config) : Prop where
  normal : h.value Ddrc.stat = Ddrc.modeNormal
  initialised : h.value Ddrc.dfistat = Ddrc.dfiComplete
  resumed : h.value Ddrc.dbg1 &&& Ddrc.halted = 0
  ports : ∀ port : UInt8, port.toNat < config.axiPorts.toNat → h.PortOpen port

/-- **Nothing is left undone**: refresh and calibration are automatic again, the quasi-dynamic
registers are closed, and the handshake with the PHY is over and acted upon. -/
structure Settled (h : Hardware) : Prop where
  refreshes : h.Refreshes
  closed : h.Closed
  handshake : h.value Ddrc.dfimisc &&& (Ddrc.dfiCompleteEnable ||| Ddrc.dfiInitStart) =
    Ddrc.dfiCompleteEnable

/-- The end of a switch. -/
def conclude (config : Config) (bypassed : Bool) : Timed Unit := do
  dfiInit config
  calibrateUnless config bypassed
  exitSelfRefresh config
  resume
  enablePorts config

/-- The registers that the end of a switch writes. -/
def IsConclusion (r : Register) : Prop :=
  r ∈ selfRefreshControls ++ [Ddrc.dfimisc, Ddrc.dbgcmd, Ddrc.dbg1] ∨ IsPort r

theorem harmless_of_isConclusion : ∀ r, IsConclusion r → r.Harmless := by
  rintro r (hr | hr)
  · have hall : ∀ r ∈ selfRefreshControls ++ [Ddrc.dfimisc, Ddrc.dbgcmd, Ddrc.dbg1],
        r.Harmless := by
      decide
    exact hall r hr
  · exact harmless_of_isPort r hr

theorem within_conclude {bypassed : Bool} :
    (conclude config bypassed).Within (Access.Writes IsConclusion) := by
  have hself : ∀ r ∈ selfRefreshControls, IsConclusion r := fun r hr =>
    .inl (List.mem_append_left _ hr)
  have hlisted : ∀ r ∈ [Ddrc.dfimisc, Ddrc.dbgcmd, Ddrc.dbg1], IsConclusion r := fun r hr =>
    .inl (List.mem_append_right _ hr)
  refine within_bind (within_dfiInit (hself _ (by decide)) (hlisted _ (by decide))) fun _ => ?_
  refine within_bind (within_calibrateUnless (hlisted _ (by decide))) fun _ => ?_
  refine within_bind (within_exitSelfRefresh hself) fun _ => ?_
  refine within_bind (within_resume (hlisted _ (by decide))) fun _ => ?_
  exact within_enablePorts fun port => .inr ⟨port, rfl⟩

/-- A register below those of the ports is neither one of them nor follows one. -/
theorem not_touches_of_isPort {r q : Register} (hr : IsPort r)
    (hq : q.window = .ddrc → q.offset.toNat < 0x490) : ¬ r.Touches q := by
  obtain ⟨port, rfl⟩ := hr
  rintro (rfl | hfollowed)
  · exact Ddrc.pctrl_ne hq port rfl
  · have hall : ∀ entry ∈ Register.followed, entry.1 ∈ Register.reactive := by decide
    exact pctrl_not_reactive port (hall _ hfollowed)

theorem not_isPort {r : Register} (hr : r.window = .ddrc → r.offset.toNat < 0x490) : ¬ IsPort r :=
  fun hport => not_touches_of_isPort hport hr (.inl rfl)

/-- The end of a switch writes none of the registers that programs may write. -/
theorem reserved_of_isConclusion {r : Register} (hr : IsConclusion r) : r ∈ Register.reserved := by
  rcases hr with hr | ⟨port, rfl⟩
  · have hall : ∀ r ∈ selfRefreshControls ++ [Ddrc.dfimisc, Ddrc.dbgcmd, Ddrc.dbg1],
        r ∈ Register.reserved := by
      decide +kernel
    exact hall r hr
  · exact Ddrc.pctrl_mem_reserved port

theorem not_isConclusion {r : Register}
    (hr : r ∉ selfRefreshControls ++ [Ddrc.dfimisc, Ddrc.dbgcmd, Ddrc.dbg1])
    (hlow : r.window = .ddrc → r.offset.toNat < 0x490) : ¬ IsConclusion r := by
  rintro (hmem | hport)
  · exact hr hmem
  · exact not_isPort hlow hport

theorem not_mem_of_isConclusion {rs : List Register}
    (hrs : ∀ q ∈ rs, q ∉ selfRefreshControls ++ [Ddrc.dfimisc, Ddrc.dbgcmd, Ddrc.dbg1] ∧
      (q.window = .ddrc → q.offset.toNat < 0x490)) : ∀ r, IsConclusion r → r ∉ rs :=
  fun r hr hmem => not_isConclusion (hrs r hmem).1 (hrs r hmem).2 hr

/-- **The end of a switch brings the subsystem back to work**, at the same point. -/
theorem Ready.serves_conclude (hready : h.Ready) (hlimit : 0 < config.pollLimit.toNat)
    (bypassed : Bool) :
    h.Serves (conclude config bypassed) IsConclusion fun _ h' => h'.Works config ∧ h'.Settled ∧
      h'.value Ddrc.dfimisc &&& Ddrc.dfiFrequencyMask =
        h.value Ddrc.dfimisc &&& Ddrc.dfiFrequencyMask := by
  refine hready.serves within_conclude harmless_of_isConclusion ?_
  refine (hready.serves_dfiInit hlimit).andThen fun _ h₁ hready₁ _ hend₁ => ?_
  refine (hready₁.serves_calibrateUnless hlimit bypassed).andThen fun _ h₂ hready₂ hkept₂ _ => ?_
  refine (hready₂.serves_exitSelfRefresh hlimit).andThen fun _ h₃ hready₃ hkept₃ hend₃ => ?_
  refine hready₃.serves_resume.andThen fun _ h₄ hready₄ hkept₄ hresumed₄ => ?_
  refine hready₄.serves_enablePorts.completes fun _ h' hkept hports => ?_
  -- No later part writes what an earlier one has established.
  have hopened : ∀ q, (q.window = .ddrc → q.offset.toNat < 0x490) → h'.value q = h₄.value q :=
    fun q hq => hkept.value q fun r hr => not_touches_of_isPort hr hq
  have hinitialised : ∀ q, (q.window = .ddrc → q.offset.toNat < 0x490) →
      (∀ r ∈ Ddrc.dbg1 :: Ddrc.dbgcmd :: selfRefreshControls, ¬ r.Touches q) →
        h'.value q = h₁.value q := by
    intro q hq hparts
    simp only [List.forall_mem_cons] at hparts
    obtain ⟨hdbg1, hdbgcmd, hself⟩ := hparts
    rw [hopened q hq, hkept₄.value q (by rintro r rfl; exact hdbg1), hkept₃.value q hself,
      hkept₂.value q (by rintro r rfl; exact hdbgcmd)]
  obtain ⟨hnormal₃, hrefreshes₃, hclosed₃⟩ := hend₃
  obtain ⟨⟨hcomplete₁, hhandshake₁⟩, hfield₁⟩ := hend₁
  refine ⟨⟨?_, ?_, ?_, hports⟩, ⟨?_, ?_, ?_⟩, ?_⟩
  · rw [hopened _ (by decide), hkept₄.value _ (by rintro r rfl; decide)]
    exact hnormal₃
  · rw [hinitialised _ (by decide) (by decide)]
    exact hcomplete₁
  · rw [hopened _ (by decide)]
    exact hresumed₄
  · exact (hrefreshes₃.kept hkept₄ (by rintro r rfl; decide)).kept hkept
      (not_mem_of_isPort (by decide))
  · exact (hclosed₃.kept hkept₄ (by rintro r rfl; decide)).kept hkept
      (not_mem_of_isPort (by decide))
  · rw [hinitialised _ (by decide) (by decide)]
    exact hhandshake₁
  · rw [hinitialised _ (by decide) (by decide)]
    exact hfield₁

/-! ### Everything that a point consists of -/

/-- **The hardware is programmed for a point**, with the given contents of the PHY. -/
structure Programmed (h : Hardware) (index : FrequencyIndex) (timings : PointTimings)
    (phy : RegisterProgram) : Prop where
  controller : h.Holds .ddrc timings.controller
  phy : h.Holds .phy phy
  owner : h.value Phy.busOwner = Phy.ownedByPhy
  selects : h.Selects index

/-- **The hardware holds a point**: it is programmed for it, and has its clock. -/
structure Installed (h : Hardware) (index : FrequencyIndex) (timings : PointTimings)
    (phy : RegisterProgram) : Prop extends Programmed h index timings phy where
  clocked : h.ClockedBy timings.bypass

/-- Hardware stays programmed while the registers of the point are not written, but for those of
the handshake with the PHY in the DFI's control. -/
theorem Programmed.kept {index : FrequencyIndex} {timings : PointTimings} {phy : RegisterProgram}
    (hprogrammed : h.Programmed index timings phy) (hkept : Kept set h h')
    (hclear : ∀ r ∈ RegisterProgram.registers .ddrc timings.controller ++
      RegisterProgram.registers .phy phy, r ∉ Register.reserved ∧ ¬ set r)
    (hset : ∀ r ∈ [Phy.busOwner, Ddrc.mstr2], ¬ set r)
    (hfield : h'.value Ddrc.dfimisc &&& Ddrc.dfiFrequencyMask =
      h.value Ddrc.dfimisc &&& Ddrc.dfiFrequencyMask) : h'.Programmed index timings phy := by
  simp only [List.forall_mem_append] at hclear
  simp only [List.forall_mem_cons] at hset
  obtain ⟨howner, hmstr2, -⟩ := hset
  refine ⟨?_, ?_, ?_, ?_, ?_⟩
  · exact hprogrammed.controller.kept hkept rfl (fun r hr => (hclear.1 r hr).1)
      fun r hr => (hclear.1 r hr).2
  · exact hprogrammed.phy.kept hkept rfl (fun r hr => (hclear.2 r hr).1)
      fun r hr => (hclear.2 r hr).2
  · rw [hkept.unwritten (by decide) howner]
    exact hprogrammed.owner
  · rw [hkept.unwritten (by decide) hmstr2]
    exact hprogrammed.selects.controller
  · rw [hfield]
    exact hprogrammed.selects.dfi

/-- The clock is switched without a program being lost. -/
theorem Programmed.switchClock {index : FrequencyIndex} {timings : PointTimings}
    {phy : RegisterProgram} (hprogrammed : h.Programmed index timings phy)
    (hkept : Kept (· ∈ clockControls) h h')
    (hclear : ∀ r ∈ RegisterProgram.registers .ddrc timings.controller ++
      RegisterProgram.registers .phy phy, r ∉ Register.reserved) :
    h'.Programmed index timings phy := by
  refine hprogrammed.kept hkept (fun r hr => ⟨hclear r hr, fun hclock => ?_⟩) (by decide) ?_
  · have hwindow := window_of_clockControls r hclock
    rcases List.mem_append.1 hr with hr | hr <;>
      cases (RegisterProgram.window_of_mem_registers hr).symm.trans hwindow
  · rw [hkept.unwritten (by decide) (by decide)]

/-- A point that is installed survives the end of a switch. -/
theorem Installed.conclude {index : FrequencyIndex} {timings : PointTimings}
    {phy : RegisterProgram} (hinstalled : h.Installed index timings phy)
    (hkept : Kept IsConclusion h h')
    (hclear : ∀ r ∈ RegisterProgram.registers .ddrc timings.controller ++
      RegisterProgram.registers .phy phy, r ∉ Register.reserved)
    (hfield : h'.value Ddrc.dfimisc &&& Ddrc.dfiFrequencyMask =
      h.value Ddrc.dfimisc &&& Ddrc.dfiFrequencyMask) : h'.Installed index timings phy where
  toProgrammed := by
    refine hinstalled.toProgrammed.kept hkept (fun r hr => ⟨hclear r hr, fun hconclusion => ?_⟩) ?_
      hfield
    · exact hclear r hr (reserved_of_isConclusion hconclusion)
    · simp only [List.forall_mem_cons]
      exact ⟨not_isConclusion (by decide) nofun, not_isConclusion (by decide) (by decide), nofun⟩
  clocked := by
    have hselect : ¬ IsConclusion Clock.coreSelect := not_isConclusion (by decide) nofun
    rw [ClockedBy, hkept.unwritten (by decide) hselect]
    exact hinstalled.clocked

/-! ### The switch -/

/-- **A switch installs the target completely**, and leaves nothing undone. -/
theorem Ready.completes_switchPoint (hready : h.Ready)
    (hlimit : modeBusyReads < config.pollLimit.toNat) (hranks : config.modeRanks.toNat < 256)
    {timings : PointTimings} (hclear : timings.KeepsClear) (index : FrequencyIndex)
    (leavingBypass : Bool) :
    (switchPoint config leavingBypass (timings.point index) timings).Completes
      RegisterFile.answer h fun _ h' =>
        h'.Installed index timings (timings.phyInit ++ timings.phyTrained) ∧
          (h'.Works config ∧ h'.Settled ∧ (h.StandsBy → h'.StandsBy)) ∧
          h'.modeWrites.toList = h.modeWrites.toList ++ timings.modeRegisters.map modeEntry := by
  have hone : 0 < config.pollLimit.toNat := Nat.lt_of_le_of_lt (Nat.zero_le _) hlimit
  rw [switchPoint_eq]
  refine (hready.serves_disablePorts hone).andThen fun _ h₁ hready₁ hkept₁ _ => ?_
  refine (hready₁.serves_enterSelfRefresh hone).andThen fun _ h₂ hready₂ hkept₂ _ => ?_
  refine (hready₂.serves_writeModeRegisters hlimit hranks _).andThen
    fun _ h₃ hready₃ hkept₃ hmode₃ => ?_
  refine (hready₃.serves_halt hone).andThen fun _ h₄ hready₄ hkept₄ _ => ?_
  refine (hready₄.serves_selectFrequency hone index).andThen
    fun _ h₅ hready₅ hkept₅ hselects₅ => ?_
  refine (hready₅.serves_loadPrograms hone hclear).andThen
    fun _ h₆ hready₆ hkept₆ hloaded₆ => ?_
  refine (hready₆.serves_switchClock hone (timings.point index)).andThen
    fun _ h₇ hready₇ hkept₇ hclocked₇ => ?_
  refine (hready₇.serves_conclude hone _).completes fun _ h' hkept hend => ?_
  obtain ⟨hcontroller₆, hphy₆, howner₆⟩ := hloaded₆
  have hprograms : ∀ r ∈ RegisterProgram.registers .ddrc timings.controller ++
      RegisterProgram.registers .phy (timings.phyInit ++ timings.phyTrained),
      r ∉ Register.reserved := by
    obtain ⟨hcontroller, hinit, htrained, -⟩ := hclear.parts
    rw [RegisterProgram.registers_append]
    simp only [List.forall_mem_append]
    exact ⟨hcontroller, hinit, htrained⟩
  have hunloaded : ∀ r ∈ [Ddrc.mstr2, Ddrc.dfimisc, Ddrc.mrctrl0], ¬ IsLoaded timings r := by
    have hall : ∀ r ∈ [Ddrc.mstr2, Ddrc.dfimisc, Ddrc.mrctrl0],
        r ∈ Ddrc.named ∧ r ∉ [Ddrc.swctl, Phy.busOwner] := by
      decide
    exact fun r hr => not_isLoaded hclear (Register.mem_reserved_of_named (hall r hr).1)
      (hall r hr).2
  have hselects₆ := hselects₅.kept hkept₆ (hunloaded _ (by decide)) (hunloaded _ (by decide))
  have hprogrammed₆ : h₆.Programmed index timings (timings.phyInit ++ timings.phyTrained) :=
    ⟨hcontroller₆, hphy₆, howner₆, hselects₆⟩
  have hinstalled₇ : h₇.Installed index timings (timings.phyInit ++ timings.phyTrained) :=
    ⟨hprogrammed₆.switchClock hkept₇ hprograms, hclocked₇.1⟩
  obtain ⟨hworks, hsettled, hfield⟩ := hend
  refine ⟨hinstalled₇.conclude hkept hprograms hfield, ⟨hworks, hsettled, fun hstands => ?_⟩, ?_⟩
  · have hstands₃ := ((hstands.kept hkept₁ (not_mem_of_isPort (by decide))).kept hkept₂
      (by decide)).kept hkept₃ (by rintro _ (rfl | rfl) <;> decide)
    have hstands₅ := (hstands₃.kept hkept₄ (by rintro _ rfl; decide)).kept hkept₅ (by decide)
    have hstands₆ := hstands₅.kept hkept₆ (not_mem_of_isLoaded hclear (by decide))
    exact (hstands₆.switchClock hkept₇ (hclocked₇.2 hstands₆.locked)).kept hkept
      (not_mem_of_isConclusion (by decide))
  rw [hkept.modeWrites (not_isConclusion (by decide) (by decide)), hkept₇.modeWrites (by decide),
    hkept₆.modeWrites (hunloaded _ (by decide)), hkept₅.modeWrites (by decide),
    hkept₄.modeWrites (by decide), hmode₃, hkept₂.modeWrites (by decide),
    hkept₁.modeWrites (not_isPort (by decide))]

end Hardware

end Reclock
