/-
**The hardware sequences that the transitions are made of.**

Each is a sequence of register accesses.  Every poll is bounded by the configured limit, and a
poll that runs out ends the sequence at once: the hardware is left as it is.

Quasi-dynamic registers of the controller are programmed inside a bracket that clears software-done
before and sets it and waits for its acknowledge after; the PHY's registers inside a bracket in
which software owns their bus.

Main definitions:

* `Reclock.Sequences.quasiDynamic`, `withBus` — the two brackets;
* `Reclock.Sequences.disablePorts`, `enterSelfRefresh`, `writeModeRegisters`, `halt`,
  `selectFrequency`, `loadPrograms`, `switchClock`, `dfiInit`, `calibrate`, `exitSelfRefresh`,
  `resume`, `enablePorts` — the steps of a switch;
* `Reclock.Sequences.switchPoint` — **the hardware part of a frequency switch**;
* `Reclock.Sequences.switchSpeed` — **the handshake with the hardware sequencer**.
-/

import Reclock.Clock
import Reclock.Timing

set_option relaxedAutoImplicit false
set_option autoImplicit false

namespace Reclock

namespace Sequences

open Sequence

variable {α : Type}

/-- A sequence that may time out. -/
abbrev Timed (α : Type) := Sequence PollTimeout α

/-- Polls a register until a condition holds, within the configured limit. -/
def wait (config : Config) (r : Register) (condition : UInt32 → Bool) : Timed Unit := do
  let _ ← waitUntil r config.pollLimit condition

/-- Whether any of some bits are set. -/
def anySet (bits value : UInt32) : Bool := value &&& bits != 0

/-- Whether all of some bits are clear. -/
def allClear (bits value : UInt32) : Bool := value &&& bits == 0

/-! ### Brackets -/

/-- Runs a sequence with the controller's quasi-dynamic registers open. -/
def quasiDynamic (config : Config) (body : Timed Unit) : Timed Unit := do
  clearBits Ddrc.swctl Ddrc.swDone
  body
  setBits Ddrc.swctl Ddrc.swDone
  wait config Ddrc.swstat (anySet Ddrc.swDoneAck)

/-- Runs a sequence with software owning the bus to the PHY's registers. -/
def withBus (body : Timed α) : Timed α := do
  write Phy.busOwner Phy.ownedBySoftware
  let result ← body
  write Phy.busOwner Phy.ownedByPhy
  return result

/-! ### Ports -/

/-- Stops the AXI ports accepting transactions and waits for the outstanding ones. -/
def disablePorts (config : Config) : Timed Unit := do
  .forEach config.ports fun port => clearBits (Ddrc.pctrl port) Ddrc.portEnable
  wait config Ddrc.pstat (· == 0)

/-- Lets the AXI ports accept transactions again. -/
def enablePorts (config : Config) : Timed Unit :=
  .forEach config.ports fun port => setBits (Ddrc.pctrl port) Ddrc.portEnable

/-! ### Self-refresh -/

/-- Whether a status says that software forced self-refresh. -/
def inForcedSelfRefresh (stat : UInt32) : Bool :=
  stat &&& Ddrc.operatingModeMask == Ddrc.modeSelfRefresh &&
    stat &&& Ddrc.selfRefreshTypeMask == Ddrc.selfRefreshSoftware

/-- Whether a status says that the controller operates normally. -/
def inNormalMode (stat : UInt32) : Bool := stat &&& Ddrc.operatingModeMask == Ddrc.modeNormal

theorem inForcedSelfRefresh_iff {stat : UInt32} : inForcedSelfRefresh stat = true ↔
    stat &&& Ddrc.operatingModeMask = Ddrc.modeSelfRefresh ∧
      stat &&& Ddrc.selfRefreshTypeMask = Ddrc.selfRefreshSoftware := by
  rw [inForcedSelfRefresh, Bool.and_eq_true, beq_iff_eq, beq_iff_eq]

theorem inNormalMode_iff {stat : UInt32} :
    inNormalMode stat = true ↔ stat &&& Ddrc.operatingModeMask = Ddrc.modeNormal := by
  rw [inNormalMode, beq_iff_eq]

/-- Stops automatic refresh and calibration and forces the DRAM into self-refresh. -/
def enterSelfRefresh (config : Config) : Timed Unit := do
  quasiDynamic config do
    setBits Ddrc.rfshctl3 Ddrc.noAutoRefresh
    setBits Ddrc.zqctl0 Ddrc.noAutoZq
  setBits Ddrc.pwrctl Ddrc.selfRefreshForced
  wait config Ddrc.stat inForcedSelfRefresh

/-- Restarts automatic refresh and calibration and lets the DRAM leave self-refresh. -/
def exitSelfRefresh (config : Config) : Timed Unit := do
  quasiDynamic config do
    clearBits Ddrc.rfshctl3 Ddrc.noAutoRefresh
    clearBits Ddrc.zqctl0 Ddrc.noAutoZq
  clearBits Ddrc.pwrctl Ddrc.selfRefreshForced
  wait config Ddrc.stat inNormalMode

/-! ### Mode registers -/

/-- The control word of a mode register write, without the bit that starts it. -/
def modeControl (config : Config) (number : UInt32) : UInt32 :=
  config.modeRanks <<< Ddrc.modeRankShift |||
    (number &&& Ddrc.modeAddressMask) <<< Ddrc.modeAddressShift

/-- Waits until no mode register write is under way. -/
def waitModeIdle (config : Config) : Timed Unit := wait config Ddrc.mrstat (allClear Ddrc.modeBusy)

/-- Writes mode registers of the DRAM devices, one at a time. -/
def writeModeRegisters (config : Config) (program : RegisterProgram) : Timed Unit := do
  .forEach program fun entry => do
    waitModeIdle config
    write Ddrc.mrctrl1 entry.value
    write Ddrc.mrctrl0 (modeControl config entry.offset)
    write Ddrc.mrctrl0 (modeControl config entry.offset ||| Ddrc.modeWrite)
  waitModeIdle config

/-! ### Halting -/

/-- Stops the controller dequeueing commands and waits for its queues and pipelines to empty. -/
def halt (config : Config) : Timed Unit := do
  setBits Ddrc.dbg1 Ddrc.halted
  wait config Ddrc.dbgcam fun value => value &&& Ddrc.drained == Ddrc.drained

/-- Undoes `halt`. -/
def resume : Timed Unit := clearBits Ddrc.dbg1 Ddrc.halted

/-! ### Programming a point -/

/-- Points the frequency selectors of the controller and of the DFI at a frequency point. -/
def selectFrequency (config : Config) (index : FrequencyIndex) : Timed Unit :=
  quasiDynamic config do
    modify Ddrc.mstr2 fun value =>
      value &&& ~~~Ddrc.targetFrequencyMask ||| index.val.toUInt32 &&& Ddrc.targetFrequencyMask
    modify Ddrc.dfimisc fun value =>
      value &&& ~~~Ddrc.dfiFrequencyMask |||
        index.val.toUInt32 <<< Ddrc.dfiFrequencyShift &&& Ddrc.dfiFrequencyMask

/-- Loads a point's controller timings. -/
def loadController (config : Config) (timings : PointTimings) : Timed Unit :=
  quasiDynamic config (applyProgram .ddrc timings.controller)

/-- Loads a point's controller timings, PHY initialisation values and trained values. -/
def loadPrograms (config : Config) (timings : PointTimings) : Timed Unit := do
  loadController config timings
  withBus do
    applyProgram .phy timings.phyInit
    applyProgram .phy timings.phyTrained

/-! ### The clock -/

/-- Takes the core clock from the bypass divider, set up for a data rate. -/
def switchToBypass (config : Config) (dataRate : UInt32) : Timed Unit := do
  modify Clock.bypassDivider fun value =>
    value &&& ~~~Clock.bypassDividerMask |||
      (bypassRatio config dataRate - 1) &&& Clock.bypassDividerMask
  wait config Clock.bypassStat (anySet Clock.bypassUpdated)
  setBits Clock.coreSelect Clock.selectBypass

/-- Takes the core clock from the PLL, locked again for a data rate. -/
def switchToPll (config : Config) (dataRate : UInt32) : Timed Unit := do
  clearBits Clock.pllControl Clock.pllRun
  write Clock.pllDividers (PllDividers.forDataRate dataRate config.referenceMhz).word
  setBits Clock.pllControl Clock.pllRun
  wait config Clock.pllControl (anySet Clock.pllLock)
  clearBits Clock.coreSelect Clock.selectBypass

/-- Switches the core clock to that of a point. -/
def switchClock (config : Config) (point : FrequencyPoint) : Timed Unit :=
  if point.bypass then switchToBypass config point.dataRate
  else switchToPll config point.dataRate

/-! ### Synchronising the PHY -/

/-- Asks the PHY to initialise, and waits for completion to drop and to come back.  Completion is
still set from before, so to see it set before it has dropped would prove nothing. -/
def dfiInit (config : Config) : Timed Unit :=
  quasiDynamic config do
    clearBits Ddrc.dfimisc (Ddrc.dfiCompleteEnable ||| Ddrc.dfiInitStart)
    setBits Ddrc.dfimisc Ddrc.dfiInitStart
    wait config Ddrc.dfistat (allClear Ddrc.dfiComplete)
    clearBits Ddrc.dfimisc Ddrc.dfiInitStart
    wait config Ddrc.dfistat (anySet Ddrc.dfiComplete)
    setBits Ddrc.dfimisc Ddrc.dfiCompleteEnable

/-- Makes a short ZQ calibration. -/
def calibrate (config : Config) : Timed Unit := do
  wait config Ddrc.dbgstat (allClear Ddrc.zqBusy)
  setBits Ddrc.dbgcmd Ddrc.zqCalibrate
  wait config Ddrc.dbgstat (allClear Ddrc.zqBusy)

/-! ### Whole transitions -/

/-- **The hardware part of a frequency switch**, for which every other core must be parked.  The
calibration is made only if neither clock is the bypass divider's. -/
def switchPoint (config : Config) (leavingBypass : Bool) (point : FrequencyPoint)
    (timings : PointTimings) : Timed Unit := do
  -- The DRAM takes its new mode registers while it refreshes itself.
  disablePorts config
  enterSelfRefresh config
  writeModeRegisters config timings.modeRegisters
  halt config
  -- Nothing is under way any more, so timings and clock may change.
  selectFrequency config point.index
  loadPrograms config timings
  switchClock config point
  dfiInit config
  if leavingBypass || point.bypass then pure () else calibrate config
  -- Controller, PHY and DRAM agree again.
  exitSelfRefresh config
  resume
  enablePorts config

/-- Tells the hardware sequencer which speed to apply. -/
def selectSpeed : Speed → Timed Unit
  | .full => clearBits FastSwitch.ctrl FastSwitch.halfSpeed
  | .half => setBits FastSwitch.ctrl FastSwitch.halfSpeed

/-- **The handshake with the hardware sequencer**: the speed is selected while it is idle, the
stop request is raised until it is acknowledged, and the acknowledgement must drop again. -/
def switchSpeed (config : Config) (speed : Speed) : Timed Unit := do
  wait config FastSwitch.stat (allClear FastSwitch.stopped)
  selectSpeed speed
  setBits FastSwitch.ctrl FastSwitch.stopRequest
  wait config FastSwitch.stat (anySet FastSwitch.stopped)
  clearBits FastSwitch.ctrl FastSwitch.stopRequest
  wait config FastSwitch.stat (allClear FastSwitch.stopped)

end Sequences

end Reclock
