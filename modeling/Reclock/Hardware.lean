/-
**A model of the DRAM subsystem's hardware.**

The model stands in for the controller, the PHY and the clock, power and reset blocks around them.
A register reads back what was last written to it, except for the status registers, which follow
the control bits they report on.  The model also watches over its user: it faults on an access
that real hardware would not survive, such as a PHY register reached while the PHY owns its bus.

Reads can be pinned to a value, and registers can be given values directly; both bypass every
effect.  All writes are recorded.

Main definitions:

* `Reclock.Hardware` — the state of the model;
* `Reclock.Hardware.booted`, `bootedAt` — a subsystem that runs from the PLL, and one that holds
  the programs of a frequency point;
* `Reclock.Hardware.effect` — **what a write does**;
* `Reclock.Hardware.read`, `Reclock.Hardware.write` — checked accesses, which make the model a
  register file.
-/

import Reclock.Register.Layout
import Reclock.Register.Map
import Reclock.Timing

set_option relaxedAutoImplicit false
set_option autoImplicit false

namespace Reclock

/-- **The state of the modelled hardware.** -/
structure Hardware where
  /-- What the registers hold. -/
  values : RegisterMap := {}
  /-- The reads that are pinned. -/
  pins : RegisterMap := {}
  /-- Every write so far. -/
  writes : Array (Register × UInt32) := #[]
  /-- Every mode register write so far, as number and value. -/
  modeWrites : Array (UInt32 × UInt32) := #[]
  /-- For how many more reads the latest mode register write is busy. -/
  busyReads : Nat := 0
  /-- Whether the DRAM power domain is on. -/
  powered : Bool := false
  deriving Inhabited

namespace Hardware

/-- The number of AXI ports of the modelled controller. -/
def axiPorts : Nat := 3

/-- For how many reads of its status a mode register write stays busy. -/
def modeBusyReads : Nat := 2

/-! ### Contents -/

/-- What a register holds, whatever its reads are pinned to. -/
def value (h : Hardware) (r : Register) : UInt32 := h.values.get r

/-- Gives a register a value without any effect. -/
def store (h : Hardware) (r : Register) (v : UInt32) : Hardware :=
  { h with values := h.values.set r v }

/-- Takes the values of all registers of the DRAM power domain away. -/
def dropDomain (h : Hardware) : Hardware :=
  { h with values := h.values.dropWhere fun r => r.window.inDramDomain }

/-- Gives registers of a window the values of a program, without any effect. -/
def preload (h : Hardware) (w : Window) (program : RegisterProgram) : Hardware :=
  program.foldl (fun h entry => h.store ⟨w, entry.offset⟩ entry.value) h

/-- Makes every read of a register return a value. -/
def pin (h : Hardware) (r : Register) (v : UInt32) : Hardware :=
  { h with pins := h.pins.set r v }

/-- Undoes `pin`. -/
def unpin (h : Hardware) (r : Register) : Hardware := { h with pins := h.pins.erase r }

/-- Forgets the writes recorded so far. -/
def clearWrites (h : Hardware) : Hardware := { h with writes := #[], modeWrites := #[] }

/-- The positions, among the writes so far, of those that satisfy a condition. -/
def writePositions (h : Hardware) (condition : Register → UInt32 → Bool) : List Nat :=
  (h.writes.toList.zipIdx.filter fun entry => condition entry.1.1 entry.1.2).map (·.2)

/-! ### Power -/

/-- Sets the PHY's reset status: a cold reset is complete while the domain is powered, power-ok is
raised and the PHY is out of reset. -/
def updateResetStat (h : Hardware) : Hardware :=
  let control := h.value Reset.control
  let complete := h.powered && control &&& Reset.phyPowerOk != 0 && control &&& Reset.phyReset == 0
  h.store Phy.resetStat (if complete then Phy.coldResetDone else 0)

/-- The status of self-refresh forced by software. -/
def forcedSelfRefresh : UInt32 := Ddrc.modeSelfRefresh ||| Ddrc.selfRefreshSoftware

/-- The registers that power-up leaves in self-refresh, the PHY not yet initialised. -/
def wakeRetained (h : Hardware) : Hardware :=
  (h.store Ddrc.stat forcedSelfRefresh).store Ddrc.pwrctl Ddrc.selfRefreshForced

/-- The registers of a subsystem in normal operation. -/
def wakeRunning (h : Hardware) : Hardware :=
  let h := h.store Ddrc.stat Ddrc.modeNormal
  let h := h.store Ddrc.dfistat Ddrc.dfiComplete
  let h := h.store Ddrc.dfimisc Ddrc.dfiCompleteEnable
  (List.range axiPorts).foldl
    (fun h port => h.store (Ddrc.pctrl (UInt8.ofNat port)) Ddrc.portEnable) h

/-- **Turns the power domain on**, its registers reset.  With `retained`, the DRAM comes back in
self-refresh and the PHY has to be initialised. -/
def powerOn (h : Hardware) (retained : Bool) : Hardware :=
  let h := { h.dropDomain with powered := true, busyReads := 0 }
  let h := if retained then h.wakeRetained else h.wakeRunning
  let h := h.store Ddrc.dbgcam Ddrc.drained
  let h := h.store Ddrc.swctl Ddrc.swDone
  let h := h.store Ddrc.swstat Ddrc.swDoneAck
  let h := h.store Phy.busOwner Phy.ownedByPhy
  h.updateResetStat

/-- Turns the power domain off, its registers lost. -/
def powerOff (h : Hardware) : Hardware :=
  ({ h with powered := false }.dropDomain).updateResetStat

/-! ### Booting -/

/-- A subsystem that is powered and runs normally from the PLL. -/
def booted : Hardware :=
  let h : Hardware := {}
  let h := h.store Reset.control Reset.phyPowerOk
  let h := h.store Clock.pllControl (Clock.pllRun ||| Clock.pllLock)
  let h := h.store Clock.bypassStat Clock.bypassUpdated
  let h := h.store Clock.dramGate Clock.gateOn
  h.powerOn false

/-- A subsystem that holds the programs of a frequency point, as the boot loader leaves it. -/
def bootedAt (timings : PointTimings) : Hardware :=
  let h := booted.preload .ddrc timings.controller
  let h := h.preload .phy timings.phyInit
  let h := h.preload .phy timings.phyTrained
  h.preload .phy timings.phyEngine

/-! ### Accesses -/

/-- Whether an access to a register needs the PHY's bus and software does not own it. -/
def busDenied (h : Hardware) (r : Register) : Bool :=
  r.window == .phy && !Phy.alwaysReachable.contains r &&
    h.value Phy.busOwner != Phy.ownedBySoftware

/-- Starts the mode register write that a control word asks for. -/
def startModeWrite (h : Hardware) (v : UInt32) : Except Fault Hardware :=
  if h.busyReads ≠ 0 then .error (.modeRegisterBusy h.busyReads)
  else
    let number := v >>> Ddrc.modeAddressShift &&& Ddrc.modeAddressMask
    let entry := (number, h.value Ddrc.mrctrl1)
    .ok ({ h with busyReads := modeBusyReads, modeWrites := h.modeWrites.push entry }.store
      Ddrc.mrctrl0 (v &&& ~~~Ddrc.modeWrite))

/-- Writes the DFI control: completion drops while initialisation is asked for, and comes back
once it no longer is. -/
def writeDfimisc (h : Hardware) (v : UInt32) : Hardware :=
  let before := h.value Ddrc.dfimisc &&& Ddrc.dfiInitStart == Ddrc.dfiInitStart
  let after := v &&& Ddrc.dfiInitStart == Ddrc.dfiInitStart
  let h := h.store Ddrc.dfimisc v
  if !before && after then h.store Ddrc.dfistat 0
  else if before && !after then h.store Ddrc.dfistat Ddrc.dfiComplete
  else h

/-- Asks for the power domain to be turned off.  Its clocks must be gated. -/
def requestDown (h : Hardware) (v : UInt32) : Except Fault Hardware :=
  if v &&& Power.dramDomain = 0 then .ok (h.store Power.downRequest 0)
  else if h.value Clock.dramGate ≠ 0 then .error (.clocksRunning (h.value Clock.dramGate))
  else .ok (h.powerOff.store Power.downRequest 0)

/-- Asks for the power domain to be turned on. -/
def requestUp (h : Hardware) (v : UInt32) : Hardware :=
  (if v &&& Power.dramDomain = 0 then h else h.powerOn true).store Power.upRequest 0

/-- Writes the reset control.  Power-ok may only drop while the domain is off and only rise while
it is on. -/
def writeReset (h : Hardware) (v : UInt32) : Except Fault Hardware :=
  let old := h.value Reset.control
  if old &&& ~~~v &&& Reset.phyPowerOk ≠ 0 ∧ h.powered then .error .powerOkDropped
  else if ~~~old &&& v &&& Reset.phyPowerOk ≠ 0 ∧ !h.powered then .error .powerOkRaised
  else .ok (h.store Reset.control v).updateResetStat

/-- **What a write does**, once it is allowed. -/
def effect (h : Hardware) (r : Register) (v : UInt32) : Except Fault Hardware :=
  if r = Ddrc.mrctrl0 ∧ v &&& Ddrc.modeWrite ≠ 0 then h.startModeWrite v
  else if r = Ddrc.pwrctl then
    let forced := v &&& Ddrc.selfRefreshForced == Ddrc.selfRefreshForced
    .ok ((h.store r v).store Ddrc.stat (if forced then forcedSelfRefresh else Ddrc.modeNormal))
  else if r = Ddrc.dfimisc then .ok (h.writeDfimisc v)
  else if r = Ddrc.swctl then .ok ((h.store r v).store Ddrc.swstat (v &&& Ddrc.swDoneAck))
  else if r = Ddrc.dbgcmd then .ok (h.store r 0)
  else if r = Phy.lpCtrl then .ok ((h.store r v).store Phy.lpStat (v &&& Phy.holdActive))
  else if r = Clock.pllControl then
    let lock := if v &&& Clock.pllRun ≠ 0 then Clock.pllLock else 0
    .ok (h.store r (v &&& ~~~Clock.pllLock ||| lock))
  else if r = Clock.bypassDivider then
    .ok ((h.store r v).store Clock.bypassStat Clock.bypassUpdated)
  else if r = Power.downRequest then h.requestDown v
  else if r = Power.upRequest then .ok (h.requestUp v)
  else if r = Reset.control then h.writeReset v
  else if r = FastSwitch.ctrl then
    let stopped := if v &&& FastSwitch.stopRequest ≠ 0 then FastSwitch.stopped else 0
    .ok ((h.store r v).store FastSwitch.stat stopped)
  else .ok (h.store r v)

/-- **Writes a register**: the write is recorded, and refused if the register has no power or the
PHY owns the bus to it. -/
def write (r : Register) (v : UInt32) (h : Hardware) : Except Fault Hardware :=
  -- A refused write is recorded too.
  let h := { h with writes := h.writes.push (r, v) }
  if r.window.inDramDomain && !h.powered then .error (.writtenUnpowered r)
  else if h.busDenied r then .error (.busNotOwned r)
  else h.effect r v

/-- **Reads a register.**  A pinned read has no effect; a register without power reads as zero;
the status of mode register writes counts the reads made while one is busy. -/
def read (r : Register) (h : Hardware) : Except Fault (UInt32 × Hardware) :=
  match h.pins.find? r with
  | some v => .ok (v, h)
  | none =>
      if h.busDenied r then .error (.busNotOwned r)
      else if r.window.inDramDomain && !h.powered then .ok (0, h)
      else if r = Ddrc.mrstat ∧ h.busyReads > 0 then
        .ok (h.value r ||| Ddrc.modeBusy, { h with busyReads := h.busyReads - 1 })
      else .ok (h.value r, h)

instance : RegisterFile Hardware := ⟨read, write⟩

end Hardware

/-! ### Scripted reads -/

/-- A register file of which some reads are answered by a script and do not reach it. -/
structure Scripted (H : Type) where
  /-- The register file behind the script. -/
  inner : H
  /-- The reads still to be answered, in order. -/
  script : List (Register × UInt32) := []

namespace Scripted

variable {H : Type}

/-- Takes the first answer for a register out of a script. -/
def take (r : Register) : List (Register × UInt32) → Option (UInt32 × List (Register × UInt32))
  | [] => none
  | (s, v) :: rest =>
      if s = r then some (v, rest)
      else (take r rest).map fun (found, rest) => (found, (s, v) :: rest)

/-- Adds answers for the next reads of a register, behind those still to be given. -/
def extend (s : Scripted H) (r : Register) (values : List UInt32) : Scripted H :=
  { s with script := s.script ++ values.map fun v => (r, v) }

instance [RegisterFile H] : RegisterFile (Scripted H) where
  read r s :=
    match take r s.script with
    | some (v, rest) => .ok (v, { s with script := rest })
    | none =>
        match RegisterFile.read r s.inner with
        | .ok (v, inner) => .ok (v, { s with inner })
        | .error f => .error f
  write r v s :=
    match RegisterFile.write r v s.inner with
    | .ok inner => .ok { s with inner }
    | .error f => .error f

end Scripted

end Reclock
