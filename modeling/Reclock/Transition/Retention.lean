/-
**Powering the DRAM subsystem down and up again.**

On the way down the controller is drained and halted with the DRAM in self-refresh, the PHY's
trained values are read back the first time, and clocks, power and power-ok are taken away in that
order.  On the way up the point that was running is programmed anew before the DRAM leaves
self-refresh, with the saved values in place of the table's if they belong to it.

Main definitions:

* `Reclock.Sequences.quietDown`, `powerOff`, `powerUp` — the hardware sequences;
* `Reclock.Controller.enterRetention` — **the way down**;
* `Reclock.Controller.exitRetention` — **the way up**.
-/

import Reclock.Transition.Switch

set_option relaxedAutoImplicit false
set_option autoImplicit false

namespace Reclock

/-! ### Sequences -/

namespace Sequences

open Sequence

/-- Brings the controller and the PHY to rest, the DRAM in self-refresh. -/
def quietDown (config : Config) : Timed Unit := do
  disablePorts config
  enterSelfRefresh config
  halt config
  setBits Phy.lpCtrl Phy.holdRequest
  wait config Phy.lpStat (anySet Phy.holdActive)

/-- Reads the trained values of a point from the PHY. -/
def readTrained (timings : PointTimings) : Timed (List UInt32) :=
  withBus (.collect timings.phyTrained fun entry => read ⟨.phy, entry.offset⟩)

/-- Takes clocks, power and power-ok away, in this order. -/
def powerOff (config : Config) : Timed Unit := do
  write Clock.dramGate 0
  setBits Power.downRequest Power.dramDomain
  wait config Power.downRequest (allClear Power.dramDomain)
  clearBits Reset.control Reset.phyPowerOk

/-- Brings power, power-ok and clocks back under reset, and releases the resets. -/
def powerOn (config : Config) (point : FrequencyPoint) : Timed Unit := do
  setBits Power.upRequest Power.dramDomain
  wait config Power.upRequest (allClear Power.dramDomain)
  setBits Reset.control Reset.allResets
  setBits Reset.control Reset.phyPowerOk
  write Clock.dramGate Clock.gateOn
  switchClock config point
  clearBits Reset.control Reset.allResets
  wait config Phy.resetStat (anySet Phy.coldResetDone)

/-- The writes that restore trained values: the saved ones at the table's offsets if there are
any, the table's own otherwise. -/
def trainedProgram (timings : PointTimings) : Option (List UInt32) → RegisterProgram
  | some values => timings.phyTrained.zipWith (fun entry value => ⟨entry.offset, value⟩) values
  | none => timings.phyTrained

/-- Programs the PHY of a point anew. -/
def loadPhy (timings : PointTimings) (trained : Option (List UInt32)) : Timed Unit :=
  withBus do
    applyProgram .phy timings.phyInit
    applyProgram .phy (trainedProgram timings trained)
    applyProgram .phy timings.phyEngine

/-- **The hardware part of the way up**, to a point with its timings and the trained values saved
for it. -/
def powerUp (config : Config) (point : FrequencyPoint) (timings : PointTimings)
    (trained : Option (List UInt32)) : Timed Unit := do
  powerOn config point
  loadController config timings
  selectFrequency config point.index
  enterSelfRefresh config
  loadPhy timings trained
  clearBits Phy.lpCtrl Phy.holdRequest
  wait config Phy.lpStat (allClear Phy.holdActive)
  dfiInit config
  exitSelfRefresh config
  resume
  enablePorts config

end Sequences

/-! ### Operations -/

namespace Controller

open Operation

/-- Records the current point in the snapshot, and with it the trained values unless some have
been saved before. -/
def saveSnapshot (current : FrequencyIndex) (timings : PointTimings) :
    Operation PollTimeout Unit := do
  let snapshot ← retention .readSnapshot
  match snapshot.trained with
  | some trained => retention (.writeSnapshot ⟨current, some trained⟩)
  | none => do
      let values ← registers (Sequences.readTrained timings)
      retention (.writeSnapshot ⟨current, some ⟨current, values⟩⟩)

/-- The way down as far as the hardware and the snapshot are concerned. -/
def powerDown (c : Controller) (current : FrequencyIndex) (timings : PointTimings) :
    Operation PollTimeout Unit := do
  registers (Sequences.quietDown c.config)
  saveSnapshot current timings
  -- The snapshot must be in retained memory before the power goes.
  signal .flush
  registers (Sequences.powerOff c.config)

/-- The way down proper, in a session of an active subsystem. -/
def enterFrom (c : Controller) (session : Session) (timings : PointTimings) :
    Operation TransitionError Unit := do
  log .info ("DRAM entering retention at " ++ rateText timings.dataRate ++ " MT/s")
  let outcome ← Procedure.attempt (c.powerDown session.current timings)
  match outcome with
  | .error timeout => do
      log .error ("DRAM retention entry failed: " ++ timeout.message)
      .fail (.pollTimeout timeout)
  | .ok () => do
      retention (.writeState .retained)
      Session.finish session.current

/-- **Powers the subsystem down.**  The caller must have parked every other core.  Refused, in
this order: a session in flight, a current point that is not there or lacks a program, and a
subsystem that is not active. -/
def enterRetention (c : Controller) : Operation TransitionError Unit := do
  let session ← Session.begin
  match (c.table.timings? session.current).filter PointTimings.retainable with
  | none => session.refuse (.invalidIndex session.current)
  | some timings => do
      let active ← retention .beginEntry
      if active then c.enterFrom session timings else session.refuse .busy

/-- The way up proper, in a session of a subsystem that was off with the given snapshot. -/
def exitTo (c : Controller) (session : Session) (snapshot : Snapshot) :
    Operation TransitionError Unit := do
  let index := snapshot.frequency
  match c.table.timings? index with
  | none => session.refuse (.invalidIndex index)
  | some timings => do
      let outcome ← Procedure.attempt (registers
        (Sequences.powerUp c.config (timings.point index) timings (snapshot.trainedAt index)))
      match outcome with
      | .error timeout => do
          log .error ("DRAM retention exit failed: " ++ timeout.message)
          .fail (.pollTimeout timeout)
      | .ok () => do
          retention (.writeState .active)
          Session.finish index
          log .info ("DRAM left retention at " ++ rateText timings.dataRate ++ " MT/s")

/-- **Powers the subsystem up** at the point that was running when it went off.  Refused, in this
order: a subsystem that is not off, a session in flight, and a snapshot of a point that is not in
the table, as only a corrupted one can be. -/
def exitRetention (c : Controller) : Operation TransitionError Unit := do
  let state ← retention .readState
  .require (state = .retained) .notRetained
  let session ← Session.begin
  let snapshot ← retention .beginExit
  match snapshot with
  | none => session.refuse .notRetained
  | some snapshot => c.exitTo session snapshot

end Controller

end Reclock
