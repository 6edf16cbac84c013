/-
**Switching the frequency by software.**

The core that switches parks the others, writes its caches back, and drives the controller through
self-refresh, the target's register programs, the clock and the PHY.  Everything that can be
refused is refused before anything is touched.  A poll that times out on the way is final: the
session and the barrier stay claimed, since the subsystem is wedged.

Main definitions:

* `Reclock.Controller` — what is fixed about a controller: table, parameters, number of cores;
* `Reclock.Controller.beginActive` — a session, refused unless the subsystem is active;
* `Reclock.Controller.switchFrequency` — **the switch**.
-/

import Reclock.Operation
import Reclock.Sequences

set_option relaxedAutoImplicit false
set_option autoImplicit false

namespace Reclock

/-- What is fixed about a DRAM controller. -/
structure Controller where
  /-- The timing table. -/
  table : TimingTable
  /-- The parameters of the subsystem. -/
  config : Config
  /-- The number of cores in the system. -/
  coreCount : Nat

namespace Controller

open Operation

/-- Whether a set names only cores of the system. -/
def admits (c : Controller) (online : CoreMask) : Bool :=
  (CoreMask.all c.coreCount).containsAll online

/-- The description of a point, or the error that there is none. -/
def frequencyInfo (c : Controller) (index : FrequencyIndex) :
    Except TransitionError FrequencyPoint :=
  match c.table.point? index with
  | some point => .ok point
  | none => .error (.invalidIndex index)

/-- Begins a session, and gives it back unless the subsystem is active. -/
def beginActive : Operation TransitionError Session := do
  let session ← Session.begin
  let state ← retention .readState
  if state = .active then return session else session.refuse .busy

/-- A data rate as messages show it. -/
def rateText (dataRate : UInt32) : String := toString dataRate.toNat

/-- The switch proper, in a session that has another point than the target. -/
def switchFrom (c : Controller) (core : Nat) (session : Session) (target : FrequencyIndex)
    (timings : PointTimings) (online : CoreMask) : Operation TransitionError Unit := do
  let source := c.table.timings? session.current
  let sourceRate := (source.map (·.dataRate)).getD 0
  log .info ("Switching DRAM from " ++ rateText sourceRate ++ " to " ++
    rateText timings.dataRate ++ " MT/s")
  quiesce core online
  signal .flush
  let leavingBypass := (source.map (·.bypass)).getD false
  let outcome ← Procedure.attempt
    (registers (Sequences.switchPoint c.config leavingBypass (timings.point target) timings))
  match outcome with
  | .error timeout => do
      -- The session and the barrier stay claimed: nobody may touch the hardware again.
      log .error ("DRAM frequency switch to " ++ target.text ++ " failed: " ++ timeout.message)
      .fail (.pollTimeout timeout)
  | .ok () => do
      release
      Session.finish target
      log .info ("DRAM running at " ++ rateText timings.dataRate ++ " MT/s")

/-- **Switches to a frequency point**, with every online core but the caller parked meanwhile.
Refused, in this order: a point that is not there or lacks a program, a set of cores that is not
of this system, and a subsystem that is in a session or not active.  Switching to the current
point does nothing. -/
def switchFrequency (c : Controller) (core : Nat) (target : FrequencyIndex) (online : CoreMask) :
    Operation TransitionError Unit := do
  let timings ← .demand (c.table.timings? target) (.invalidIndex target)
  .require timings.switchable (.invalidIndex target)
  .require (c.admits online) (.invalidCoreMask online)
  let session ← beginActive
  if session.current = target then session.cancel
  else c.switchFrom core session target timings online

end Controller

end Reclock
