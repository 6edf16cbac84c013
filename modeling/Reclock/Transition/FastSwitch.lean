/-
**Switching the speed by the hardware sequencer.**

The sequencer switches between the two points of the table's fast pair on its own, once software
has selected a speed and asked it to stop the controller.  The mode registers already in the
controller are used again, so only the current point of the pair can be left this way.

Main definitions:

* `Reclock.Controller.fastSwitch` — **the switch**.
-/

import Reclock.Transition.Switch

set_option relaxedAutoImplicit false
set_option autoImplicit false

namespace Reclock

namespace Controller

open Operation

/-- The switch proper, in a session that has the other point of the pair. -/
def fastSwitchTo (c : Controller) (core : Nat) (target : FrequencyIndex) (speed : Speed)
    (online : CoreMask) : Operation TransitionError Unit := do
  log .info ("Fast switching DRAM to " ++ speed.name)
  quiesce core online
  let outcome ← Procedure.attempt (registers (Sequences.switchSpeed c.config speed))
  match outcome with
  | .error timeout => do
      -- As after a failed frequency switch, session and barrier stay claimed.
      log .error ("DRAM fast switch to " ++ target.text ++ " failed: " ++ timeout.message)
      .fail (.pollTimeout timeout)
  | .ok () => do
      release
      Session.finish target

/-- **Switches to a speed by the hardware sequencer**, with every online core but the caller
parked meanwhile.  Refused, in this order: a table without a fast pair, a set of cores that is not
of this system, a subsystem that is in a session or not active, and a current point outside the
pair.  Switching to the speed in use does nothing. -/
def fastSwitch (c : Controller) (core : Nat) (speed : Speed) (online : CoreMask) :
    Operation TransitionError Unit := do
  let current ← currentFrequency
  let pair ← .demand c.table.fast (.invalidTransition current current)
  .require (c.admits online) (.invalidCoreMask online)
  let session ← beginActive
  if session.current ≠ pair.full ∧ session.current ≠ pair.half then
    session.refuse (.invalidTransition session.current (pair.point speed))
  else if session.current = pair.point speed then session.cancel
  else c.fastSwitchTo core (pair.point speed) speed online

end Controller

end Reclock
