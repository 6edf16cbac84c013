/-
**The quiescence barrier.**

Before a core may take the DRAM away it parks every other core.  All cores share a small memory:
the cores that have arrived, whether arrivals are held, how often the barrier has been released,
whether a session is in flight, and the frequency point the subsystem runs at.  One core at a time
holds the session; it sets the hold, interrupts the others, waits for them to arrive, and releases
them by advancing the epoch before it drops the hold.

The memory is only touched by the accesses below, each of which is one indivisible step.  The wait
for arrivals is an access that cannot be made before the cores are there.

Main definitions:

* `Reclock.Barrier` — the shared memory;
* `Reclock.BarrierAccess` — the steps of the core that holds or claims the session, and
  `Reclock.BarrierAccess.apply`, what each does;
* `Reclock.Barrier.arrive` — the one step by which another core changes the memory.
-/

import Reclock.CoreMask
import Reclock.Timing

set_option relaxedAutoImplicit false
set_option autoImplicit false

namespace Reclock

/-! ### The shared memory -/

/-- **The memory of the barrier**, shared by all cores. -/
structure Barrier where
  /-- The cores that have arrived in the current or latest session. -/
  arrived : CoreMask
  /-- Whether cores that arrive have to wait. -/
  hold : Bool
  /-- How often the barrier has been released. -/
  epoch : UInt32
  /-- Whether a session is in flight. -/
  inProgress : Bool
  /-- The frequency point that the subsystem runs at. -/
  current : FrequencyIndex
  deriving DecidableEq, Inhabited

namespace Barrier

/-- A barrier that nobody has used, for a subsystem that runs at the given point. -/
def start (current : FrequencyIndex) : Barrier :=
  { arrived := .empty, hold := false, epoch := 0, inProgress := false, current }

/-- A core reports that it has arrived.  Interrupts reach no core of number 32 or more. -/
def arrive (b : Barrier) (core : Nat) : Barrier :=
  match CoreId.ofNat core with
  | .ok c => { b with arrived := b.arrived.insert c }
  | .error _ => b

/-- The field by field text of the memory. -/
def inspect (b : Barrier) : String :=
  "BarrierState \x7b arrived: " ++ b.arrived.inspect ++ ", hold: " ++ toString b.hold ++
    ", epoch: " ++ toString b.epoch.toNat ++ ", in_progress: " ++ toString b.inProgress ++
    ", current: " ++ b.current.inspect ++ " \x7d"

end Barrier

/-! ### The steps of a session -/

/-- One indivisible step on the memory of the barrier. -/
inductive BarrierAccess
  /-- Takes the session if it is free; the reply says whether it was. -/
  | claim
  /-- Gives the session back. -/
  | unclaim
  /-- Reads the current frequency point. -/
  | readCurrent
  /-- Records a frequency point as the current one. -/
  | writeCurrent (index : FrequencyIndex)
  /-- Forgets the cores that have arrived. -/
  | clearArrived
  /-- Makes cores that arrive wait. -/
  | hold
  /-- Goes on once the given cores have all arrived. -/
  | awaitArrival (cores : CoreMask)
  /-- Counts a release. -/
  | advanceEpoch
  /-- Lets cores that arrive pass. -/
  | unhold
  deriving DecidableEq

namespace BarrierAccess

/-- What a step is answered with. -/
abbrev Reply : BarrierAccess → Type
  | claim => Bool
  | readCurrent => FrequencyIndex
  | _ => Unit

/-- **What a step does**, if it can be made. -/
def apply : (a : BarrierAccess) → Barrier → Option (a.Reply × Barrier)
  | claim, b => some (!b.inProgress, { b with inProgress := true })
  | unclaim, b => some ((), { b with inProgress := false })
  | readCurrent, b => some (b.current, b)
  | writeCurrent index, b => some ((), { b with current := index })
  | clearArrived, b => some ((), { b with arrived := .empty })
  | hold, b => some ((), { b with hold := true })
  | awaitArrival cores, b => if b.arrived.containsAll cores then some ((), b) else none
  | advanceEpoch, b => some ((), { b with epoch := b.epoch + 1 })
  | unhold, b => some ((), { b with hold := false })

end BarrierAccess

end Reclock
