/-
**Retention: what survives while the DRAM subsystem is off.**

The subsystem is powered down with the DRAM in self-refresh and powered up again.  A small snapshot
outside its power domain keeps the frequency point it was running at, and, from the first time on,
the PHY's trained values, which do not survive and cannot be trained again cheaply.

Main definitions:

* `Reclock.RetentionState` — active, entering, retained, exiting;
* `Reclock.Snapshot`, `Reclock.TrainedValues` — what survives;
* `Reclock.Snapshot.trainedAt` — the saved values, if they belong to a point;
* `Reclock.Retention`, `Reclock.RetentionAccess` — the shared memory, and the steps on it.
-/

import Reclock.Timing

set_option relaxedAutoImplicit false
set_option autoImplicit false

namespace Reclock

/-! ### State and snapshot -/

/-- Where the subsystem is between running and being off. -/
inductive RetentionState
  /-- It is powered and running. -/
  | active
  /-- Its way down has begun, and may have failed. -/
  | entering
  /-- It is off, the DRAM in self-refresh. -/
  | retained
  /-- Its way up has begun, and may have failed. -/
  | exiting
  deriving DecidableEq, Inhabited

/-- The name of a state. -/
def RetentionState.name : RetentionState → String
  | active => "Active"
  | entering => "Entering"
  | retained => "Retained"
  | exiting => "Exiting"

/-- The largest number of trained values that a snapshot holds. -/
def maxTrained : Nat := 64

/-- Trained values, in the order of the timing table's list for the point they were read at. -/
structure TrainedValues where
  /-- The point they were read at. -/
  frequency : FrequencyIndex
  /-- The values. -/
  values : List UInt32
  deriving DecidableEq, Inhabited

/-- **What survives while the subsystem is off.**  Cleared memory is a snapshot of point zero
without trained values. -/
structure Snapshot where
  /-- The point that was running when the subsystem last went off. -/
  frequency : FrequencyIndex := ⟨0⟩
  /-- The trained values, once they have been saved. -/
  trained : Option TrainedValues := none
  deriving DecidableEq, Inhabited

namespace Snapshot

/-- The saved trained values. -/
def values (s : Snapshot) : List UInt32 :=
  match s.trained with
  | some trained => trained.values
  | none => []

/-- **The saved values, if they belong to the point** and there are any.  Values of one point say
nothing about another. -/
def trainedAt (s : Snapshot) (index : FrequencyIndex) : Option (List UInt32) :=
  match s.trained with
  | some trained =>
      if trained.frequency = index ∧ trained.values ≠ [] then some trained.values else none
  | none => none

end Snapshot

/-- Whether a point has every program that the way up needs, and no more trained values than a
snapshot holds. -/
def PointTimings.retainable (t : PointTimings) : Bool :=
  !t.controller.isEmpty && !t.phyInit.isEmpty && !t.phyTrained.isEmpty && !t.phyEngine.isEmpty &&
    t.phyTrained.length ≤ maxTrained

/-- Retention needs the programs of the controller, of the PHY, its training and its engine, and
room for 64 trained values. -/
theorem PointTimings.retainable_iff {t : PointTimings} : t.retainable = true ↔
    [] ∉ [t.controller, t.phyInit, t.phyTrained, t.phyEngine] ∧ t.phyTrained.length ≤ 64 := by
  rw [retainable, Bool.and_eq_true, decide_eq_true_eq]
  refine and_congr ?_ Iff.rfl
  simp [and_assoc, @eq_comm RegisterProgram []]

/-! ### The shared memory -/

/-- The memory of retention, shared by all cores. -/
structure Retention where
  /-- Where the subsystem is. -/
  state : RetentionState := .active
  /-- What survives while it is off. -/
  snapshot : Snapshot := {}
  deriving DecidableEq, Inhabited

/-- One indivisible step on the memory of retention. -/
inductive RetentionAccess
  /-- Reads the state. -/
  | readState
  /-- Records a state. -/
  | writeState (state : RetentionState)
  /-- Begins the way down if the subsystem is active; the reply says whether it was. -/
  | beginEntry
  /-- Begins the way up if the subsystem is off; the reply is then the snapshot. -/
  | beginExit
  /-- Reads the snapshot. -/
  | readSnapshot
  /-- Records a snapshot. -/
  | writeSnapshot (snapshot : Snapshot)
  deriving DecidableEq

namespace RetentionAccess

/-- What a step is answered with. -/
abbrev Reply : RetentionAccess → Type
  | readState => RetentionState
  | beginEntry => Bool
  | beginExit => Option Snapshot
  | readSnapshot => Snapshot
  | _ => Unit

/-- **What a step does.** -/
def apply : (a : RetentionAccess) → Retention → a.Reply × Retention
  | readState, m => (m.state, m)
  | writeState state, m => ((), { m with state })
  | beginEntry, m =>
      if m.state = .active then (true, { m with state := .entering }) else (false, m)
  | beginExit, m =>
      if m.state = .retained then (some m.snapshot, { m with state := .exiting }) else (none, m)
  | readSnapshot, m => (m.snapshot, m)
  | writeSnapshot snapshot, m => ((), { m with snapshot })

end RetentionAccess

end Reclock
