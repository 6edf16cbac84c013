/-
**Cores that answer the quiesce interrupt.**

A core that takes the interrupt ends it, samples the epoch, and looks whether the barrier is held.
If so it reports its arrival and then waits, for as long as the barrier is held and the epoch is
the one it sampled, each time blocking until an event is sent.  Events are latched: one that is
sent before the core blocks is not lost.

Each step of a core is indivisible.  A core that can make no step is at rest: it is idle without
a pending interrupt, or parked without a latched event.

Main definitions:

* `Reclock.Phase`, `Reclock.Core` — where a core is, and all that is its own;
* `Reclock.Core.step` — **the next step of a core**, if it can make one;
* `Reclock.Core.settle`, `Reclock.Core.settleAll` — the steps of one core, and of all, until they
  are at rest.

Main results:

* `Reclock.Core.weight_step` — every step of a core brings it closer to rest;
* `Reclock.Core.step_settle` — **a settled core is at rest**.
-/

import Reclock.Barrier

set_option relaxedAutoImplicit false
set_option autoImplicit false

namespace Reclock

/-- Where a core is in its answer to the interrupt. -/
inductive Phase
  /-- It runs something else. -/
  | idle
  /-- It has taken the interrupt and ends it next. -/
  | taken
  /-- It samples the epoch next. -/
  | ended
  /-- It looks at the hold next. -/
  | sampled (epoch : UInt32)
  /-- It reports its arrival next. -/
  | admitted (epoch : UInt32)
  /-- It looks at the hold again next. -/
  | checkingHold (epoch : UInt32)
  /-- It looks at the epoch again next. -/
  | checkingEpoch (epoch : UInt32)
  /-- It blocks until an event. -/
  | parked (epoch : UInt32)
  deriving DecidableEq, Inhabited

/-- What is a core's own. -/
structure Core where
  /-- Where it is in its answer to the interrupt. -/
  phase : Phase := .idle
  /-- Whether the interrupt is pending. -/
  pending : Bool := false
  /-- Whether an event is latched. -/
  event : Bool := false
  /-- How many interrupts it has ended. -/
  ended : Nat := 0
  deriving DecidableEq, Inhabited

namespace Core

/-! ### Steps -/

/-- **The next step of core number `n`**, if it can make one. -/
def step (n : Nat) (c : Core) (b : Barrier) : Option (Core × Barrier) :=
  match c.phase with
  | .idle => if c.pending then some ({ c with phase := .taken }, b) else none
  | .taken => some ({ c with phase := .ended, pending := false, ended := c.ended + 1 }, b)
  | .ended => some ({ c with phase := .sampled b.epoch }, b)
  | .sampled epoch =>
      some (if b.hold then { c with phase := .admitted epoch } else { c with phase := .idle }, b)
  | .admitted epoch => some ({ c with phase := .checkingHold epoch }, b.arrive n)
  | .checkingHold epoch =>
      some (if b.hold then { c with phase := .checkingEpoch epoch }
        else { c with phase := .idle }, b)
  | .checkingEpoch epoch =>
      some (if b.epoch = epoch then { c with phase := .parked epoch }
        else { c with phase := .idle }, b)
  | .parked epoch =>
      if c.event then some ({ c with phase := .checkingHold epoch, event := false }, b) else none

/-- Whether a core is parked. -/
def isParked (c : Core) : Bool :=
  match c.phase with
  | .parked _ => true
  | _ => false

/-! ### Coming to rest -/

/-- How far a phase is from idle. -/
def distance : Phase → Nat
  | .idle => 0
  | .taken => 7
  | .ended => 6
  | .sampled _ => 5
  | .admitted _ => 4
  | .checkingHold _ => 3
  | .checkingEpoch _ => 2
  | .parked _ => 1

/-- A bound on the steps of a core before it is at rest: a pending interrupt costs at most eight
and a latched event at most three. -/
def weight (c : Core) : Nat :=
  distance c.phase + (if c.pending ∧ c.phase ≠ .taken then 8 else 0) + (if c.event then 3 else 0)

/-- Every step brings a core closer to rest. -/
theorem weight_step {n : Nat} {c c' : Core} {b b' : Barrier} (h : c.step n b = some (c', b')) :
    c'.weight < c.weight := by
  obtain ⟨phase, pending, event, ended⟩ := c
  cases phase <;> grind [step, weight, distance]

/-- The steps of a core, at most `fuel` of them. -/
def stepsUpTo (n : Nat) : (fuel : Nat) → Core → Barrier → Core × Barrier
  | 0, c, b => (c, b)
  | fuel + 1, c, b =>
      match c.step n b with
      | some (c', b') => stepsUpTo n fuel c' b'
      | none => (c, b)

/-- **The steps of a core until it is at rest.** -/
def settle (n : Nat) (c : Core) (b : Barrier) : Core × Barrier := stepsUpTo n c.weight c b

theorem step_stepsUpTo {n : Nat} {fuel : Nat} {c : Core} {b : Barrier} (h : c.weight ≤ fuel) :
    (stepsUpTo n fuel c b).1.step n (stepsUpTo n fuel c b).2 = none := by
  induction fuel generalizing c b with
  | zero =>
      cases hs : c.step n b with
      | none => exact hs
      | some next => exact absurd (weight_step hs) (by omega)
  | succ fuel ih =>
      unfold stepsUpTo
      cases hs : c.step n b with
      | none => simpa using hs
      | some next => exact ih (by have := weight_step hs; omega)

/-- **A settled core is at rest.** -/
theorem step_settle (n : Nat) (c : Core) (b : Barrier) :
    (c.settle n b).1.step n (c.settle n b).2 = none :=
  step_stepsUpTo (Nat.le_refl _)

/-- The steps of all cores, numbered from `n`, until they are at rest. -/
def settleAll : (n : Nat) → List Core → Barrier → List Core × Barrier
  | _, [], b => ([], b)
  | n, c :: cs, b =>
      let (c', b') := c.settle n b
      let (cs', b'') := settleAll (n + 1) cs b'
      (c' :: cs', b'')

end Core

end Reclock
