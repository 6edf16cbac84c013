/-
**What a core does when it answers the interrupt.**

A step of an answer depends on the core, on whether the barrier is held, and on the epoch; and the
only thing it ever changes in the memory of the barrier is the core's own arrival.  Here the step
function is taken apart into its eleven cases, which is all that the proofs about interleaved cores
use of it.  Beside it stands what the accesses of the operations leave alone in the same memory.

Main definitions:

* `Reclock.Phase.captured` — the epoch that a core has sampled;
* `Reclock.Phase.waitsWith` — the epoch that a core in the wait loop compares with;
* `Reclock.Phase.arrives` — whether a core reports its arrival next;
* `Reclock.Core.Answers` — **the cases of a step**.

Main results:

* `Reclock.Core.answers_of_step`, `Reclock.Core.step_barrier` — what a step does to the core, and
  what it does to the memory;
* `Reclock.Core.step_eq_none` — the cores that can make no step;
* `Reclock.BarrierAccess.arrived_of_apply`, `inProgress_of_apply`, `current_of_apply` — which
  accesses change what.
-/

import Reclock.Proofs.Membership
import Reclock.Responder

set_option relaxedAutoImplicit false
set_option autoImplicit false

namespace Reclock

/-! ### Epochs -/

/-- The epoch that a core has sampled, in the answer that it is making. -/
def Phase.captured : Phase → Option UInt32
  | sampled e | admitted e | checkingHold e | checkingEpoch e | parked e => some e
  | idle | taken | ended => none

/-- The epoch that a core in the wait loop compares with. -/
def Phase.waitsWith : Phase → Option UInt32
  | checkingHold e | checkingEpoch e | parked e => some e
  | idle | taken | ended | sampled _ | admitted _ => none

theorem Phase.captured_of_waitsWith {p : Phase} {e : UInt32} (h : p.waitsWith = some e) :
    p.captured = some e := by
  cases p <;> simp_all [waitsWith, captured]

/-- Whether a core reports its arrival next. -/
def Phase.arrives : Phase → Bool
  | admitted _ => true
  | _ => false

/-! ### Arrivals -/

namespace Barrier

variable (b : Barrier) (k : Nat)

@[simp] theorem hold_arrive : (b.arrive k).hold = b.hold := by
  unfold arrive
  split <;> rfl

@[simp] theorem epoch_arrive : (b.arrive k).epoch = b.epoch := by
  unfold arrive
  split <;> rfl

@[simp] theorem inProgress_arrive : (b.arrive k).inProgress = b.inProgress := by
  unfold arrive
  split <;> rfl

@[simp] theorem current_arrive : (b.arrive k).current = b.current := by
  unfold arrive
  split <;> rfl

variable {b k}

/-- Who has arrived after an arrival. -/
theorem contains_arrive (hk : k < 32) (i : Nat) :
    (b.arrive k).arrived.contains i = (b.arrived.contains i || decide (i = k)) := by
  simp [arrive, CoreId.ofNat, hk]

/-- Who has arrived after a report from any number, which has a bit to set only below 32. -/
theorem contains_arrive_iff (i : Nat) : (b.arrive k).arrived.contains i = true ↔
    b.arrived.contains i = true ∨ i = k ∧ i < 32 := by
  rcases Nat.lt_or_ge k 32 with hk | hk
  · rw [contains_arrive hk, Bool.or_eq_true, decide_eq_true_eq]
    exact or_congr_right ⟨fun h => ⟨h, h ▸ hk⟩, And.left⟩
  · rw [arrive, CoreId.ofNat_of_le hk]
    refine ⟨Or.inl, fun h => h.resolve_right fun hnew => ?_⟩
    omega

/-- Nobody leaves by an arrival. -/
theorem contains_arrive_of_contains {i : Nat} (h : b.arrived.contains i = true) :
    (b.arrive k).arrived.contains i = true :=
  (contains_arrive_iff i).2 (Or.inl h)

/-- An arrival adds nobody else. -/
theorem of_contains_arrive {i : Nat} (h : (b.arrive k).arrived.contains i = true) :
    b.arrived.contains i = true ∨ i = k :=
  ((contains_arrive_iff i).1 h).imp_right And.left

end Barrier

/-! ### Accesses -/

namespace BarrierAccess

variable {a : BarrierAccess} {b b' : Barrier} {r : a.Reply}

/-- The wait for arrivals ends only when all of them are there, and changes nothing. -/
theorem of_apply_awaitArrival {cores : CoreMask} {r : (awaitArrival cores).Reply}
    (h : (awaitArrival cores).apply b = some (r, b')) :
    b.arrived.containsAll cores = true ∧ b' = b := by
  obtain ⟨harrived, heq⟩ := Option.ite_none_right_eq_some.1 h
  cases heq
  exact ⟨harrived, rfl⟩

/-- Only one access changes who has arrived. -/
theorem arrived_of_apply (ha : a ≠ .clearArrived) (h : a.apply b = some (r, b')) :
    b'.arrived = b.arrived := by
  cases a with
  | clearArrived => exact absurd rfl ha
  | awaitArrival cores => rw [(of_apply_awaitArrival h).2]
  | _ =>
      cases h
      rfl

/-- Only the claim and giving the session back change whether one is in flight. -/
theorem inProgress_of_apply (hclaim : a ≠ .claim) (hunclaim : a ≠ .unclaim)
    (h : a.apply b = some (r, b')) : b'.inProgress = b.inProgress := by
  cases a with
  | claim => exact absurd rfl hclaim
  | unclaim => exact absurd rfl hunclaim
  | awaitArrival cores => rw [(of_apply_awaitArrival h).2]
  | _ =>
      cases h
      rfl

/-- Only recording a point changes the current one. -/
theorem current_of_apply (h : a.apply b = some (r, b')) :
    (∃ index, a = .writeCurrent index ∧ b'.current = index) ∨ b'.current = b.current := by
  cases a with
  | writeCurrent index =>
      cases h
      exact Or.inl ⟨index, rfl, rfl⟩
  | awaitArrival cores => exact Or.inr (by rw [(of_apply_awaitArrival h).2])
  | _ =>
      cases h
      exact Or.inr rfl

end BarrierAccess

/-! ### Steps -/

namespace Core

/-- **The cases of a step** of a core, for a hold and an epoch of the barrier. -/
inductive Answers (c : Core) (hold : Bool) (epoch : UInt32) : Core → Prop
  | take (hphase : c.phase = .idle) (hpending : c.pending = true) :
      Answers c hold epoch { c with phase := .taken }
  | finish (hphase : c.phase = .taken) :
      Answers c hold epoch { c with phase := .ended, pending := false, ended := c.ended + 1 }
  | sample (hphase : c.phase = .ended) : Answers c hold epoch { c with phase := .sampled epoch }
  | enter {e : UInt32} (hphase : c.phase = .sampled e) (hhold : hold = true) :
      Answers c hold epoch { c with phase := .admitted e }
  | pass {e : UInt32} (hphase : c.phase = .sampled e) (hhold : hold = false) :
      Answers c hold epoch { c with phase := .idle }
  | arrive {e : UInt32} (hphase : c.phase = .admitted e) :
      Answers c hold epoch { c with phase := .checkingHold e }
  | stay {e : UInt32} (hphase : c.phase = .checkingHold e) (hhold : hold = true) :
      Answers c hold epoch { c with phase := .checkingEpoch e }
  | drop {e : UInt32} (hphase : c.phase = .checkingHold e) (hhold : hold = false) :
      Answers c hold epoch { c with phase := .idle }
  | park {e : UInt32} (hphase : c.phase = .checkingEpoch e) (hepoch : epoch = e) :
      Answers c hold epoch { c with phase := .parked e }
  | leave {e : UInt32} (hphase : c.phase = .checkingEpoch e) (hepoch : epoch ≠ e) :
      Answers c hold epoch { c with phase := .idle }
  | wake {e : UInt32} (hphase : c.phase = .parked e) (hevent : c.event = true) :
      Answers c hold epoch { c with phase := .checkingHold e, event := false }

variable {c c' : Core} {b b' : Barrier} {k : Nat}

/-- **What a step does to the core.** -/
theorem answers_of_step (h : c.step k b = some (c', b')) : c.Answers b.hold b.epoch c' := by
  unfold step at h
  cases hphase : c.phase with
  | idle =>
      simp only [hphase, Option.ite_none_right_eq_some] at h
      obtain ⟨hpending, heq⟩ := h
      cases heq
      exact .take hphase hpending
  | taken =>
      simp only [hphase] at h
      cases h
      exact .finish hphase
  | ended =>
      simp only [hphase] at h
      cases h
      exact .sample hphase
  | sampled e =>
      simp only [hphase] at h
      cases hhold : b.hold with
      | false =>
          simp only [hhold] at h
          cases h
          exact .pass hphase rfl
      | true =>
          simp only [hhold] at h
          cases h
          exact .enter hphase rfl
  | admitted e =>
      simp only [hphase] at h
      cases h
      exact .arrive hphase
  | checkingHold e =>
      simp only [hphase] at h
      cases hhold : b.hold with
      | false =>
          simp only [hhold] at h
          cases h
          exact .drop hphase rfl
      | true =>
          simp only [hhold] at h
          cases h
          exact .stay hphase rfl
  | checkingEpoch e =>
      simp only [hphase] at h
      by_cases hepoch : b.epoch = e
      · simp only [hepoch, if_true] at h
        cases h
        exact .park hphase hepoch
      · simp only [hepoch, if_false] at h
        cases h
        exact .leave hphase hepoch
  | parked e =>
      simp only [hphase, Option.ite_none_right_eq_some] at h
      obtain ⟨hevent, heq⟩ := h
      cases heq
      exact .wake hphase hevent

/-- **What a step does to the memory of the barrier**: an admitted core arrives. -/
theorem step_barrier (h : c.step k b = some (c', b')) :
    b' = if c.phase.arrives then b.arrive k else b := by
  unfold step at h
  cases hphase : c.phase <;> grind [Phase.arrives]

/-- **The cores that can make no step**: they are idle without a pending interrupt, or parked
without a latched event. -/
theorem step_eq_none :
    c.step k b = none ↔ (c.phase = .idle ∧ c.pending = false) ∨
      ((∃ e, c.phase = .parked e) ∧ c.event = false) := by
  unfold step
  cases hphase : c.phase <;> simp

end Core

end Reclock
