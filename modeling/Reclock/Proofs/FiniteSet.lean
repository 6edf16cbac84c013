/-
**Words as finite sets of cores.**

A set of cores is handed about as a word, its cores are named by numbers that nobody has checked,
and the wait for arrivals ends on a comparison of two words.  All of that agrees with one notion of
membership: the list of a set, its size, the tests, and the sets that are made all follow from which
cores are members, and a number that no set can hold is a fault where a set is to be made of it.

The wait for arrivals compares with a word to which every core adds its own bit.  The word starts
from nothing each time the arrivals are forgotten, and between two such moments the accesses of the
core that holds the session and the steps of all the others may come in any order.  Which cores have
set their bits is kept beside the barrier as a list, the latest first.

Main definitions:

* `Reclock.CoreMask.Faithful` — what a set answers follows from its members;
* `Reclock.Bench.MaskStep.Makes` — a step that makes a set with the help of a core number;
* `Reclock.Barrier.Collected` — **a barrier, with the cores that have set their bits** since the
  arrivals were last forgotten.

Main results:

* `Reclock.CoreMask.size_eq_length` — the count of the bits is the length of the list;
* `Reclock.Bench.MaskStep.makes_of_run` — steps that make sets, all in one;
* `Reclock.Barrier.Collected.contains_iff` — the barrier knows the cores that have set their bits;
* `Reclock.faithful_to_members` — **sets are faithful to their members**, and the wait for
  arrivals ends exactly if each core that is waited for has set its bit.
-/

import Reclock.Bench.Masks
import Reclock.Operation
import Reclock.Proofs.Answer

set_option relaxedAutoImplicit false
set_option autoImplicit false

namespace Reclock

namespace CoreMask

/-! ### The list of the cores -/

theorem mem_cores {m : CoreMask} {k : Nat} : k ∈ m.cores ↔ m.contains k = true := by
  rw [cores, List.mem_filter, List.mem_range]
  exact ⟨And.right, fun h => ⟨lt_of_contains h, h⟩⟩

theorem cores_ascending (m : CoreMask) : m.cores.Pairwise (· < ·) :=
  List.pairwise_lt_range.filter _

/-- The count of the low bits that are set, place by place. -/
theorem ones_eq_countP (width n : Nat) : ones width n = (List.range width).countP n.testBit := by
  induction width generalizing n with
  | zero => rfl
  | succ width ih =>
      have hlow : n % 2 = if n.testBit 0 = true then 1 else 0 := by
        rw [Nat.testBit_zero]
        rcases Nat.mod_two_eq_zero_or_one n with h | h <;> simp [h]
      -- Halving moves each bit to the place below.
      have hhigh : (n / 2).testBit = n.testBit ∘ Nat.succ :=
        funext fun i => (Nat.testBit_succ n i).symm
      calc ones (width + 1) n
          = n % 2 + ones width (n / 2) := rfl
        _ = n % 2 + (List.range width).countP (n.testBit ∘ Nat.succ) := by rw [ih, hhigh]
        _ = (List.range (width + 1)).countP n.testBit := by
            rw [List.range_succ_eq_map, List.countP_cons, List.countP_map, ← hlow, Nat.add_comm]

/-- **The count of the bits is the length of the list.** -/
theorem size_eq_length (m : CoreMask) : m.size = m.cores.length := by
  have hbits : m.bits.toNat.testBit = m.contains := funext fun k => (m.contains_eq_testBit k).symm
  rw [size, ones_eq_countP, hbits, List.countP_eq_length_filter]
  rfl

/-! ### What a set answers -/

/-- **What a set answers follows from its members**, and these are the bits of its word. -/
structure Faithful (m : CoreMask) : Prop where
  /-- A core is a member exactly if its bit is set. -/
  bit : ∀ k, m.contains k = m.bits.toNat.testBit k
  /-- No number of 32 or more is a member. -/
  narrow : ∀ k, 32 ≤ k → m.contains k = false
  /-- The list holds the members and nothing else. -/
  listed : ∀ k, k ∈ m.cores ↔ m.contains k = true
  /-- The list is strictly ascending. -/
  ascending : m.cores.Pairwise (· < ·)
  /-- The list is without repetition. -/
  distinct : m.cores.Nodup
  /-- The size is the length of the list. -/
  size : m.size = m.cores.length
  /-- A set includes another exactly if it contains each of its members. -/
  includes : ∀ o : CoreMask,
    m.containsAll o = true ↔ ∀ k, o.contains k = true → m.contains k = true
  /-- A set is empty exactly if it has no member. -/
  empty : m.isEmpty = true ↔ ∀ k, m.contains k = false
  /-- No other set has the same members. -/
  determined : ∀ o : CoreMask, (∀ k, m.contains k = o.contains k) → m = o

theorem faithful (m : CoreMask) : m.Faithful where
  bit := m.contains_eq_testBit
  narrow k hk := by
    by_contra hmember
    have hlt : k < 32 := lt_of_contains (Bool.eq_true_of_not_eq_false hmember)
    omega
  listed _ := mem_cores
  ascending := m.cores_ascending
  distinct := m.cores_ascending.imp Nat.ne_of_lt
  size := m.size_eq_length
  includes := m.containsAll_iff
  empty := m.isEmpty_iff
  determined _ := ext_contains

theorem contains_all_iff (count k : Nat) : (all count).contains k = true ↔ k < min count 32 := by
  rw [contains_all, Bool.and_eq_true, decide_eq_true_eq, decide_eq_true_eq, Nat.lt_min]

end CoreMask

/-! ### Sets made from a core number -/

namespace Bench

namespace MaskStep

variable {step : Nat → MaskStep} {make : CoreMask → CoreId → CoreMask}
  {members : CoreMask → Nat → Nat → Prop}

/-- **A step that makes a set from the one at hand and a core number.**  A number that a set can
hold is taken for the core of that number, and the set that is made of it has the members that are
described; any other number is a fault, and the set at hand stays. -/
structure Makes (step : Nat → MaskStep) (make : CoreMask → CoreId → CoreMask)
    (members : CoreMask → Nat → Nat → Prop) : Prop where
  made : ∀ m c (hc : c < 32), (step c).run m = .ok (make m ⟨c, hc⟩, none) (make m ⟨c, hc⟩)
  members_iff : ∀ m (core : CoreId) k, (make m core).contains k = true ↔ members m core k
  refused : ∀ m c, 32 ≤ c → (step c).run m = .error (.fault .shiftOverflow) m

/-- A step makes a set if it checks the number first and then makes the set of the core. -/
theorem makes_of_run
    (hrun : ∀ m c, (step c).run m = match CoreId.ofNat c with
      | .ok core => .ok (make m core, none) (make m core)
      | .error fault => .error (.fault fault) m)
    (hmembers : ∀ m (core : CoreId) k, (make m core).contains k = true ↔ members m core k) :
    Makes step make members where
  made m c hc := by rw [hrun, CoreId.ofNat_of_lt hc]
  members_iff := hmembers
  refused m c hc := by rw [hrun, CoreId.ofNat_of_le hc]

theorem makes_insert :
    Makes .insert CoreMask.insert fun m c k => k = c ∨ m.contains k = true :=
  makes_of_run (fun _ _ => rfl) fun m c k => by
    rw [CoreMask.contains_insert, Bool.or_eq_true, decide_eq_true_eq, or_comm]

theorem makes_erase :
    Makes .erase CoreMask.erase fun m c k => k ≠ c ∧ m.contains k = true :=
  makes_of_run (fun _ _ => rfl) fun m c k => by
    rw [CoreMask.contains_erase, Bool.and_eq_true, Bool.not_eq_true', decide_eq_false_iff_not,
      and_comm]

theorem makes_single : Makes .single (fun _ => CoreMask.single) fun _ c k => k = c :=
  makes_of_run (fun _ _ => rfl) fun _ c k => by
    rw [CoreMask.contains_single, decide_eq_true_eq]

end MaskStep

end Bench

/-- A core that parks the others is taken out of the set first, so that a number which no set can
hold is a fault before anything has happened. -/
theorem Operation.quiesce_of_le {ε : Type} {core : Nat} (h : 32 ≤ core) (online : CoreMask) :
    (quiesce core online : Operation ε Unit) = abort .shiftOverflow := by
  have hcheck : (checkCore core : Operation ε CoreId) = abort .shiftOverflow := by
    rw [checkCore, CoreId.ofNat_of_le h]
  rw [quiesce, hcheck]
  exact congrArg (Procedure.act (Action.abort .shiftOverflow)) (funext fun reply => nomatch reply)

/-! ### The cores that have set their bits -/

namespace Barrier

/-- **A barrier, with the cores that have set their bits** since the arrivals were last forgotten,
the latest first.  Accesses and the steps of cores come in any order. -/
inductive Collected : Barrier → List Nat → Prop
  /-- Nobody has used the barrier. -/
  | start (current : FrequencyIndex) : Collected (.start current) []
  /-- The arrivals are forgotten. -/
  | forget {b b' : Barrier} (h : BarrierAccess.clearArrived.apply b = some ((), b')) :
      Collected b' []
  /-- The core that holds or claims the session makes another access. -/
  | access {b b' : Barrier} {past : List Nat} {a : BarrierAccess} {reply : a.Reply}
      (hb : Collected b past) (ha : a ≠ .clearArrived) (h : a.apply b = some (reply, b')) :
      Collected b' past
  /-- A core makes a step of its answer, and if it reports its arrival, that sets its bit. -/
  | step {b b' : Barrier} {past : List Nat} {n : Nat} {c c' : Core} (hb : Collected b past)
      (h : c.step n b = some (c', b')) :
      Collected b' (if c.phase.arrives = true then n :: past else past)

variable {b b' : Barrier} {past : List Nat} {k : Nat}

/-- A step of a core adds that core to those who have arrived, or changes nothing about them. -/
theorem contains_of_step {n : Nat} {c c' : Core} (h : c.step n b = some (c', b')) :
    b'.arrived.contains k = true ↔
      b.arrived.contains k = true ∨ c.phase.arrives = true ∧ k = n ∧ k < 32 := by
  rw [Core.step_barrier h]
  cases c.phase.arrives with
  | false => simp
  | true => simp [contains_arrive_iff]

/-- **The barrier knows the cores that have set their bits**, in whatever order things came. -/
theorem Collected.contains_iff (h : b.Collected past) :
    b.arrived.contains k = true ↔ k ∈ past ∧ k < 32 := by
  -- On what has happened: after the arrivals are forgotten only a report adds to them.
  induction h with
  | start current => simp [Barrier.start]
  | forget h =>
      cases h
      simp
  | access _ ha h ih => rw [BarrierAccess.arrived_of_apply ha h, ih]
  | @step b b' past n c c' _ h ih =>
      rw [contains_of_step h, ih]
      cases c.phase.arrives with
      | false => simp
      | true =>
          simp only [if_true, List.mem_cons, true_and]
          rw [← or_and_right, or_comm]

/-- The wait for arrivals goes on exactly if each core of the set has set its bit. -/
theorem Collected.awaits_iff (h : b.Collected past) (others : CoreMask) :
    (BarrierAccess.awaitArrival others).apply b = some ((), b) ↔
      ∀ k, others.contains k = true → k ∈ past := by
  have hends : (BarrierAccess.awaitArrival others).apply b = some ((), b) ↔
      b.arrived.containsAll others = true := by
    simp [BarrierAccess.apply]
  rw [hends, CoreMask.containsAll_iff]
  refine forall₂_congr fun k hk => ?_
  rw [h.contains_iff]
  exact and_iff_left (CoreMask.lt_of_contains hk)

end Barrier

/-! ### Sets are faithful to their members -/

/-- **Sets are faithful to their members.**  What a set answers follows from them, the sets that are
made have the members that they should, a number that no set can hold is a fault where a set is to
be made of it, also when a core parks the others, and a wait for arrivals ends exactly if each core
that is waited for has set its bit, however the steps of all cores have interleaved. -/
theorem faithful_to_members :
    (∀ m : CoreMask, m.Faithful) ∧
      Bench.MaskStep.Makes .insert CoreMask.insert (fun m c k => k = c ∨ m.contains k = true) ∧
      Bench.MaskStep.Makes .erase CoreMask.erase (fun m c k => k ≠ c ∧ m.contains k = true) ∧
      Bench.MaskStep.Makes .single (fun _ => CoreMask.single) (fun _ c k => k = c) ∧
      (∀ core online, 32 ≤ core →
        (Operation.quiesce core online : Operation TransitionError Unit) =
          .abort .shiftOverflow) ∧
      (∀ count k, (CoreMask.all count).contains k = true ↔ k < min count 32) ∧
      ∀ (b : Barrier) (past : List Nat) (others : CoreMask), b.Collected past →
        ((BarrierAccess.awaitArrival others).apply b = some ((), b) ↔
          ∀ k, others.contains k = true → k ∈ past) :=
  ⟨CoreMask.faithful, Bench.MaskStep.makes_insert, Bench.MaskStep.makes_erase,
    Bench.MaskStep.makes_single, fun _ online h => Operation.quiesce_of_le h online,
    CoreMask.contains_all_iff, fun _ _ others h => h.awaits_iff others⟩

/-- The barrier of a session that waits for arrivals, after cores 3 and 0 have set their bits. -/
def Barrier.joined : Barrier := ({ Barrier.start ⟨0⟩ with hold := true }.arrive 3).arrive 0

/-- Core 31 can be added to a set and core 32 cannot be removed.  Core 2 waits for the others of
four, and goes on after core 1, the last of them. -/
theorem faithful_to_members_joined :
    (Bench.MaskStep.insert 31).run (.single 0) = .ok (⟨0x80000001⟩, none) ⟨0x80000001⟩ ∧
      (Bench.MaskStep.erase 32).run (.single 0) = .error (.fault .shiftOverflow) (.single 0) ∧
      Barrier.joined.Collected [0, 3] ∧ (Barrier.joined.arrive 1).Collected [1, 0, 3] ∧
      (BarrierAccess.awaitArrival ((CoreMask.all 4).erase 2)).apply .joined ≠
        some ((), .joined) ∧
      (BarrierAccess.awaitArrival ((CoreMask.all 4).erase 2)).apply (Barrier.joined.arrive 1) =
        some ((), Barrier.joined.arrive 1) := by
  obtain ⟨hfaithful, hinsert, herase, -, -, -, hawait⟩ := faithful_to_members
  have hheld : Barrier.Collected { Barrier.start ⟨0⟩ with hold := true } [] :=
    (Barrier.Collected.start ⟨0⟩).access (a := .hold) nofun rfl
  have hjoined : Barrier.joined.Collected [0, 3] :=
    (hheld.step (n := 3) (c := { phase := .admitted 0 }) rfl).step
      (n := 0) (c := { phase := .admitted 0 }) rfl
  have hlast : (Barrier.joined.arrive 1).Collected [1, 0, 3] :=
    hjoined.step (n := 1) (c := { phase := .admitted 0 }) rfl
  refine ⟨(hinsert.made _ 31 (by decide)).trans rfl, herase.refused _ 32 (by decide), hjoined,
    hlast, fun h => ?_, (hawait _ _ _ hlast).2 fun k hk => ?_⟩
  · exact absurd ((hawait _ _ _ hjoined).1 h 1 (by decide)) (by decide)
  · rw [← (hfaithful _).listed] at hk
    revert k
    decide

end Reclock
