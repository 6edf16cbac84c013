/-
**Sets of cores by their members.**

`Reclock.CoreMask` computes on words.  Here every operation on the words is read as what it does
to the members, so that a proof about cores never looks at a bit again: a set is determined by its
members, and inclusion is inclusion of members.

Main results:

* `Reclock.CoreMask.contains_eq_testBit` — membership is a bit of the word;
* `Reclock.CoreMask.ext_contains` — **a set is its members**;
* `Reclock.CoreMask.contains_single`, `contains_insert`, `contains_erase`, `contains_all` — the
  members of the sets that the operations make;
* `Reclock.CoreMask.containsAll_iff`, `isEmpty_iff` — what the tests decide.
-/

import Mathlib.Data.Nat.Bitwise
import Mathlib.Tactic.IntervalCases
import Reclock.CoreMask

set_option relaxedAutoImplicit false
set_option autoImplicit false

namespace Reclock

theorem CoreId.toNat_bit (c : CoreId) : c.bit.toNat = 2 ^ c.val := by
  revert c
  decide

theorem CoreId.ofNat_of_lt {n : Nat} (h : n < 32) : CoreId.ofNat n = .ok ⟨n, h⟩ := dif_pos h

theorem CoreId.ofNat_of_le {n : Nat} (h : 32 ≤ n) : CoreId.ofNat n = .error .shiftOverflow :=
  dif_neg (Nat.not_lt_of_le h)

/-- The cores of a system small enough are cores that sets can hold. -/
theorem CoreId.ofNat_castLE {n : Nat} (hn : n ≤ 32) (i : Fin n) :
    CoreId.ofNat i = .ok (Fin.castLE hn i) := by
  have hi : (i : Nat) < 32 := by omega
  simp only [CoreId.ofNat, hi, dif_pos]
  rfl

namespace CoreMask

/-! ### Members and bits -/

/-- Membership is a bit of the word, also for numbers that no set can hold. -/
theorem contains_eq_testBit (m : CoreMask) (k : Nat) : m.contains k = m.bits.toNat.testBit k := by
  unfold contains
  split
  case isTrue h =>
    have hand : (m.bits &&& CoreId.bit ⟨k, h⟩).toNat =
        (m.bits.toNat.testBit k).toNat * 2 ^ k := by
      rw [UInt32.toNat_and, CoreId.toNat_bit, Nat.and_two_pow]
    have hne : (m.bits &&& CoreId.bit ⟨k, h⟩ != 0) =
        ((m.bits &&& CoreId.bit ⟨k, h⟩).toNat != 0) := by
      simp [bne, ← UInt32.toNat_inj]
    rw [hne, hand]
    cases m.bits.toNat.testBit k <;> simp
  case isFalse h =>
    symm
    apply Nat.testBit_lt_two_pow
    exact Nat.lt_of_lt_of_le m.bits.toNat_lt (Nat.pow_le_pow_right (by decide) (by omega))

/-- Only numbers below 32 are in a set. -/
theorem lt_of_contains {m : CoreMask} {k : Nat} (h : m.contains k = true) : k < 32 := by
  by_contra hk
  simp [contains, hk] at h

/-- **A set is its members.** -/
theorem ext_contains {m o : CoreMask} (h : ∀ k, m.contains k = o.contains k) : m = o := by
  obtain ⟨m⟩ := m
  obtain ⟨o⟩ := o
  congr
  rw [← UInt32.toNat_inj]
  refine Nat.eq_of_testBit_eq fun k => ?_
  simpa only [contains_eq_testBit] using h k

/-! ### The members of the sets that are made -/

@[simp] theorem contains_empty (k : Nat) : empty.contains k = false := by
  simp [contains_eq_testBit]

@[simp] theorem contains_single (c : CoreId) (k : Nat) :
    (single c).contains k = decide (k = c) := by
  rw [contains_eq_testBit, bits_single, CoreId.toNat_bit, Nat.testBit_two_pow]
  simp only [eq_comm]

@[simp] theorem contains_insert (m : CoreMask) (c : CoreId) (k : Nat) :
    (m.insert c).contains k = (m.contains k || decide (k = c)) := by
  rw [contains_eq_testBit, contains_eq_testBit, bits_insert, UInt32.toNat_or, CoreId.toNat_bit,
    Nat.testBit_or, Nat.testBit_two_pow]
  simp only [eq_comm]

@[simp] theorem contains_erase (m : CoreMask) (c : CoreId) (k : Nat) :
    (m.erase c).contains k = (m.contains k && !decide (k = c)) := by
  have hlt : 2 ^ c.val < 2 ^ 32 := Nat.pow_lt_pow_right (by decide) c.isLt
  have hsub : UInt32.size - 1 - 2 ^ c.val = 2 ^ 32 - (2 ^ c.val + 1) := by
    simp only [UInt32.size]
    omega
  rw [contains_eq_testBit, contains_eq_testBit, bits_erase, UInt32.toNat_and, UInt32.toNat_not,
    Nat.testBit_and, CoreId.toNat_bit, hsub, Nat.testBit_two_pow_sub_succ hlt,
    Nat.testBit_two_pow]
  by_cases hm : m.bits.toNat.testBit k = true
  · have hk : k < 32 := lt_of_contains (m := m) (by rw [contains_eq_testBit, hm])
    simp [hm, hk, eq_comm]
  · simp [hm]

theorem contains_all (count k : Nat) :
    (all count).contains k = (decide (k < count) && decide (k < 32)) := by
  rw [contains_eq_testBit]
  unfold all maxCores
  split
  case isTrue h =>
    have hones : (0xffffffff : UInt32).toNat = 2 ^ 32 - 1 := by decide
    rw [hones, Nat.testBit_two_pow_sub_one]
    by_cases hk : k < 32
    · have : k < count := by omega
      simp [hk, this]
    · simp [hk]
  case isFalse h =>
    have hones : ((1 <<< UInt32.ofNat count) - 1 : UInt32).toNat = 2 ^ count - 1 := by
      have hcount : count < 32 := by omega
      interval_cases count <;> rfl
    simp only [hones, Nat.testBit_two_pow_sub_one]
    by_cases hk : k < count
    · have : k < 32 := by omega
      simp [hk, this]
    · simp [hk]

/-! ### What the tests decide -/

theorem containsAll_iff (m o : CoreMask) :
    m.containsAll o = true ↔ ∀ k, o.contains k = true → m.contains k = true := by
  simp only [containsAll, beq_iff_eq, contains_eq_testBit]
  rw [← UInt32.toNat_inj, UInt32.toNat_and]
  constructor
  · intro h k hk
    rw [← h, Nat.testBit_and, Bool.and_eq_true] at hk
    exact hk.1
  · intro h
    refine Nat.eq_of_testBit_eq fun k => ?_
    rw [Nat.testBit_and]
    cases hk : o.bits.toNat.testBit k with
    | false => simp
    | true => simp [h k hk]

/-- If not every core of a set is in another, one is missing. -/
theorem exists_missing {m o : CoreMask} (h : m.containsAll o = false) :
    ∃ k, o.contains k = true ∧ m.contains k = false := by
  by_contra hall
  have hcontains : m.containsAll o = true := by
    rw [containsAll_iff]
    intro k hk
    by_contra hmissing
    exact hall ⟨k, hk, Bool.eq_false_of_not_eq_true hmissing⟩
  rw [hcontains] at h
  cases h

theorem isEmpty_iff (m : CoreMask) : m.isEmpty = true ↔ ∀ k, m.contains k = false := by
  constructor
  · intro h k
    have hbits : m.bits = 0 := by simpa [isEmpty] using h
    simp [contains_eq_testBit, hbits]
  · intro h
    have hm : m = empty := ext_contains fun k => by rw [h k, contains_empty]
    subst hm
    rfl

/-- A set without a core stays within whatever the set was within. -/
theorem containsAll_erase {m o : CoreMask} (c : CoreId) (h : m.containsAll o = true) :
    m.containsAll (o.erase c) = true := by
  rw [containsAll_iff] at h ⊢
  intro k hk
  rw [contains_erase, Bool.and_eq_true] at hk
  exact h k hk.1

end CoreMask

end Reclock
