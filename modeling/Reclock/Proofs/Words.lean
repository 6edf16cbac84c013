/-
**Bits of a word that are set, cleared and replaced.**

The sequences change registers by three operations on words: bits are set, bits are cleared, and a
field is replaced.  What is read afterwards under a mask depends only on whether the mask is that
of the operation or one apart from it.

Main results:

* `Reclock.Word.set_and`, `clear_and`, `replace_and` — the bits that an operation changes;
* `Reclock.Word.set_and_apart`, `clear_and_apart`, `replace_and_apart` — those that it leaves
  alone;
* `Reclock.Word.and_eq_zero_iff`, `and_eq_self_iff` — a mask of a single bit;
* `Reclock.Word.max_one_ne_zero` — a word that is kept from being zero.
-/

import Mathlib.Data.Nat.Bitwise
import Mathlib.Logic.Basic

set_option relaxedAutoImplicit false
set_option autoImplicit false

namespace Reclock

namespace Word

variable (w v bits mask : UInt32)

theorem or_and : (w ||| v) &&& mask = w &&& mask ||| v &&& mask := by
  refine UInt32.toBitVec_inj.1 (BitVec.eq_of_getElem_eq fun i hi => ?_)
  simp only [UInt32.toBitVec_and, UInt32.toBitVec_or, BitVec.getElem_and, BitVec.getElem_or]
  cases mask.toBitVec[i] <;> simp

/-! ### Setting bits -/

@[simp] theorem set_and : (w ||| bits) &&& bits = bits := by
  refine UInt32.toBitVec_inj.1 (BitVec.eq_of_getElem_eq fun i hi => ?_)
  simp only [UInt32.toBitVec_and, UInt32.toBitVec_or, BitVec.getElem_and, BitVec.getElem_or]
  cases bits.toBitVec[i] <;> simp

/-- Bits that have been set are not all clear. -/
theorem set_and_ne_zero {bits : UInt32} (h : bits ≠ 0) : (w ||| bits) &&& bits ≠ 0 := by
  rw [set_and]
  exact h

theorem set_and_apart {bits mask : UInt32} (h : bits &&& mask = 0) :
    (w ||| bits) &&& mask = w &&& mask := by
  rw [or_and, h, UInt32.or_zero]

/-! ### Clearing bits -/

@[simp] theorem clear_and : w &&& ~~~bits &&& bits = 0 := by
  rw [UInt32.and_assoc, UInt32.not_and_self, UInt32.and_zero]

theorem clear_and_apart {bits mask : UInt32} (h : ~~~bits &&& mask = mask) :
    w &&& ~~~bits &&& mask = w &&& mask := by
  rw [UInt32.and_assoc, h]

/-! ### Bits that are lost -/

/-- Setting bits loses none. -/
theorem lost_by_set : w &&& ~~~(w ||| bits) = 0 := by
  refine UInt32.toBitVec_inj.1 (BitVec.eq_of_getElem_eq fun i hi => ?_)
  simp only [UInt32.toBitVec_and, UInt32.toBitVec_or, UInt32.toBitVec_not, BitVec.getElem_and,
    BitVec.getElem_or, BitVec.getElem_not]
  cases w.toBitVec[i] <;> simp

/-- Clearing bits loses no others. -/
theorem lost_by_clear : w &&& ~~~(w &&& ~~~bits) = w &&& bits := by
  refine UInt32.toBitVec_inj.1 (BitVec.eq_of_getElem_eq fun i hi => ?_)
  simp only [UInt32.toBitVec_and, UInt32.toBitVec_not, BitVec.getElem_and, BitVec.getElem_not]
  cases w.toBitVec[i] <;> simp

/-! ### Replacing a field -/

@[simp] theorem replace_and : (w &&& ~~~mask ||| v &&& mask) &&& mask = v &&& mask := by
  rw [or_and, clear_and, UInt32.and_assoc, UInt32.and_self, UInt32.zero_or]

theorem replace_and_apart {mask other : UInt32} (hkept : ~~~mask &&& other = other)
    (hapart : mask &&& other = 0) : (w &&& ~~~mask ||| v &&& mask) &&& other = w &&& other := by
  rw [or_and, clear_and_apart w hkept, UInt32.and_assoc, hapart, UInt32.and_zero, UInt32.or_zero]

/-! ### Single bits -/

/-- A mask of a single bit finds it clear exactly if it is. -/
theorem and_eq_zero_iff {w mask : UInt32} {k : Nat} (hmask : mask.toNat = 2 ^ k) :
    w &&& mask = 0 ↔ w.toNat.testBit k = false := by
  rw [← UInt32.toNat_inj, UInt32.toNat_and, hmask, Nat.and_two_pow, UInt32.toNat_zero]
  cases w.toNat.testBit k <;> simp

/-- A mask of a single bit finds it set unless it is clear. -/
theorem and_eq_self_iff {w mask : UInt32} {k : Nat} (hmask : mask.toNat = 2 ^ k) :
    w &&& mask = mask ↔ w &&& mask ≠ 0 := by
  rw [Ne, and_eq_zero_iff hmask, ← UInt32.toNat_inj, UInt32.toNat_and, hmask, Nat.and_two_pow]
  cases w.toNat.testBit k with
  | true => simp
  | false => simp [Nat.ne_of_lt (Nat.two_pow_pos k)]

/-! ### Words that are kept from being zero -/

theorem one_le_toNat_max : 1 ≤ (max w 1).toNat := by
  rw [UInt32.toNat_max]
  exact Nat.le_max_right _ _

theorem max_one_ne_zero : max w 1 ≠ 0 := by
  intro hzero
  have hone := one_le_toNat_max w
  rw [hzero, UInt32.toNat_zero] at hone
  omega

end Word

end Reclock
