/-
**Sets of cores.**

A set of cores is a 32-bit word in which bit `n` stands for core `n`.  Callers hand such words
over unchecked, so every word is a set; a number of 32 or more is in no set, and asking for a set
that would have to hold it is a fault.

Main definitions:

* `Reclock.CoreId` — the cores a set can hold, and `Reclock.CoreId.ofNat`, the check of a number;
* `Reclock.CoreMask` — the sets, with `single`, `all`, `insert`, `erase`, `contains`,
  `containsAll`, `size` and `cores`.
-/

import Reclock.Fault

set_option relaxedAutoImplicit false
set_option autoImplicit false

namespace Reclock

/-! ### Core numbers -/

/-- The number of a core that a set can hold. -/
abbrev CoreId := Fin 32

namespace CoreId

/-- **Checks a core number**: one of 32 or more has no bit in a word. -/
def ofNat (n : Nat) : Except Fault CoreId :=
  if h : n < 32 then .ok ⟨n, h⟩ else .error .shiftOverflow

/-- The word whose one bit is that of the core. -/
def bit (c : CoreId) : UInt32 := 1 <<< UInt32.ofNat c

end CoreId

/-! ### Sets -/

/-- **A set of cores**, bit `n` standing for core `n`. -/
structure CoreMask where
  /-- The set as a word. -/
  bits : UInt32
  deriving DecidableEq, Inhabited

namespace CoreMask

/-- The largest number of cores that a set can describe. -/
def maxCores : Nat := 32

/-- The set without cores. -/
def empty : CoreMask := ⟨0⟩

/-- The set of one core. -/
def single (c : CoreId) : CoreMask := ⟨c.bit⟩

/-- The set of the cores below `count`. -/
def all (count : Nat) : CoreMask :=
  if count ≥ maxCores then ⟨0xffffffff⟩ else ⟨(1 <<< UInt32.ofNat count) - 1⟩

/-- Whether a core is in the set. -/
def contains (m : CoreMask) (core : Nat) : Bool :=
  if h : core < 32 then m.bits &&& CoreId.bit ⟨core, h⟩ != 0 else false

/-- Whether every core of `other` is in the set. -/
def containsAll (m other : CoreMask) : Bool := m.bits &&& other.bits == other.bits

/-- The set with a core added. -/
def insert (m : CoreMask) (c : CoreId) : CoreMask := ⟨m.bits ||| c.bit⟩

/-- The set with a core removed. -/
def erase (m : CoreMask) (c : CoreId) : CoreMask := ⟨m.bits &&& ~~~c.bit⟩

/-- Whether the set has no cores. -/
def isEmpty (m : CoreMask) : Bool := m.bits == 0

/-- How many of the low `width` bits of a number are set. -/
def ones : (width : Nat) → (n : Nat) → Nat
  | 0, _ => 0
  | width + 1, n => n % 2 + ones width (n / 2)

/-- The number of cores in the set. -/
def size (m : CoreMask) : Nat := ones 32 m.bits.toNat

/-- The cores of the set, in ascending order. -/
def cores (m : CoreMask) : List Nat := (List.range maxCores).filter m.contains

/-- The text of a set, such as `CoreMask(0xf)`. -/
def inspect (m : CoreMask) : String := "CoreMask(" ++ hex m.bits.toNat ++ ")"

@[simp] theorem bits_empty : empty.bits = 0 := rfl

@[simp] theorem bits_single (c : CoreId) : (single c).bits = c.bit := rfl

@[simp] theorem bits_insert (m : CoreMask) (c : CoreId) : (m.insert c).bits = m.bits ||| c.bit :=
  rfl

@[simp] theorem bits_erase (m : CoreMask) (c : CoreId) : (m.erase c).bits = m.bits &&& ~~~c.bit :=
  rfl

end CoreMask

end Reclock
