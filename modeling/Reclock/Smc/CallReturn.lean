/-
**Registers of a secure monitor call.**

A caller passes eighteen 64-bit registers and gets some of them back, from the first upwards; the
others keep their values.

Main definitions:

* `Reclock.CallRegisters` — what the caller passes, and `Reclock.CallRegisters.argument`, the low
  half of a register;
* `Reclock.CallReturn` — what is written back, built by `ofWords`, `ofWord`, `ofStatus` and
  `ofUuid`.
-/

import Reclock.TransitionError

set_option relaxedAutoImplicit false
set_option autoImplicit false

namespace Reclock

/-- The number of registers in a call. -/
def callRegisterCount : Nat := 18

/-- The registers that a caller passes. -/
abbrev CallRegisters := Vector UInt64 18

namespace CallRegisters

/-- The value of a register; one that a call does not have counts as zero. -/
def value (regs : CallRegisters) (index : Nat) : UInt64 := regs[index]?.getD 0

/-- **The 32-bit argument in a register.**  The upper half is the caller's, and ignored. -/
def argument (regs : CallRegisters) (index : Nat) : Except Fault UInt32 :=
  match regs[index]? with
  | some x => .ok x.toUInt32
  | none => .error (.indexOutOfBounds callRegisterCount index)

/-- The registers whose first values are given, the others zero. -/
def ofList (values : List UInt64) : CallRegisters :=
  Vector.ofFn fun i => values.getD i 0

end CallRegisters

/-! ### Results -/

/-- **The registers written back to a caller**, from the first upwards. -/
structure CallReturn where
  /-- Their values. -/
  values : List UInt64
  /-- There are no more than the caller passed. -/
  length_le : values.length ≤ callRegisterCount

namespace CallReturn

/-- Nothing is written back. -/
def empty : CallReturn := ⟨[], Nat.zero_le _⟩

/-- The result of some values, of which at most eighteen count. -/
def ofWords (values : List UInt64) : CallReturn :=
  ⟨values.take callRegisterCount, List.length_take_le _ _⟩

/-- The result of a single value. -/
def ofWord (value : UInt64) : CallReturn := ofWords [value]

/-- The result of a single 32-bit value. -/
def ofWord32 (value : UInt32) : CallReturn := ofWord value.toUInt64

/-- The result of a single signed 32-bit value, its sign extended. -/
def ofInt32 (value : Int32) : CallReturn := ofWord value.toInt64.toUInt64

/-- The result of a status. -/
def ofStatus (s : Status) : CallReturn := ofInt32 s.code

/-- The words that bytes make up, four to a word with the least significant first. -/
def packBytes : List UInt8 → List UInt64
  | b0 :: b1 :: b2 :: b3 :: rest =>
      (b0.toUInt64 ||| b1.toUInt64 <<< 8 ||| b2.toUInt64 <<< 16 ||| b3.toUInt64 <<< 24) ::
        packBytes rest
  | _ => []

/-- The result of a UUID: four bytes to a register, from byte 0 on. -/
def ofUuid (bytes : List UInt8) : CallReturn := ofWords (packBytes bytes)

/-- The result of a function that nobody provides. -/
def notSupported : CallReturn := ofStatus .notSupported

/-- Whether nothing is written back. -/
def isEmpty (r : CallReturn) : Bool := r.values.isEmpty

/-- The text of a result, `SmcReturn([0x1, 0x0])`. -/
def inspect (r : CallReturn) : String :=
  "SmcReturn([" ++ ", ".intercalate (r.values.map fun v => hex v.toNat) ++ "])"

@[simp] theorem values_ofWords {values : List UInt64} (h : values.length ≤ callRegisterCount) :
    (ofWords values).values = values := List.take_of_length_le h

end CallReturn

end Reclock
