/-
**Hexadecimal text of numbers.**

Registers, masks, function identifiers and 64-bit results are all shown in base sixteen: lower
case, behind `0x`, without leading zeros unless a width asks for them.

Main definitions:

* `Reclock.hex` — the shortest form, `0x3fc`;
* `Reclock.hexWord` — the form with exactly eight digits for a 32-bit word, `0x82000100`.
-/

set_option relaxedAutoImplicit false
set_option autoImplicit false

namespace Reclock

/-- The base-sixteen digits of a number, most significant first; zero has the one digit `0`. -/
def hexDigits (n : Nat) : List Char := Nat.toDigits 16 n

/-- **The shortest hexadecimal form**, such as `0x3fc`. -/
def hex (n : Nat) : String := "0x" ++ String.ofList (hexDigits n)

/-- A 32-bit word with its eight digits written out, such as `0x00000010`. -/
def hexWord (w : UInt32) : String :=
  let digits := hexDigits w.toNat
  "0x" ++ String.ofList (List.replicate (8 - digits.length) '0' ++ digits)

end Reclock
