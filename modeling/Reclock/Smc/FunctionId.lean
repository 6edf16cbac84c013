/-
**Function identifiers of secure monitor calls.**

A 32-bit word names the function that a caller asks for.  Bit 31 tells fast calls from yielding
ones and bit 30 the 64-bit convention of fast calls; bits 29 to 24 are the owning entity, and the
low half is the function's number within that entity.  Bit 16 is a hint about SVE state that has
no part in naming a function, and bits 23 to 17 must be clear in a fast call.

Main definitions:

* `Reclock.FunctionId`, `Reclock.CallType` — identifiers, and the kinds of call;
* `Reclock.FunctionId.make` — an identifier from its fields, `owner`, `number`, `callType` — the
  fields of one;
* `Reclock.FunctionId.isValid` — whether the reserved bits are as they must be.
-/

import Reclock.Hex

set_option relaxedAutoImplicit false
set_option autoImplicit false

namespace Reclock

/-- The kinds of call. -/
inductive CallType
  /-- A fast call of the 32-bit convention. -/
  | fast32
  /-- A fast call of the 64-bit convention. -/
  | fast64
  /-- A yielding call. -/
  | yielding
  deriving DecidableEq, Inhabited

/-- The name of a kind of call. -/
def CallType.name : CallType → String
  | fast32 => "Fast32"
  | fast64 => "Fast64"
  | yielding => "Yielding"

/-- **The identifier of a function.** -/
structure FunctionId where
  /-- The identifier as a word. -/
  word : UInt32
  deriving DecidableEq, Inhabited

namespace FunctionId

/-- The bit of fast calls. -/
def fastBit : UInt32 := 0x80000000

/-- The bit of the 64-bit convention. -/
def wideBit : UInt32 := 0x40000000

/-- The field of the owning entity. -/
def ownerMask : UInt32 := 0x3f000000

/-- The position of the owning entity. -/
def ownerShift : UInt32 := 24

/-- The bit of the SVE hint. -/
def sveHint : UInt32 := 0x00010000

/-- The bits that must be clear in a fast call. -/
def reservedBits : UInt32 := 0x00fe0000

/-- The bits that a kind of call sets. -/
def typeBits : CallType → UInt32
  | .fast32 => fastBit
  | .fast64 => fastBit ||| wideBit
  | .yielding => 0

/-- **An identifier from its fields.**  Only the low six bits of the owning entity count. -/
def make (callType : CallType) (owner : UInt8) (number : UInt16) : FunctionId :=
  ⟨typeBits callType ||| owner.toUInt32 <<< ownerShift &&& ownerMask ||| number.toUInt32⟩

/-- The identifier in the low half of a 64-bit register. -/
def ofRegister (x : UInt64) : FunctionId := ⟨x.toUInt32⟩

/-- The owning entity. -/
def owner (f : FunctionId) : UInt8 := ((f.word &&& ownerMask) >>> ownerShift).toUInt8

/-- The number within the owning entity. -/
def number (f : FunctionId) : UInt16 := f.word.toUInt16

/-- The kind of call. -/
def callType (f : FunctionId) : CallType :=
  if f.word &&& fastBit = 0 then .yielding
  else if f.word &&& wideBit = 0 then .fast32
  else .fast64

/-- Whether the call is a fast one. -/
def isFast (f : FunctionId) : Bool := f.callType != .yielding

/-- The identifier with the SVE hint set. -/
def withSveHint (f : FunctionId) : FunctionId := ⟨f.word ||| sveHint⟩

/-- The identifier with the SVE hint cleared, as it counts for naming a function. -/
def withoutSveHint (f : FunctionId) : FunctionId := ⟨f.word &&& ~~~sveHint⟩

/-- **Whether an identifier is valid**: a fast call has its reserved bits clear. -/
def isValid (f : FunctionId) : Bool := !f.isFast || f.word &&& reservedBits == 0

/-- The text of an identifier, `0x82000200 (Fast32 OEN 2)`. -/
def inspect (f : FunctionId) : String :=
  hexWord f.word ++ " (" ++ f.callType.name ++ " OEN " ++ toString f.owner.toNat ++ ")"

end FunctionId

end Reclock
