/-
**The encoded timing table.**

The boot loader hands the timing table over as a sequence of little-endian 32-bit words that
starts at a word boundary.  A header of four words (magic number, number of points, full speed
point, half speed point) is followed by a record of seven words for each point (data rate, flags,
the lengths of its five lists), and the records by the lists, each an offset and a value per entry,
in the order of the records and of the lengths in them.  What follows the last list is ignored.

Main definitions:

* `Reclock.Blob.words` — bytes as words;
* `Reclock.Blob.Header`, `Reclock.Blob.Record` — the fixed parts;
* `Reclock.Blob.points?` — the points that records and lists describe;
* `Reclock.TimingTable.ofBlob` — **the table that a blob encodes**, or the first error in it.
-/

import Reclock.Timing

set_option relaxedAutoImplicit false
set_option autoImplicit false

namespace Reclock

namespace Blob

/-- The word with which every blob begins. -/
def magic : UInt32 := 0x54444653

/-- The word that stands for a fast switch point when there is none. -/
def noFastSwitch : UInt32 := 0xffffffff

/-- The flag of a point whose clock comes from the bypass divider. -/
def bypassFlag : UInt32 := 0x1

/-! ### Words -/

/-- A word from its four bytes, the least significant first. -/
def word (b0 b1 b2 b3 : UInt8) : UInt32 :=
  b0.toUInt32 ||| b1.toUInt32 <<< 8 ||| b2.toUInt32 <<< 16 ||| b3.toUInt32 <<< 24

/-- The words of a byte sequence; up to three bytes at its end are no word. -/
def words : List UInt8 → List UInt32
  | b0 :: b1 :: b2 :: b3 :: rest => word b0 b1 b2 b3 :: words rest
  | _ => []

/-! ### Header and records -/

/-- The first four words. -/
structure Header where
  /-- The magic number. -/
  magic : UInt32
  /-- The number of records. -/
  pointCount : UInt32
  /-- The full speed point, or `noFastSwitch`. -/
  fastFull : UInt32
  /-- The half speed point, or `noFastSwitch`. -/
  fastHalf : UInt32

/-- The fixed part of a point. -/
structure Record where
  /-- The data rate in mega-transfers per second. -/
  dataRate : UInt32
  /-- The flags. -/
  flags : UInt32
  /-- The number of controller entries. -/
  controller : UInt32
  /-- The number of PHY initialisation entries. -/
  phyInit : UInt32
  /-- The number of trained values. -/
  phyTrained : UInt32
  /-- The number of entries of the engine image. -/
  phyEngine : UInt32
  /-- The number of mode registers. -/
  modeRegisters : UInt32

/-- The header at the start of a word sequence, and the words after it. -/
def header? : List UInt32 → Option (Header × List UInt32)
  | m :: count :: full :: half :: rest => some (⟨m, count, full, half⟩, rest)
  | _ => none

/-- The first `count` records, and the words after them. -/
def records? : (count : Nat) → List UInt32 → Option (List Record × List UInt32)
  | 0, ws => some ([], ws)
  | count + 1, rate :: flags :: a :: b :: c :: d :: e :: rest => do
      let (records, rest) ← records? count rest
      return (⟨rate, flags, a, b, c, d, e⟩ :: records, rest)
  | _ + 1, _ => none

/-! ### Lists -/

/-- The first `count` entries of a register program, and the words after them. -/
def program? : (count : Nat) → List UInt32 → Option (RegisterProgram × List UInt32)
  | 0, ws => some ([], ws)
  | count + 1, offset :: value :: rest => do
      let (program, rest) ← program? count rest
      return (⟨offset, value⟩ :: program, rest)
  | _ + 1, _ => none

/-- The timings of one point, whose five lists come first, and the words after them. -/
def timings? (record : Record) (ws : List UInt32) : Option (PointTimings × List UInt32) := do
  let (controller, ws) ← program? record.controller.toNat ws
  let (phyInit, ws) ← program? record.phyInit.toNat ws
  let (phyTrained, ws) ← program? record.phyTrained.toNat ws
  let (phyEngine, ws) ← program? record.phyEngine.toNat ws
  let (modeRegisters, ws) ← program? record.modeRegisters.toNat ws
  return (⟨record.dataRate, record.flags &&& bypassFlag != 0, controller, phyInit, phyTrained,
    phyEngine, modeRegisters⟩, ws)

/-- The points that the records describe, from the lists that follow. -/
def points? : List Record → List UInt32 → Option (List PointTimings)
  | [], _ => some []
  | record :: records, ws => do
      let (timings, ws) ← timings? record ws
      let points ← points? records ws
      return timings :: points

/-! ### The fast pair -/

/-- The fast pair that a header names: none if either field says so, and none of the right form
if a field is no frequency index. -/
def fastPair? (header : Header) : Option (Option FastPair) :=
  if header.fastFull = noFastSwitch ∨ header.fastHalf = noFastSwitch then some none
  else if header.fastFull ≤ 255 ∧ header.fastHalf ≤ 255 then
    some (some ⟨⟨header.fastFull.toUInt8⟩, ⟨header.fastHalf.toUInt8⟩⟩)
  else none

end Blob

/-- **The table that a blob encodes**, for bytes that lie at this address.  Only whole words are
read, so the address has to be one of a word. -/
def TimingTable.ofBlob (bytes : List UInt8) (address : Nat) : Except TableError TimingTable :=
  if address % 4 ≠ 0 then .error .malformed
  else
    match Blob.header? (Blob.words bytes) with
    | none => .error .malformed
    | some (header, rest) =>
        if header.magic ≠ Blob.magic then .error (.badMagic header.magic)
        else if header.pointCount.toNat > maxPoints then
          .error (.tooManyPoints header.pointCount.toNat)
        else
          match Blob.records? header.pointCount.toNat rest with
          | none => .error .malformed
          | some (records, lists) =>
              match Blob.points? records lists, Blob.fastPair? header with
              | some points, some fast => ofPoints points fast
              | _, _ => .error .malformed

end Reclock
