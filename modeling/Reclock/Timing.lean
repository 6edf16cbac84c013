/-
**The timing table: frequency points and their register programs.**

A frequency point is an operating point of the DRAM.  The table holds, for each, its data rate,
where its clock comes from and the register programs that install it.  It is built once and only
read afterwards; the points are named by their positions.

Main definitions:

* `Reclock.FrequencyIndex`, `Reclock.FrequencyPoint` — the name of a point and its description;
* `Reclock.PointTimings` — all that the table holds for a point;
* `Reclock.FastPair` — the two points that the hardware sequencer switches between on its own;
* `Reclock.TimingTable` — the tables: one to four points, and a fast pair only of points in the
  table, kept as part of the type;
* `Reclock.TimingTable.ofPoints` — the check of a list of points, with `Reclock.TableError`.
-/

import Reclock.Register.Access

set_option relaxedAutoImplicit false
set_option autoImplicit false

namespace Reclock

/-! ### Frequency points -/

/-- The name of a frequency point: its position in the timing table. -/
structure FrequencyIndex where
  /-- The position. -/
  val : UInt8
  deriving DecidableEq, Inhabited

namespace FrequencyIndex

/-- The position as a number. -/
def toNat (i : FrequencyIndex) : Nat := i.val.toNat

/-- The short text of a point's name, `F2`. -/
def text (i : FrequencyIndex) : String := "F" ++ toString i.toNat

/-- The long text of a point's name, `FrequencyIndex(2)`. -/
def inspect (i : FrequencyIndex) : String := "FrequencyIndex(" ++ toString i.toNat ++ ")"

end FrequencyIndex

/-- One operating point. -/
structure FrequencyPoint where
  /-- Its position in the timing table. -/
  index : FrequencyIndex
  /-- Its data rate in mega-transfers per second. -/
  dataRate : UInt32
  /-- Whether its clock comes from the bypass divider and not from the PLL. -/
  bypass : Bool
  deriving DecidableEq, Inhabited

/-- Everything that the timing table holds for a point. -/
structure PointTimings where
  /-- The data rate in mega-transfers per second. -/
  dataRate : UInt32
  /-- Whether the clock comes from the bypass divider. -/
  bypass : Bool
  /-- The timing registers of the controller. -/
  controller : RegisterProgram
  /-- The registers that initialise the PHY. -/
  phyInit : RegisterProgram
  /-- The PHY's trained values, captured at boot. -/
  phyTrained : RegisterProgram
  /-- The image of the PHY's initialisation engine. -/
  phyEngine : RegisterProgram
  /-- The mode registers of the DRAM devices; an entry's offset is the mode register's number. -/
  modeRegisters : RegisterProgram
  deriving DecidableEq, Inhabited

namespace PointTimings

/-- The point that the timings are for, given its position. -/
def point (t : PointTimings) (index : FrequencyIndex) : FrequencyPoint :=
  ⟨index, t.dataRate, t.bypass⟩

/-- Whether every program that a frequency switch loads is there. -/
def switchable (t : PointTimings) : Bool :=
  !t.controller.isEmpty && !t.phyInit.isEmpty && !t.phyTrained.isEmpty &&
    !t.modeRegisters.isEmpty

/-- A switch needs the programs of the controller, of the PHY and its training, and of the mode
registers. -/
theorem switchable_iff {t : PointTimings} : t.switchable = true ↔
    [] ∉ [t.controller, t.phyInit, t.phyTrained, t.modeRegisters] := by
  simp [switchable, and_assoc, @eq_comm RegisterProgram []]

end PointTimings

/-- The points that the hardware sequencer can switch between on its own. -/
structure FastPair where
  /-- The point of full speed. -/
  full : FrequencyIndex
  /-- The point of half speed. -/
  half : FrequencyIndex
  deriving DecidableEq, Inhabited

/-- The two speeds of the hardware sequencer. -/
inductive Speed
  /-- The full speed point of the table. -/
  | full
  /-- The half speed point of the table. -/
  | half
  deriving DecidableEq, Inhabited

namespace Speed

/-- The name of a speed. -/
def name : Speed → String
  | full => "FullSpeed"
  | half => "HalfSpeed"

/-- The number by which callers ask for a speed. -/
def number : Speed → UInt32
  | full => 0
  | half => 1

/-- The speed that a number asks for. -/
def ofNumber? (n : UInt32) : Option Speed :=
  if n = 0 then some full else if n = 1 then some half else none

/-- The text of the refusal of a number that asks for no speed. -/
def unknownMessage (n : UInt32) : String :=
  "No discriminant in enum `FastSwitchMode` matches the value `" ++ toString n.toNat ++ "`"

@[simp] theorem ofNumber?_number (s : Speed) : ofNumber? s.number = some s := by cases s <;> rfl

end Speed

/-- The point of a fast pair that a speed stands for. -/
def FastPair.point (pair : FastPair) : Speed → FrequencyIndex
  | .full => pair.full
  | .half => pair.half

/-! ### Errors -/

/-- Why a timing table cannot be built. -/
inductive TableError
  /-- There are no points. -/
  | empty
  /-- There are more points than a table holds. -/
  | tooManyPoints (count : Nat)
  /-- The encoded table does not start with its magic number. -/
  | badMagic (magic : UInt32)
  /-- The encoded table is cut short or misaligned. -/
  | malformed
  /-- A fast switch point is not in the table. -/
  | fastSwitchIndex (index : FrequencyIndex)
  deriving DecidableEq

namespace TableError

/-- The name of an error's kind. -/
def name : TableError → String
  | empty => "Empty"
  | tooManyPoints _ => "TooManyPoints"
  | badMagic _ => "BadMagic"
  | malformed => "Malformed"
  | fastSwitchIndex _ => "FastSwitchIndex"

/-- The text of an error. -/
def message : TableError → String
  | empty => "timing table has no frequency points"
  | tooManyPoints count => "timing table has " ++ toString count ++ " frequency points"
  | badMagic magic => "bad timing blob magic " ++ hexWord magic
  | malformed => "timing blob is truncated or misaligned"
  | fastSwitchIndex index => "fast switch point " ++ index.text ++ " is out of range"

end TableError

/-! ### Tables -/

/-- The largest number of points in a table. -/
def maxPoints : Nat := 4

/-- **A timing table**: one to four points, and perhaps a fast pair of them. -/
structure TimingTable where
  /-- The points, in the order of their indices. -/
  points : List PointTimings
  /-- The points that the hardware sequencer switches between. -/
  fast : Option FastPair
  /-- There is a point. -/
  points_ne_nil : points ≠ []
  /-- There are at most four points. -/
  length_points_le : points.length ≤ maxPoints
  /-- A fast pair consists of points of the table. -/
  fast_lt : ∀ pair, fast = some pair →
    pair.full.toNat < points.length ∧ pair.half.toNat < points.length

namespace TimingTable

/-- The first point of a fast pair that lies outside a table of `count` points. -/
def outside (count : Nat) : Option FastPair → Option FrequencyIndex
  | none => none
  | some pair =>
      if pair.full.toNat ≥ count then some pair.full
      else if pair.half.toNat ≥ count then some pair.half
      else none

theorem outside_eq_none {count : Nat} {fast : Option FastPair} (h : outside count fast = none) :
    ∀ pair, fast = some pair → pair.full.toNat < count ∧ pair.half.toNat < count := by
  rintro pair rfl
  simp only [outside] at h
  split at h
  · simp at h
  · split at h
    · simp at h
    · omega

/-- **Builds a table** from its points.  Too many points are reported first, then too few, then
the first point of the fast pair that is not in the table. -/
def ofPoints (points : List PointTimings) (fast : Option FastPair) :
    Except TableError TimingTable :=
  if hcount : points.length ≤ maxPoints then
    if hne : points = [] then .error .empty
    else
      match hfast : outside points.length fast with
      | some index => .error (.fastSwitchIndex index)
      | none => .ok ⟨points, fast, hne, hcount, outside_eq_none hfast⟩
  else .error (.tooManyPoints points.length)

/-- The number of points. -/
def size (t : TimingTable) : Nat := t.points.length

/-- Whether the table has no points, which its type rules out. -/
def isEmpty (t : TimingTable) : Bool := t.points.isEmpty

/-- The timings of a point, if it is in the table. -/
def timings? (t : TimingTable) (index : FrequencyIndex) : Option PointTimings :=
  t.points[index.toNat]?

/-- The description of a point, if it is in the table. -/
def point? (t : TimingTable) (index : FrequencyIndex) : Option FrequencyPoint :=
  (t.timings? index).map fun timings => timings.point index

theorem isEmpty_eq_false (t : TimingTable) : t.isEmpty = false := by
  simpa [isEmpty] using t.points_ne_nil

end TimingTable

end Reclock
