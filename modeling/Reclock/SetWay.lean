/-
**Walking a core's data caches by set and way.**

A cache line is cleaned by an operand that names its level, way and set.  Two registers describe
the caches: one gives the type of each level and the level up to which lines must be cleaned, the
other the line size, ways and sets of the level that has been selected.  The walk selects every
level that holds data, up to that level, and visits every line of it, in ascending order of level,
way and set.

Main definitions:

* `Reclock.SetWay.Geometry` — line size, ways and sets of a cache level;
* `Reclock.SetWay.levels` — the levels to visit;
* `Reclock.SetWay.steps` — **the steps of the walk**, and `Reclock.SetWay.walk`, the same walk
  without building the list;
* `Reclock.SetWay.selected` — the level selected last.

Main results:

* `Reclock.SetWay.walk_eq_foldl` — the walk takes exactly the steps, in order.
-/

set_option relaxedAutoImplicit false
set_option autoImplicit false

namespace Reclock

namespace SetWay

/-! ### Cache levels -/

/-- How many of the low 32 bits of a number lie above its highest set bit. -/
def leadingZeros (n : Nat) : Nat := if n = 0 then 32 else 31 - Nat.log2 n

/-- Line size, ways and sets of a cache level. -/
structure Geometry where
  /-- The position of the set in an operand: the logarithm of the line size in bytes. -/
  lineShift : UInt64
  /-- The number of ways. -/
  ways : Nat
  /-- The number of sets. -/
  sets : Nat
  /-- The position of the way in an operand: ways are numbered from the top of the low word. -/
  wayShift : UInt64 := if ways > 1 then UInt64.ofNat (leadingZeros (ways - 1)) else 0
  deriving DecidableEq

namespace Geometry

/-- The geometry that a cache size register describes. -/
def ofRegister (ccsidr : UInt64) : Geometry where
  lineShift := (ccsidr &&& 0x7) + 4
  ways := (ccsidr >>> 3 &&& 0x3ff).toNat + 1
  sets := (ccsidr >>> 13 &&& 0x7fff).toNat + 1

/-- The operand of a line. -/
def operand (g : Geometry) (level way set : Nat) : UInt64 :=
  UInt64.ofNat way <<< g.wayShift ||| UInt64.ofNat set <<< g.lineShift |||
    UInt64.ofNat level <<< 1

end Geometry

/-- The number of levels below the point of coherency. -/
def coherencyLevel (clidr : UInt64) : Nat := (clidr >>> 24 &&& 0x7).toNat

/-- The type of a cache level. -/
def cacheType (clidr : UInt64) (level : Nat) : UInt64 := clidr >>> UInt64.ofNat (level * 3) &&& 0x7

/-- **The levels to visit**: those below the point of coherency that hold data. -/
def levels (clidr : UInt64) : List Nat :=
  (List.range (coherencyLevel clidr)).filter fun level => 2 ≤ cacheType clidr level

/-- A level as the selection register holds it. -/
def selector (level : Nat) : UInt64 := UInt64.ofNat level <<< 1

/-- What the selection register holds after a walk; zero if no level was selected. -/
def selected (clidr : UInt64) : UInt64 :=
  (levels clidr).foldl (fun _ level => selector level) 0

/-- The geometry of a level: `sizes` tells what the size register reads when a level has been
selected. -/
def geometry (sizes : UInt64 → UInt64) (level : Nat) : Geometry :=
  .ofRegister (sizes (selector level))

/-! ### The walk -/

/-- What a walk does. -/
inductive Step
  /-- A value is written to the selection register. -/
  | select (selector : UInt64)
  /-- The line of an operand is cleaned. -/
  | clean (operand : UInt64)
  deriving DecidableEq

/-- Takes a step, by what is done to select and what is done to clean. -/
def Step.take {σ : Type} (select clean : UInt64 → σ → σ) (s : σ) : Step → σ
  | .select selector => select selector s
  | .clean operand => clean operand s

/-- The operands of one level. -/
def levelOperands (g : Geometry) (level : Nat) : List UInt64 :=
  (List.range g.ways).flatMap fun way =>
    (List.range g.sets).map fun set => g.operand level way set

/-- **The steps of the walk**: a level is selected before the geometry of its lines is read. -/
def steps (clidr : UInt64) (sizes : UInt64 → UInt64) : List Step :=
  (levels clidr).flatMap fun level =>
    .select (selector level) :: (levelOperands (geometry sizes level) level).map .clean

/-- Applies a step to the numbers from `n` below `n + count`, in order. -/
@[specialize] def upward {σ : Type} (step : Nat → σ → σ) : (count : Nat) → (n : Nat) → σ → σ
  | 0, _, s => s
  | count + 1, n, s => upward step count (n + 1) (step n s)

/-- **The walk**: selects every level in turn, and cleans its lines in order. -/
@[specialize] def walk {σ : Type} (clidr : UInt64) (sizes : UInt64 → UInt64)
    (select clean : UInt64 → σ → σ) (s : σ) : σ :=
  (levels clidr).foldl (fun s level =>
    let s := select (selector level) s
    let g := geometry sizes level
    upward (fun way s => upward (fun set s => clean (g.operand level way set) s) g.sets 0 s)
      g.ways 0 s) s

theorem upward_eq_foldl {σ : Type} (step : Nat → σ → σ) (count n : Nat) (s : σ) :
    upward step count n s = (List.range' n count).foldl (fun s n => step n s) s := by
  induction count generalizing n s with
  | zero => rfl
  | succ count ih => rw [upward, ih, List.range'_succ, List.foldl_cons]

/-- **The walk takes exactly the steps, in order.** -/
theorem walk_eq_foldl {σ : Type} (clidr : UInt64) (sizes : UInt64 → UInt64)
    (select clean : UInt64 → σ → σ) (s : σ) :
    walk clidr sizes select clean s = (steps clidr sizes).foldl (Step.take select clean) s := by
  simp only [walk, steps, List.foldl_flatMap, List.foldl_cons, Step.take, upward_eq_foldl,
    levelOperands, ← List.range_eq_range', List.foldl_map]

/-! ### A summary of the walk -/

/-- What is told of a walk: how many operands there were, the first of them, the latest, and a
checksum over all. -/
structure Summary where
  /-- The number of operands. -/
  count : Nat := 0
  /-- The first operands, newest first. -/
  head : List UInt64 := []
  /-- The latest operand, and zero before the first. -/
  latest : UInt64 := 0
  /-- The checksum. -/
  checksum : UInt64 := 0

namespace Summary

/-- Takes one more operand into account; at most `keep` operands are kept. -/
def add (keep : Nat) (x : UInt64) (s : Summary) : Summary :=
  { s with
    count := s.count + 1
    head := if s.count < keep then x :: s.head else s.head
    latest := x
    checksum := s.checksum * 31 + x }

/-- The last operand, if there was one. -/
def last? (s : Summary) : Option UInt64 := if s.count = 0 then none else some s.latest

end Summary

/-- The summary of a walk over levels that all have one size. -/
def summary (clidr ccsidr : UInt64) (keep : Nat) : Summary :=
  walk clidr (fun _ => ccsidr) (fun _ s => s) (Summary.add keep) {}

end SetWay

end Reclock
