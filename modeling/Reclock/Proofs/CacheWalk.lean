/-
**The walk visits every cache line once.**

An operand holds level, way and set in three fields whose places move with the layout of the level:
the set begins where the address within a line ends, and the ways are numbered from the top of the
low word.  Numbers of ways and sets need not be powers of two, and with a single way the way has no
bits at all.  Here the layout is read off the bits of the size register, apart from how the walk
computes its geometry.  Wherever the fields have room beside each other, an operand is the sum of
its fields, so that its line can be read back from it; and the operands of a walk, read back, are
all the lines of the levels that are to be visited, in ascending order.

Main definitions:

* `Reclock.SetWay.Line`, `Line.Before` — a line of the caches, and the order of the walk;
* `Reclock.SetWay.Layout`, `Layout.ofBits`, `layout` — line size, ways and sets, as the bits of the
  size register tell them, and those of a level;
* `Reclock.SetWay.Layout.Possible`, `decode` — the layouts whose fields have room beside each
  other, and the line of an operand;
* `Reclock.SetWay.cleaned`, `selections` — what a walk is seen to do;
* `Reclock.SetWay.Thorough` — what is asked of a walk.

Main results:

* `Reclock.SetWay.follows_geometry` — the geometry that the walk goes by has the layout of the
  level;
* `Reclock.SetWay.Layout.Regular.decode_of_place` — a line can be read back from its operand;
* `Reclock.SetWay.decoded` — the operands of a walk are those of the lines, in order;
* `Reclock.SetWay.visits_every_line_once` — **the walk is thorough**.
-/

import Mathlib.Algebra.Group.Nat.Defs
import Mathlib.Data.List.Nodup
import Mathlib.Data.Nat.Log
import Reclock.SetWay

set_option relaxedAutoImplicit false
set_option autoImplicit false

namespace Reclock

namespace SetWay

/-! ### Registers as numbers -/

theorem toNat_shiftRight_and {w s : UInt64} {k : Nat} {mask : UInt64} (hs : s.toNat < 64)
    (hmask : mask.toNat = 2 ^ k - 1) :
    (w >>> s &&& mask).toNat = w.toNat / 2 ^ s.toNat % 2 ^ k := by
  rw [UInt64.toNat_and, UInt64.toNat_shiftRight, Nat.mod_eq_of_lt hs, hmask,
    Nat.and_two_pow_sub_one_eq_mod, Nat.shiftRight_eq_div_pow]

/-- **A level is to be visited** if it lies below the point of coherency and its type, in three bits
of the register, is one that holds data. -/
def Visited (clidr : UInt64) (level : Nat) : Prop :=
  level < clidr.toNat / 2 ^ 24 % 8 ∧ 2 ≤ clidr.toNat / 2 ^ (3 * level) % 8

instance (clidr : UInt64) (level : Nat) : Decidable (Visited clidr level) :=
  inferInstanceAs (Decidable (_ ∧ _))

theorem mem_levels {clidr : UInt64} {level : Nat} :
    level ∈ levels clidr ↔ Visited clidr level := by
  have hcoherency : coherencyLevel clidr = clidr.toNat / 2 ^ 24 % 8 :=
    toNat_shiftRight_and (by decide) (show (7 : UInt64).toNat = 2 ^ 3 - 1 from rfl)
  rw [levels, List.mem_filter, List.mem_range, decide_eq_true_eq, hcoherency, Visited]
  refine and_congr_right fun hlevel => ?_
  have hshift : (UInt64.ofNat (level * 3)).toNat = 3 * level := by
    rw [UInt64.toNat_ofNat_of_lt' (by rw [UInt64.size]; omega), Nat.mul_comm]
  rw [cacheType, UInt64.le_iff_toNat_le,
    toNat_shiftRight_and (by omega) (show (7 : UInt64).toNat = 2 ^ 3 - 1 from rfl), hshift]
  rfl

/-! ### The layout of a level -/

/-- A line of the caches. -/
structure Line where
  level : Nat
  way : Nat
  set : Nat
  deriving DecidableEq

/-- **The layout of a cache level.** -/
structure Layout where
  /-- The logarithm of the line size in bytes. -/
  lineBits : Nat
  /-- The number of ways. -/
  ways : Nat
  /-- The number of sets. -/
  sets : Nat

namespace Layout

/-- **What a size register says**: four less than the logarithm of the line size in the lowest three
bits, one less than the number of ways in the next ten, and one less than the number of sets in
fifteen bits from bit 13 upwards. -/
def ofBits (size : UInt64) : Layout where
  lineBits := size.toNat % 2 ^ 3 + 4
  ways := size.toNat / 2 ^ 3 % 2 ^ 10 + 1
  sets := size.toNat / 2 ^ 13 % 2 ^ 15 + 1

/-- How many bits the way has in an operand. -/
def wayBits (l : Layout) : Nat := Nat.clog 2 l.ways

/-- **A layout that a cache may have**: there is a single way, or the set has room below the way. -/
def Possible (l : Layout) : Prop :=
  l.ways = 1 ∨ l.lineBits + Nat.clog 2 l.sets ≤ 32 - l.wayBits

instance (l : Layout) : Decidable l.Possible := inferInstanceAs (Decidable (_ ∨ _))

/-- **The number that names a line**: the way in the topmost bits of the low word, the set from the
line size upwards, and the level above bit 0. -/
def place (l : Layout) (line : Line) : Nat :=
  2 ^ (32 - l.wayBits) * line.way + (2 ^ l.lineBits * line.set + 2 * line.level)

/-- **The line of an operand**: the level stands in the bits from 1 to 3, the way in the topmost
bits of the low word, and the set between its place and the way. -/
def decode (l : Layout) (x : UInt64) : Line where
  level := x.toNat / 2 % 8
  way := x.toNat % 2 ^ 32 / 2 ^ (32 - l.wayBits)
  set := x.toNat % 2 ^ (32 - l.wayBits) / 2 ^ l.lineBits

/-- The lines of one level, in order. -/
def lines (l : Layout) (level : Nat) : List Line :=
  (List.range l.ways).flatMap fun way => (List.range l.sets).map fun set => ⟨level, way, set⟩

theorem mem_lines {l : Layout} {level : Nat} {line : Line} :
    line ∈ l.lines level ↔ line.level = level ∧ line.way < l.ways ∧ line.set < l.sets := by
  simp only [lines, List.mem_flatMap, List.mem_map, List.mem_range]
  constructor
  · rintro ⟨way, hway, set, hset, rfl⟩
    exact ⟨rfl, hway, hset⟩
  · rintro ⟨rfl, hway, hset⟩
    exact ⟨line.way, hway, line.set, hset, rfl⟩

theorem length_lines (l : Layout) (level : Nat) : (l.lines level).length = l.ways * l.sets := by
  simp only [lines, List.length_flatMap, List.length_map, List.length_range, List.map_const',
    List.sum_replicate_nat]

/-! ### Fields of an operand -/

/-- What the fields of a size register can hold. -/
structure Regular (l : Layout) : Prop where
  above : 4 ≤ l.lineBits
  below : l.lineBits ≤ 11
  ways : l.ways ≤ 2 ^ 10
  sets : l.sets ≤ 2 ^ 15

theorem regular_ofBits (size : UInt64) : (ofBits size).Regular where
  above := Nat.le_add_left 4 _
  below := by
    show size.toNat % 2 ^ 3 + 4 ≤ 11
    omega
  ways := Nat.mod_lt _ (Nat.two_pow_pos 10)
  sets := Nat.mod_lt _ (Nat.two_pow_pos 15)

variable {l : Layout} {line : Line}

theorem Regular.wayBits_le (hl : l.Regular) : l.wayBits ≤ 10 := by
  rw [wayBits, Nat.clog_le_iff_le_pow (by decide)]
  exact hl.ways

/-- The set has room below the way, also where there is a single way and nothing above. -/
theorem Regular.room (hl : l.Regular) (h : l.Possible) :
    l.lineBits + Nat.clog 2 l.sets ≤ 32 - l.wayBits := by
  rcases h with hsingle | hroom
  · have hnone : l.wayBits = 0 := by
      rw [wayBits, hsingle]
      rfl
    have hsets : Nat.clog 2 l.sets ≤ 15 := by
      rw [Nat.clog_le_iff_le_pow (by decide)]
      exact hl.sets
    have hbits := hl.below
    omega
  · exact hroom

/-- **A line within a layout.** -/
structure Holds (l : Layout) (line : Line) : Prop where
  level : line.level < 8
  way : line.way < l.ways
  set : line.set < l.sets

/-- The level and the set, below the way. -/
def lowPart (l : Layout) (line : Line) : Nat := 2 ^ l.lineBits * line.set + 2 * line.level

theorem Regular.level_lt (hl : l.Regular) (hline : l.Holds line) :
    2 * line.level < 2 ^ l.lineBits := by
  have hpow : 2 ^ 4 ≤ 2 ^ l.lineBits := Nat.pow_le_pow_right (by decide) hl.above
  have hlevel := hline.level
  omega

theorem Regular.lowPart_lt (hl : l.Regular) (h : l.Possible) (hline : l.Holds line) :
    l.lowPart line < 2 ^ (32 - l.wayBits) := by
  have hfield := hl.level_lt hline
  have hsets : l.sets ≤ 2 ^ Nat.clog 2 l.sets := Nat.le_pow_clog (by decide) _
  have hset := hline.set
  calc l.lowPart line
      < 2 ^ l.lineBits * (line.set + 1) := by
        rw [lowPart, Nat.mul_succ]
        omega
    _ ≤ 2 ^ l.lineBits * 2 ^ Nat.clog 2 l.sets := Nat.mul_le_mul_left _ (by omega)
    _ = 2 ^ (l.lineBits + Nat.clog 2 l.sets) := (Nat.pow_add _ _ _).symm
    _ ≤ 2 ^ (32 - l.wayBits) := Nat.pow_le_pow_right (by decide) (hl.room h)

/-- The way and what is below it have room in the low word. -/
theorem Regular.place_lt (hl : l.Regular) (h : l.Possible) (hline : l.Holds line) :
    l.place line < 2 ^ 32 := by
  have hlow := hl.lowPart_lt h hline
  have hbits := hl.wayBits_le
  have hways : l.ways ≤ 2 ^ l.wayBits := Nat.le_pow_clog (by decide) _
  have hway := hline.way
  calc l.place line
      < 2 ^ (32 - l.wayBits) * (line.way + 1) := by
        rw [place, ← lowPart, Nat.mul_succ]
        omega
    _ ≤ 2 ^ (32 - l.wayBits) * 2 ^ l.wayBits := Nat.mul_le_mul_left _ (by omega)
    _ = 2 ^ 32 := by rw [← Nat.pow_add, Nat.sub_add_cancel (by omega)]

/-- Below the set there is room for a level. -/
theorem Regular.level_of_place (hl : l.Regular) (h : l.Possible) (hline : l.Holds line) :
    l.place line / 2 % 8 = line.level := by
  have hroom := hl.room h
  have hset : 2 ^ l.lineBits = 16 * 2 ^ (l.lineBits - 4) := by
    rw [show 16 = 2 ^ 4 from rfl, ← Nat.pow_add, Nat.add_sub_cancel' hl.above]
  have hway : 2 ^ (32 - l.wayBits) = 16 * 2 ^ (32 - l.wayBits - 4) := by
    rw [show 16 = 2 ^ 4 from rfl, ← Nat.pow_add, Nat.add_sub_cancel' (by have := hl.above; omega)]
  have hlevel := hline.level
  rw [place, hset, hway, Nat.mul_assoc, Nat.mul_assoc]
  omega

/-- **A line can be read back from its operand.** -/
theorem Regular.decode_of_place (hl : l.Regular) (h : l.Possible) (hline : l.Holds line)
    {x : UInt64} (hx : x.toNat = l.place line) : l.decode x = line := by
  have hlow := hl.lowPart_lt h hline
  have hhigh : l.place line / 2 ^ (32 - l.wayBits) = line.way := by
    rw [place, ← lowPart, Nat.mul_add_div (Nat.two_pow_pos _), Nat.div_eq_of_lt hlow, Nat.add_zero]
  have hmiddle : l.lowPart line / 2 ^ l.lineBits = line.set := by
    rw [lowPart, Nat.mul_add_div (Nat.two_pow_pos _), Nat.div_eq_of_lt (hl.level_lt hline),
      Nat.add_zero]
  rw [decode, hx, hl.level_of_place h hline, Nat.mod_eq_of_lt (hl.place_lt h hline), hhigh, place,
    ← lowPart, Nat.mul_add_mod, Nat.mod_eq_of_lt hlow, hmiddle]

end Layout

/-! ### The geometry of the walk -/

namespace Geometry

/-- **A geometry follows a layout** if it has its numbers, and numbers the ways from the top of the
low word. -/
structure Follows (g : Geometry) (l : Layout) : Prop where
  lineShift : g.lineShift.toNat = l.lineBits
  ways : g.ways = l.ways
  sets : g.sets = l.sets
  wayShift : 2 ≤ l.ways → g.wayShift.toNat = 32 - l.wayBits

/-- The place of the highest bit of a number tells how many bits the numbers up to it have. -/
theorem clog_eq_log2 {n : Nat} (hn : 2 ≤ n) : Nat.clog 2 n = Nat.log2 (n - 1) + 1 := by
  refine eq_of_forall_ge_iff fun k => ?_
  rw [Nat.clog_le_iff_le_pow (by decide), Nat.succ_le_iff, Nat.log2_lt (by omega)]
  omega

/-- The geometry that the walk goes by is what the size register says. -/
theorem follows_ofRegister (ccsidr : UInt64) : (ofRegister ccsidr).Follows (.ofBits ccsidr) := by
  have hmask : (ccsidr &&& 0x7).toNat = ccsidr.toNat % 2 ^ 3 := by
    rw [UInt64.toNat_and, ← Nat.and_two_pow_sub_one_eq_mod]
    rfl
  have hways : (ofRegister ccsidr).ways = (Layout.ofBits ccsidr).ways :=
    congrArg (· + 1) (toNat_shiftRight_and (by decide) (by decide))
  have hsets : (ofRegister ccsidr).sets = (Layout.ofBits ccsidr).sets :=
    congrArg (· + 1) (toNat_shiftRight_and (by decide) (by decide))
  refine ⟨?_, hways, hsets, fun htwo => ?_⟩
  · rw [ofRegister, UInt64.toNat_add, hmask]
    exact Nat.mod_eq_of_lt (show ccsidr.toNat % 2 ^ 3 + 4 < 2 ^ 64 by omega)
  · have hzeros : leadingZeros ((ofRegister ccsidr).ways - 1) =
        32 - (Layout.ofBits ccsidr).wayBits := by
      rw [leadingZeros, if_neg (by omega), hways, Layout.wayBits, clog_eq_log2 htwo]
      omega
    have hshift : (ofRegister ccsidr).wayShift =
        UInt64.ofNat (leadingZeros ((ofRegister ccsidr).ways - 1)) :=
      if_pos (show 2 ≤ (ofRegister ccsidr).ways by rw [hways]; exact htwo)
    rw [hshift, hzeros, UInt64.toNat_ofNat_of_lt' (by rw [UInt64.size]; omega)]

theorem toNat_ofNat_shiftLeft {n : Nat} {s : UInt64} (hs : s.toNat < 64)
    (hfits : 2 ^ s.toNat * n < 2 ^ 64) : (UInt64.ofNat n <<< s).toNat = 2 ^ s.toNat * n := by
  have hn : n < UInt64.size :=
    Nat.lt_of_le_of_lt (Nat.le_mul_of_pos_left n (Nat.two_pow_pos s.toNat)) hfits
  rw [UInt64.toNat_shiftLeft, Nat.mod_eq_of_lt hs, UInt64.toNat_ofNat_of_lt' hn,
    Nat.shiftLeft_eq, Nat.mul_comm, Nat.mod_eq_of_lt hfits]

variable {g : Geometry} {l : Layout} {line : Line}

/-- A single way has no bits, and its number is zero. -/
theorem Follows.toNat_way (hg : g.Follows l) (hl : l.Regular) (hline : l.Holds line) :
    (UInt64.ofNat line.way <<< g.wayShift).toNat = 2 ^ (32 - l.wayBits) * line.way := by
  have hway := hline.way
  rcases Nat.lt_or_ge l.ways 2 with hsingle | hways
  · rw [show line.way = 0 by omega]
    simp
  · rw [← hg.wayShift hways]
    have hpow : 2 ^ (32 - l.wayBits) ≤ 2 ^ 32 := Nat.pow_le_pow_right (by decide) (Nat.sub_le _ _)
    refine toNat_ofNat_shiftLeft (by rw [hg.wayShift hways]; omega) ?_
    rw [hg.wayShift hways]
    calc 2 ^ (32 - l.wayBits) * line.way
        ≤ 2 ^ 32 * 2 ^ 10 := Nat.mul_le_mul hpow (Nat.le_of_lt (Nat.lt_of_lt_of_le hway hl.ways))
      _ < 2 ^ 64 := by decide

/-- **An operand is the sum of its fields.** -/
theorem Follows.toNat_operand (hg : g.Follows l) (hl : l.Regular) (h : l.Possible)
    (hline : l.Holds line) :
    (g.operand line.level line.way line.set).toNat = l.place line := by
  have hlow := hl.lowPart_lt h hline
  have hplace := hl.place_lt h hline
  have hset : (UInt64.ofNat line.set <<< g.lineShift).toNat = 2 ^ l.lineBits * line.set := by
    rw [← hg.lineShift]
    refine toNat_ofNat_shiftLeft (by rw [hg.lineShift]; have := hl.below; omega) ?_
    rw [Layout.place, ← hg.lineShift] at hplace
    omega
  have hlevel : (UInt64.ofNat line.level <<< 1).toNat = 2 * line.level := by
    have hlt := hline.level
    exact toNat_ofNat_shiftLeft (by decide) (by simp; omega)
  rw [operand, UInt64.toNat_or, UInt64.toNat_or, Nat.or_assoc, hg.toNat_way hl hline, hset, hlevel,
    ← Nat.two_pow_add_eq_or_of_lt (hl.level_lt hline), ← Layout.lowPart,
    ← Nat.two_pow_add_eq_or_of_lt hlow]
  rfl

end Geometry

/-! ### What a walk is seen to do -/

section Record

variable (clidr : UInt64) (sizes : UInt64 → UInt64)

/-- The operands that a walk cleans, in order. -/
def cleaned : List UInt64 := walk clidr sizes (fun _ xs => xs) (fun x xs => xs ++ [x]) []

/-- The values that a walk writes to the selection register, in order. -/
def selections : List UInt64 := walk clidr sizes (fun x xs => xs ++ [x]) (fun _ xs => xs) []

/-- **The layout of a level**: what the size register says once twice the number of the level has
been written to the selection register. -/
def layout (level : Nat) : Layout := .ofBits (sizes (.ofNat (2 * level)))

/-- The line of an operand, by the layout of its level. -/
def decode (x : UInt64) : Line := (layout sizes (x.toNat / 2 % 8)).decode x

/-- The lines to visit, in order. -/
def lines : List Line := (levels clidr).flatMap fun level => (layout sizes level).lines level

/-- The operand of a line. -/
def Line.operand (line : Line) : UInt64 :=
  (geometry sizes line.level).operand line.level line.way line.set

variable {clidr sizes}

/-- The operand that a step cleans. -/
def Step.cleaned? : Step → Option UInt64
  | .select _ => none
  | .clean operand => some operand

/-- The value that a step writes to the selection register. -/
def Step.selected? : Step → Option UInt64
  | .select selector => some selector
  | .clean _ => none

/-- What is added at the end, step by step, is what the steps add. -/
theorem foldl_eq_append_filterMap {added? : Step → Option UInt64}
    {add : List UInt64 → Step → List UInt64}
    (hadd : ∀ xs step, add xs step = xs ++ (added? step).toList) (steps : List Step)
    (xs : List UInt64) : steps.foldl add xs = xs ++ steps.filterMap added? := by
  induction steps generalizing xs with
  | nil => simp
  | cons step steps ih =>
      rw [List.foldl_cons, ih, hadd, List.append_assoc, List.filterMap_cons]
      cases added? step <;> rfl

theorem cleaned_eq : cleaned clidr sizes = (levels clidr).flatMap fun level =>
    levelOperands (geometry sizes level) level := by
  have hadd : ∀ xs step, Step.take (fun _ xs => xs) (fun x xs => xs ++ [x]) xs step =
      xs ++ (Step.cleaned? step).toList := by
    intro xs step
    cases step <;> simp [Step.take, Step.cleaned?]
  rw [cleaned, walk_eq_foldl, foldl_eq_append_filterMap hadd, List.nil_append, steps,
    List.filterMap_flatMap]
  have hclean : Step.cleaned? ∘ Step.clean = some := rfl
  congr 1
  funext level
  rw [List.filterMap_cons_none rfl, List.filterMap_map, hclean, List.filterMap_some]

theorem selections_eq : selections clidr sizes = (levels clidr).map selector := by
  have hadd : ∀ xs step, Step.take (fun x xs => xs ++ [x]) (fun _ xs => xs) xs step =
      xs ++ (Step.selected? step).toList := by
    intro xs step
    cases step <;> simp [Step.take, Step.selected?]
  rw [selections, walk_eq_foldl, foldl_eq_append_filterMap hadd, List.nil_append, steps,
    List.filterMap_flatMap, List.map_eq_flatMap]
  have hclean : Step.selected? ∘ Step.clean = fun _ => none := rfl
  have hselect : ∀ level, Step.selected? (.select (selector level)) = some (selector level) :=
    fun _ => rfl
  congr 1
  funext level
  rw [List.filterMap_cons_some (hselect level), List.filterMap_map, hclean]
  simp

/-- The selection register is left at what has been written to it last. -/
theorem selected_eq : (selections clidr sizes).getLast?.getD 0 = selected clidr := by
  rw [selections_eq, selected]
  rcases List.eq_nil_or_concat (levels clidr) with hnone | ⟨before, level, hlevels⟩
  · rw [hnone]
    rfl
  · rw [hlevels, List.concat_eq_append, List.foldl_append, List.map_append, List.getLast?_append]
    rfl

/-- A level is selected by twice its number. -/
theorem selector_eq (level : Nat) : selector level = .ofNat (2 * level) := by
  refine UInt64.toNat_inj.1 ?_
  rw [selector, UInt64.toNat_shiftLeft, UInt64.toNat_ofNat', UInt64.toNat_ofNat', Nat.shiftLeft_eq,
    show (1 : UInt64).toNat % 64 = 1 from rfl]
  omega

/-- The geometry by which the walk visits a level has the layout of the level. -/
theorem follows_geometry (level : Nat) : (geometry sizes level).Follows (layout sizes level) := by
  rw [geometry, selector_eq]
  exact Geometry.follows_ofRegister _

/-- The operands of a walk are those of the lines. -/
theorem cleaned_eq_map : cleaned clidr sizes = (lines clidr sizes).map (Line.operand sizes) := by
  simp only [cleaned_eq, levelOperands, lines, Layout.lines, List.map_flatMap, List.map_map,
    (follows_geometry _).ways, (follows_geometry _).sets]
  rfl

/-! ### The lines in order -/

/-- **The order of the walk**: by level, then by way, then by set. -/
def Line.Before (a b : Line) : Prop :=
  a.level < b.level ∨ a.level = b.level ∧ (a.way < b.way ∨ a.way = b.way ∧ a.set < b.set)

theorem Line.Before.ne {a b : Line} (h : a.Before b) : a ≠ b := by
  rintro rfl
  rcases h with h | ⟨-, h | ⟨-, h⟩⟩ <;> exact Nat.lt_irrefl _ h

theorem mem_lines {line : Line} : line ∈ lines clidr sizes ↔ Visited clidr line.level ∧
    line.way < (layout sizes line.level).ways ∧ line.set < (layout sizes line.level).sets := by
  simp only [lines, List.mem_flatMap, Layout.mem_lines, mem_levels]
  constructor
  · rintro ⟨level, hlevel, rfl, hway, hset⟩
    exact ⟨hlevel, hway, hset⟩
  · rintro ⟨hlevel, hway, hset⟩
    exact ⟨line.level, hlevel, rfl, hway, hset⟩

theorem Layout.lines_ascending (l : Layout) (level : Nat) :
    (l.lines level).Pairwise Line.Before := by
  rw [lines, List.pairwise_flatMap]
  constructor
  · intro way _
    rw [List.pairwise_map]
    exact List.pairwise_lt_range.imp fun hset => .inr ⟨rfl, .inr ⟨rfl, hset⟩⟩
  · refine List.pairwise_lt_range.imp fun hway a ha b hb => ?_
    obtain ⟨_, _, rfl⟩ := List.mem_map.1 ha
    obtain ⟨_, _, rfl⟩ := List.mem_map.1 hb
    exact .inr ⟨rfl, .inl hway⟩

theorem levels_ascending : (levels clidr).Pairwise (· < ·) := List.pairwise_lt_range.filter _

theorem lines_ascending : (lines clidr sizes).Pairwise Line.Before := by
  rw [lines, List.pairwise_flatMap]
  constructor
  · intro level _
    exact Layout.lines_ascending _ level
  · refine levels_ascending.imp fun hlevel a ha b hb => .inl ?_
    rwa [(Layout.mem_lines.1 ha).1, (Layout.mem_lines.1 hb).1]

/-- Of levels that are all different, each contributes its own lines. -/
theorem countP_flatMap_lines (layout : Nat → Layout) (level : Nat) (ls : List Nat)
    (hls : ls.Nodup) :
    (ls.flatMap fun level => (layout level).lines level).countP (fun line => line.level = level) =
      if level ∈ ls then (layout level).ways * (layout level).sets else 0 := by
  induction ls with
  | nil => rfl
  | cons l ls ih =>
      rw [List.nodup_cons] at hls
      rw [List.flatMap_cons, List.countP_append, ih hls.2, ← Layout.length_lines _ level]
      by_cases hl : l = level
      · subst hl
        have hall : ((layout l).lines l).countP (fun line => line.level = l) =
            ((layout l).lines l).length :=
          List.countP_eq_length.2 fun line hline => by simp [(Layout.mem_lines.1 hline).1]
        simp [hall, hls.1]
      · have hnone : ((layout l).lines l).countP (fun line => line.level = level) = 0 :=
          List.countP_eq_zero.2 fun line hline => by simp [(Layout.mem_lines.1 hline).1, hl]
        simp [hnone, Ne.symm hl]

/-- Every level to visit has as many lines as it has sets in its ways. -/
theorem count_lines (level : Nat) :
    (lines clidr sizes).countP (fun line => line.level = level) =
      if Visited clidr level then (layout sizes level).ways * (layout sizes level).sets else 0 := by
  rw [lines, countP_flatMap_lines _ level _ (levels_ascending.imp Nat.ne_of_lt)]
  simp only [mem_levels]

/-- The last line is one of the last level, since every level has lines. -/
theorem level_of_last_line (layout : Nat → Layout) (ls : List Nat)
    (hlines : ∀ level, 0 < (layout level).ways * (layout level).sets) :
    (ls.flatMap fun level => (layout level).lines level).getLast?.map Line.level =
      ls.getLast? := by
  rcases List.eq_nil_or_concat ls with rfl | ⟨ls, level, rfl⟩
  · rfl
  · have hsome : (layout level).lines level ≠ [] := by
      intro hnone
      have hlength := Layout.length_lines (layout level) level
      rw [hnone, List.length_nil] at hlength
      exact absurd (hlines level) (by omega)
    obtain ⟨line, hline⟩ := Option.isSome_iff_exists.1 (List.getLast?_isSome.2 hsome)
    have hlevel := (Layout.mem_lines.1 (List.mem_of_getLast? hline)).1
    rw [List.concat_eq_append, List.flatMap_append, List.flatMap_singleton, List.getLast?_append,
      hline, List.getLast?_append]
    simp [hlevel]

/-! ### The result -/

/-- A level is visited only if it is one of seven. -/
theorem Visited.lt {level : Nat} (h : Visited clidr level) : level < 8 := by
  have hbelow := h.1
  omega

/-- The operand of a line has its place, and the line is found by the layout of the level, which
stands in the low bits. -/
theorem operand_of_mem {line : Line} (hline : line ∈ lines clidr sizes)
    (hpossible : ∀ level, Visited clidr level → (layout sizes level).Possible) :
    (line.operand sizes).toNat = (layout sizes line.level).place line ∧
      (line.operand sizes).toNat < 2 ^ 32 ∧ decode sizes (line.operand sizes) = line := by
  obtain ⟨hlevel, hway, hset⟩ := mem_lines.1 hline
  have hl : (layout sizes line.level).Regular := Layout.regular_ofBits _
  have hfits := hpossible line.level hlevel
  have hholds : (layout sizes line.level).Holds line := ⟨hlevel.lt, hway, hset⟩
  have hplace : (line.operand sizes).toNat = (layout sizes line.level).place line :=
    (follows_geometry line.level).toNat_operand hl hfits hholds
  have hfound : (line.operand sizes).toNat / 2 % 8 = line.level := by
    rw [hplace]
    exact hl.level_of_place hfits hholds
  refine ⟨hplace, ?_, ?_⟩
  · rw [hplace]
    exact hl.place_lt hfits hholds
  · rw [decode, hfound]
    exact hl.decode_of_place hfits hholds hplace

/-- **The operands of a walk, read back, are the lines in order.** -/
theorem decoded (hpossible : ∀ level, Visited clidr level → (layout sizes level).Possible) :
    (cleaned clidr sizes).map (decode sizes) = lines clidr sizes := by
  rw [cleaned_eq_map, List.map_map]
  exact (List.map_congr_left fun line hline => (operand_of_mem hline hpossible).2.2).trans
    (List.map_id _)

/-- The selection register is written last with twice the level of the last line. -/
theorem last_selection :
    (selections clidr sizes).getLast?.map UInt64.toNat =
      (lines clidr sizes).getLast?.map fun line => 2 * line.level := by
  have hlast := level_of_last_line (layout sizes) (levels clidr) fun level =>
    Nat.mul_pos (Nat.succ_pos _) (Nat.succ_pos _)
  have htwice : (lines clidr sizes).getLast?.map (fun line => 2 * line.level) =
      (levels clidr).getLast?.map (2 * ·) := by
    rw [← hlast, Option.map_map]
    rfl
  rw [htwice, selections_eq, List.getLast?_map, Option.map_map]
  refine Option.map_congr fun level hlevel => ?_
  have hlt := (mem_levels.1 (List.mem_of_getLast? hlevel)).lt
  show (selector level).toNat = 2 * level
  rw [selector_eq, UInt64.toNat_ofNat_of_lt' (by rw [UInt64.size]; omega)]

end Record

/-- **A thorough walk.** -/
structure Thorough (clidr : UInt64) (sizes : UInt64 → UInt64) : Prop where
  /-- Every line of every level to visit has been cleaned, by an operand that has the way, the set
  and the level in their places and names the line. -/
  named : ∀ line : Line, Visited clidr line.level → line.way < (layout sizes line.level).ways →
    line.set < (layout sizes line.level).sets → ∃ x ∈ cleaned clidr sizes,
      x.toNat = (layout sizes line.level).place line ∧ decode sizes x = line
  /-- Nothing else has been cleaned. -/
  within : ∀ x ∈ cleaned clidr sizes, Visited clidr (decode sizes x).level ∧
    (decode sizes x).way < (layout sizes (decode sizes x).level).ways ∧
      (decode sizes x).set < (layout sizes (decode sizes x).level).sets
  /-- Every level to visit has been given one operand for each of its lines, and no other level has
  been given any. -/
  count : ∀ level, (cleaned clidr sizes).countP (fun x => (decode sizes x).level = level) =
    if Visited clidr level then (layout sizes level).ways * (layout sizes level).sets else 0
  /-- The lines have been cleaned in ascending order. -/
  ascending : ((cleaned clidr sizes).map (decode sizes)).Pairwise Line.Before
  /-- No operand has been given twice. -/
  distinct : (cleaned clidr sizes).Nodup
  /-- Every operand fits the low word. -/
  low : ∀ x ∈ cleaned clidr sizes, x.toNat < 2 ^ 32
  /-- The last level to be selected is that of the last line; if there is none, no level has been
  selected. -/
  selected : (selections clidr sizes).getLast?.map UInt64.toNat =
    (cleaned clidr sizes).getLast?.map fun x => 2 * (decode sizes x).level

/-- **The walk visits every line once.**  This is so for any types of the levels, and whatever the
size register reads at each level, as long as the layouts are ones that a cache may have. -/
theorem visits_every_line_once {clidr : UInt64} {sizes : UInt64 → UInt64}
    (hpossible : ∀ level, Visited clidr level → (layout sizes level).Possible) :
    Thorough clidr sizes := by
  have hdecoded := decoded hpossible
  have hline : ∀ x ∈ cleaned clidr sizes, decode sizes x ∈ lines clidr sizes := by
    intro x hx
    rw [← hdecoded]
    exact List.mem_map_of_mem hx
  exact {
    named := fun line hlevel hway hset => by
      have hmem : line ∈ lines clidr sizes := mem_lines.2 ⟨hlevel, hway, hset⟩
      obtain ⟨hplace, -, hread⟩ := operand_of_mem hmem hpossible
      refine ⟨line.operand sizes, ?_, hplace, hread⟩
      rw [cleaned_eq_map]
      exact List.mem_map_of_mem hmem
    within := fun x hx => mem_lines.1 (hline x hx)
    count := fun level => by
      rw [← count_lines, ← hdecoded, List.countP_map]
      rfl
    ascending := by
      rw [hdecoded]
      exact lines_ascending
    distinct := by
      have hnodup : ((cleaned clidr sizes).map (decode sizes)).Nodup := by
        rw [hdecoded]
        exact lines_ascending.imp Line.Before.ne
      exact List.Nodup.of_map _ hnodup
    low := fun x hx => by
      rw [cleaned_eq_map] at hx
      obtain ⟨line, hmem, rfl⟩ := List.mem_map.1 hx
      exact (operand_of_mem hmem hpossible).2.1
    selected := by
      rw [last_selection, ← hdecoded, List.getLast?_map, Option.map_map]
      rfl }

/-- Two levels below the point of coherency: the first with 4 ways of 256 sets, the second, which
holds instructions as well, with 12 ways of 1024 sets. -/
theorem visits_every_line_once_sample :
    (∀ level, Visited 0x2000023 level →
      (layout (fun x => if x = 0 then 0x1fe01a else 0x7fe05a) level).Possible) ∧
    Thorough 0x2000023 fun x => if x = 0 then 0x1fe01a else 0x7fe05a := by
  have hpossible : ∀ level, Visited 0x2000023 level →
      (layout (fun x => if x = 0 then 0x1fe01a else 0x7fe05a) level).Possible := by
    intro level hlevel
    have hbelow : level < 2 := hlevel.1
    match level, hbelow with
    | 0, _ => exact .inr (by decide)
    | 1, _ => exact .inr (by decide)
  exact ⟨hpossible, visits_every_line_once hpossible⟩

end SetWay

end Reclock
