/-
**What the PLL makes of its dividers.**

The output divider is a power of two, and is found by trying one after the other until the
oscillator is fast enough.  A shift by the power tried next might lose bits, and the product with
the reference divider might not fit its word; neither happens, because only an output below the
minimum is ever lifted.  So the words hold what the natural numbers would, and the feedback divider
is an exact quotient, rounded down: the PLL never runs faster than asked, and misses its output by
less than one step of the feedback divider.

Main definitions:

* `Reclock.Word.ofNat?`, with `add?`, `mul?`, `shiftLeft?`, `div?` — arithmetic that gives nothing
  where a word cannot hold the result;
* `Reclock.PllDividers.forDataRate?` — the dividers by that arithmetic;
* `Reclock.PllDividers.Lifts` — the exponent that is looked for;
* `Reclock.PllDividers.frequency` — how fast the PLL runs;
* `Reclock.PllDividers.Packed` — the fields of the dividers' register;
* `Reclock.PllDividers.Makes` — dividers that make an output.

Main results:

* `Reclock.PllDividers.lifts_postFrom` — **the search finds the least exponent**;
* `Reclock.PllDividers.forDataRate?_eq` — nothing overflows on the way;
* `Reclock.PllDividers.output_from_below` — **the dividers make the output from below**, as closely
  as the feedback divider allows, and their register keeps them apart.
-/

import Mathlib.Algebra.Order.Field.Basic
import Mathlib.Order.Bounds.Defs
import Mathlib.Tactic.Linarith
import Mathlib.Tactic.Positivity
import Mathlib.Tactic.Ring
import Reclock.Clock
import Reclock.Proofs.Words

set_option relaxedAutoImplicit false
set_option autoImplicit false

namespace Reclock

/-! ### Arithmetic that must fit -/

namespace Word

/-- The word of a number, if there is one. -/
def ofNat? (n : Nat) : Option UInt32 := if n < 2 ^ 32 then some (UInt32.ofNat n) else none

/-- The sum of two words, if it is a word. -/
def add? (a b : UInt32) : Option UInt32 := ofNat? (a.toNat + b.toNat)

/-- The product of two words, if it is a word. -/
def mul? (a b : UInt32) : Option UInt32 := ofNat? (a.toNat * b.toNat)

/-- A word shifted to the left by less than its width, if no bit is lost. -/
def shiftLeft? (a b : UInt32) : Option UInt32 :=
  if b.toNat < 32 then ofNat? (a.toNat * 2 ^ b.toNat) else none

/-- The quotient of two words, unless the divisor is zero. -/
def div? (a b : UInt32) : Option UInt32 := if b = 0 then none else some (a / b)

variable {a b : UInt32}

theorem ofNat?_toNat (w : UInt32) : ofNat? w.toNat = some w := by
  rw [ofNat?, if_pos w.toNat_lt, UInt32.ofNat_toNat]

theorem toNat_add_of_lt (h : a.toNat + b.toNat < 2 ^ 32) : (a + b).toNat = a.toNat + b.toNat := by
  rw [UInt32.toNat_add, Nat.mod_eq_of_lt h]

theorem toNat_mul_of_lt (h : a.toNat * b.toNat < 2 ^ 32) : (a * b).toNat = a.toNat * b.toNat := by
  rw [UInt32.toNat_mul, Nat.mod_eq_of_lt h]

/-- A shift by less than the width is a product, of which the word keeps the low bits. -/
theorem toNat_shiftLeft_of_lt (hb : b.toNat < 32) :
    (a <<< b).toNat = a.toNat * 2 ^ b.toNat % 2 ^ 32 := by
  rw [UInt32.toNat_shiftLeft, Nat.mod_eq_of_lt hb, Nat.shiftLeft_eq]

theorem add?_of_lt (h : a.toNat + b.toNat < 2 ^ 32) : add? a b = some (a + b) := by
  rw [add?, ← toNat_add_of_lt h, ofNat?_toNat]

theorem mul?_of_lt (h : a.toNat * b.toNat < 2 ^ 32) : mul? a b = some (a * b) := by
  rw [mul?, ← toNat_mul_of_lt h, ofNat?_toNat]

theorem shiftLeft?_of_lt (hb : b.toNat < 32) (h : a.toNat * 2 ^ b.toNat < 2 ^ 32) :
    shiftLeft? a b = some (a <<< b) := by
  rw [shiftLeft?, if_pos hb, ← Nat.mod_eq_of_lt h, ← toNat_shiftLeft_of_lt hb, ofNat?_toNat]

/-- A word without low bits and a word of low bits have no bit in common. -/
theorem and_eq_zero_of_apart {k : Nat} (ha : a.toNat % 2 ^ k = 0) (hb : b.toNat < 2 ^ k) :
    a &&& b = 0 := by
  rw [← UInt32.toNat_inj, UInt32.toNat_and, UInt32.toNat_zero]
  refine Nat.eq_of_testBit_eq fun i => ?_
  rw [Nat.testBit_and, Nat.zero_testBit]
  by_cases hi : i < k
  · have hlow : (a.toNat % 2 ^ k).testBit i = a.toNat.testBit i := by
      simp [Nat.testBit_mod_two_pow, hi]
    rw [← hlow, ha, Nat.zero_testBit, Bool.false_and]
  · have hhigh : b.toNat < 2 ^ i :=
      Nat.lt_of_lt_of_le hb (Nat.pow_le_pow_right (by decide) (Nat.le_of_not_lt hi))
    rw [Nat.testBit_lt_two_pow hhigh, Bool.and_false]

/-- Words that have no bit in common are joined as they are added. -/
theorem toNat_or_of_apart {k : Nat} (ha : a.toNat % 2 ^ k = 0) (hb : b.toNat < 2 ^ k) :
    (a ||| b).toNat = a.toNat + b.toNat := by
  obtain ⟨high, hhigh⟩ := Nat.dvd_of_mod_eq_zero ha
  rw [UInt32.toNat_or, hhigh, Nat.two_pow_add_eq_or_of_lt hb]

end Word

namespace PllDividers

open Word

/-! ### The search for the output divider -/

/-- `postFrom` by arithmetic that must fit. -/
def postFrom? (outputMhz : UInt32) : (room : Nat) → (post : UInt32) → Option UInt32
  | 0, post => some post
  | room + 1, post => do
      let lifted ← shiftLeft? outputMhz post
      if lifted < minOscillatorMhz then
        let next ← add? post 1
        postFrom? outputMhz room next
      else some post

/-- **The dividers for a data rate**, by arithmetic that must fit. -/
def forDataRate? (dataRate referenceMhz : UInt32) : Option PllDividers := do
  let outputMhz := dataRate / 4
  let post ← postFrom? outputMhz maxPost 0
  let product ← mul? outputMhz preDivider
  let scaled ← shiftLeft? product post
  let main ← div? scaled (max referenceMhz 1)
  some ⟨main, preDivider, post⟩

/-- **The exponent that is looked for**: the least up to six that lifts the output to the
oscillator's minimum, or six if none of them does. -/
def Lifts (outputMhz post : Nat) : Prop :=
  IsLeast {p | p ≤ 6 ∧ 1600 ≤ outputMhz * 2 ^ p} post ∨
    post = 6 ∧ ∀ p ≤ 6, outputMhz * 2 ^ p < 1600

/-- What holds in every turn of the search: the exponents before have been too small, and there is
room for the others. -/
structure Searching (outputMhz room post : Nat) : Prop where
  room : post + room = 6
  low : ∀ p < post, outputMhz * 2 ^ p < 1600

theorem Lifts.le {out post : Nat} (h : Lifts out post) : post ≤ 6 := by
  rcases h with h | ⟨h, -⟩
  · exact h.1.1
  · omega

variable {outputMhz : UInt32} {room : Nat} {post : UInt32}

/-- Only an output below the minimum is lifted, so that a lifted output fits its word. -/
theorem Searching.lifted_lt {out room post : Nat} (h : Searching out room post)
    (hout : out < 2 ^ 30) : out * 2 ^ post < 2 ^ 30 := by
  cases post with
  | zero => simpa using hout
  | succ p =>
      have hlow := h.low p (Nat.lt_succ_self p)
      rw [Nat.pow_succ, ← Nat.mul_assoc]
      omega

theorem Searching.toNat_lifted (h : Searching outputMhz.toNat room post.toNat)
    (hout : outputMhz.toNat < 2 ^ 30) :
    (outputMhz <<< post).toNat = outputMhz.toNat * 2 ^ post.toNat := by
  have hroom := h.room
  have hlifted := h.lifted_lt hout
  rw [toNat_shiftLeft_of_lt (by omega), Nat.mod_eq_of_lt (by omega)]

theorem Searching.next (h : Searching outputMhz.toNat (room + 1) post.toNat)
    (hlow : outputMhz.toNat * 2 ^ post.toNat < 1600) :
    Searching outputMhz.toNat room (post + 1).toNat := by
  have hroom := h.room
  have hnext : (post + 1).toNat = post.toNat + 1 := toNat_add_of_lt (by simp; omega)
  refine ⟨by omega, fun p hp => ?_⟩
  rw [hnext] at hp
  rcases Nat.lt_succ_iff_lt_or_eq.1 hp with hp | rfl
  · exact h.low p hp
  · exact hlow

/-- **The search ends at the exponent that is looked for**, and no smaller one has been passed. -/
theorem searching_postFrom (h : Searching outputMhz.toNat room post.toNat)
    (hout : outputMhz.toNat < 2 ^ 30) :
    ∃ left, Searching outputMhz.toNat left (postFrom outputMhz room post).toNat ∧
      (left = 0 ∨ 1600 ≤ outputMhz.toNat * 2 ^ (postFrom outputMhz room post).toNat) := by
  fun_induction postFrom outputMhz room post with
  | case1 post => exact ⟨0, h, .inl rfl⟩
  | case2 room post hlow ih =>
      rw [UInt32.lt_iff_toNat_lt, h.toNat_lifted hout] at hlow
      exact ih (h.next hlow)
  | case3 room post hhigh =>
      rw [UInt32.lt_iff_toNat_lt, h.toNat_lifted hout] at hhigh
      exact ⟨room + 1, h, .inr (Nat.le_of_not_lt hhigh)⟩

/-- Nothing overflows in the search. -/
theorem postFrom?_eq (h : Searching outputMhz.toNat room post.toNat)
    (hout : outputMhz.toNat < 2 ^ 30) :
    postFrom? outputMhz room post = some (postFrom outputMhz room post) := by
  induction room generalizing post with
  | zero => rfl
  | succ room ih =>
      have hroom := h.room
      have hlifted := h.lifted_lt hout
      rw [postFrom?, postFrom, shiftLeft?_of_lt (by omega) (by omega), Option.bind_eq_bind,
        Option.bind_some]
      split
      case isTrue hlow =>
        rw [add?_of_lt (by simp; omega), Option.bind_some]
        rw [UInt32.lt_iff_toNat_lt, h.toNat_lifted hout] at hlow
        exact ih (h.next hlow)
      case isFalse => rfl

theorem searching_start (out : Nat) : Searching out maxPost (0 : UInt32).toNat :=
  ⟨rfl, fun p hp => absurd hp (Nat.not_lt_zero p)⟩

/-- **The search finds the least exponent** that lifts the output to the oscillator's minimum, or
the last one if none does. -/
theorem lifts_postFrom (hout : outputMhz.toNat < 2 ^ 30) :
    Lifts outputMhz.toNat (postFrom outputMhz maxPost 0).toNat := by
  obtain ⟨left, hfound, hend⟩ := searching_postFrom (searching_start _) hout
  have hroom := hfound.room
  rcases Nat.lt_or_ge (outputMhz.toNat * 2 ^ (postFrom outputMhz maxPost 0).toNat) 1600 with
    hlow | hhigh
  · have hlast : (postFrom outputMhz maxPost 0).toNat = 6 := by omega
    rw [hlast] at hlow
    refine .inr ⟨hlast, fun p hp => ?_⟩
    have hpow : 2 ^ p ≤ 2 ^ 6 := Nat.pow_le_pow_right (by decide) hp
    exact Nat.lt_of_le_of_lt (Nat.mul_le_mul_left _ hpow) hlow
  · refine .inl ⟨⟨by omega, hhigh⟩, fun p ⟨_, hp⟩ => ?_⟩
    by_contra hless
    have hlow := hfound.low p (Nat.lt_of_not_le hless)
    omega

/-! ### The dividers -/

variable {dataRate referenceMhz : UInt32}

theorem toNat_quarter_lt : (dataRate / 4).toNat < 2 ^ 30 := by
  have hlt := dataRate.toNat_lt
  rw [UInt32.toNat_div, show (4 : UInt32).toNat = 4 from rfl]
  omega

theorem toNat_preDivider : preDivider.toNat = 3 := rfl

theorem product_lt (hout : outputMhz.toNat < 2 ^ 30) :
    outputMhz.toNat * preDivider.toNat < 2 ^ 32 := by
  rw [toNat_preDivider]
  omega

/-- The output, multiplied by the divider of the reference and lifted, fits its word. -/
theorem scaled_lt (hout : outputMhz.toNat < 2 ^ 30) :
    (outputMhz * preDivider).toNat * 2 ^ (postFrom outputMhz maxPost 0).toNat < 2 ^ 32 := by
  obtain ⟨left, hfound, -⟩ := searching_postFrom (searching_start _) hout
  have hlifted := hfound.lifted_lt hout
  rw [toNat_mul_of_lt (product_lt hout), Nat.mul_right_comm, toNat_preDivider]
  omega

/-- **Nothing overflows on the way to the dividers**: every sum, product and shift fits its word,
and nothing is divided by zero. -/
theorem forDataRate?_eq (dataRate referenceMhz : UInt32) :
    forDataRate? dataRate referenceMhz = some (forDataRate dataRate referenceMhz) := by
  have hout : (dataRate / 4).toNat < 2 ^ 30 := toNat_quarter_lt
  have hpost := (lifts_postFrom hout).le
  rw [forDataRate?, postFrom?_eq (searching_start _) hout, Option.bind_eq_bind, Option.bind_some,
    mul?_of_lt (product_lt hout), Option.bind_some,
    shiftLeft?_of_lt (by omega) (scaled_lt hout), Option.bind_some, div?,
    if_neg (max_one_ne_zero _), Option.bind_some, forDataRate]

/-- The feedback divider is the exact quotient, rounded down. -/
theorem toNat_main : (forDataRate dataRate referenceMhz).main.toNat =
    dataRate.toNat / 4 * 3 * 2 ^ (forDataRate dataRate referenceMhz).post.toNat /
      max referenceMhz.toNat 1 := by
  have hout : (dataRate / 4).toNat < 2 ^ 30 := toNat_quarter_lt
  have hpost := (lifts_postFrom hout).le
  rw [forDataRate, UInt32.toNat_div, UInt32.toNat_max, toNat_shiftLeft_of_lt (by omega),
    Nat.mod_eq_of_lt (scaled_lt hout), toNat_mul_of_lt (product_lt hout), UInt32.toNat_div]
  rfl

/-! ### The frequency -/

/-- **The frequency in MHz at which the PLL runs**: the reference, divided, multiplied and divided
again. -/
def frequency (d : PllDividers) (reference : Nat) : ℚ :=
  reference * d.main.toNat / (d.pre.toNat * 2 ^ d.post.toNat)

/-- A quotient that is rounded down falls short of the exact one by less than one. -/
theorem rounded_down (n : Nat) {r : Nat} (hr : 0 < r) {scale : ℚ} (hscale : 0 < scale) :
    (r * (n / r : Nat) : ℚ) / scale ≤ n / scale ∧
      n / scale - (r * (n / r : Nat) : ℚ) / scale < r / scale := by
  have hbelow : (r * (n / r : Nat) : ℚ) ≤ n := by exact_mod_cast Nat.mul_div_le n r
  have habove : (n : ℚ) < r * (n / r : Nat) + r := by exact_mod_cast Nat.lt_mul_div_succ n hr
  constructor
  · exact div_le_div_of_nonneg_right hbelow hscale.le
  · rw [← sub_div]
    exact div_lt_div_of_pos_right (by linarith) hscale

/-! ### The register of the dividers -/

/-- **How the dividers stand in their register**: each in a field of its own, from which it can be
read; of the feedback divider there is room for 20 bits. -/
structure Packed (d : PllDividers) : Prop where
  value : d.word.toNat = d.main.toNat % 2 ^ 20 * 2 ^ 12 + 3 * 16 + d.post.toNat
  mainPre : d.main <<< Clock.mainShift &&& d.pre <<< Clock.preShift = 0
  mainPost : d.main <<< Clock.mainShift &&& d.post <<< Clock.postShift = 0
  prePost : d.pre <<< Clock.preShift &&& d.post <<< Clock.postShift = 0
  main : d.main.toNat < 2 ^ 20 → d.word.toNat / 2 ^ 12 = d.main.toNat
  pre : d.word.toNat / 2 ^ 4 % 2 ^ 8 = d.pre.toNat
  post : d.word.toNat % 2 ^ 4 = d.post.toNat

theorem packed {d : PllDividers} (hpre : d.pre = preDivider) (hpost : d.post.toNat ≤ 6) :
    d.Packed := by
  have hmainField : (d.main <<< Clock.mainShift).toNat = d.main.toNat % 2 ^ 20 * 2 ^ 12 := by
    rw [toNat_shiftLeft_of_lt (by decide), show Clock.mainShift.toNat = 12 from rfl]
    omega
  have hpreField : (d.pre <<< Clock.preShift).toNat = 3 * 16 := by
    rw [hpre]
    rfl
  have hpostField : (d.post <<< Clock.postShift).toNat = d.post.toNat := by
    rw [toNat_shiftLeft_of_lt (by decide), show Clock.postShift.toNat = 0 from rfl]
    omega
  have hvalue : d.word.toNat = d.main.toNat % 2 ^ 20 * 2 ^ 12 + 3 * 16 + d.post.toNat := by
    have hhigh : (d.main <<< Clock.mainShift ||| d.pre <<< Clock.preShift).toNat =
        d.main.toNat % 2 ^ 20 * 2 ^ 12 + 3 * 16 := by
      rw [toNat_or_of_apart (show _ % 2 ^ 12 = 0 by omega) (by omega), hmainField, hpreField]
    rw [word, toNat_or_of_apart (show _ % 2 ^ 4 = 0 by omega) (by omega), hhigh, hpostField]
  have hthree : d.pre.toNat = 3 := by rw [hpre, toNat_preDivider]
  exact {
    value := hvalue
    mainPre := and_eq_zero_of_apart (show _ % 2 ^ 12 = 0 by omega) (by omega)
    mainPost := and_eq_zero_of_apart (show _ % 2 ^ 12 = 0 by omega) (by omega)
    prePost := and_eq_zero_of_apart (show _ % 2 ^ 4 = 0 by omega) (by omega)
    main := by omega
    pre := by omega
    post := by omega }

/-! ### The result -/

/-- **Dividers that make an output from a reference**, both in MHz, as closely as the feedback
divider allows and never above it. -/
structure Makes (d : PllDividers) (out reference : Nat) : Prop where
  /-- The oscillator reaches 1600 MHz by the least exponent, or comes as near as it can. -/
  post : Lifts out d.post.toNat
  pre : d.pre.toNat = 3
  main : d.main.toNat = out * 3 * 2 ^ d.post.toNat / reference
  below : d.frequency reference ≤ out
  /-- The output is missed by less than one step of the feedback divider. -/
  close : out - d.frequency reference < reference / (3 * 2 ^ d.post.toNat)
  packed : d.Packed

/-- The quotients of the definition make the frequency. -/
theorem makes_of_main {d : PllDividers} {out reference : Nat} (hreference : 0 < reference)
    (hpre : d.pre = preDivider) (hpost : Lifts out d.post.toNat)
    (hmain : d.main.toNat = out * 3 * 2 ^ d.post.toNat / reference) : d.Makes out reference := by
  have hthree : d.pre.toNat = 3 := by rw [hpre, toNat_preDivider]
  have hscale : (0 : ℚ) < 3 * 2 ^ d.post.toNat := by positivity
  have hexact : ((out * 3 * 2 ^ d.post.toNat : Nat) : ℚ) / (3 * 2 ^ d.post.toNat) = out := by
    rw [div_eq_iff hscale.ne']
    push_cast
    ring
  have hfrequency : d.frequency reference =
      reference * (out * 3 * 2 ^ d.post.toNat / reference : Nat) / (3 * 2 ^ d.post.toNat) := by
    rw [frequency, hmain, hthree]
    norm_num
  obtain ⟨hbelow, hclose⟩ := rounded_down (out * 3 * 2 ^ d.post.toNat) hreference hscale
  rw [hexact, ← hfrequency] at hbelow hclose
  exact ⟨hpost, hthree, hmain, hbelow, hclose, packed hpre hpost.le⟩

/-- **The dividers make the output from below.**  For any data rate and any reference no step of the
computation overflows, and the dividers make a quarter of the data rate; a reference of zero counts
as one. -/
theorem output_from_below (dataRate referenceMhz : UInt32) :
    forDataRate? dataRate referenceMhz = some (forDataRate dataRate referenceMhz) ∧
      (forDataRate dataRate referenceMhz).Makes (dataRate.toNat / 4)
        (max referenceMhz.toNat 1) := by
  have hpost : Lifts (dataRate / 4).toNat (forDataRate dataRate referenceMhz).post.toNat :=
    lifts_postFrom toNat_quarter_lt
  rw [UInt32.toNat_div] at hpost
  exact ⟨forDataRate?_eq dataRate referenceMhz,
    makes_of_main (Nat.le_max_right _ _) rfl hpost toNat_main⟩

/-- Without a reference the feedback divider outgrows its field, and no word overflows. -/
example : forDataRate? 0xffffffff 0 = some ⟨0xbffffffd, 3, 0⟩ := by decide

end PllDividers

end Reclock
