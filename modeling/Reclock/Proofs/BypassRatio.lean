/-
**The ratio that reaches the bypass divider.**

The field of the divider holds its ratio less one, in six bits, and bits that do not fit are cut off
without a word.  So a ratio of up to 64 reaches the hardware, and the clock is the one that the point
asks for.  Of a greater ratio only the remainder arrives, and the clock is faster.  That is the case
for points so slow that 65 times their clock is not above the divider's source.

Main definitions:

* `Reclock.Hardware.division` — the ratio that a divider with these contents divides by.

Main results:

* `Reclock.toNat_bypassRatio` — the ratio as a number, and when it has room in the field;
* `Reclock.Hardware.Unpinned.completes_switchToBypass` — what the registers hold afterwards;
* `Reclock.Hardware.bypass_ratio_held` — **the divider divides by the ratio exactly if the ratio has
  room**, and by less otherwise.
-/

import Reclock.Proofs.FaultFree

set_option relaxedAutoImplicit false
set_option autoImplicit false

namespace Reclock

/-! ### The ratio -/

section Ratio

variable (config : Config) (dataRate : UInt32)

theorem toNat_bypassRatio : (bypassRatio config dataRate).toNat =
    max (config.bypassSourceMhz.toNat / max (dataRate.toNat / 4) 1) 1 := by
  simp only [bypassRatio, UInt32.toNat_max, UInt32.toNat_div]
  rfl

/-- A ratio has room in the field unless the point is too slow for the source. -/
theorem bypassRatio_le_iff : (bypassRatio config dataRate).toNat ≤ 64 ↔
    config.bypassSourceMhz.toNat < 65 * max (dataRate.toNat / 4) 1 := by
  have hquarter : 0 < max (dataRate.toNat / 4) 1 := Nat.le_max_right _ _
  rw [toNat_bypassRatio, ← Nat.div_lt_iff_lt_mul hquarter]
  omega

/-- What is left of the ratio in the field, which holds it less one. -/
theorem toNat_ratioField :
    (bypassRatio config dataRate - 1 &&& Clock.bypassDividerMask).toNat =
      ((bypassRatio config dataRate).toNat - 1) % 64 := by
  have hratio := config.exact.ratio dataRate
  have hmask : Clock.bypassDividerMask.toNat = 2 ^ 6 - 1 := rfl
  rw [UInt32.toNat_and, hmask, Nat.and_two_pow_sub_one_eq_mod]
  omega

end Ratio

/-! ### The hardware -/

namespace Hardware

open Procedure Sequences

variable {h : Hardware} {config : Config} {point : FrequencyPoint}

/-- **The ratio that the bypass divider divides by**: one more than its field holds. -/
def division (h : Hardware) : Nat :=
  (h.value Clock.bypassDivider &&& Clock.bypassDividerMask).toNat + 1

/-- What the registers hold after the clock has been taken from the bypass divider. -/
theorem Unpinned.completes_switchToBypass (hunpinned : h.Unpinned)
    (hlimit : 0 < config.pollLimit.toNat) (dataRate : UInt32) :
    (switchToBypass config dataRate).Completes RegisterFile.answer h fun _ h' =>
      h'.value Clock.bypassDivider = h.value Clock.bypassDivider &&& ~~~Clock.bypassDividerMask |||
          (bypassRatio config dataRate - 1) &&& Clock.bypassDividerMask ∧
        h'.value Clock.coreSelect = h.value Clock.coreSelect ||| Clock.selectBypass := by
  generalize hword : h.value Clock.bypassDivider &&& ~~~Clock.bypassDividerMask |||
    (bypassRatio config dataRate - 1) &&& Clock.bypassDividerMask = word
  -- The divider's status follows at once.
  refine ((hunpinned.open_outside rfl).completes_modify (P := fun h' => h'.Unpinned ∧
    h'.value Clock.bypassDivider = word ∧ h'.value Clock.bypassStat = Clock.bypassUpdated ∧
      h'.value Clock.coreSelect = h.value Clock.coreSelect) (by decide) fun writes => ?_).andThen
    fun _ h₁ hend₁ => ?_
  · refine ⟨_, effect_bypassDivider _ _, hunpinned, ?_, value_store_self .., ?_⟩
    · rw [value_store_of_ne (by decide), value_store_self, ← hword]
    · rw [value_store_of_ne (by decide), value_store_of_ne (by decide)]
      rfl
  obtain ⟨hunpinned₁, hdivider₁, hstat₁, hselect₁⟩ := hend₁
  refine ((hunpinned₁.open_outside rfl).completes_wait hlimit (by decide)
    (by rw [hstat₁]; rfl)).andThen fun _ h₂ hend₂ => ?_
  subst hend₂
  refine (hunpinned₁.open_outside rfl).completes_modify (by decide) fun writes =>
    ⟨_, effect_of_not_reactive (by decide) _ _, ?_, ?_⟩
  · rw [value_store_of_ne (by decide)]
    exact hdivider₁
  · rw [value_store_self, hselect₁]

/-- **What has become of the divider**: it divides by what is left of the ratio in its field, its
register is the same besides, and the clock comes from it. -/
structure Bypassed (config : Config) (dataRate : UInt32) (h h' : Hardware) : Prop where
  division : h'.division = ((bypassRatio config dataRate).toNat - 1) % 64 + 1
  others : h'.value Clock.bypassDivider &&& ~~~Clock.bypassDividerMask =
    h.value Clock.bypassDivider &&& ~~~Clock.bypassDividerMask
  selected : h'.value Clock.coreSelect &&& Clock.selectBypass ≠ 0

theorem Unpinned.completes_switchClock_bypass (hunpinned : h.Unpinned)
    (hlimit : 0 < config.pollLimit.toNat) (hbypass : point.bypass = true) :
    (switchClock config point).Completes RegisterFile.answer h fun _ h' =>
      Bypassed config point.dataRate h h' := by
  rw [switchClock, if_pos hbypass]
  refine (hunpinned.completes_switchToBypass hlimit point.dataRate).mono ?_
  rintro _ h' ⟨hdivider, hselect⟩
  refine ⟨?_, ?_, ?_⟩
  · rw [Hardware.division, hdivider, Word.replace_and, toNat_ratioField]
  · rw [hdivider, Word.replace_and_apart _ _ (by decide) (by decide)]
  · rw [hselect]
    exact Word.set_and_ne_zero _ (by decide)

/-- A switch of the clock to the bypass divider that ends well has waited for the divider. -/
theorem ensures_limit_switchClock (hbypass : point.bypass = true) (h : Hardware) :
    (switchClock config point).Ensures RegisterFile.answer h fun r _ =>
      ∀ u, r = .ok u → 0 < config.pollLimit.toNat := by
  rw [switchClock, if_pos hbypass]
  exact ensures_last fun _ h₁ => ensures_first (ensures_limit_wait _ _ h₁)

/-- **The divider divides by the ratio exactly if the ratio has room**, and by less otherwise: the
clock is then faster than that of the point.  Whatever the registers held before, a switch of the
clock to the bypass divider ends well if the polls have an attempt, and whenever it does, the rest of
the divider's register is as before and the clock comes from the divider. -/
theorem bypass_ratio_held (hunpinned : h.Unpinned) (hbypass : point.bypass = true) :
    (0 < config.pollLimit.toNat →
        ∃ h', (switchClock config point).run RegisterFile.answer h = .ok (.ok ()) h') ∧
      ∀ h', (switchClock config point).run RegisterFile.answer h = .ok (.ok ()) h' →
        Bypassed config point.dataRate h h' ∧
          h'.division ≤ (bypassRatio config point.dataRate).toNat ∧
          (h'.division = (bypassRatio config point.dataRate).toNat ↔
            (bypassRatio config point.dataRate).toNat ≤ 64) ∧
          ((bypassRatio config point.dataRate).toNat ≤ 64 ↔
            config.bypassSourceMhz.toNat < 65 * max (point.dataRate.toNat / 4) 1) := by
  refine ⟨fun hlimit => ?_, fun h' hrun => ?_⟩
  · obtain ⟨_, h', hrun, -⟩ := hunpinned.completes_switchClock_bypass hlimit hbypass
    exact ⟨h', hrun⟩
  · have hlimit := ensures_limit_switchClock hbypass h _ _ hrun () rfl
    obtain ⟨_, -, hset⟩ :=
      (hunpinned.completes_switchClock_bypass hlimit hbypass).ensures _ _ hrun
    have hdivision := hset.division
    have hpositive : 1 ≤ (bypassRatio config point.dataRate).toNat := Word.one_le_toNat_max _
    refine ⟨hset, by omega, ?_, bypassRatio_le_iff config point.dataRate⟩
    constructor
    · intro heq
      omega
    · intro hroom
      omega

theorem unpinned_booted : booted.Unpinned := fun _ => rfl

/-- A point of 48 MT/s asks for the ratio 66 from a source of 800 MHz, and 2 is what arrives. -/
theorem bypass_ratio_held_slow :
    booted.Unpinned ∧
      ∃ h', (switchClock .standard ⟨⟨1⟩, 48, true⟩).run RegisterFile.answer booted =
        .ok (.ok ()) h' ∧ Bypassed .standard 48 booted h' ∧ h'.division = 2 := by
  obtain ⟨hends, hheld⟩ :=
    @bypass_ratio_held booted .standard ⟨⟨1⟩, 48, true⟩ unpinned_booted rfl
  obtain ⟨h', hrun⟩ := hends (by decide)
  obtain ⟨hset, -⟩ := hheld h' hrun
  exact ⟨unpinned_booted, h', hrun, hset, hset.division⟩

/-- **A ratio that has no room does not arrive**: a point of 40 MT/s asks for the ratio 80 from a
source of 800 MHz, and the divider divides by 16. -/
theorem bypass_ratio_cut_off :
    ∃ h', (switchClock .standard ⟨⟨1⟩, 40, true⟩).run RegisterFile.answer booted =
        .ok (.ok ()) h' ∧
      (h'.value Clock.bypassDivider &&& Clock.bypassDividerMask).toNat + 1 ≠
        (bypassRatio .standard 40).toNat := by
  obtain ⟨_, h', hrun, hset⟩ :=
    @Unpinned.completes_switchClock_bypass booted .standard ⟨⟨1⟩, 40, true⟩ unpinned_booted
      (by decide) rfl
  refine ⟨h', hrun, ?_⟩
  have hdivision : h'.division = 16 := hset.division
  rw [← division, hdivision]
  decide

end Hardware

end Reclock
