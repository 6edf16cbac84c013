/-
**No call runs into a fault.**

A table may name any registers in its programs but the two that the hardware guards on its own
account: the one that starts mode register writes, and the one that says who owns the PHY's bus.
Reads may be pinned to anything before the calls begin, but for the status of mode register writes
and the reset control, which the sequences have to be able to believe.  Then polls may run out
anywhere, and leave the hardware half-way; but no call, on any core that a set can name, runs into a
fault of the hardware, into a core that is not there, or into a wait that never ends.

What the sequences compute on the way is exact: the one kind of fault that words of 32 bits cannot
show, a result that does not fit, does not occur either.

Main definitions:

* `Reclock.Config.Exact` — **the arithmetic of the sequences is exact**.

Main results:

* `Reclock.Controller.upholds_supplied` — the sequences on hardware with power;
* `Reclock.Controller.calls_come_to_an_end` — **every call comes to an end**, after any calls.
-/

import Reclock.Proofs.Endurance
import Reclock.Proofs.Upkeep

set_option relaxedAutoImplicit false
set_option autoImplicit false

namespace Reclock

/-! ### Arithmetic -/

/-- **The arithmetic of the sequences is exact**: no product, difference or address is too large for
its word, nothing is divided by zero, and no word is shifted by its width. -/
structure Config.Exact (config : Config) : Prop where
  product : ∀ dataRate : UInt32,
    (dataRate / 4 * PllDividers.preDivider).toNat = dataRate.toNat / 4 * 3
  shift : ∀ dataRate, (PllDividers.forDataRate dataRate config.referenceMhz).post.toNat ≤
    PllDividers.maxPost
  reference : max config.referenceMhz 1 ≠ 0
  quarter : ∀ dataRate : UInt32, max (dataRate / 4) 1 ≠ 0
  ratio : ∀ dataRate,
    (bypassRatio config dataRate - 1).toNat + 1 = (bypassRatio config dataRate).toNat
  address : ∀ port, (Ddrc.pctrl port).offset.toNat = 0x490 + 0xb0 * port.toNat
  core : ∀ core : CoreId, core.bit.toNat = 2 ^ core.val
  cores : ∀ count ≤ CoreMask.maxCores, (CoreMask.all count).bits.toNat = 2 ^ count - 1

/-- The search for the output divider stops within the room that it is given. -/
theorem PllDividers.toNat_postFrom_le (outputMhz : UInt32) (room : Nat) (post : UInt32)
    (hroom : post.toNat + room < 2 ^ 32) :
    (postFrom outputMhz room post).toNat ≤ post.toNat + room := by
  fun_induction postFrom outputMhz room post with
  | case1 post => omega
  | case2 room post hlow ih =>
      have hnext : (post + 1).toNat = post.toNat + 1 := by
        rw [UInt32.toNat_add]
        exact Nat.mod_eq_of_lt (by simp at *; omega)
      omega
  | case3 => omega

theorem Config.exact (config : Config) : config.Exact where
  product dataRate := by
    have hlt := dataRate.toNat_lt
    rw [UInt32.toNat_mul, UInt32.toNat_div]
    exact Nat.mod_eq_of_lt (by simp [PllDividers.preDivider]; omega)
  shift dataRate := by
    have hpost := PllDividers.toNat_postFrom_le (dataRate / 4) PllDividers.maxPost 0 (by decide)
    rwa [UInt32.toNat_zero, Nat.zero_add] at hpost
  reference := Word.max_one_ne_zero _
  quarter dataRate := Word.max_one_ne_zero _
  ratio dataRate := by
    have hratio : 1 ≤ (bypassRatio config dataRate).toNat := Word.one_le_toNat_max _
    have hle : (1 : UInt32) ≤ bypassRatio config dataRate := UInt32.le_iff_toNat_le.2 hratio
    rw [UInt32.toNat_sub_of_le _ _ hle]
    exact Nat.sub_add_cancel hratio
  address port := Ddrc.toNat_offset_pctrl port
  core core := CoreId.toNat_bit core
  cores count hcount := by
    have hall : ∀ count : Fin 33, (CoreMask.all count).bits.toNat = 2 ^ count.val - 1 := by decide
    exact hall ⟨count, Nat.lt_succ_of_le hcount⟩

namespace Controller

open Hardware

variable {c : Controller} {s : System Hardware} {pins : RegisterMap}

/-! ### Sequences -/

/-- A safe sequence ends with the power on, or in whatever timeout. -/
theorem ends_of_safe {α : Type} {p : Sequences.Timed α} (hsafe : Safe pins p) (h : Hardware)
    (hsupplied : h.Supplied pins) :
    p.Returns RegisterFile.answer h (Ends (fun _ => True) (Supplied pins)) := by
  refine (hsafe h hsupplied).mono fun r _ hend => ?_
  cases r with
  | ok a => exact hend
  | error t => trivial

/-- **The sequences on hardware with power.**  While the subsystem is off nothing is known of the
hardware but its pins. -/
theorem upholds_supplied (hspares : ∀ timings ∈ c.table.points, timings.Spares)
    (hranks : c.config.modeRanks.toNat < 256) (hmode : pins.find? Ddrc.mrstat = none)
    (hreset : pins.find? Reset.control = none) :
    c.Upholds (fun _ => True) (Supplied pins) (Supplied pins) (·.pins = pins) where
  switch htimings leavingBypass := ends_of_safe
    (safe_switchPoint hmode hranks (hspares _ (List.mem_of_getElem? htimings)) leavingBypass _)
  fast speed := ends_of_safe (safe_switchSpeed speed)
  rest := ends_of_safe safe_quietDown
  save _ := ends_of_safe (safe_readTrained _)
  down h hsupplied := by
    refine (returns_powerOff hreset hsupplied.pins).mono fun r _ hend => ?_
    cases r with
    | ok a => exact hend
    | error t => trivial
  up htimings trained h hpins := by
    refine (returns_powerUp hreset hpins (hspares _ (List.mem_of_getElem? htimings)) _
      trained).mono fun r _ hend => ?_
    cases r with
    | ok a => exact hend
    | error t => trivial

/-! ### Calls -/

/-- **Every call comes to an end**, with a result or an error: no fault stops it, and no wait.  This
is so after any calls with any arguments, on hardware that holds any programs as it has booted, with
reads pinned to anything but for those of two registers; and no arithmetic overflows.  The cores of
a system of at most 32 have the numbers that a set can name. -/
theorem calls_come_to_an_end {timings : PointTimings} {current : FrequencyIndex}
    (hspares : ∀ timings ∈ c.table.points, timings.Spares)
    (hranks : c.config.modeRanks.toNat < 256) (hmode : pins.find? Ddrc.mrstat = none)
    (hreset : pins.find? Reset.control = none)
    (h : c.Follows (System.start { bootedAt timings with pins } c.coreCount current) s) :
    (∀ core < CoreMask.maxCores, ∀ request, ∃ r s',
      System.run (c.operation core request) s = .ok r s') ∧ c.config.Exact := by
  have hpowered : ({ bootedAt timings with pins } : Hardware).Supplied pins := by
    obtain ⟨values, hbooted⟩ := exists_bootedAt_eq timings
    rw [hbooted]
    exact ⟨rfl, rfl⟩
  refine ⟨fun core hcore request => ?_, c.config.exact⟩
  obtain ⟨r, s', hrun, -⟩ := (upholds_supplied hspares hranks hmode hreset).returns_of_follows
    hpowered h hcore request
  exact ⟨r, s', hrun⟩

/-- On the sample board with a transaction that never ends at a port a switch times out, half-way,
and the way down that is asked for after that comes to an end as well. -/
theorem calls_come_to_an_end_busyPort :
    ∃ s₁, System.run (Board.controller.operation 0 (.switch ⟨1⟩ (.all 4))) busyPort =
        .ok (.error (.pollTimeout ⟨Ddrc.pstat, 100⟩)) s₁ ∧
      ∃ r s₂, System.run (Board.controller.operation 3 .enter) s₁ = .ok r s₂ := by
  have htimeout : timeout? (System.run (Board.controller.operation 0 (.switch ⟨1⟩ (.all 4)))
      busyPort) = some ⟨Ddrc.pstat, 100⟩ := by
    decide +kernel
  obtain ⟨s₁, hrun⟩ := exists_of_timeout? htimeout
  have hfollows : Board.controller.Follows (System.start
      { bootedAt (Board.samplePoint 3200 false) with pins := ⟨[(Ddrc.pstat, 1)]⟩ }
      Board.controller.coreCount ⟨0⟩) s₁ :=
    .call 0 (.switch ⟨1⟩ (.all 4)) .refl hrun
  obtain ⟨hcalls, -⟩ := calls_come_to_an_end (by decide +kernel) (by decide) (by decide) (by decide)
    hfollows
  exact ⟨s₁, hrun, hcalls 3 (by decide) .enter⟩

end Controller

end Reclock
