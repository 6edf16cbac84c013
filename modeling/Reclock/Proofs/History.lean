/-
**Histories of a system.**

A system begins with what a boot loader leaves: hardware that runs, with programs loaded, and a
cleared snapshot.  Then transitions are asked for, of which every one comes to an end, whether it is
granted or refused, and reads are pinned and let go meanwhile.  However long this goes on, between
transitions no session is in flight and the cores run their own programs, the hardware is sound
while the subsystem is active, and saved trained values fit the point that they are from.

Main definitions:

* `Reclock.Hardware.Boots` — what a boot loader leaves;
* `Reclock.Controller.History` — **the systems that a history leads to**;
* `Reclock.Controller.Between` — what holds between transitions.

Main results:

* `Reclock.Controller.Outcome.between` — a transition that does not time out keeps what holds;
* `Reclock.Controller.between_of_history` — **it holds after every history**.
-/

import Reclock.Board
import Reclock.Proofs.Membership
import Reclock.Proofs.Outcome
import Reclock.Proofs.PowerCycle

set_option relaxedAutoImplicit false
set_option autoImplicit false

namespace Reclock

/-! ### Booting -/

namespace Hardware

/-- **What a boot loader leaves**: hardware that runs from the PLL, with programs loaded that keep
clear of the registers of the sequences. -/
inductive Boots : Hardware → Prop
  | running : Boots booted
  | loaded {h : Hardware} {w : Window} {program : RegisterProgram} (hboots : Boots h)
      (hclear : ∀ r ∈ program.registers w, r ∉ Register.reserved) : Boots (h.preload w program)

theorem sound_booted : booted.Sound := by
  refine ⟨rfl, ?_, ?_, ?_, ?_, Nat.zero_le _⟩ <;> decide +kernel

/-- Programs are loaded without anything getting under way. -/
theorem Sound.preload {h : Hardware} {w : Window} {program : RegisterProgram} (hsound : h.Sound)
    (hclear : ∀ r ∈ program.registers w, r ∉ Register.reserved) : (h.preload w program).Sound := by
  have hstays : ∀ q ∈ Register.fixtures, (h.preload w program).value q = h.value q := by
    intro q hq
    have hreserved : ∀ q ∈ Register.fixtures, q ∈ Register.reserved := by decide +kernel
    exact value_preload_of_not_mem (fun hmem => hclear q hmem (hreserved q hq)) h
  obtain ⟨values, heq⟩ := exists_preload_eq h w program
  rw [heq] at hstays ⊢
  refine ⟨hsound.powered, ?_, ?_, ?_, ?_, hsound.busyReads⟩
  · exact (hstays _ (by decide)).trans hsound.portsIdle
  · exact (hstays _ (by decide)).trans hsound.modeStatus
  · exact (hstays _ (by decide)).trans hsound.drained
  · exact (hstays _ (by decide)).trans hsound.calibrated

theorem Boots.sound {h : Hardware} (hboots : h.Boots) : h.Sound := by
  induction hboots with
  | running => exact sound_booted
  | loaded _ hclear ih => exact ih.preload hclear

/-- A subsystem that holds the programs of a point is left by a boot loader, if the programs keep
clear. -/
theorem boots_bootedAt {timings : PointTimings} (hclear : timings.KeepsClear) :
    (bootedAt timings).Boots := by
  obtain ⟨hcontroller, hinit, htrained, hengine⟩ := hclear.parts
  exact (((Boots.running.loaded hcontroller).loaded hinit).loaded htrained).loaded hengine

end Hardware

namespace Controller

variable {c : Controller} {s s' : System Hardware}

/-! ### Histories -/

/-- **The systems that a history leads to**: from what a boot loader leaves, by transitions that do
not time out, with reads pinned and let go, and the records of writes cleared, in between. -/
inductive History (c : Controller) : System Hardware → Prop
  | boot {hardware : Hardware} (hboots : hardware.Boots) (current : FrequencyIndex)
      (events : Array Event) :
      History c { System.start hardware c.coreCount current with events }
  | call {s s' : System Hardware} {r : Except TransitionError Unit} (core : Nat)
      (request : Request) (hs : History c s)
      (hrun : System.run (c.operation core request) s = .ok r s')
      (hends : ∀ t, r ≠ .error (.pollTimeout t)) : History c s'
  | pin {s : System Hardware} (r : Register) (v : UInt32) (hs : History c s) :
      History c { s with hardware := s.hardware.pin r v }
  | unpin {s : System Hardware} (r : Register) (hs : History c s) :
      History c { s with hardware := s.hardware.unpin r }
  | clear {s : System Hardware} (hs : History c s) :
      History c { s with hardware := s.hardware.clearWrites }

/-- Saved trained values are as many as the point has that they are from. -/
def Fits (c : Controller) (snapshot : Snapshot) : Prop :=
  ∀ trained, snapshot.trained = some trained → ∃ timings,
    c.table.timings? trained.frequency = some timings ∧
      trained.values.length = timings.phyTrained.length

/-- **What holds between transitions.** -/
structure Between (c : Controller) (s : System Hardware) : Prop where
  free : s.barrier.inProgress = false
  calm : s.Calm
  cores : s.cores.length = c.coreCount
  sound : s.retention.state = .active → s.hardware.Sound
  fits : c.Fits s.retention.snapshot

/-- It depends on the hardware only as far as that is to be sound. -/
theorem Between.of_hardware {hardware : Hardware} (h : c.Between s)
    (hsound : s.hardware.Sound → hardware.Sound) : c.Between { s with hardware } :=
  ⟨h.free, h.calm, h.cores, fun hactive => hsound (h.sound hactive), h.fits⟩

/-- Between transitions an active subsystem without pins is ready. -/
theorem Between.ready (h : c.Between s) (hactive : s.retention.state = .active)
    (hunpinned : s.hardware.Unpinned) : s.hardware.Ready :=
  ⟨h.sound hactive, hunpinned⟩

/-! ### Transitions -/

/-- The register sequence of a switch keeps sound hardware sound. -/
theorem Moves.within {request : Request} {p : Sequences.Timed Unit} {target : FrequencyIndex}
    (hmoves : c.Moves s request p target) (hclear : c.table.KeepsClear) :
    p.Within (Access.Writes Register.Harmless) := by
  cases hmoves with
  | switch htimings =>
      refine Sequences.within_switchPoint (fun port => Hardware.harmless_of_isPort _ ⟨port, rfl⟩)
        (by decide) (fun r hr => ?_) Hardware.harmless_clockControls
      exact Register.harmless_of_not_reserved (hclear.timings htimings r hr)
        (PointTimings.inDramDomain_of_mem hr)
  | fast => exact Sequences.within_switchSpeed (by decide)

/-- What is saved on the way down fits the table. -/
theorem Saves.fits {timings : PointTimings} {current : FrequencyIndex} {snapshot : Snapshot}
    {hardware hardware' : Hardware} {snapshot' : Snapshot}
    (hsaves : Saves current timings snapshot hardware hardware' snapshot')
    (htimings : c.table.timings? current = some timings) (hfits : c.Fits snapshot) :
    c.Fits snapshot' := by
  cases hsaves with
  | kept htrained =>
      rintro trained ⟨⟩
      exact hfits _ htrained
  | taken _ hread =>
      rintro trained ⟨⟩
      exact ⟨timings, htimings, ensures_readTrained timings hardware _ _ hread _ rfl⟩

/-- No pins appear on the way down. -/
theorem PowersDown.unpinned {current : FrequencyIndex} {timings : PointTimings} {h h' : Hardware}
    {snapshot snapshot' : Snapshot}
    (hdown : c.PowersDown current timings h snapshot h' snapshot') (hunpinned : h.Unpinned) :
    h'.Unpinned := by
  obtain ⟨quiet, saved, hquiet, hsaves, hoff⟩ := hdown
  have hunpinned₁ := hunpinned.ensures _ _ _ hquiet
  have hunpinned₂ : saved.Unpinned := by
    cases hsaves with
    | kept => exact hunpinned₁
    | taken _ hread => exact hunpinned₁.ensures _ _ _ hread
  exact hunpinned₂.ensures _ _ _ hoff

/-- **A transition that does not time out keeps what holds between transitions.** -/
theorem Outcome.between {request : Request} {r : Except TransitionError Unit}
    (houtcome : c.Outcome s request r s') (h : c.Between s) (hclear : c.table.KeepsClear)
    (hends : ∀ t, r ≠ .error (.pollTimeout t)) : c.Between s' := by
  cases houtcome with
  | refused => exact h
  | unneeded => exact h
  | moved hmoves hactive hrun hcurrent hfree hcalm hretention hcores =>
      refine ⟨hfree, hcalm, hcores.trans h.cores, fun _ => ?_, hretention ▸ h.fits⟩
      have hkept := (hmoves.within hclear).kept (fun _ hr => hr.not_mem_requests) _ _ hrun
      exact hkept.sound (fun _ hr => hr) (h.sound hactive)
  | lowered htimings hretainable hactive hdown hstate hbarrier hcores =>
      -- Hardware without power is not sound, but the subsystem is not active either.
      obtain ⟨quiet, saved, hquiet, hsaves, hoff⟩ := hdown
      refine ⟨by rw [hbarrier]; exact h.free, ?_, by rw [hcores]; exact h.cores, fun h' => ?_,
        hsaves.fits htimings h.fits⟩
      · exact ⟨by rw [hbarrier]; exact h.calm.1, by rw [hcores]; exact h.calm.2⟩
      · cases hstate.symm.trans h'
  | raised hretained htimings hrun hretention hbarrier hcores =>
      refine ⟨by rw [hbarrier]; exact h.free, ?_, by rw [hcores]; exact h.cores, fun _ => ?_, ?_⟩
      · exact ⟨by rw [hbarrier]; exact h.calm.1, by rw [hcores]; exact h.calm.2⟩
      · exact Hardware.ensures_sound_powerUp (hclear.timings htimings) _ _ _ hrun rfl
      · rw [hretention]
        exact h.fits
  | corrupted => exact ⟨h.free, h.calm, h.cores, nofun, h.fits⟩
  | wedged => exact absurd rfl (hends _)

/-- **After every history the system is as it is between transitions.** -/
theorem between_of_history (hclear : c.table.KeepsClear) (h : c.History s) : c.Between s := by
  induction h with
  | @boot hardware hboots current events =>
      exact ⟨rfl, System.calm_start hardware _ current, List.length_replicate .., fun _ => hboots.sound,
        nofun⟩
  | call core request hs hrun hends ih =>
      exact (outcome_of_run ih.calm ih.free core request _ _ hrun).between ih hclear hends
  | pin r v hs ih =>
      exact ih.of_hardware fun h => ⟨h.1, h.2, h.3, h.4, h.5, h.6⟩
  | unpin r hs ih =>
      exact ih.of_hardware fun h => ⟨h.1, h.2, h.3, h.4, h.5, h.6⟩
  | clear hs ih =>
      exact ih.of_hardware fun h => ⟨h.1, h.2, h.3, h.4, h.5, h.6⟩

/-! ### Requests for the cores of the system -/

/-- An admitted set names cores that the system has. -/
theorem Between.lt_of_admits (h : c.Between s) {online : CoreMask}
    (hadmitted : c.admits online = true) (k : Nat) (hk : online.contains k = true) :
    k < s.cores.length := by
  rw [h.cores]
  exact admits_iff.1 hadmitted k hk

end Controller

/-! ### The sample board -/

theorem Board.current_boot : boot.barrier.current = ⟨0⟩ := by decide +kernel

/-- The sample board comes up as a boot loader leaves it. -/
theorem Board.history_boot : controller.History boot :=
  .boot (Hardware.boots_bootedAt (sampleTable_keepsClear _ (List.mem_cons_self ..))) _ _

end Reclock
