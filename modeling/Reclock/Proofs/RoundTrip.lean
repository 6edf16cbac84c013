/-
**Powering down and up again.**

After every history of a system, an active subsystem at a point that can be retained can be powered
down, and powered up again at the same point.  What controller and PHY held is lost meanwhile.  It
is rebuilt from the table, and from the trained values in the snapshot if they were saved at this
point; if none had been saved before, they are those that the PHY held when it was powered down.

Main definitions:

* `Reclock.PointTimings.TrainedApart` — a point whose trained values nothing overwrites;
* `Reclock.Controller.Lowered` — a subsystem that is off, with its point and trained values saved;
* `Reclock.Controller.Rebuilt` — **what is there again after a round trip**.

Main results:

* `Reclock.Controller.completes_powerDown` — the way down, on ready hardware;
* `Reclock.Controller.round_trip` — **down and up again succeed**, and everything is rebuilt.
-/

import Reclock.Proofs.History
import Reclock.Proofs.Success

set_option relaxedAutoImplicit false
set_option autoImplicit false

namespace Reclock

/-- The image of the initialisation engine writes none of the trained values. -/
def PointTimings.TrainedApart (t : PointTimings) : Prop :=
  ∀ trained ∈ t.phyTrained, ∀ entry ∈ t.phyEngine, entry.offset ≠ trained.offset

instance (t : PointTimings) : Decidable t.TrainedApart :=
  inferInstanceAs (Decidable (∀ trained ∈ t.phyTrained, ∀ entry ∈ t.phyEngine, _))

namespace Hardware

open Sequences

variable {h h' : Hardware} {timings : PointTimings} {values : Option (List UInt32)}

/-! ### The parts of what is restored -/

/-- The offsets of the table's trained values are those of the restored ones. -/
theorem last?_trainedProgram_eq_none {offset : UInt32}
    (hfree : timings.phyTrained.last? offset = none) :
    (trainedProgram timings values).last? offset = none := by
  refine RegisterProgram.last?_of_not_mem (w := .phy) fun hmem => ?_
  obtain ⟨entry, hentry, heq⟩ := List.mem_map.1 (mem_registers_of_trainedProgram hmem)
  exact RegisterProgram.last?_eq_none.1 hfree entry hentry (congrArg Register.offset heq)

/-- The trained values are held apart from the engine's image. -/
theorem Holds.trained (hholds : h.Holds .phy (restored timings values))
    (happart : timings.TrainedApart) : h.Holds .phy (trainedProgram timings values) := by
  intro offset v hlast
  have hmem := RegisterProgram.mem_registers_of_last? (w := .phy) hlast
  obtain ⟨entry, hentry, heq⟩ := List.mem_map.1 (mem_registers_of_trainedProgram hmem)
  obtain rfl : entry.offset = offset := congrArg Register.offset heq
  refine hholds.earlier (v := v) ?_ (RegisterProgram.last?_eq_none.2 (happart entry hentry))
  rw [RegisterProgram.last?_append, hlast, Option.some_or]

/-- The initial program is held where nothing later writes. -/
theorem Holds.init {offset v : UInt32} (hholds : h.Holds .phy (restored timings values))
    (hlast : timings.phyInit.last? offset = some v)
    (htrained : timings.phyTrained.last? offset = none)
    (hengine : timings.phyEngine.last? offset = none) : h.value ⟨.phy, offset⟩ = v := by
  refine hholds.earlier ?_ hengine
  rw [RegisterProgram.last?_append, last?_trainedProgram_eq_none htrained, Option.none_or, hlast]

/-- Values that were read back are restored to the registers that they were read from. -/
theorem Holds.readBack (hholds : h'.Holds .phy
    (trainedProgram timings (some (h.valuesOf .phy timings.phyTrained)))) {entry : RegisterValue}
    (hentry : entry ∈ timings.phyTrained) :
    h'.value ⟨.phy, entry.offset⟩ = h.value ⟨.phy, entry.offset⟩ := by
  have heq : trainedProgram timings (some (h.valuesOf .phy timings.phyTrained)) =
      timings.phyTrained.map fun entry => ⟨entry.offset, h.value ⟨.phy, entry.offset⟩⟩ := by
    simp only [trainedProgram, valuesOf, List.zipWith_map_right, List.zipWith_self]
  rw [heq] at hholds
  exact hholds _ _ (RegisterProgram.last?_map (f := fun offset => h.value ⟨.phy, offset⟩) hentry)

end Hardware

namespace Controller

open Operation Sequences

variable {c : Controller} {s : System Hardware} {timings : PointTimings}

/-! ### The way down -/

/-- **The subsystem is off**, and point and trained values are saved: those that had been saved
before, or else those that the PHY held. -/
structure Lowered (current : FrequencyIndex) (timings : PointTimings) (before : Hardware)
    (snapshot : Snapshot) (hardware : Hardware) (snapshot' : Snapshot) : Prop where
  powered : hardware.powered = false
  unpinned : hardware.Unpinned
  saved : snapshot' =
    ⟨current, some (snapshot.trained.getD ⟨current, before.valuesOf .phy timings.phyTrained⟩)⟩

theorem completes_saveSnapshot (hready : s.hardware.Ready) (hclear : timings.KeepsClear)
    (current : FrequencyIndex) :
    (saveSnapshot current timings).Completes System.answer s fun _ s' => Steady s s' ∧
      s'.hardware.Unpinned ∧ s'.retention.snapshot = ⟨current, some (s.retention.snapshot.trained.getD
        ⟨current, s.hardware.valuesOf .phy timings.phyTrained⟩)⟩ := by
  refine Procedure.completes_bind_of_run (System.run_retention .readSnapshot s) ?_
  dsimp only [RetentionAccess.apply]
  cases htrained : s.retention.snapshot.trained with
  | some trained =>
      exact Procedure.completes_of_run (System.run_retention _ _)
        ⟨⟨rfl, rfl, rfl⟩, hready.unpinned, rfl⟩
  | none =>
      refine (System.completes_registers (hready.serves_readTrained hclear)).andThen
        fun values s₁ hend => ?_
      obtain ⟨hardware, events, rfl, hready₁, -, rfl⟩ := hend
      exact Procedure.completes_of_run (System.run_retention _ _)
        ⟨⟨rfl, rfl, rfl⟩, hready₁.unpinned, rfl⟩

/-- **The way down succeeds on ready hardware.** -/
theorem completes_powerDown (hready : s.hardware.Ready) (hlimit : 0 < c.config.pollLimit.toNat)
    (hclear : timings.KeepsClear) (current : FrequencyIndex) :
    (c.powerDown current timings).Completes System.answer s fun _ s' => Steady s s' ∧
      Lowered current timings s.hardware s.retention.snapshot s'.hardware
        s'.retention.snapshot := by
  refine (System.completes_registers (hready.serves_quietDown hlimit)).andThen
    fun _ s₁ hquiet => ?_
  obtain ⟨quiet, events, rfl, hready₁, hkept₁, -⟩ := hquiet
  refine (completes_saveSnapshot (s := { s with hardware := quiet, events }) hready₁ hclear
    current).andThen fun _ s₂ hsaved => ?_
  obtain ⟨hsteady, hunpinned, hsnapshot⟩ := hsaved
  obtain ⟨events₃, flushes, hflush⟩ := System.run_flush (ε := PollTimeout) s₂
  refine Procedure.completes_bind_of_run hflush ?_
  refine (System.completes_registers (s := { s₂ with events := events₃, flushes })
    (hunpinned.completes_powerOff hlimit)).mono fun _ s₃ hoff => ?_
  obtain ⟨off, events₄, rfl, hlost, hunpinned', -⟩ := hoff
  refine ⟨⟨hsteady.barrier, hsteady.cores, hsteady.state⟩, hlost.unpowered, hunpinned', ?_⟩
  -- Nothing that the way to rest writes is among the trained values.
  have hvalues : quiet.valuesOf .phy timings.phyTrained =
      s.hardware.valuesOf .phy timings.phyTrained := by
    refine List.map_congr_left fun entry hentry => ?_
    have hfree : (⟨.phy, entry.offset⟩ : Register) ∉ Register.reserved :=
      hclear.parts.2.2.1 _ (List.mem_map_of_mem hentry)
    exact hkept₁.unwritten (Register.not_status_of_not_reserved hfree rfl)
      fun hr => hfree (Hardware.reserved_of_isQuieting hr)
  rw [← hvalues]
  exact hsnapshot

/-! ### Down and up -/

/-- **What is there again after a round trip** at a point: all that the table programs, but for the
trained values, which are the saved ones if they are from this point. -/
structure Rebuilt (current : FrequencyIndex) (timings : PointTimings) (before : System Hardware)
    (snapshot : Snapshot) (after : Hardware) : Prop where
  controller : after.Holds .ddrc timings.controller
  engine : after.Holds .phy timings.phyEngine
  init : ∀ offset v, timings.phyInit.last? offset = some v →
    timings.phyTrained.last? offset = none → timings.phyEngine.last? offset = none →
      after.value ⟨.phy, offset⟩ = v
  saved : ∀ values, snapshot.trained = some ⟨current, values⟩ →
    values.length = timings.phyTrained.length ∧
      after.Holds .phy (trainedProgram timings (some values))
  foreign : ∀ trained, snapshot.trained = some trained → trained.frequency ≠ current →
    after.Holds .phy timings.phyTrained
  first : before.retention.snapshot.trained = none →
    ∀ entry ∈ timings.phyTrained, after.value ⟨.phy, entry.offset⟩ =
      before.hardware.value ⟨.phy, entry.offset⟩

/-- Saved values that fit a point with trained values are restored there. -/
theorem Fits.trainedAt {snapshot : Snapshot} {current : FrequencyIndex} (hfits : c.Fits snapshot)
    (htimings : c.table.timings? current = some timings) (hsome : timings.phyTrained ≠ [])
    {values : List UInt32} (hsaved : snapshot.trained = some ⟨current, values⟩) :
    values.length = timings.phyTrained.length ∧ snapshot.trainedAt current = some values := by
  obtain ⟨timings', htimings', hlength⟩ := hfits _ hsaved
  cases htimings.symm.trans htimings'
  have hvalues : values ≠ [] := by
    rintro rfl
    exact hsome (List.length_eq_zero_iff.1 hlength.symm)
  refine ⟨hlength, ?_⟩
  simp only [Snapshot.trainedAt, hsaved]
  exact if_pos ⟨trivial, hvalues⟩

/-- Values of another point are not. -/
theorem trainedAt_of_ne {snapshot : Snapshot} {current : FrequencyIndex} {trained : TrainedValues}
    (hsaved : snapshot.trained = some trained) (hother : trained.frequency ≠ current) :
    snapshot.trainedAt current = none := by
  simp only [Snapshot.trainedAt, hsaved]
  exact if_neg fun hboth => hother hboth.1

/-- **What the way up installs is what a round trip rebuilds.** -/
theorem Lowered.rebuilt {current : FrequencyIndex} {snapshot : Snapshot} {off after : Hardware}
    (hlowered : Lowered current timings s.hardware s.retention.snapshot off snapshot)
    (hinstalled : after.Installed current timings
      (restored timings (snapshot.trainedAt current)))
    (hfits : c.Fits snapshot) (htimings : c.table.timings? current = some timings)
    (hsome : timings.phyTrained ≠ []) (happart : timings.TrainedApart) :
    Rebuilt current timings s snapshot after := by
  have hheld := hinstalled.phy.trained happart
  have hsaved : ∀ values, snapshot.trained = some ⟨current, values⟩ →
      values.length = timings.phyTrained.length ∧
        after.Holds .phy (trainedProgram timings (some values)) := by
    intro values hvalues
    obtain ⟨hlength, hat⟩ := hfits.trainedAt htimings hsome hvalues
    rw [hat] at hheld
    exact ⟨hlength, hheld⟩
  refine ⟨hinstalled.controller, hinstalled.phy.later,
    fun offset v hlast => hinstalled.phy.init hlast, hsaved, ?_, ?_⟩
  · intro trained htrained hother
    rw [trainedAt_of_ne htrained hother] at hheld
    exact hheld
  · intro hnone entry hentry
    have hfirst : snapshot.trained =
        some ⟨current, s.hardware.valuesOf .phy timings.phyTrained⟩ := by
      rw [hlowered.saved, hnone]
      rfl
    exact (hsaved _ hfirst).2.readBack hentry

/-- **Down and up again**: after every history, an active subsystem without pins, at a point of
which the programs that the way up loads are not empty and at most 64 values are trained, is powered
down and powered up again, and everything that its point consists of is rebuilt. -/
theorem round_trip (hclear : c.table.KeepsClear) (hlimit : 1 ≤ c.config.pollLimit.toNat)
    (hhistory : c.History s) (hunpinned : s.hardware.Unpinned)
    (hactive : s.retention.state = .active)
    (htimings : c.table.timings? s.barrier.current = some timings)
    (hprograms : [] ∉ [timings.controller, timings.phyInit, timings.phyTrained, timings.phyEngine])
    (hroom : timings.phyTrained.length ≤ 64) (happart : timings.TrainedApart) :
    ∃ s₁, System.run c.enterRetention s = .ok (.ok ()) s₁ ∧ s₁.retention.state = .retained ∧
      Lowered s.barrier.current timings s.hardware s.retention.snapshot s₁.hardware
        s₁.retention.snapshot ∧
      ∃ s₂, System.run c.exitRetention s₁ = .ok (.ok ()) s₂ ∧ s₂.retention.state = .active ∧
        s₂.barrier.current = s.barrier.current ∧ s₂.hardware.powered = true ∧
          Rebuilt s.barrier.current timings s s₁.retention.snapshot s₂.hardware ∧
            s₂.hardware.Works c.config := by
  have hretainable := PointTimings.retainable_iff.2 ⟨hprograms, hroom⟩
  have hbetween := between_of_history hclear hhistory
  have hkeeps := hclear.timings htimings
  have hready := hbetween.ready hactive hunpinned
  have hsome : timings.phyTrained ≠ [] := by
    rintro hnil
    simp [hnil] at hprograms
  have hpowerDown : ∀ s₀ : System Hardware, s₀.hardware = s.hardware →
      s₀.retention.snapshot = s.retention.snapshot →
        (c.powerDown s.barrier.current timings).Completes System.answer s₀ fun _ s' =>
          Steady s₀ s' ∧ Lowered s.barrier.current timings s.hardware s.retention.snapshot
            s'.hardware s'.retention.snapshot := by
    intro s₀ hhardware hsnapshot
    rw [← hhardware, ← hsnapshot]
    exact completes_powerDown (hhardware ▸ hready) hlimit hkeeps _
  obtain ⟨_, s₁, hdown, hlowered, hretained, -⟩ :=
    completes_enterRetention hbetween.free hactive htimings hretainable hpowerDown
  have hbetween₁ := between_of_history hclear (hhistory.call 0 .enter hdown nofun)
  have hfrequency : s₁.retention.snapshot.frequency = s.barrier.current := by
    rw [hlowered.saved]
  obtain ⟨_, s₂, hup, ⟨hready₂, hinstalled, hworks, -⟩, hretention, hbarrier, -⟩ :=
    completes_exitRetention hbetween₁.free hretained (hfrequency ▸ htimings)
      (hlowered.unpinned.completes_powerUp hlimit hkeeps _ _)
  rw [hfrequency] at hinstalled hbarrier
  refine ⟨s₁, hdown, hretained, hlowered, s₂, hup, ?_, ?_, hready₂.powered, ?_, hworks⟩
  · rw [hretention]
  · rw [hbarrier]
  · exact hlowered.rebuilt hinstalled hbetween₁.fits htimings hsome happart

/-- The sample board is powered down and up again as it has booted, and its PHY has its trained
values back. -/
theorem round_trip_sample :
    Board.controller.History Board.boot ∧
      ∃ s₁, System.run Board.controller.enterRetention Board.boot = .ok (.ok ()) s₁ ∧
        s₁.hardware.powered = false ∧
          ∃ s₂, System.run Board.controller.exitRetention s₁ = .ok (.ok ()) s₂ ∧
            ∀ entry ∈ (Board.samplePoint 3200 false).phyTrained,
              s₂.hardware.value ⟨.phy, entry.offset⟩ =
                Board.boot.hardware.value ⟨.phy, entry.offset⟩ := by
  have htimings : Board.controller.table.timings? Board.boot.barrier.current =
      some (Board.samplePoint 3200 false) := by
    rw [Board.current_boot]
    rfl
  obtain ⟨s₁, hdown, -, hlowered, s₂, hup, -, -, -, hrebuilt, -⟩ := round_trip
    Board.sampleTable_keepsClear (by decide) Board.history_boot (fun _ => rfl) rfl htimings
    (by decide) (by decide) (by decide)
  exact ⟨Board.history_boot, s₁, hdown, hlowered.powered, s₂, hup, hrebuilt.first rfl⟩

end Controller

end Reclock
