/-
**The order of the way down.**

The power of the DRAM may go only when nothing is left that needs it.  The ports are idle, the DRAM
refreshes itself, the controller is drained, the PHY holds its calibration, its trained values have
been read back and written to memory, and the clocks are gated: each of these waits for the one
before, and for the hardware to show it.  Once the request for the power to go has been made neither
the controller nor the PHY is accessed any more, and power-ok drops last.

Nothing is assumed of the hardware, which may return anything for any read; a poll that runs out of
attempts ends the way down where it is, which keeps the order as well.

Main definitions:

* `Reclock.Trace.Drained`, `CalibrationHeld`, `Sampled`, `SampleFlushed`, `ClocksGated`,
  `PoweredDown` — how far the way down has come, each after the one before;
* `Reclock.Controller.MayFall` — what may be written on the way down;
* `Reclock.Controller.descentGate` — **the order**, as a gate for every access.

Main results:

* `Reclock.Controller.secures_quietDown` — controller and PHY are brought to rest in order;
* `Reclock.Controller.descent_in_order` — **every way down keeps to the order**, and ends by
  dropping power-ok.
-/

import Reclock.Proofs.Attainment
import Reclock.Proofs.PowerCycle

set_option relaxedAutoImplicit false
set_option autoImplicit false

namespace Reclock

/-! ### How far the way down has come -/

namespace Trace

/-- After the DRAM was seen in self-refresh, the controller was halted and seen drained. -/
def Drained (config : Config) (past : List Event) : Prop :=
  Saw past Ddrc.dbgcam (fun v => v &&& Ddrc.drained = Ddrc.drained) fun before =>
    SelfRefreshed config before ∧ LastWrote before Ddrc.dbg1 fun v =>
      v &&& Ddrc.halted = Ddrc.halted

/-- After that the PHY was asked to hold its calibration, and seen to do so. -/
def CalibrationHeld (config : Config) (past : List Event) : Prop :=
  Saw past Phy.lpStat (fun v => v &&& Phy.holdActive ≠ 0) fun before =>
    Drained config before ∧ LastWrote before Phy.lpCtrl fun v => v &&& Phy.holdRequest ≠ 0

/-- After that the bus was taken, and of the trained values of a point as many have been read back
as there are values. -/
def Sampling (config : Config) (timings : PointTimings) (values : List UInt32)
    (past : List Event) : Prop :=
  ∃ before, CalibrationHeld config before ∧
    past = before ++ [.write Phy.busOwner Phy.ownedBySoftware] ++
      List.zipWith .read (timings.phyTrained.registers .phy) values

/-- After that the trained values of a point of the table have all been read back and the bus was
given back, and nothing else has happened; or, if values were saved before, the bus was not even
taken. -/
def Sampled (c : Controller) (past : List Event) : Prop :=
  (CalibrationHeld c.config past ∧ Unwritten past Phy.busOwner) ∨
    ∃ timings ∈ c.table.points, ∃ values before,
      values.length = timings.phyTrained.length ∧ Sampling c.config timings values before ∧
        past = before ++ [.write Phy.busOwner Phy.ownedByPhy]

/-- After that the caches were written back. -/
def SampleFlushed (c : Controller) (past : List Event) : Prop :=
  Occurred past (· = .signal .flush) (Sampled c)

/-- After that the clocks of the subsystem were gated. -/
def ClocksGated (c : Controller) (past : List Event) : Prop :=
  Occurred past (Event.Wrote Clock.dramGate fun v => v = 0) (SampleFlushed c)

/-- After that the power was asked to go. -/
def DownRequested (c : Controller) (past : List Event) : Prop :=
  Occurred past (Event.Wrote Power.downRequest fun v => v &&& Power.dramDomain ≠ 0) (ClocksGated c)

/-- After that the request was seen to be answered. -/
def PoweredDown (c : Controller) (past : List Event) : Prop :=
  Saw past Power.downRequest (fun v => v &&& Power.dramDomain = 0) (DownRequested c)

/-- **The end of the way down**: after that power-ok was dropped, and nothing else has happened. -/
def Descended (c : Controller) (past : List Event) : Prop :=
  ∃ before v, past = before ++ [.write Reset.control v] ∧ v &&& Reset.phyPowerOk = 0 ∧
    PoweredDown c before

/-- The caches have not been written back, and the power has not been asked to go. -/
def StillUp (past : List Event) : Prop :=
  .signal .flush ∉ past ∧ ∀ v, .write Power.downRequest v ∉ past

theorem StillUp.snoc {past : List Event} (h : StillUp past) {e : Event}
    (hflush : e ≠ .signal .flush) (hrequest : ∀ v, e ≠ .write Power.downRequest v) :
    StillUp (past ++ [e]) := by
  simp only [StillUp, List.mem_append, List.mem_singleton, not_or]
  exact ⟨⟨h.1, Ne.symm hflush⟩, fun v => ⟨h.2 v, Ne.symm (hrequest v)⟩⟩

end Trace

/-! ### The order -/

namespace Controller

open Sequence Sequences Trace

/-- **What may be written on the way down**, given the events before. -/
structure MayFall (c : Controller) (past : List Event) (r : Register) (v : UInt32) : Prop where
  /-- Controller and PHY are left alone once the caches were written back. -/
  reach : r.window.inDramDomain = true → StillUp past
  /-- The clocks are gated only after that. -/
  clocks : r = Clock.dramGate → SampleFlushed c past
  /-- The power is asked to go only once the clocks are gated. -/
  power : r = Power.downRequest → v &&& Power.dramDomain ≠ 0 → ClocksGated c past
  /-- Power-ok stays until the power is gone. -/
  powerOk : r = Reset.control → PoweredDown c past

/-- **The order of the accesses on the way down**, as a gate for each. -/
def descentGate (c : Controller) : List Event → Event → Prop :=
  accessGate (fun past r => r.window.inDramDomain = true → StillUp past) c.MayFall

variable {c : Controller} {past : List Event} {r : Register} {v : UInt32}

/-- Controller and PHY may be changed as long as the power stays. -/
theorem mayFall_inside (hr : r.window.inDramDomain = true) (h : StillUp past) :
    c.MayFall past r v := by
  have hne : ∀ s : Register, s.window.inDramDomain = false → r ≠ s := fun s hs =>
    ne_of_apply_ne (fun q => q.window.inDramDomain) (by simp [hr, hs])
  exact {
    reach := fun _ => h
    clocks := fun heq => absurd heq (hne _ rfl)
    power := fun heq => absurd heq (hne _ rfl)
    powerOk := fun heq => absurd heq (hne _ rfl) }

/-- What is neither controller nor PHY may be read at any time. -/
theorem descentGate_read (hr : r.window.inDramDomain = false) :
    c.descentGate past (.read r v) := fun hdomain => by
  rw [hr] at hdomain
  cases hdomain

/-! ### Coming to rest -/

theorem Secures.attains {p : Timed Unit} {before after : List Event → Prop}
    (h : c.Secures p before after) : Attains c.stepGate p before after :=
  fun past hpast => (h past hpast).mono fun _ _ hr _ ha => hr ha

/-- **Controller and PHY are brought to rest in order.** -/
theorem secures_quietDown (hclear : c.table.KeepsClear) :
    Attains c.stepGate (quietDown c.config) (fun _ => True) (CalibrationHeld c.config) := by
  have hasleep : Lasting (SelfRefreshed c.config) := lasting_saw _ _ _
  have hdrained : Lasting (Drained c.config) := lasting_saw _ _ _
  have hdbg1 : c.Early Ddrc.dbg1 := early_named hclear (by decide) (by decide)
  have hlow : c.Early Phy.lpCtrl :=
    early_of_reserved hclear (Register.mem_reserved_of_reachable (by decide)) (by decide)
  have hhalt : Attains c.stepGate (setBits Ddrc.dbg1 Ddrc.halted : Timed Unit)
      (SelfRefreshed c.config) fun past => SelfRefreshed c.config past ∧
        LastWrote past Ddrc.dbg1 fun v => v &&& Ddrc.halted = Ddrc.halted :=
    attains_modify_lastWrote hasleep (fun _ _ _ => trivial) (fun _ _ _ => hdbg1.gate _)
      fun v => Word.set_and v _
  have hempty : Attains c.stepGate
      (wait c.config Ddrc.dbgcam fun value => value &&& Ddrc.drained == Ddrc.drained)
      (fun past => SelfRefreshed c.config past ∧
        LastWrote past Ddrc.dbg1 fun v => v &&& Ddrc.halted = Ddrc.halted) (Drained c.config) :=
    attains_wait_saw ((hasleep.outlasts _).and (outlasts_lastWrote _ _))
      (fun _ _ _ => trivial) fun v hv => by simpa using hv
  have hhold : Attains c.stepGate (setBits Phy.lpCtrl Phy.holdRequest : Timed Unit)
      (Drained c.config) fun past => Drained c.config past ∧
        LastWrote past Phy.lpCtrl fun v => v &&& Phy.holdRequest ≠ 0 :=
    attains_modify_lastWrote hdrained (fun _ _ _ => trivial) (fun _ _ _ => hlow.gate _)
      fun v => Word.set_and_ne_zero v (by decide)
  have hheld : Attains c.stepGate (wait c.config Phy.lpStat (anySet Phy.holdActive))
      (fun past => Drained c.config past ∧
        LastWrote past Phy.lpCtrl fun v => v &&& Phy.holdRequest ≠ 0) (CalibrationHeld c.config) :=
    attains_wait_saw ((hdrained.outlasts _).and (outlasts_lastWrote _ _))
      (fun _ _ _ => trivial) fun v hv => by simpa [anySet] using hv
  refine (secures_disablePorts hclear).attains.bind fun _ => ?_
  refine (secures_enterSelfRefresh hclear).attains.bind fun _ => ?_
  refine Attains.bind (hhalt.bind fun _ => hempty) fun _ => ?_
  exact hhold.bind fun _ => hheld

/-- What only touches controller and PHY may go on as long as the power stays. -/
theorem attains_still_up {α : Type} {p : Timed α}
    (h : p.Within (Access.Writes fun r => r.window.inDramDomain = true)) :
    Attains c.descentGate p StillUp StillUp := by
  refine attains_of_within h ?_ ?_
  · rintro past (r | ⟨r, v⟩) reply hup ha
    · exact hup.snoc nofun fun _ => nofun
    · refine hup.snoc nofun fun w heq => ?_
      cases heq
      cases ha
  · rintro past (r | ⟨r, v⟩) reply hup ha
    · exact fun _ => hup
    · exact mayFall_inside ha hup

/-- The way to rest leaves the power, and the bus to the PHY. -/
theorem attains_quietDown_descent (hclear : c.table.KeepsClear) :
    Attains c.descentGate (quietDown c.config)
      (fun past => StillUp past ∧ Unwritten past Phy.busOwner) fun past =>
        (StillUp past ∧ CalibrationHeld c.config past) ∧ Unwritten past Phy.busOwner := by
  have hdomain : (quietDown c.config).Within
      (Access.Writes fun r => r.window.inDramDomain = true) :=
    within_quietDown (fun _ => rfl) (by decide) rfl rfl
  -- The bus is only taken to read values back, so it shows that none were read yet.
  have hspares : (quietDown c.config).Within (Access.Writes (· ≠ Phy.busOwner)) :=
    within_quietDown (fun _ => nofun) (by decide) (by decide) (by decide)
  have hrest : Attains c.descentGate (quietDown c.config)
      (fun past => StillUp past ∧ True) fun past => StillUp past ∧ CalibrationHeld c.config past :=
    (attains_still_up hdomain).both (secures_quietDown hclear) fun _ _ h _ => h
  exact (hrest.unwritten hspares).mono (fun _ h => ⟨⟨h.1, trivial⟩, h.2⟩) fun _ => id

/-! ### Reading back -/

/-- The trained values are read back while the power stays. -/
theorem attains_readTrained_descent {timings : PointTimings} (htimings : timings ∈ c.table.points) :
    Attains c.descentGate (readTrained timings)
      (fun past => StillUp past ∧ CalibrationHeld c.config past) (Sampled c) := by
  have hreads : Outlasts StillUp Event.IsRead := by
    rintro past _ ⟨r, v, rfl⟩ h
    exact h.snoc nofun fun _ => nofun
  have howner : ∀ past, StillUp past → ∀ v, c.descentGate past (.write Phy.busOwner v) :=
    fun past h v => mayFall_inside rfl h
  have htaken : Attains c.descentGate
      (Sequence.write Phy.busOwner Phy.ownedBySoftware : Timed Unit)
      (fun past => StillUp past ∧ CalibrationHeld c.config past)
      fun past => StillUp past ∧ Sampling c.config timings [] past := by
    refine attains_write (fun past h => howner past h.1 _) fun past h => ⟨?_, past, h.2, by simp⟩
    exact h.1.snoc nofun fun _ => nofun
  have hread : Attains c.descentGate
      (.collect timings.phyTrained fun entry => Sequence.read ⟨.phy, entry.offset⟩ :
        Timed (List UInt32)) (fun past => StillUp past ∧ Sampling c.config timings [] past)
      fun past => StillUp past ∧ ∃ values : List UInt32,
        values.length = timings.phyTrained.length ∧ Sampling c.config timings values past := by
    refine attains_collect_read (fun _ h => h.1) hreads (fun past _ _ v h => fun _ => h) ?_
    rintro past values ⟨-, before, hheld, rfl⟩ hlength hup
    exact ⟨hup, values, hlength, before, hheld, by simp [RegisterProgram.registers]⟩
  have hreturned : Attains c.descentGate
      (Sequence.write Phy.busOwner Phy.ownedByPhy : Timed Unit)
      (fun past => StillUp past ∧ ∃ values : List UInt32,
        values.length = timings.phyTrained.length ∧ Sampling c.config timings values past)
      (Sampled c) := by
    refine attains_write (fun past h => howner past h.1 _) ?_
    rintro past ⟨-, values, hlength, hsampling⟩
    exact Or.inr ⟨timings, htimings, values, past, hlength, hsampling, rfl⟩
  refine htaken.bind fun _ => hread.bind fun values => hreturned.bind fun _ => ?_
  exact attains_done values fun _ => id

/-! ### Taking the power away -/

theorem attains_powerOff_descent :
    Attains c.descentGate (powerOff c.config) (SampleFlushed c) (Descended c) := by
  have hgated : Attains c.descentGate (Sequence.write Clock.dramGate 0 : Timed Unit)
      (SampleFlushed c) (ClocksGated c) := by
    refine attains_write_occurred (fun past h => ?_) rfl
    exact {
      reach := fun hdomain => absurd hdomain (by decide)
      clocks := fun _ => h
      power := fun heq => absurd heq (by decide)
      powerOk := fun heq => absurd heq (by decide) }
  have hrequested : Attains c.descentGate
      (setBits Power.downRequest Power.dramDomain : Timed Unit) (ClocksGated c)
      (DownRequested c) := by
    refine attains_modify_occurred ((lasting_occurred _ _).outlasts _)
      (fun _ _ _ => descentGate_read rfl) (fun past v h => ?_) fun v =>
        Word.set_and_ne_zero v (by decide)
    exact {
      reach := fun hdomain => absurd hdomain (by decide)
      clocks := fun heq => absurd heq (by decide)
      power := fun _ _ => h
      powerOk := fun heq => absurd heq (by decide) }
  have hanswered : Attains c.descentGate
      (wait c.config Power.downRequest (allClear Power.dramDomain)) (DownRequested c)
      (PoweredDown c) :=
    attains_wait_saw ((lasting_occurred _ _).outlasts _) (fun _ _ _ => descentGate_read rfl)
      fun v hv => by simpa [allClear] using hv
  have hdropped : Attains c.descentGate (clearBits Reset.control Reset.phyPowerOk : Timed Unit)
      (PoweredDown c) (Descended c) := by
    have hlasting : Lasting (PoweredDown c) := lasting_saw _ _ _
    refine attains_modify (fun _ _ _ => descentGate_read rfl) (fun past v h => ?_)
      fun past v h => ⟨_, _, rfl, Word.clear_and v _, hlasting _ _ h⟩
    exact {
      reach := fun hdomain => absurd hdomain (by decide)
      clocks := fun heq => absurd heq (by decide)
      power := fun heq => absurd heq (by decide)
      powerOk := fun _ => hlasting _ _ h }
  exact hgated.bind fun _ => hrequested.bind fun _ => hanswered.bind fun _ => hdropped

/-! ### The whole way -/

/-- **Every way down keeps to the order**: on every hardware, whatever it returns and wherever the
way down may end, every access of its record passes its gate; and a way down that succeeds ends
by dropping power-ok. -/
theorem descent_in_order {H : Type} [RegisterFile H] (hclear : c.table.KeepsClear) (s : System H) :
    Trace.Gated c.descentGate (System.trace c.enterRetention s) ∧
      ∀ s', System.run c.enterRetention s = .ok (.ok ()) s' →
        Descended c (System.trace c.enterRetention s) := by
  have hsilent : ∀ past (e : Event), e.Silent → c.descentGate past e := fun _ _ =>
    accessGate_of_silent
  have hlogs : Outlasts StillUp fun e => ∃ r, e = .log r := by
    rintro past _ ⟨r, rfl⟩ h
    exact h.snoc nofun fun _ => nofun
  have hidle : Outlasts (fun past => StillUp past ∧ Unwritten past Phy.busOwner)
      fun e => ∃ r, e = .log r :=
    hlogs.and ((outlasts_unwritten _).mono fun _ => Event.silent_of_log)
  have htrained : ∀ timings ∈ c.table.points, Attains c.descentGate (readTrained timings)
      (fun past => (StillUp past ∧ CalibrationHeld c.config past) ∧ Unwritten past Phy.busOwner)
      (Sampled c) := fun timings htimings =>
    (attains_readTrained_descent htimings).mono (fun _ => And.left) fun _ => id
  have hkeeps : c.enterRetention.Keeps (Operation.recorder c.descentGate) []
      (Achieved (Descended c)) := by
    refine recorder_enterRetention_of hsilent hidle (attains_quietDown_descent hclear) ?_ htrained
      ?_ attains_powerOff_descent ?_
    -- Where values were saved by an earlier way down, none are read back.
    · exact fun past h => Or.inl ⟨h.1.2, h.2⟩
    · exact fun past h => occurred_last rfl h
    · exact ⟨⟨List.not_mem_nil, fun _ => List.not_mem_nil⟩, List.forall_mem_nil _⟩
  obtain ⟨-, hgated, hend⟩ := System.trace_recorded hkeeps s
  exact ⟨hgated, fun s' hrun => hend _ s' hrun () rfl⟩

end Controller

end Reclock
