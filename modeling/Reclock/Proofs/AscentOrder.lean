/-
**The order of the way up, and of both ways.**

Neither the controller nor the PHY is accessed before the power is back, power-ok is given under
reset, the clocks run and the resets are released; the one register that is read before that is
the one that says so.  From there on every step waits for the one before, and for the hardware to
show it.

The hardware may return anything for any read.  Two registers are changed by what was read from
them in a way that matters: the control of the resets keeps its resets, and the DFI control its
request for initialisation, only if they read back what was written to them.  Their gates ask for
no more than that, and of nothing else.

Main definitions:

* `Reclock.Controller.MayRise`, `MayWatch` — what may be written and read on the way up;
* `Reclock.Controller.ascentGate` — **the order**, as a gate for every access.

Main results:

* `Reclock.Controller.attains_powerUp_ascent` — the register sequence keeps to the order;
* `Reclock.Controller.retention_in_order` — **every way down and up keeps to its order**.
-/

import Reclock.Proofs.Ascent
import Reclock.Proofs.Brackets
import Reclock.Proofs.DescentOrder

set_option relaxedAutoImplicit false
set_option autoImplicit false

namespace Reclock

/-! ### The order -/

/-- A point of the table, with its timings. -/
def TimingTable.HasPoint (t : TimingTable) (point : FrequencyPoint) (timings : PointTimings) :
    Prop :=
  ∃ index, t.timings? index = some timings ∧ point = timings.point index

namespace Controller

open Sequence Sequences Trace

/-- The way up has come as far as a stage of it, to a point of the table. -/
def AtPoint (c : Controller) (stage : FrequencyPoint → PointTimings → List Event → Prop)
    (past : List Event) : Prop :=
  ∃ point timings, c.table.HasPoint point timings ∧ stage point timings past

/-- **What may be written on the way up**, given the events before. -/
structure MayRise (c : Controller) (past : List Event) (r : Register) (v : UInt32) : Prop where
  /-- Controller and PHY are left alone until they were seen out of reset. -/
  reach : r.window.inDramDomain = true → c.AtPoint (fun point _ => OutOfReset c.config point) past
  /-- No reset is released before the clock was switched. -/
  resets : r = Reset.control → ReadsBack past Reset.control (fun _ => True) →
    v &&& Reset.allResets ≠ Reset.allResets →
      c.AtPoint (fun point _ => ClockSwitched c.config point) past
  /-- The PHY is programmed only while the DRAM refreshes itself. -/
  phy : r.Guarded → c.AtPoint (AsleepAgain c.config) past
  /-- It holds its calibration until it was programmed. -/
  hold : r = Phy.lpCtrl → c.AtPoint (PhyLoaded c.config) past
  /-- Initialisation is asked for only once it does not hold its calibration any more. -/
  handshake : r = Ddrc.dfimisc →
    ReadsBack past Ddrc.dfimisc (fun w => w &&& Ddrc.dfiInitStart = 0) →
      v &&& Ddrc.dfiInitStart ≠ 0 → c.AtPoint (HoldReleased c.config) past
  /-- The DRAM leaves self-refresh only once controller and PHY agree again. -/
  wake : r = Ddrc.pwrctl → v &&& Ddrc.selfRefreshForced = 0 →
    c.AtPoint (SynchronisedAgain c.config) past
  /-- The controller is let go only once it operates normally. -/
  queue : r = Ddrc.dbg1 → c.AtPoint (AwakeAgain c.config) past
  /-- The ports are opened last. -/
  ports : ∀ port, r = Ddrc.pctrl port → c.AtPoint (Resumed c.config) past

/-- **What may be read on the way up**, given the events before: nothing of controller and PHY
until they were seen out of reset, but whether they are. -/
def MayWatch (c : Controller) (past : List Event) (r : Register) : Prop :=
  r.window.inDramDomain = true →
    c.AtPoint (fun point _ => OutOfReset c.config point) past ∨
      r = Phy.resetStat ∧ c.AtPoint (fun point _ => ResetsReleased c.config point) past

/-- **The order of the accesses on the way up**, as a gate for each. -/
def ascentGate (c : Controller) : List Event → Event → Prop := accessGate c.MayWatch c.MayRise

variable {c : Controller} {past : List Event} {r : Register} {v : UInt32}

/-! ### What may be accessed when -/

theorem ascentGate_read_outside (hr : r.window.inDramDomain = false) :
    c.ascentGate past (.read r v) := fun hdomain => by
  rw [hr] at hdomain
  cases hdomain

theorem mayRise_outside (hr : r.window.inDramDomain = false)
    (hresets : r = Reset.control → ReadsBack past Reset.control (fun _ => True) →
      v &&& Reset.allResets ≠ Reset.allResets →
        c.AtPoint (fun point _ => ClockSwitched c.config point) past) : c.MayRise past r v := by
  have hne : ∀ s : Register, s.window.inDramDomain = true → r ≠ s := fun s hs =>
    ne_of_apply_ne (fun q => q.window.inDramDomain) (by simp [hr, hs])
  exact {
    reach := fun hdomain => absurd rfl (hne r hdomain)
    resets := hresets
    phy := fun hguarded => absurd rfl (hne r (by rw [hguarded.1]; rfl))
    hold := fun heq => absurd heq (hne _ rfl)
    handshake := fun heq => absurd heq (hne _ rfl)
    wake := fun heq => absurd heq (hne _ rfl)
    queue := fun heq => absurd heq (hne _ rfl)
    ports := fun port heq => absurd heq (hne _ rfl) }

theorem mayRise_phy (hr : r.window = .phy)
    (hreach : c.AtPoint (fun point _ => OutOfReset c.config point) past)
    (hphy : r.Guarded → c.AtPoint (AsleepAgain c.config) past)
    (hhold : r = Phy.lpCtrl → c.AtPoint (PhyLoaded c.config) past) : c.MayRise past r v := by
  have hne : ∀ s : Register, s.window ≠ .phy → r ≠ s := fun s hs heq => hs (heq ▸ hr)
  exact {
    reach := fun _ => hreach
    resets := fun heq => absurd heq (hne _ (by decide))
    phy := hphy
    hold := hhold
    handshake := fun heq => absurd heq (hne _ (by decide))
    wake := fun heq => absurd heq (hne _ (by decide))
    queue := fun heq => absurd heq (hne _ (by decide))
    ports := fun port heq => absurd heq (hne (Ddrc.pctrl port) (by simp [Ddrc.pctrl])) }

theorem mayRise_ddrc (hr : r.window = .ddrc)
    (hreach : c.AtPoint (fun point _ => OutOfReset c.config point) past)
    (hhandshake : r = Ddrc.dfimisc →
      ReadsBack past Ddrc.dfimisc (fun w => w &&& Ddrc.dfiInitStart = 0) →
        v &&& Ddrc.dfiInitStart ≠ 0 → c.AtPoint (HoldReleased c.config) past)
    (hwake : r = Ddrc.pwrctl → v &&& Ddrc.selfRefreshForced = 0 →
      c.AtPoint (SynchronisedAgain c.config) past)
    (hqueue : r = Ddrc.dbg1 → c.AtPoint (AwakeAgain c.config) past)
    (hports : ∀ port, r = Ddrc.pctrl port → c.AtPoint (Resumed c.config) past) :
    c.MayRise past r v := by
  have hne : ∀ s : Register, s.window ≠ .ddrc → r ≠ s := fun s hs heq => hs (heq ▸ hr)
  exact {
    reach := fun _ => hreach
    resets := fun heq => absurd heq (hne _ (by decide))
    phy := fun hguarded => absurd (hr.symm.trans hguarded.1) (by decide)
    hold := fun heq => absurd heq (hne _ (by decide))
    handshake := hhandshake
    wake := hwake
    queue := hqueue
    ports := hports }

/-- The registers of the controller that wait for more than its reset. -/
def stagedControls : List Register := [Ddrc.dfimisc, Ddrc.pwrctl, Ddrc.dbg1]

theorem mayRise_plain (hr : r.window = .ddrc) (hstaged : r ∉ stagedControls)
    (hports : ∀ port, r ≠ Ddrc.pctrl port)
    (hreach : c.AtPoint (fun point _ => OutOfReset c.config point) past) : c.MayRise past r v := by
  simp only [stagedControls, List.mem_cons, List.not_mem_nil, or_false, not_or] at hstaged
  obtain ⟨hdfimisc, hpower, hdbg1⟩ := hstaged
  exact mayRise_ddrc hr hreach (fun heq => absurd heq hdfimisc) (fun heq => absurd heq hpower)
    (fun heq => absurd heq hdbg1) fun port heq => absurd heq (hports port)

/-- Of the registers with a name, only the control registers of the ports open them. -/
theorem ne_pctrl_of_named (hr : r ∈ Ddrc.named) (port : UInt8) : r ≠ Ddrc.pctrl port := by
  have hoffset : ∀ r ∈ Ddrc.named, r.offset.toNat < 0x490 := by decide
  exact (Ddrc.pctrl_ne (fun _ => hoffset r hr) port).symm

/-! ### The power, the resets and the clock -/

variable {point : FrequencyPoint} {timings : PointTimings}

section Outside

variable {before : List Event → Prop} {shown : UInt32 → Prop}

/-- Outside of controller and PHY, all but the resets may be changed at any time. -/
theorem attains_outside_modify {f : UInt32 → UInt32} (hr : r.window.inDramDomain = false)
    (hreset : r ≠ Reset.control) (hbefore : Lasting before) (hshown : ∀ v, shown (f v)) :
    Attains c.ascentGate (modify r f : Timed Unit) before fun past =>
      Occurred past (Event.Wrote r shown) before :=
  attains_modify_occurred (hbefore.outlasts _) (fun _ _ _ => ascentGate_read_outside hr)
    (fun _ _ _ => mayRise_outside hr fun heq => absurd heq hreset) hshown

theorem attains_outside_write {v : UInt32} (hr : r.window.inDramDomain = false)
    (hreset : r ≠ Reset.control) (hshown : shown v) :
    Attains c.ascentGate (Sequence.write r v : Timed Unit) before fun past =>
      Occurred past (Event.Wrote r shown) before :=
  attains_write_occurred (fun _ _ => mayRise_outside hr fun heq => absurd heq hreset) hshown

theorem attains_outside_wait {condition : UInt32 → Bool} (hr : r.window.inDramDomain = false)
    (hbefore : Lasting before) (hshown : ∀ v, condition v = true → shown v) :
    Attains c.ascentGate (wait c.config r condition) before fun past => Saw past r shown before :=
  attains_wait_saw (hbefore.outlasts _) (fun _ _ _ => ascentGate_read_outside hr) hshown

end Outside

theorem attains_switchToBypass_ascent (dataRate : UInt32) :
    Attains c.ascentGate (switchToBypass c.config dataRate) ClocksOn fun past =>
      Occurred past (Event.Wrote Clock.coreSelect fun v => v &&& Clock.selectBypass ≠ 0)
        (BypassReady c.config dataRate) := by
  have hdivided : Attains c.ascentGate _ ClocksOn fun past =>
      Occurred past (Event.Wrote Clock.bypassDivider fun v => v &&& Clock.bypassDividerMask =
        (bypassRatio c.config dataRate - 1) &&& Clock.bypassDividerMask) ClocksOn :=
    attains_outside_modify rfl (by decide) (lasting_occurred _ _) fun v => Word.replace_and v _ _
  have hupdated : Attains c.ascentGate
      (wait c.config Clock.bypassStat (anySet Clock.bypassUpdated)) _
      (BypassReady c.config dataRate) :=
    attains_outside_wait rfl (lasting_occurred _ _) fun v hv => by simpa [anySet] using hv
  refine hdivided.bind fun _ => hupdated.bind fun _ => ?_
  exact attains_outside_modify rfl (by decide) (lasting_saw _ _ _) fun v =>
    Word.set_and_ne_zero v (by decide)

theorem attains_switchToPll_ascent (dataRate : UInt32) :
    Attains c.ascentGate (switchToPll c.config dataRate) ClocksOn fun past =>
      Occurred past (Event.Wrote Clock.coreSelect fun v => v &&& Clock.selectBypass = 0)
        (PllReady c.config dataRate) := by
  have hstopped : Attains c.ascentGate (clearBits Clock.pllControl Clock.pllRun : Timed Unit)
      ClocksOn fun past =>
        Occurred past (Event.Wrote Clock.pllControl fun v => v &&& Clock.pllRun = 0) ClocksOn :=
    attains_outside_modify rfl (by decide) (lasting_occurred _ _) fun v => Word.clear_and v _
  have hdivided : Attains c.ascentGate (Sequence.write Clock.pllDividers
      (PllDividers.forDataRate dataRate c.config.referenceMhz).word : Timed Unit) _
      (PllDivided c.config dataRate) :=
    attains_outside_write rfl (by decide) rfl
  have hstarted : Attains c.ascentGate (setBits Clock.pllControl Clock.pllRun : Timed Unit)
      (PllDivided c.config dataRate) fun past =>
        Occurred past (Event.Wrote Clock.pllControl fun v => v &&& Clock.pllRun ≠ 0)
          (PllDivided c.config dataRate) :=
    attains_outside_modify rfl (by decide) (lasting_occurred _ _) fun v =>
      Word.set_and_ne_zero v (by decide)
  have hlocked : Attains c.ascentGate (wait c.config Clock.pllControl (anySet Clock.pllLock)) _
      (PllReady c.config dataRate) :=
    attains_outside_wait rfl (lasting_occurred _ _) fun v hv => by simpa [anySet] using hv
  refine hstopped.bind fun _ => hdivided.bind fun _ => hstarted.bind fun _ => ?_
  refine hlocked.bind fun _ => ?_
  exact attains_outside_modify rfl (by decide) (lasting_saw _ _ _) fun v => Word.clear_and v _

theorem attains_switchClock_ascent (point : FrequencyPoint) :
    Attains c.ascentGate (switchClock c.config point) ClocksOn (ClockSwitched c.config point) := by
  unfold switchClock ClockSwitched
  cases point.bypass with
  | true => exact attains_switchToBypass_ascent point.dataRate
  | false => exact attains_switchToPll_ascent point.dataRate

/-- The power and the clocks come back under reset, and the resets are released once the clock is
that of the point. -/
theorem attains_powerOn_ascent (hpoint : c.table.HasPoint point timings) :
    Attains c.ascentGate (powerOn c.config point) (fun _ => True)
      (OutOfReset c.config point) := by
  have hreset : ∀ past v, c.ascentGate past (.read Reset.control v) := fun _ _ =>
    ascentGate_read_outside rfl
  have hpower : Lasting PoweredUp := lasting_saw _ _ _
  have hasserted : Lasting ResetsAsserted := lasting_occurred _ _
  have hswitched : Lasting (ClockSwitched c.config point) :=
    lasting_clockSwitched _ _
  have hreleased : Lasting (ResetsReleased c.config point) := lasting_occurred _ _
  have hrequested : Attains c.ascentGate (setBits Power.upRequest Power.dramDomain : Timed Unit)
      (fun _ => True) fun past => Occurred past
        (Event.Wrote Power.upRequest fun v => v &&& Power.dramDomain ≠ 0) fun _ => True :=
    attains_outside_modify rfl (by decide) (fun _ _ => id) fun v =>
      Word.set_and_ne_zero v (by decide)
  have hanswered : Attains c.ascentGate
      (wait c.config Power.upRequest (allClear Power.dramDomain)) _ PoweredUp :=
    attains_outside_wait rfl (lasting_occurred _ _) fun v hv => by simpa [allClear] using hv
  have hresets : Attains c.ascentGate (setBits Reset.control Reset.allResets : Timed Unit)
      PoweredUp fun past => ResetsAsserted past ∧
        LastWrote past Reset.control fun v => v &&& Reset.allResets = Reset.allResets := by
    have hset : ∀ v : UInt32, (v ||| Reset.allResets) &&& Reset.allResets = Reset.allResets :=
      fun v => Word.set_and v _
    refine attains_modify (fun past v _ => hreset past v) (fun past v h => ?_) fun past v h => ?_
    · exact mayRise_outside rfl fun _ _ hclear => absurd (hset v) hclear
    · exact ⟨occurred_last ⟨_, rfl, hset v⟩ (hpower _ _ h), lastWrote_write _ _ (hset v)⟩
  -- The resets stay asserted only if they are read back.
  have hgood : Attains c.ascentGate (setBits Reset.control Reset.phyPowerOk : Timed Unit)
      (fun past => ResetsAsserted past ∧
        LastWrote past Reset.control fun v => v &&& Reset.allResets = Reset.allResets)
      PowerGood := by
    refine attains_modify (fun past v _ => hreset past v) (fun past v h => ?_) fun past v h => ?_
    · refine mayRise_outside rfl fun _ hback hclear => absurd ?_ hclear
      rw [Word.set_and_apart v (by decide)]
      exact hback.of_lastWrote h.2
    · exact occurred_last ⟨_, rfl, Word.set_and_ne_zero v (by decide)⟩ (hasserted _ _ h.1)
  have hclocks : Attains c.ascentGate (Sequence.write Clock.dramGate Clock.gateOn : Timed Unit)
      PowerGood ClocksOn :=
    attains_outside_write rfl (by decide) rfl
  have hreleases : Attains c.ascentGate (clearBits Reset.control Reset.allResets : Timed Unit)
      (ClockSwitched c.config point)
      (ResetsReleased c.config point) :=
    attains_modify_occurred (hswitched.outlasts _) (fun past v _ => hreset past v)
      (fun past v h => mayRise_outside rfl fun _ _ _ => ⟨point, timings, hpoint, h⟩)
      fun v => Word.clear_and v _
  have hdone : Attains c.ascentGate (wait c.config Phy.resetStat (anySet Phy.coldResetDone))
      (ResetsReleased c.config point)
      (OutOfReset c.config point) :=
    attains_wait_saw (hreleased.outlasts _)
      (fun past v h _ => Or.inr ⟨rfl, point, timings, hpoint, h⟩)
      fun v hv => by simpa [anySet] using hv
  refine hrequested.bind fun _ => hanswered.bind fun _ => hresets.bind fun _ => ?_
  refine hgood.bind fun _ => hclocks.bind fun _ => ?_
  exact (attains_switchClock_ascent _).bind fun _ => hreleases.bind fun _ => hdone

/-! ### The controller -/

/-- Once they are out of reset, controller and PHY may be read. -/
theorem ascentGate_read (hpoint : c.table.HasPoint point timings)
    (h : OutOfReset c.config point past) : c.ascentGate past (.read r v) :=
  fun _ => Or.inl ⟨point, timings, hpoint, h⟩

/-- Software-done may be changed, and anything polled, as long as controller and PHY are out of
reset. -/
theorem ascentGate_swctl (hpoint : c.table.HasPoint point timings)
    (h : OutOfReset c.config point past) (a : Access) (reply : a.Reply)
    (ha : Access.Writes (· = Ddrc.swctl) a) : c.ascentGate past (.ofAccess a reply) := by
  cases a with
  | read r => exact ascentGate_read hpoint h
  | write r v =>
      cases ha
      exact mayRise_plain rfl (by decide) (ne_pctrl_of_named (by decide))
        ⟨point, timings, hpoint, h⟩

theorem attains_loadController_ascent (hpoint : c.table.HasPoint point timings)
    (hclear : timings.KeepsClear) :
    Attains c.ascentGate (loadController c.config timings) (OutOfReset c.config point)
      (ControllerLoaded c.config point timings) := by
  have hout : Lasting (OutOfReset c.config point) := lasting_saw _ _ _
  have hloaded : Lasting (ControllerLoaded c.config point timings) := lasting_ran _ _
  refine attains_bracket (fun past _ _ h _ => hout past _ h) hloaded ?_ ?_
  · rintro past a reply (h | h) ha
    · exact ascentGate_swctl hpoint h a reply ha
    · exact ascentGate_swctl hpoint h.outOfReset a reply ha
  · refine attains_applyProgram (fun past done entry rest h hprogram => ?_) fun past h => ?_
    · have hmem : (⟨.ddrc, entry.offset⟩ : Register) ∈ timings.controller.registers .ddrc :=
        List.mem_map_of_mem (by simp [hprogram])
      have hnot := hclear.parts.1 _ hmem
      refine mayRise_plain rfl (fun hstaged => hnot ?_) (fun port heq => hnot ?_)
        ⟨point, timings, hpoint, hout _ _ h⟩
      · exact Register.mem_reserved_of_named ((by decide : ∀ r ∈ stagedControls, r ∈ Ddrc.named) _
          hstaged)
      · exact heq ▸ Ddrc.pctrl_mem_reserved port
    · exact ⟨past, [], by simp, h⟩

/-- The DFI control may be changed as long as the change does not ask for initialisation. -/
theorem mayRise_dfimisc (hpoint : c.table.HasPoint point timings)
    (h : OutOfReset c.config point past)
    (hstart : ReadsBack past Ddrc.dfimisc (fun w => w &&& Ddrc.dfiInitStart = 0) →
      v &&& Ddrc.dfiInitStart ≠ 0 → HoldReleased c.config point timings past) :
    c.MayRise past Ddrc.dfimisc v :=
  mayRise_ddrc rfl ⟨point, timings, hpoint, h⟩
    (fun _ hback hset => ⟨point, timings, hpoint, hstart hback hset⟩)
    (fun heq => absurd heq (by decide)) (fun heq => absurd heq (by decide))
    fun port heq => absurd heq (ne_pctrl_of_named (by decide) port)

/-- The frequency selectors are set while initialisation has not been asked for. -/
theorem attains_selectFrequency_ascent (hpoint : c.table.HasPoint point timings) :
    Attains c.ascentGate (selectFrequency c.config point.index)
      (fun past => ControllerLoaded c.config point timings past ∧ Unwritten past Ddrc.dfimisc)
      (FrequencySelected c.config point timings) := by
  have hloaded : Lasting (ControllerLoaded c.config point timings) := lasting_ran _ _
  have hselected : Lasting (FrequencySelected c.config point timings) := lasting_occurred _ _
  have htarget : Lasting (TargetSelected c.config point timings) := lasting_occurred _ _
  have hmstr2 : Attains c.ascentGate (modify Ddrc.mstr2 fun value =>
        value &&& ~~~Ddrc.targetFrequencyMask |||
          point.index.val.toUInt32 &&& Ddrc.targetFrequencyMask : Timed Unit)
      (ControllerLoaded c.config point timings) (TargetSelected c.config point timings) := by
    refine attains_modify_occurred (hloaded.outlasts _)
      (fun past v h => ascentGate_read hpoint h.outOfReset) (fun past v h => ?_) fun v =>
        Word.replace_and v _ _
    exact mayRise_plain rfl (by decide) (ne_pctrl_of_named (by decide))
      ⟨point, timings, hpoint, h.outOfReset⟩
  have hdfimisc : Attains c.ascentGate (modify Ddrc.dfimisc fun value =>
        value &&& ~~~Ddrc.dfiFrequencyMask |||
          point.index.val.toUInt32 <<< Ddrc.dfiFrequencyShift &&& Ddrc.dfiFrequencyMask :
        Timed Unit)
      (fun past => TargetSelected c.config point timings past ∧ Unwritten past Ddrc.dfimisc)
      (FrequencySelected c.config point timings) := by
    refine attains_modify (fun past v h => ascentGate_read hpoint h.1.outOfReset)
      (fun past v h => ?_) fun past v h => ?_
    · refine mayRise_dfimisc hpoint (htarget _ _ h.1).outOfReset fun hback hset => ?_
      -- The selector lies apart from the request, which is still as it was in the beginning.
      rw [Word.replace_and_apart v _ (by decide) (by decide)] at hset
      exact absurd (hback.of_unwritten h.2) hset
    · exact occurred_last ⟨_, rfl, Word.replace_and v _ _⟩ (htarget _ _ h.1)
  refine attains_bracket ?_ hselected ?_ ((hmstr2.unwritten ?_).bind fun _ => hdfimisc)
  · rintro past (r | ⟨r, v⟩) reply h ha
    · exact ⟨hloaded _ _ h.1, h.2.snoc rfl⟩
    · cases ha
      exact ⟨hloaded _ _ h.1, h.2.snoc rfl⟩
  · rintro past a reply (h | h) ha
    · exact ascentGate_swctl hpoint h.1.outOfReset a reply ha
    · exact ascentGate_swctl hpoint h.outOfReset a reply ha
  · exact within_modify (by decide) _

/-- A change in a bracket of two registers that wait for nothing but the reset. -/
theorem attains_plain_pair {before : List Event → Prop} {s : Register} {f g : UInt32 → UInt32}
    (hpoint : c.table.HasPoint point timings) (hbefore : Lasting before)
    (hout : ∀ past, before past → OutOfReset c.config point past)
    (hr : r ∈ Ddrc.named ∧ r ∉ stagedControls) (hs : s ∈ Ddrc.named ∧ s ∉ stagedControls) :
    Attains c.ascentGate (quasiDynamic c.config do
      modify r f
      modify s g) before before := by
  have hmodify : ∀ q f, q ∈ Ddrc.named ∧ q ∉ stagedControls →
      Attains c.ascentGate (modify q f : Timed Unit) before before := by
    intro q f hq
    -- Such a change adds nothing to the order: what was before it is after it too.
    refine attains_modify (fun past v h => ascentGate_read hpoint (hout past h))
      (fun past v h => ?_) fun past v h => hbefore _ _ (hbefore _ _ h)
    exact mayRise_plain (Ddrc.window_of_named q hq.1) hq.2 (ne_pctrl_of_named hq.1)
      ⟨point, timings, hpoint, hout _ (hbefore _ _ h)⟩
  refine attains_bracket (fun past _ _ h _ => hbefore past _ h) hbefore ?_
    ((hmodify r f hr).bind fun _ => hmodify s g hs)
  exact fun past a reply h ha => ascentGate_swctl hpoint (hout past (h.elim id id)) a reply ha

/-- Low power control may be changed as long as the change keeps self-refresh forced. -/
theorem mayRise_pwrctl (hpoint : c.table.HasPoint point timings)
    (h : OutOfReset c.config point past)
    (hwake : v &&& Ddrc.selfRefreshForced = 0 → SynchronisedAgain c.config point timings past) :
    c.MayRise past Ddrc.pwrctl v :=
  mayRise_ddrc rfl ⟨point, timings, hpoint, h⟩ (fun heq => absurd heq (by decide))
    (fun _ hclear => ⟨point, timings, hpoint, hwake hclear⟩) (fun heq => absurd heq (by decide))
    fun port heq => absurd heq (ne_pctrl_of_named (by decide) port)

theorem attains_enterSelfRefresh_ascent (hpoint : c.table.HasPoint point timings) :
    Attains c.ascentGate (enterSelfRefresh c.config) (FrequencySelected c.config point timings)
      (AsleepAgain c.config point timings) := by
  have hselected : Lasting (FrequencySelected c.config point timings) := lasting_occurred _ _
  have hset : ∀ v : UInt32, (v ||| Ddrc.selfRefreshForced) &&& Ddrc.selfRefreshForced ≠ 0 :=
    fun v => Word.set_and_ne_zero v (by decide)
  have hquiet : Attains c.ascentGate (quasiDynamic c.config do
      setBits Ddrc.rfshctl3 Ddrc.noAutoRefresh
      setBits Ddrc.zqctl0 Ddrc.noAutoZq) (FrequencySelected c.config point timings)
      (FrequencySelected c.config point timings) :=
    attains_plain_pair hpoint hselected (fun _ => FrequencySelected.outOfReset) (by decide)
      (by decide)
  have hforce : Attains c.ascentGate (setBits Ddrc.pwrctl Ddrc.selfRefreshForced : Timed Unit)
      (FrequencySelected c.config point timings) fun past =>
        FrequencySelected c.config point timings past ∧ Forced past := by
    refine attains_modify_lastWrote hselected
      (fun past v h => ascentGate_read hpoint h.outOfReset) (fun past v h => ?_) hset
    exact mayRise_pwrctl hpoint h.outOfReset fun hclear => absurd hclear (hset v)
  have hseen : Attains c.ascentGate (wait c.config Ddrc.stat inForcedSelfRefresh)
      (fun past => FrequencySelected c.config point timings past ∧ Forced past)
      (AsleepAgain c.config point timings) :=
    attains_wait_saw ((hselected.outlasts _).and (outlasts_lastWrote _ _))
      (fun past v h => ascentGate_read hpoint h.1.outOfReset) fun _ => inForcedSelfRefresh_iff.1
  exact hquiet.bind fun _ => hforce.bind fun _ => hseen

/-! ### The PHY -/

theorem attains_loadPhy_ascent (hpoint : c.table.HasPoint point timings)
    (hclear : timings.KeepsClear) (trained : Option (List UInt32)) :
    Attains c.ascentGate (loadPhy timings trained) (AsleepAgain c.config point timings)
      (PhyLoaded c.config point timings) := by
  have hasleep : Lasting (AsleepAgain c.config point timings) := lasting_saw _ _ _
  have hwrite : ∀ {past r v}, r.window = .phy → r ≠ Phy.lpCtrl →
      AsleepAgain c.config point timings past → c.ascentGate past (.write r v) :=
    fun hr hlow h => mayRise_phy hr ⟨point, timings, hpoint, h.outOfReset⟩
      (fun _ => ⟨point, timings, hpoint, h⟩) fun heq => absurd heq hlow
  let program := restored timings trained
  have htaken : Attains c.ascentGate
      (Sequence.write Phy.busOwner Phy.ownedBySoftware : Timed Unit)
      (AsleepAgain c.config point timings) fun past => ∃ before,
        past = before ++ [.write Phy.busOwner Phy.ownedBySoftware] ∧
          AsleepAgain c.config point timings before :=
    attains_write (fun past h => hwrite rfl (by decide) h) fun past h => ⟨past, rfl, h⟩
  have happlied : Attains c.ascentGate (applyProgram .phy program : Timed Unit)
      (fun past => ∃ before, past = before ++ [.write Phy.busOwner Phy.ownedBySoftware] ∧
        AsleepAgain c.config point timings before) fun past => ∃ before,
          past = before ++ .write Phy.busOwner Phy.ownedBySoftware :: program.writes .phy ∧
            AsleepAgain c.config point timings before := by
    refine attains_applyProgram ?_ ?_
    · rintro past done entry rest ⟨before, rfl, h⟩ hprogram
      refine hwrite rfl (fun hlow => ?_) (hasleep _ _ (hasleep _ _ h))
      have hmem : Phy.lpCtrl ∈ program.registers .phy :=
        hlow ▸ List.mem_map_of_mem (by simp [hprogram])
      exact hclear _ (mem_registers_of_restored hmem)
        (Register.mem_reserved_of_reachable (by decide))
    · rintro past ⟨before, rfl, h⟩
      exact ⟨before, by simp, h⟩
  have hreturned : Attains c.ascentGate (Sequence.write Phy.busOwner Phy.ownedByPhy : Timed Unit)
      (fun past => ∃ before,
        past = before ++ .write Phy.busOwner Phy.ownedBySoftware :: program.writes .phy ∧
          AsleepAgain c.config point timings before) (PhyLoaded c.config point timings) := by
    refine attains_write ?_ ?_
    · rintro past ⟨before, rfl, h⟩
      exact hwrite rfl (by decide) (hasleep _ _ h)
    · rintro past ⟨before, rfl, h⟩
      exact ⟨trained, before, [], by simp [program], h⟩
  -- The three programs are written as one, with nothing in between.
  rw [loadPhy_eq]
  refine htaken.bind fun _ => happlied.bind fun result => hreturned.bind fun _ => ?_
  exact attains_done result fun _ => id

/-- The PHY is asked to let go of its calibration. -/
theorem attains_lpCtrl_ascent (hpoint : c.table.HasPoint point timings) :
    Attains c.ascentGate (clearBits Phy.lpCtrl Phy.holdRequest : Timed Unit)
      (PhyLoaded c.config point timings) fun past => PhyLoaded c.config point timings past ∧
        LastWrote past Phy.lpCtrl fun v => v &&& Phy.holdRequest = 0 := by
  refine attains_modify_lastWrote (lasting_phyLoaded _ _ _)
    (fun past v h => ascentGate_read hpoint h.outOfReset) (fun past v h => ?_) fun v =>
      Word.clear_and v _
  exact mayRise_phy rfl ⟨point, timings, hpoint, h.outOfReset⟩
    (fun hguarded => absurd hguarded (by decide)) fun _ => ⟨point, timings, hpoint, h⟩

theorem attains_lpStat_ascent (hpoint : c.table.HasPoint point timings) :
    Attains c.ascentGate (wait c.config Phy.lpStat (allClear Phy.holdActive))
      (fun past => PhyLoaded c.config point timings past ∧
        LastWrote past Phy.lpCtrl fun v => v &&& Phy.holdRequest = 0)
      (HoldReleased c.config point timings) := by
  have hloaded : Lasting (PhyLoaded c.config point timings) := lasting_phyLoaded _ _ _
  exact attains_wait_saw ((hloaded.outlasts _).and (outlasts_lastWrote _ _))
    (fun past v h => ascentGate_read hpoint h.1.outOfReset) fun v hv => by
      simpa [allClear] using hv

/-! ### Synchronising, and waking up -/

/-- The DFI control may be changed in any way once the PHY does not hold its calibration. -/
theorem attains_dfimisc_ascent {before : List Event → Prop} {f : UInt32 → UInt32}
    (hpoint : c.table.HasPoint point timings) (hbefore : Lasting before)
    (hheld : ∀ past, before past → HoldReleased c.config point timings past)
    (shown : UInt32 → Prop) (hshown : ∀ v, shown (f v)) :
    Attains c.ascentGate (modify Ddrc.dfimisc f : Timed Unit) before fun past =>
      before past ∧ LastWrote past Ddrc.dfimisc shown := by
  refine attains_modify_lastWrote hbefore (fun past v h => ?_) (fun past v h => ?_) hshown
  · exact ascentGate_read hpoint (hheld past h).outOfReset
  · exact mayRise_dfimisc hpoint (hheld past h).outOfReset fun _ _ => hheld past h

theorem attains_dfiInit_ascent (hpoint : c.table.HasPoint point timings) :
    Attains c.ascentGate (dfiInit c.config) (HoldReleased c.config point timings)
      (SynchronisedAgain c.config point timings) := by
  have hheld : Lasting (HoldReleased c.config point timings) := lasting_saw _ _ _
  have hdropped : Lasting (DroppedAgain c.config point timings) := lasting_saw _ _ _
  have hsynchronised : Lasting (SynchronisedAgain c.config point timings) := lasting_saw _ _ _
  have hoff : Attains c.ascentGate
      (clearBits Ddrc.dfimisc (Ddrc.dfiCompleteEnable ||| Ddrc.dfiInitStart) : Timed Unit)
      (HoldReleased c.config point timings) (HoldReleased c.config point timings) :=
    (attains_dfimisc_ascent hpoint hheld (fun _ => id) (fun _ => True) fun _ => trivial).mono
      (fun _ => id) fun _ => And.left
  have hraised : Attains c.ascentGate (setBits Ddrc.dfimisc Ddrc.dfiInitStart : Timed Unit)
      (HoldReleased c.config point timings) fun past =>
        HoldReleased c.config point timings past ∧
          LastWrote past Ddrc.dfimisc fun v => v &&& Ddrc.dfiInitStart ≠ 0 :=
    attains_dfimisc_ascent hpoint hheld (fun _ => id) _ fun v =>
      Word.set_and_ne_zero v (by decide)
  have hseen : Attains c.ascentGate (wait c.config Ddrc.dfistat (allClear Ddrc.dfiComplete)) _
      (DroppedAgain c.config point timings) :=
    attains_wait_saw ((hheld.outlasts _).and (outlasts_lastWrote _ _))
      (fun past v h => ascentGate_read hpoint h.1.outOfReset) fun v hv => by
        simpa [allClear] using hv
  have hlowered : Attains c.ascentGate (clearBits Ddrc.dfimisc Ddrc.dfiInitStart : Timed Unit)
      (DroppedAgain c.config point timings) fun past =>
        DroppedAgain c.config point timings past ∧
          LastWrote past Ddrc.dfimisc fun v => v &&& Ddrc.dfiInitStart = 0 :=
    attains_dfimisc_ascent hpoint hdropped (fun _ => DroppedAgain.holdReleased) _ fun v =>
      Word.clear_and v _
  have hback : Attains c.ascentGate (wait c.config Ddrc.dfistat (anySet Ddrc.dfiComplete)) _
      (SynchronisedAgain c.config point timings) :=
    attains_wait_saw ((hdropped.outlasts _).and (outlasts_lastWrote _ _))
      (fun past v h => ascentGate_read hpoint h.1.holdReleased.outOfReset) fun v hv => by
        simpa [anySet] using hv
  have hon : Attains c.ascentGate (setBits Ddrc.dfimisc Ddrc.dfiCompleteEnable : Timed Unit)
      (SynchronisedAgain c.config point timings) (SynchronisedAgain c.config point timings) :=
    (attains_dfimisc_ascent hpoint hsynchronised (fun _ => SynchronisedAgain.holdReleased)
      (fun _ => True) fun _ => trivial).mono (fun _ => id) fun _ => And.left
  refine attains_bracket (fun past _ _ h _ => hheld past _ h) hsynchronised ?_ ?_
  · rintro past a reply (h | h) ha
    · exact ascentGate_swctl hpoint h.outOfReset a reply ha
    · exact ascentGate_swctl hpoint h.holdReleased.outOfReset a reply ha
  · refine hoff.bind fun _ => hraised.bind fun _ => hseen.bind fun _ => ?_
    exact hlowered.bind fun _ => hback.bind fun _ => hon

theorem attains_exitSelfRefresh_ascent (hpoint : c.table.HasPoint point timings) :
    Attains c.ascentGate (exitSelfRefresh c.config) (SynchronisedAgain c.config point timings)
      (AwakeAgain c.config point timings) := by
  have hsynchronised : Lasting (SynchronisedAgain c.config point timings) := lasting_saw _ _ _
  have hout : ∀ past, SynchronisedAgain c.config point timings past →
      OutOfReset c.config point past := fun _ h => h.holdReleased.outOfReset
  have hbusy : Attains c.ascentGate (quasiDynamic c.config do
      clearBits Ddrc.rfshctl3 Ddrc.noAutoRefresh
      clearBits Ddrc.zqctl0 Ddrc.noAutoZq) (SynchronisedAgain c.config point timings)
      (SynchronisedAgain c.config point timings) :=
    attains_plain_pair hpoint hsynchronised hout (by decide) (by decide)
  have hleft : Attains c.ascentGate (clearBits Ddrc.pwrctl Ddrc.selfRefreshForced : Timed Unit)
      (SynchronisedAgain c.config point timings) fun past =>
        SynchronisedAgain c.config point timings past ∧
          LastWrote past Ddrc.pwrctl fun v => v &&& Ddrc.selfRefreshForced = 0 :=
    attains_modify_lastWrote hsynchronised
      (fun past v h => ascentGate_read hpoint (hout past h))
      (fun past v h => mayRise_pwrctl hpoint (hout past h) fun _ => h) fun v => Word.clear_and v _
  have hseen : Attains c.ascentGate (wait c.config Ddrc.stat inNormalMode) _
      (AwakeAgain c.config point timings) :=
    attains_wait_saw ((hsynchronised.outlasts _).and (outlasts_lastWrote _ _))
      (fun past v h => ascentGate_read hpoint (hout past h.1)) fun _ => inNormalMode_iff.1
  exact hbusy.bind fun _ => hleft.bind fun _ => hseen

theorem attains_resume_ascent (hpoint : c.table.HasPoint point timings) :
    Attains c.ascentGate resume (AwakeAgain c.config point timings)
      (Reopening c.config point timings) := by
  have hawake : Lasting (AwakeAgain c.config point timings) := lasting_saw _ _ _
  refine attains_modify (fun past v h => ascentGate_read hpoint h.outOfReset)
    (fun past v h => ?_) fun past v h => ?_
  · have hstill := hawake _ [.read Ddrc.dbg1 v] h
    exact mayRise_ddrc rfl ⟨point, timings, hpoint, hstill.outOfReset⟩
      (fun heq => absurd heq (by decide)) (fun heq => absurd heq (by decide))
      (fun _ => ⟨point, timings, hpoint, hstill⟩)
      fun port heq => absurd heq (ne_pctrl_of_named (by decide) port)
  · exact ⟨_, _, [], rfl, Word.clear_and v _, hawake _ _ h, List.forall_mem_nil _⟩

theorem attains_enablePorts_ascent (hpoint : c.table.HasPoint point timings) :
    Attains c.ascentGate (enablePorts c.config) (Reopening c.config point timings)
      (Ascended c.config point timings) := by
  have hresumed : Lasting (Resumed c.config point timings) := lasting_occurred _ _
  have hopened : Attains c.ascentGate (enablePorts c.config) (Reopening c.config point timings)
      fun past => Reopening c.config point timings past ∧ ∀ port ∈ c.config.ports,
        LastWrote past (Ddrc.pctrl port) fun v => v &&& Ddrc.portEnable ≠ 0 := by
    refine attains_forEach_modify (fun past _ _ v h => ascentGate_read hpoint h.resumed.outOfReset)
      (fun past port _ v h => ?_) (fun past port _ v h => ?_)
      fun v => Word.set_and_ne_zero v (by decide)
    · have hstill := hresumed _ [.read (Ddrc.pctrl port) v] h.resumed
      have hne : ∀ r ∈ Ddrc.named, Ddrc.pctrl port ≠ r := fun r hr =>
        (ne_pctrl_of_named hr port).symm
      exact mayRise_ddrc rfl ⟨point, timings, hpoint, hstill.outOfReset⟩
        (fun heq => absurd heq (hne _ (by decide))) (fun heq => absurd heq (hne _ (by decide)))
        (fun heq => absurd heq (hne _ (by decide))) fun _ _ => ⟨point, timings, hpoint, hstill⟩
    · rw [List.append_assoc]
      refine h.append fun e he => ?_
      rcases List.mem_pair.1 he with rfl | rfl
      · exact ⟨port, rfl⟩
      · exact ⟨port, rfl⟩
  exact hopened.mono (fun _ => id) fun past h =>
    ⟨h.1, fun port hport => h.2 port (Config.mem_ports.2 hport)⟩

/-! ### The whole way -/

/-- **The register sequence of the way up keeps to the order**, whatever it reads. -/
theorem attains_powerUp_ascent (hpoint : c.table.HasPoint point timings)
    (hclear : timings.KeepsClear) (trained : Option (List UInt32)) :
    Attains c.ascentGate (powerUp c.config point timings trained)
      (fun past => Unwritten past Ddrc.dfimisc) (Ascended c.config point timings) := by
  -- Nothing before the selection of the frequency may write the register of the request.
  have hpowered : (powerOn c.config point).Within (Access.Writes (· ≠ Ddrc.dfimisc)) :=
    within_powerOn (by decide) (by decide) (by decide) (by decide)
  have hloaded : (loadController c.config timings).Within (Access.Writes (· ≠ Ddrc.dfimisc)) := by
    refine within_loadController (by decide) ?_
    rintro r hr rfl
    exact hclear.parts.1 _ hr (Register.mem_reserved_of_named (by decide))
  have hon : Attains c.ascentGate (powerOn c.config point) (fun past => Unwritten past Ddrc.dfimisc)
      fun past => OutOfReset c.config point past ∧ Unwritten past Ddrc.dfimisc :=
    ((attains_powerOn_ascent hpoint).unwritten hpowered).mono (fun _ h => ⟨trivial, h⟩) fun _ => id
  refine hon.bind fun _ => ?_
  refine ((attains_loadController_ascent hpoint hclear).unwritten hloaded).bind fun _ => ?_
  refine (attains_selectFrequency_ascent hpoint).bind fun _ => ?_
  refine (attains_enterSelfRefresh_ascent hpoint).bind fun _ => ?_
  refine (attains_loadPhy_ascent hpoint hclear trained).bind fun _ => ?_
  refine (attains_lpCtrl_ascent hpoint).bind fun _ => ?_
  refine (attains_lpStat_ascent hpoint).bind fun _ => ?_
  refine (attains_dfiInit_ascent hpoint).bind fun _ => ?_
  refine (attains_exitSelfRefresh_ascent hpoint).bind fun _ => ?_
  exact (attains_resume_ascent hpoint).bind fun _ => attains_enablePorts_ascent hpoint

/-- **Every way up keeps to the order**: on every hardware, whatever it returns and wherever the
way up may end, every access of its record passes its gate; and a way up that succeeds ends by
opening the ports, at a point of the table. -/
theorem ascent_in_order {H : Type} [RegisterFile H] (hclear : c.table.KeepsClear) (s : System H) :
    Trace.Gated c.ascentGate (System.trace c.exitRetention s) ∧
      ∀ s', System.run c.exitRetention s = .ok (.ok ()) s' →
        c.AtPoint (Ascended c.config) (System.trace c.exitRetention s) := by
  have hsilent : ∀ past (e : Event), e.Silent → c.ascentGate past e := fun _ _ =>
    accessGate_of_silent
  have hon : Outlasts (c.AtPoint (Ascended c.config)) Event.Silent := by
    rintro past e he ⟨point, timings, hpoint, hreopening, hports⟩
    refine ⟨point, timings, hpoint, hreopening.append (by simpa using he.onPorts), ?_⟩
    exact fun port hport => (hports port hport).append (by simpa using written?_of_silent he _)
  have hup : ∀ index timings trained, c.table.timings? index = some timings →
      Attains c.ascentGate (powerUp c.config (timings.point index) timings trained)
        (fun past => Unwritten past Ddrc.dfimisc) (c.AtPoint (Ascended c.config)) := by
    intro index timings trained htimings
    have hpoint : c.table.HasPoint (timings.point index) timings := ⟨index, htimings, rfl⟩
    exact (attains_powerUp_ascent hpoint (hclear.timings htimings) trained).mono (fun _ => id)
      fun past h => ⟨_, timings, hpoint, h⟩
  have hkeeps : c.exitRetention.Keeps (Operation.recorder c.ascentGate) []
      (Achieved (c.AtPoint (Ascended c.config))) :=
    recorder_exitRetention_of hsilent hon hup (List.forall_mem_nil _)
  obtain ⟨-, hgated, hend⟩ := System.trace_recorded hkeeps s
  exact ⟨hgated, fun s' hrun => hend _ s' hrun () rfl⟩

/-- **Every way down and every way up keeps to its order**: on every hardware, whatever it returns
and wherever they may end, every access of their records passes its gate; a way down that succeeds
ends by dropping power-ok, and a way up that does by opening the ports. -/
theorem retention_in_order {H : Type} [RegisterFile H] (hclear : c.table.KeepsClear)
    (s : System H) :
    (Trace.Gated c.descentGate (System.trace c.enterRetention s) ∧
      ∀ s', System.run c.enterRetention s = .ok (.ok ()) s' →
        Descended c (System.trace c.enterRetention s)) ∧
    Trace.Gated c.ascentGate (System.trace c.exitRetention s) ∧
      ∀ s', System.run c.exitRetention s = .ok (.ok ()) s' →
        c.AtPoint (Ascended c.config) (System.trace c.exitRetention s) :=
  ⟨descent_in_order hclear s, ascent_in_order hclear s⟩

/-- The sample board goes down and comes up again, both all the way and both in order; on the way up
both registers read back that have to. -/
theorem retention_in_order_sample :
    Board.sampleTable.KeepsClear ∧ ∃ s₁ s₂,
      System.run Board.controller.enterRetention Board.boot = .ok (.ok ()) s₁ ∧
      System.run Board.controller.exitRetention s₁ = .ok (.ok ()) s₂ ∧
      ReadsBack (System.trace Board.controller.exitRetention s₁) Reset.control (fun _ => True) ∧
      ReadsBack (System.trace Board.controller.exitRetention s₁) Ddrc.dfimisc
        (fun w => w &&& Ddrc.dfiInitStart = 0) ∧
      Trace.Gated Board.controller.descentGate
        (System.trace Board.controller.enterRetention Board.boot) ∧
      Descended Board.controller (System.trace Board.controller.enterRetention Board.boot) ∧
      Trace.Gated Board.controller.ascentGate
        (System.trace Board.controller.exitRetention s₁) ∧
      Board.controller.AtPoint (Ascended Board.controller.config)
        (System.trace Board.controller.exitRetention s₁) := by
  have hclear : Board.controller.table.KeepsClear := Board.sampleTable_keepsClear
  obtain ⟨_, s₁, hdown, hs₁⟩ : Board.controller.enterRetention.Completes System.answer Board.boot
      fun _ s => ((Procedure.finished? (System.run Board.controller.exitRetention s)).isSome &&
        decide (ReadsBack (System.trace Board.controller.exitRetention s) Reset.control
            (fun _ => True) ∧
          ReadsBack (System.trace Board.controller.exitRetention s) Ddrc.dfimisc
            (fun w => w &&& Ddrc.dfiInitStart = 0))) = true :=
    Procedure.completes_of_finished? (by decide +kernel)
  rw [Bool.and_eq_true, decide_eq_true_eq] at hs₁
  obtain ⟨hexit, hresets, hdfimisc⟩ := hs₁
  obtain ⟨_, s₂, hup, -⟩ : Board.controller.exitRetention.Completes System.answer s₁
      fun _ _ => true = true :=
    Procedure.completes_of_finished? (by rw [Option.any_true]; exact hexit)
  obtain ⟨⟨hfalls, hdescended⟩, -⟩ := retention_in_order hclear Board.boot
  obtain ⟨-, hrises, hascended⟩ := retention_in_order hclear s₁
  exact ⟨hclear, s₁, s₂, hdown, hup, hresets, hdfimisc, hfalls, hdescended s₁ hdown, hrises,
    hascended s₂ hup⟩

end Controller

end Reclock
