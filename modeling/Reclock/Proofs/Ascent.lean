/-
**How far the way up has come.**

The way up brings the power back, gives power-ok under reset, starts the clocks and releases the
resets; then it programs the controller, puts it back into self-refresh, programs the PHY, lets it
calibrate again and synchronises both; last the DRAM leaves self-refresh, and the queues and ports
open.  Each stage says what has happened, and that it happened after the stage before, so the last
ones tell the whole story.

Main definitions:

* `Reclock.Trace.ReadsBack` — a register reads back what was last written to it;
* `Reclock.Trace.PoweredUp`, `ResetsAsserted`, `PowerGood`, `ClocksOn`, `ClockSwitched`,
  `ResetsReleased`, `OutOfReset` — the stages until controller and PHY can be reached;
* `Reclock.Trace.ControllerLoaded`, `TargetSelected`, `FrequencySelected`, `AsleepAgain`,
  `PhyLoaded`, `HoldReleased` — the stages until both are programmed;
* `Reclock.Trace.DroppedAgain`, `SynchronisedAgain`, `AwakeAgain`, `Resumed`, `Ascended` — the
  stages until the subsystem runs.

Main results:

* `Reclock.Trace.ReadsBack.of_lastWrote`, `of_unwritten` — what a register that reads back shows;
* `Reclock.Trace.readsBack_iff` — whether one does can be decided, event by event;
* `Reclock.Trace.Resumed.outOfReset`, with one for every stage — the stages follow each other.
-/

import Reclock.Proofs.Attainment
import Reclock.Proofs.PowerCycle

set_option relaxedAutoImplicit false
set_option autoImplicit false

namespace Reclock

/-- The accesses of the control registers of the ports, and all that is no register access. -/
def Event.OnPorts : Event → Prop
  | .read r _ => ∃ port, r = Ddrc.pctrl port
  | .write r _ => ∃ port, r = Ddrc.pctrl port
  | _ => True

theorem Event.Silent.onPorts {e : Event} (he : e.Silent) : e.OnPorts := by
  cases e with
  | read r v => exact he.elim
  | write r v => exact he.elim
  | _ => trivial

namespace Trace

/-! ### Registers that read back -/

/-- Every read of a register so far gave the value last written to it, or, where it had not been
written, one that satisfies a condition. -/
def ReadsBack (past : List Event) (r : Register) (initially : UInt32 → Prop) : Prop :=
  ∀ before v after, past = before ++ .read r v :: after →
    LastWrote before r (fun w => w = v) ∨ Unwritten before r ∧ initially v

variable {past : List Event} {r : Register} {v : UInt32} {initially condition : UInt32 → Prop}

theorem ReadsBack.last (h : ReadsBack (past ++ [.read r v]) r initially) :
    LastWrote past r (fun w => w = v) ∨ Unwritten past r ∧ initially v :=
  h past v [] rfl

/-- What was last written is what is read. -/
theorem ReadsBack.of_lastWrote (h : ReadsBack (past ++ [.read r v]) r initially)
    (hlast : LastWrote past r condition) : condition v := by
  rcases h.last with ⟨w, hw, rfl⟩ | ⟨hnone, -⟩
  · obtain ⟨u, hu, hcondition⟩ := hlast
    rwa [Option.mem_unique hw hu]
  · exact absurd hlast hnone.not_lastWrote

/-- What has not been written reads as it did in the beginning. -/
theorem ReadsBack.of_unwritten (h : ReadsBack (past ++ [.read r v]) r initially)
    (hnone : Unwritten past r) : initially v :=
  h.last.elim (fun hlast => absurd hlast hnone.not_lastWrote) And.right

instance (past : List Event) (r : Register) (condition : UInt32 → Prop)
    [DecidablePred condition] : Decidable (LastWrote past r condition) :=
  inferInstanceAs (Decidable (∃ v ∈ _, condition v))

instance (past : List Event) (r : Register) : Decidable (Unwritten past r) :=
  inferInstanceAs (Decidable (∀ e ∈ past, written? r e = none))

/-- What an event reads from a register is what was last written to it, or what it was in the
beginning. -/
def Recalls (past : List Event) (r : Register) (initially : UInt32 → Prop) : Event → Prop
  | .read s v => s = r → LastWrote past r (fun w => w = v) ∨ Unwritten past r ∧ initially v
  | _ => True

instance (past : List Event) (r : Register) (initially : UInt32 → Prop)
    [DecidablePred initially] (e : Event) : Decidable (Recalls past r initially e) :=
  match e with
  | .read s v => inferInstanceAs (Decidable (s = r → LastWrote past r (fun w => w = v) ∨
      Unwritten past r ∧ initially v))
  | .write _ _ => isTrue trivial
  | .signal _ => isTrue trivial
  | .log _ => isTrue trivial
  | .logFlush => isTrue trivial

/-- Whether a register reads back can be told event by event. -/
theorem readsBack_iff : ReadsBack past r initially ↔
    ∀ i, (hi : i < past.length) → Recalls (past.take i) r initially past[i] := by
  constructor
  · intro h i hi
    cases hevent : past[i] with
    | read s v =>
        rintro rfl
        refine h (past.take i) v (past.drop (i + 1)) ?_
        rw [← hevent, List.getElem_cons_drop, List.take_append_drop]
    | _ => trivial
  · rintro h before v after rfl
    have hi : before.length < (before ++ .read r v :: after).length := by simp
    simpa [Recalls] using h before.length hi

instance (past : List Event) (r : Register) (initially : UInt32 → Prop)
    [DecidablePred initially] : Decidable (ReadsBack past r initially) :=
  decidable_of_iff _ readsBack_iff.symm

/-! ### How far the way up has come -/

/-- Events happened in a row, and the events before them satisfied a condition. -/
def Ran (past block : List Event) (moment : List Event → Prop) : Prop :=
  ∃ before after, past = before ++ block ++ after ∧ moment before

theorem lasting_ran (block : List Event) (moment : List Event → Prop) :
    Lasting fun past => Ran past block moment := by
  rintro past more ⟨before, after, rfl, hbefore⟩
  exact ⟨before, after ++ more, by simp, hbefore⟩

theorem Ran.earlier {block : List Event} {moment shown : List Event → Prop}
    (h : Ran past block moment) (hlasting : Lasting shown)
    (hmoment : ∀ before, moment before → shown before) : shown past := by
  obtain ⟨before, after, rfl, hbefore⟩ := h
  exact hlasting _ _ (hlasting _ _ (hmoment before hbefore))

/-- The power was asked for, and the request was seen to be answered. -/
def PoweredUp (past : List Event) : Prop :=
  Saw past Power.upRequest (fun v => v &&& Power.dramDomain = 0) fun before =>
    Occurred before (Event.Wrote Power.upRequest fun v => v &&& Power.dramDomain ≠ 0)
      fun _ => True

/-- After that the resets were asserted. -/
def ResetsAsserted (past : List Event) : Prop :=
  Occurred past (Event.Wrote Reset.control fun v => v &&& Reset.allResets = Reset.allResets)
    PoweredUp

/-- After that the PHY was given power-ok. -/
def PowerGood (past : List Event) : Prop :=
  Occurred past (Event.Wrote Reset.control fun v => v &&& Reset.phyPowerOk ≠ 0) ResetsAsserted

/-- After that the clocks of the subsystem were started. -/
def ClocksOn (past : List Event) : Prop :=
  Occurred past (Event.Wrote Clock.dramGate fun v => v = Clock.gateOn) PowerGood

/-- After that the bypass divider was set up for a data rate, and the update seen to have taken
effect. -/
def BypassReady (config : Config) (dataRate : UInt32) (past : List Event) : Prop :=
  Saw past Clock.bypassStat (fun v => v &&& Clock.bypassUpdated ≠ 0) fun before =>
    Occurred before (Event.Wrote Clock.bypassDivider fun v => v &&& Clock.bypassDividerMask =
      (bypassRatio config dataRate - 1) &&& Clock.bypassDividerMask) ClocksOn

/-- After that the PLL was stopped, and given the dividers for a data rate. -/
def PllDivided (config : Config) (dataRate : UInt32) (past : List Event) : Prop :=
  Occurred past (Event.Wrote Clock.pllDividers fun v =>
    v = (PllDividers.forDataRate dataRate config.referenceMhz).word) fun before =>
      Occurred before (Event.Wrote Clock.pllControl fun v => v &&& Clock.pllRun = 0) ClocksOn

/-- After that the PLL was started again, and seen to have locked. -/
def PllReady (config : Config) (dataRate : UInt32) (past : List Event) : Prop :=
  Saw past Clock.pllControl (fun v => v &&& Clock.pllLock ≠ 0) fun before =>
    Occurred before (Event.Wrote Clock.pllControl fun v => v &&& Clock.pllRun ≠ 0)
      (PllDivided config dataRate)

/-- After either the core clock was switched to that of a point. -/
def ClockSwitched (config : Config) (point : FrequencyPoint) (past : List Event) : Prop :=
  if point.bypass then
    Occurred past (Event.Wrote Clock.coreSelect fun v => v &&& Clock.selectBypass ≠ 0)
      (BypassReady config point.dataRate)
  else
    Occurred past (Event.Wrote Clock.coreSelect fun v => v &&& Clock.selectBypass = 0)
      (PllReady config point.dataRate)

/-- After that the resets were released. -/
def ResetsReleased (config : Config) (point : FrequencyPoint) (past : List Event) : Prop :=
  Occurred past (Event.Wrote Reset.control fun v => v &&& Reset.allResets = 0)
    (ClockSwitched config point)

/-- After that the cold reset was seen to be complete. -/
def OutOfReset (config : Config) (point : FrequencyPoint) (past : List Event) : Prop :=
  Saw past Phy.resetStat (fun v => v &&& Phy.coldResetDone ≠ 0) (ResetsReleased config point)

section Point

variable (config : Config) (point : FrequencyPoint) (timings : PointTimings)

/-- After that the controller was given the timings of the point. -/
def ControllerLoaded (past : List Event) : Prop :=
  Ran past (timings.controller.writes .ddrc) (OutOfReset config point)

/-- After that the frequency selector of the controller was pointed at it. -/
def TargetSelected (past : List Event) : Prop :=
  Occurred past (Event.Wrote Ddrc.mstr2 fun v => v &&& Ddrc.targetFrequencyMask =
    point.index.val.toUInt32 &&& Ddrc.targetFrequencyMask) (ControllerLoaded config point timings)

/-- After that the one of the DFI was, too. -/
def FrequencySelected (past : List Event) : Prop :=
  Occurred past (Event.Wrote Ddrc.dfimisc fun v => v &&& Ddrc.dfiFrequencyMask =
    point.index.val.toUInt32 <<< Ddrc.dfiFrequencyShift &&& Ddrc.dfiFrequencyMask)
      (TargetSelected config point timings)

/-- After that the DRAM was seen in forced self-refresh, which had been asked for before. -/
def AsleepAgain (past : List Event) : Prop :=
  Saw past Ddrc.stat (fun v => v &&& Ddrc.operatingModeMask = Ddrc.modeSelfRefresh ∧
    v &&& Ddrc.selfRefreshTypeMask = Ddrc.selfRefreshSoftware) fun before =>
      FrequencySelected config point timings before ∧ Forced before

/-- After that the PHY was programmed, in one bracket and with its trained values in the place that
they have in the programs of the point. -/
def PhyLoaded (past : List Event) : Prop :=
  ∃ trained, Ran past
    (.write Phy.busOwner Phy.ownedBySoftware ::
      (Sequences.restored timings trained).writes .phy ++ [.write Phy.busOwner Phy.ownedByPhy])
    (AsleepAgain config point timings)

/-- After that the PHY was no longer asked to hold its calibration, and seen not to. -/
def HoldReleased (past : List Event) : Prop :=
  Saw past Phy.lpStat (fun v => v &&& Phy.holdActive = 0) fun before =>
    PhyLoaded config point timings before ∧
      LastWrote before Phy.lpCtrl fun v => v &&& Phy.holdRequest = 0

/-- After that initialisation was asked for, and completion seen to have dropped. -/
def DroppedAgain (past : List Event) : Prop :=
  Saw past Ddrc.dfistat (fun v => v &&& Ddrc.dfiComplete = 0) fun before =>
    HoldReleased config point timings before ∧
      LastWrote before Ddrc.dfimisc fun v => v &&& Ddrc.dfiInitStart ≠ 0

/-- After that it was no longer asked for, and completion seen to have come back. -/
def SynchronisedAgain (past : List Event) : Prop :=
  Saw past Ddrc.dfistat (fun v => v &&& Ddrc.dfiComplete ≠ 0) fun before =>
    DroppedAgain config point timings before ∧
      LastWrote before Ddrc.dfimisc fun v => v &&& Ddrc.dfiInitStart = 0

/-- After that self-refresh was no longer forced, and the controller seen to operate normally. -/
def AwakeAgain (past : List Event) : Prop :=
  Saw past Ddrc.stat (fun v => v &&& Ddrc.operatingModeMask = Ddrc.modeNormal) fun before =>
    SynchronisedAgain config point timings before ∧
      LastWrote before Ddrc.pwrctl fun v => v &&& Ddrc.selfRefreshForced = 0

/-- After that the controller was let go. -/
def Resumed (past : List Event) : Prop :=
  Occurred past (Event.Wrote Ddrc.dbg1 fun v => v &&& Ddrc.halted = 0)
    (AwakeAgain config point timings)

/-- Since then nothing has been accessed but the control registers of the ports. -/
def Reopening (past : List Event) : Prop :=
  ∃ before v after, past = before ++ .write Ddrc.dbg1 v :: after ∧ v &&& Ddrc.halted = 0 ∧
    AwakeAgain config point timings before ∧ ∀ e ∈ after, e.OnPorts

/-- **The end of the way up**: all ports were opened. -/
def Ascended (past : List Event) : Prop :=
  Reopening config point timings past ∧ ∀ port : UInt8, port.toNat < config.axiPorts.toNat →
    LastWrote past (Ddrc.pctrl port) fun v => v &&& Ddrc.portEnable ≠ 0

end Point

/-! ### One after the other -/

section Chain

variable {config : Config} {point : FrequencyPoint} {timings : PointTimings}

theorem lasting_clockSwitched (config : Config) (point : FrequencyPoint) :
    Lasting (ClockSwitched config point) := by
  intro past more
  unfold ClockSwitched
  split
  · exact lasting_occurred _ _ past more
  · exact lasting_occurred _ _ past more

theorem lasting_phyLoaded (config : Config) (point : FrequencyPoint) (timings : PointTimings) :
    Lasting (PhyLoaded config point timings) := by
  rintro past more ⟨trained, h⟩
  exact ⟨trained, lasting_ran _ _ past more h⟩

theorem ControllerLoaded.outOfReset (h : ControllerLoaded config point timings past) :
    OutOfReset config point past :=
  h.earlier (lasting_saw _ _ _) fun _ => id

theorem TargetSelected.outOfReset (h : TargetSelected config point timings past) :
    OutOfReset config point past :=
  h.earlier (lasting_saw _ _ _) fun _ => ControllerLoaded.outOfReset

theorem FrequencySelected.outOfReset (h : FrequencySelected config point timings past) :
    OutOfReset config point past :=
  h.earlier (lasting_saw _ _ _) fun _ => TargetSelected.outOfReset

theorem AsleepAgain.outOfReset (h : AsleepAgain config point timings past) :
    OutOfReset config point past :=
  h.earlier (lasting_saw _ _ _) fun _ h => h.1.outOfReset

theorem PhyLoaded.outOfReset (h : PhyLoaded config point timings past) :
    OutOfReset config point past := by
  obtain ⟨trained, h⟩ := h
  exact h.earlier (lasting_saw _ _ _) fun _ => AsleepAgain.outOfReset

theorem HoldReleased.outOfReset (h : HoldReleased config point timings past) :
    OutOfReset config point past :=
  h.earlier (lasting_saw _ _ _) fun _ h => h.1.outOfReset

theorem DroppedAgain.holdReleased (h : DroppedAgain config point timings past) :
    HoldReleased config point timings past :=
  h.earlier (lasting_saw _ _ _) fun _ => And.left

theorem SynchronisedAgain.holdReleased (h : SynchronisedAgain config point timings past) :
    HoldReleased config point timings past :=
  h.earlier (lasting_saw _ _ _) fun _ h => h.1.holdReleased

theorem AwakeAgain.outOfReset (h : AwakeAgain config point timings past) :
    OutOfReset config point past :=
  h.earlier (lasting_saw _ _ _) fun _ h => h.1.holdReleased.outOfReset

theorem Resumed.outOfReset (h : Resumed config point timings past) :
    OutOfReset config point past :=
  h.earlier (lasting_saw _ _ _) fun _ => AwakeAgain.outOfReset

theorem Reopening.resumed (h : Reopening config point timings past) :
    Resumed config point timings past := by
  obtain ⟨before, v, after, rfl, hv, hawake, -⟩ := h
  exact ⟨before, _, after, rfl, ⟨v, rfl, hv⟩, hawake⟩

theorem Reopening.append {more : List Event} (h : Reopening config point timings past)
    (hmore : ∀ e ∈ more, e.OnPorts) : Reopening config point timings (past ++ more) := by
  obtain ⟨before, v, after, rfl, hv, hawake, hafter⟩ := h
  exact ⟨before, v, after ++ more, by simp, hv, hawake, List.forall_mem_append.2 ⟨hafter, hmore⟩⟩

end Chain

end Trace

end Reclock
