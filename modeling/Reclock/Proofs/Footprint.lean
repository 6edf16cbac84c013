/-
**Which registers a sequence may write.**

A footprint is a set of registers that contains every register which a sequence may write, whatever
the values are that it reads.  It is read off a sequence by its shape alone, from the footprints of
its parts, and says what the sequence leaves alone: in its record, and on the hardware.

Main definitions:

* `Reclock.Access.Writes` — the accesses that write only registers of a set.

Main results:

* `Reclock.Sequences.within_switchPoint`, `within_switchSpeed` — the footprints of the transitions
  between points;
* `Reclock.Procedure.Within.keeps_recorder` — **what a sequence may put on record**, by its
  footprint.
-/

import Reclock.Proofs.Reserved
import Reclock.Proofs.Trace

set_option relaxedAutoImplicit false
set_option autoImplicit false

namespace Reclock

/-! ### The parts of a sequence -/

/-- The accesses that write only registers of a set. -/
def Access.Writes (set : Register → Prop) : Access → Prop
  | .read _ => True
  | .write r _ => set r

theorem Access.Writes.mono {set set' : Register → Prop} (hset : ∀ r, set r → set' r) :
    ∀ a, Access.Writes set a → Access.Writes set' a
  | .read _, _ => trivial
  | .write r _, h => hset r h

namespace Sequence

variable {ε : Type} {set : Register → Prop}

theorem within_write {r : Register} (h : set r) (v : UInt32) :
    (write r v : Sequence ε Unit).Within (Access.Writes set) :=
  ⟨h, fun _ => trivial⟩

theorem within_modify {r : Register} (h : set r) (f : UInt32 → UInt32) :
    (modify r f : Sequence ε Unit).Within (Access.Writes set) :=
  ⟨trivial, fun _ => within_write h _⟩

theorem within_applyProgram {w : Window} {program : RegisterProgram}
    (h : ∀ r ∈ program.registers w, set r) :
    (applyProgram w program : Sequence ε Unit).Within (Access.Writes set) :=
  Procedure.within_forEach fun _ hentry => within_write (h _ (List.mem_map_of_mem hentry)) _

end Sequence

namespace Sequences

open Procedure Sequence

variable {α : Type} {set : Register → Prop} {config : Config}

theorem within_wait (r : Register) (condition : UInt32 → Bool) :
    (wait config r condition).Within (Access.Writes set) := by
  refine within_bind (within_pollUntil ?_ _) fun _ => trivial
  exact ⟨trivial, fun _ => trivial⟩

theorem within_quasiDynamic {body : Timed Unit} (hswctl : set Ddrc.swctl)
    (hbody : body.Within (Access.Writes set)) :
    (quasiDynamic config body).Within (Access.Writes set) :=
  within_bind (within_modify hswctl _) fun _ => within_bind hbody fun _ =>
    within_bind (within_modify hswctl _) fun _ => within_wait _ _

theorem within_withBus {body : Timed α} (howner : set Phy.busOwner)
    (hbody : body.Within (Access.Writes set)) : (withBus body).Within (Access.Writes set) :=
  within_bind (within_write howner _) fun _ => within_bind hbody fun _ =>
    within_bind (within_write howner _) fun _ => trivial

theorem within_disablePorts (h : ∀ port, set (Ddrc.pctrl port)) :
    (disablePorts config).Within (Access.Writes set) :=
  within_bind (within_forEach fun _ _ => within_modify (h _) _) fun _ => within_wait _ _

theorem within_enablePorts (h : ∀ port, set (Ddrc.pctrl port)) :
    (enablePorts config).Within (Access.Writes set) :=
  within_forEach fun _ _ => within_modify (h _) _

/-- What forced self-refresh is entered and left by. -/
def selfRefreshControls : List Register := [Ddrc.swctl, Ddrc.rfshctl3, Ddrc.zqctl0, Ddrc.pwrctl]

theorem within_enterSelfRefresh (h : ∀ r ∈ selfRefreshControls, set r) :
    (enterSelfRefresh config).Within (Access.Writes set) := by
  simp only [selfRefreshControls, List.forall_mem_cons] at h
  obtain ⟨hswctl, hrefresh, hzq, hpower, -⟩ := h
  refine within_bind (within_quasiDynamic hswctl ?_) fun _ =>
    within_bind (within_modify hpower _) fun _ => within_wait _ _
  exact within_bind (within_modify hrefresh _) fun _ => within_modify hzq _

theorem within_exitSelfRefresh (h : ∀ r ∈ selfRefreshControls, set r) :
    (exitSelfRefresh config).Within (Access.Writes set) := by
  simp only [selfRefreshControls, List.forall_mem_cons] at h
  obtain ⟨hswctl, hrefresh, hzq, hpower, -⟩ := h
  refine within_bind (within_quasiDynamic hswctl ?_) fun _ =>
    within_bind (within_modify hpower _) fun _ => within_wait _ _
  exact within_bind (within_modify hrefresh _) fun _ => within_modify hzq _

theorem within_writeModeRegisters {program : RegisterProgram} (hdata : set Ddrc.mrctrl1)
    (hcontrol : set Ddrc.mrctrl0) :
    (writeModeRegisters config program).Within (Access.Writes set) := by
  refine within_bind (within_forEach fun entry _ => ?_) fun _ => within_wait _ _
  exact within_bind (within_wait _ _) fun _ => within_bind (within_write hdata _) fun _ =>
    within_bind (within_write hcontrol _) fun _ => within_write hcontrol _

theorem within_halt (h : set Ddrc.dbg1) : (halt config).Within (Access.Writes set) :=
  within_bind (within_modify h _) fun _ => within_wait _ _

theorem within_resume (h : set Ddrc.dbg1) : resume.Within (Access.Writes set) := within_modify h _

/-- What the frequency selectors are set by. -/
def selectorControls : List Register := [Ddrc.swctl, Ddrc.mstr2, Ddrc.dfimisc]

theorem within_selectFrequency {index : FrequencyIndex} (h : ∀ r ∈ selectorControls, set r) :
    (selectFrequency config index).Within (Access.Writes set) := by
  simp only [selectorControls, List.forall_mem_cons] at h
  obtain ⟨hswctl, hmstr2, hdfimisc, -⟩ := h
  refine within_quasiDynamic hswctl ?_
  exact within_bind (within_modify hmstr2 _) fun _ => within_modify hdfimisc _

theorem within_loadController {timings : PointTimings} (hswctl : set Ddrc.swctl)
    (h : ∀ r ∈ timings.controller.registers .ddrc, set r) :
    (loadController config timings).Within (Access.Writes set) :=
  within_quasiDynamic hswctl (within_applyProgram h)

theorem within_loadPrograms {timings : PointTimings} (hswctl : set Ddrc.swctl)
    (howner : set Phy.busOwner) (h : ∀ r ∈ timings.registers, set r) :
    (loadPrograms config timings).Within (Access.Writes set) := by
  simp only [PointTimings.registers, List.forall_mem_append] at h
  obtain ⟨⟨⟨hcontroller, hinit⟩, htrained⟩, -⟩ := h
  refine within_bind (within_loadController hswctl hcontroller) fun _ =>
    within_withBus howner ?_
  exact within_bind (within_applyProgram hinit) fun _ => within_applyProgram htrained

/-- What the clock is switched by. -/
def clockControls : List Register :=
  [Clock.bypassDivider, Clock.coreSelect, Clock.pllControl, Clock.pllDividers]

theorem window_of_clockControls : ∀ r ∈ clockControls, r.window = .clock := by decide

theorem within_switchClock {point : FrequencyPoint} (h : ∀ r ∈ clockControls, set r) :
    (switchClock config point).Within (Access.Writes set) := by
  simp only [clockControls, List.forall_mem_cons] at h
  obtain ⟨hbypass, hselect, hpll, hdividers, -⟩ := h
  unfold switchClock
  split
  · exact within_bind (within_modify hbypass _) fun _ =>
      within_bind (within_wait _ _) fun _ => within_modify hselect _
  · exact within_bind (within_modify hpll _) fun _ =>
      within_bind (within_write hdividers _) fun _ =>
        within_bind (within_modify hpll _) fun _ =>
          within_bind (within_wait _ _) fun _ => within_modify hselect _

theorem within_dfiInit (hswctl : set Ddrc.swctl) (hdfimisc : set Ddrc.dfimisc) :
    (dfiInit config).Within (Access.Writes set) := by
  refine within_quasiDynamic hswctl ?_
  exact within_bind (within_modify hdfimisc _) fun _ =>
    within_bind (within_modify hdfimisc _) fun _ =>
      within_bind (within_wait _ _) fun _ => within_bind (within_modify hdfimisc _) fun _ =>
        within_bind (within_wait _ _) fun _ => within_modify hdfimisc _

theorem within_calibrate (h : set Ddrc.dbgcmd) : (calibrate config).Within (Access.Writes set) :=
  within_bind (within_wait _ _) fun _ => within_bind (within_modify h _) fun _ => within_wait _ _

/-! ### The transitions between points -/

/-- The calibration of a switch, which is made only if neither clock is the bypass divider's. -/
def calibrateUnless (config : Config) (bypassed : Bool) : Timed Unit :=
  if bypassed then .done () else calibrate config

/-- A switch with the calibration as a step of its own. -/
theorem switchPoint_eq (config : Config) (leavingBypass : Bool) (point : FrequencyPoint)
    (timings : PointTimings) :
    switchPoint config leavingBypass point timings = (do
      disablePorts config
      enterSelfRefresh config
      writeModeRegisters config timings.modeRegisters
      halt config
      selectFrequency config point.index
      loadPrograms config timings
      switchClock config point
      dfiInit config
      calibrateUnless config (leavingBypass || point.bypass)
      exitSelfRefresh config
      resume
      enablePorts config) := by
  unfold switchPoint calibrateUnless
  cases leavingBypass || point.bypass <;> rfl

theorem within_calibrateUnless {bypassed : Bool} (h : set Ddrc.dbgcmd) :
    (calibrateUnless config bypassed).Within (Access.Writes set) := by
  cases bypassed with
  | true => exact trivial
  | false => exact within_calibrate h

/-- The named registers that a switch between points writes. -/
def switchControls : List Register :=
  selfRefreshControls ++ selectorControls ++
    [Ddrc.mrctrl0, Ddrc.mrctrl1, Ddrc.dbg1, Ddrc.dbgcmd, Phy.busOwner]

theorem within_switchPoint {leavingBypass : Bool} {point : FrequencyPoint} {timings : PointTimings}
    (hports : ∀ port, set (Ddrc.pctrl port)) (hcontrols : ∀ r ∈ switchControls, set r)
    (htimings : ∀ r ∈ timings.registers, set r)
    (hclock : ∀ r ∈ clockControls, set r) :
    (switchPoint config leavingBypass point timings).Within (Access.Writes set) := by
  simp only [switchControls, List.forall_mem_append] at hcontrols
  obtain ⟨⟨hself, hselectors⟩, hothers⟩ := hcontrols
  have hswctl : set Ddrc.swctl := hself _ (by decide)
  have hdfimisc : set Ddrc.dfimisc := hselectors _ (by decide)
  have hdbg1 : set Ddrc.dbg1 := hothers _ (by decide)
  rw [switchPoint_eq]
  refine within_bind (within_disablePorts hports) fun _ => ?_
  refine within_bind (within_enterSelfRefresh hself) fun _ => ?_
  refine within_bind (within_writeModeRegisters (hothers _ (by decide)) (hothers _ (by decide)))
    fun _ => ?_
  refine within_bind (within_halt hdbg1) fun _ => ?_
  refine within_bind (within_selectFrequency hselectors) fun _ => ?_
  refine within_bind (within_loadPrograms hswctl (hothers _ (by decide)) htimings) fun _ => ?_
  refine within_bind (within_switchClock hclock) fun _ => ?_
  refine within_bind (within_dfiInit hswctl hdfimisc) fun _ => ?_
  refine within_bind (within_calibrateUnless (hothers _ (by decide))) fun _ => ?_
  refine within_bind (within_exitSelfRefresh hself) fun _ => ?_
  exact within_bind (within_resume hdbg1) fun _ => within_enablePorts hports

theorem within_switchSpeed {speed : Speed} (h : set FastSwitch.ctrl) :
    (switchSpeed config speed).Within (Access.Writes set) := by
  refine within_bind (within_wait _ _) fun _ => within_bind ?_ fun _ =>
    within_bind (within_modify h _) fun _ => within_bind (within_wait _ _) fun _ =>
      within_bind (within_modify h _) fun _ => within_wait _ _
  cases speed with
  | full => exact within_modify h _
  | half => exact within_modify h _

end Sequences

/-! ### Footprints and records -/

/-- **What a sequence may put on record**: if every access that it may make passes the gate then
and ever after, it keeps to the monitor. -/
theorem Procedure.Within.keeps_recorder {ε α : Type} {p : Sequence ε α} {allowed : Access → Prop}
    (h : p.Within allowed) {gate : List Event → Event → Prop} {past : List Event}
    {Q : Except ε α → List Event → Prop}
    (hgate : ∀ more a r, allowed a → gate (past ++ more) (.ofAccess a r))
    (hQ : ∀ r more, Q r (past ++ more)) : p.Keeps (Sequence.recorder gate) past Q := by
  induction p generalizing past with
  | done a => simpa using hQ (.ok a) []
  | fail e => simpa using hQ (.error e) []
  | act a next ih =>
      refine ⟨fun r e he => ?_, fun r => ih r (h.2 r) (fun more b s hb => ?_) fun result more => ?_⟩
      · cases he
        simpa using hgate [] a r h.1
      · simpa [Monitor.recording] using hgate (.ofAccess a r :: more) b s hb
      · simpa [Monitor.recording] using hQ result (.ofAccess a r :: more)

end Reclock
