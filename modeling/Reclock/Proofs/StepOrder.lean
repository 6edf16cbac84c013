/-
**The order of the steps of a switch.**

A switch touches the hardware only after the other cores are parked and the caches are written
back, and lets the cores go only after its last access.  In between every step waits for the one
before to have taken effect: the mode registers are written only once the ports were seen idle and
the DRAM in self-refresh, timings and clock change only once the controller was seen drained, and
the DRAM leaves self-refresh only once the PHY was seen to drop and to raise completion.

The hardware may return anything for any read, so each of these is a statement about what was
read, and after which writes.  A poll that runs out of attempts ends the switch where it is, which
keeps the order as well.

Main definitions:

* `Reclock.Trace.PortsStopped`, `SelfRefreshed`, `Halted`, `Resynchronised` — what the steps wait
  for;
* `Reclock.TimingTable.Reprograms` — the registers that only a halted controller may see written;
* `Reclock.Controller.stepGate`, `Reclock.Controller.switchGate` — **the order**, as a gate for
  every event;
* `Reclock.Controller.Secures` — what a sequence that keeps to the order brings about.

Main results:

* `Reclock.Controller.secures_switchPoint` — the register sequence keeps to the order;
* `Reclock.Controller.switch_in_order` — **so does the record of every switch**.
-/

import Reclock.Proofs.Footprint
import Reclock.Proofs.Words
import Reclock.Transition.Switch

set_option relaxedAutoImplicit false
set_option autoImplicit false

namespace Reclock

/-! ### What the steps wait for -/

namespace Trace

/-- The port was last told not to accept transactions. -/
def Stopped (past : List Event) (port : UInt8) : Prop :=
  LastWrote past (Ddrc.pctrl port) fun v => v &&& Ddrc.portEnable = 0

/-- No transaction was seen outstanding, with all ports stopped before. -/
def PortsStopped (config : Config) (past : List Event) : Prop :=
  Saw past Ddrc.pstat (fun v => v = 0) fun before =>
    ∀ port : UInt8, port.toNat < config.axiPorts.toNat → Stopped before port

/-- Self-refresh was last forced. -/
def Forced (past : List Event) : Prop :=
  LastWrote past Ddrc.pwrctl fun v => v &&& Ddrc.selfRefreshForced ≠ 0

/-- After the ports were seen idle, the DRAM was seen in forced self-refresh, which had been asked
for before. -/
def SelfRefreshed (config : Config) (past : List Event) : Prop :=
  Saw past Ddrc.stat (fun v => v &&& Ddrc.operatingModeMask = Ddrc.modeSelfRefresh ∧
    v &&& Ddrc.selfRefreshTypeMask = Ddrc.selfRefreshSoftware) fun before =>
      PortsStopped config before ∧ Forced before

/-- All queues and pipelines were seen empty, with the controller halted before. -/
def Halted (past : List Event) : Prop :=
  Saw past Ddrc.dbgcam (fun v => v &&& Ddrc.drained = Ddrc.drained) fun before =>
    LastWrote before Ddrc.dbg1 fun v => v &&& Ddrc.halted = Ddrc.halted

/-- Completion was seen to have dropped while initialisation was asked for. -/
def Dropped (past : List Event) : Prop :=
  Saw past Ddrc.dfistat (fun v => v &&& Ddrc.dfiComplete = 0) fun before =>
    LastWrote before Ddrc.dfimisc fun v => v &&& Ddrc.dfiInitStart ≠ 0

/-- After completion was seen to have dropped, it was seen to have come back, once initialisation
was no longer asked for. -/
def Resynchronised (past : List Event) : Prop :=
  Saw past Ddrc.dfistat (fun v => v &&& Ddrc.dfiComplete ≠ 0) fun before =>
    Dropped before ∧ LastWrote before Ddrc.dfimisc fun v => v &&& Ddrc.dfiInitStart = 0

/-- The caches were written back, and the parked cores have not been let go. -/
def Flushed (past : List Event) : Prop :=
  .signal .flush ∈ past ∧ .signal .event ∉ past

/-- No register has been accessed. -/
def Untouched (past : List Event) : Prop :=
  (∀ r v, .read r v ∉ past) ∧ ∀ r v, .write r v ∉ past

/-- Neither a register has been accessed nor caches have been flushed nor cores let go. -/
def Fresh (past : List Event) : Prop :=
  Untouched past ∧ .signal .flush ∉ past ∧ .signal .event ∉ past

variable {past : List Event}

/-- Log records and interrupts change nothing about it. -/
theorem Fresh.append {more : List Event} (h : Fresh past)
    (hmore : ∀ e ∈ more, (∃ r, e = .log r) ∨ ∃ targets, e = .signal (.interrupt targets)) :
    Fresh (past ++ more) := by
  have hnot : ∀ e, (∀ r, e ≠ .log r) → (∀ targets, e ≠ .signal (.interrupt targets)) →
      e ∉ past → e ∉ past ++ more := by
    intro e hlog hinterrupt hpast he
    rcases List.mem_append.1 he with he | he
    · exact hpast he
    · rcases hmore e he with ⟨r, rfl⟩ | ⟨targets, rfl⟩
      · exact hlog r rfl
      · exact hinterrupt targets rfl
  refine ⟨⟨fun r v => ?_, fun r v => ?_⟩, ?_, ?_⟩
  · exact hnot _ nofun nofun (h.1.1 r v)
  · exact hnot _ nofun nofun (h.1.2 r v)
  · exact hnot _ nofun nofun h.2.1
  · exact hnot _ nofun nofun h.2.2

/-- Register accesses change nothing about the flush. -/
theorem Flushed.access (h : Flushed past) (a : Access) (r : a.Reply) :
    Flushed (past ++ [.ofAccess a r]) := by
  refine ⟨List.mem_append_left _ h.1, fun he => ?_⟩
  rcases List.mem_append.1 he with he | he
  · exact h.2 he
  · cases a <;> simp [Event.ofAccess] at he

/-! ### Evidence that lasts -/

/-- What the events show for good: more events do not take it away. -/
def Lasting (shown : List Event → Prop) : Prop := ∀ past more, shown past → shown (past ++ more)

theorem lasting_saw (r : Register) (condition : UInt32 → Prop) (moment : List Event → Prop) :
    Lasting fun past => Saw past r condition moment :=
  fun _ more h => h.append more

theorem Lasting.and {shown also : List Event → Prop} (h : Lasting shown) (h' : Lasting also) :
    Lasting fun past => shown past ∧ also past :=
  fun past more hpast => ⟨h past more hpast.1, h' past more hpast.2⟩

end Trace

/-! ### The order -/

/-- The registers that may be written only while the controller is halted: the frequency
selectors, those of the clock, and those that the programs of the table write. -/
def TimingTable.Reprograms (t : TimingTable) (r : Register) : Prop :=
  r = Ddrc.mstr2 ∨ r = Ddrc.dfimisc ∨ r.window = .clock ∨
    ∃ timings ∈ t.points, r ∈ timings.registers

namespace Controller

open Trace

/-- **The order of the register accesses of a switch**: which of them may come next. -/
def stepGate (c : Controller) (past : List Event) : Event → Prop
  | .write r v =>
      (r = Ddrc.mrctrl0 → v &&& Ddrc.modeWrite ≠ 0 → SelfRefreshed c.config past) ∧
      (c.table.Reprograms r → Halted past) ∧
      (r = Ddrc.pwrctl → v &&& Ddrc.selfRefreshForced = 0 → Resynchronised past)
  | _ => True

/-- **The order of all that a switch does**: the interrupt, the flush of the caches, the register
accesses in their own order, the event. -/
def switchGate (c : Controller) (past : List Event) : Event → Prop
  | .read _ _ => Flushed past
  | .write r v => Flushed past ∧ c.stepGate past (.write r v)
  | .signal (.interrupt _) => .signal .flush ∉ past ∧ Untouched past
  | .signal .flush => Untouched past
  | _ => True

variable {c : Controller} {past : List Event}

/-- A register that may be written at any time. -/
def Early (c : Controller) (r : Register) : Prop :=
  r ≠ Ddrc.mrctrl0 ∧ r ≠ Ddrc.pwrctl ∧ ¬ c.table.Reprograms r

theorem Early.gate {r : Register} (h : c.Early r) (v : UInt32) :
    c.stepGate past (.write r v) :=
  ⟨fun hr => absurd hr h.1, fun hr => absurd hr h.2.2, fun hr => absurd hr h.2.1⟩

/-- Of the reserved registers only the frequency selectors need a halted controller. -/
theorem not_reprograms (hclear : c.table.KeepsClear) {r : Register} (hr : r ∈ Register.reserved)
    (hnot : r ∉ [Ddrc.mstr2, Ddrc.dfimisc]) : ¬ c.table.Reprograms r := by
  simp only [List.mem_cons, List.not_mem_nil, or_false, not_or] at hnot
  rintro (hmstr2 | hdfimisc | hclock | ⟨timings, htimings, hprogram⟩)
  · exact hnot.1 hmstr2
  · exact hnot.2 hdfimisc
  · have hdomain := Register.inDramDomain_of_reserved hr
    rw [hclock] at hdomain
    cases hdomain
  · exact hclear timings htimings r hprogram hr

/-- Reserved registers may be written at any time, but for the four that the order is about. -/
theorem early_of_reserved (hclear : c.table.KeepsClear) {r : Register}
    (hr : r ∈ Register.reserved) (hnot : r ∉ [Ddrc.mrctrl0, Ddrc.pwrctl, Ddrc.mstr2, Ddrc.dfimisc]) :
    c.Early r := by
  simp only [List.mem_cons, not_or] at hnot
  obtain ⟨hmode, hpower, hselector⟩ := hnot
  exact ⟨hmode, hpower, not_reprograms hclear hr (by simpa using hselector)⟩

theorem early_pctrl (hclear : c.table.KeepsClear) (port : UInt8) : c.Early (Ddrc.pctrl port) := by
  refine early_of_reserved hclear (Ddrc.pctrl_mem_reserved port) ?_
  simp only [List.mem_cons, List.not_mem_nil, or_false, not_or]
  exact ⟨Ddrc.pctrl_ne (by decide) port, Ddrc.pctrl_ne (by decide) port,
    Ddrc.pctrl_ne (by decide) port, Ddrc.pctrl_ne (by decide) port⟩

theorem early_named (hclear : c.table.KeepsClear) {r : Register} (hr : r ∈ Ddrc.named)
    (hnot : r ∉ [Ddrc.mrctrl0, Ddrc.pwrctl, Ddrc.mstr2, Ddrc.dfimisc]) : c.Early r :=
  early_of_reserved hclear (Register.mem_reserved_of_named hr) hnot

/-! ### Steps and what they bring about -/

/-- **What a sequence brings about**: from a record that shows the one thing on it keeps to the
order, and unless it times out its record shows the other in the end. -/
def Secures (c : Controller) (p : Sequences.Timed Unit) (before after : List Event → Prop) : Prop :=
  ∀ past, before past →
    p.Keeps (Sequence.recorder c.stepGate) past fun r past' => r = .ok () → after past'

variable {before middle later : List Event → Prop}

theorem secures_bind {p q : Sequences.Timed Unit} (hp : c.Secures p before middle)
    (hq : c.Secures q middle later) : c.Secures (p >>= fun _ => q) before later := by
  intro past hpast
  refine (hp past hpast).andThen (fun a past' hpast' => ?_) fun e past' _ => nofun
  exact hq past' (hpast' rfl)

/-- What lasts is still shown after a sequence whose accesses pass the gate as long as it is. -/
theorem secures_of_within {p : Sequences.Timed Unit} {allowed : Access → Prop}
    (h : p.Within allowed) (hlasting : Lasting before)
    (hgate : ∀ past a r, before past → allowed a → c.stepGate past (.ofAccess a r)) :
    c.Secures p before before := by
  intro past hpast
  refine h.keeps_recorder (fun more a r ha => ?_) fun r more _ => hlasting past more hpast
  exact hgate _ a r (hlasting past more hpast) ha

/-- A sequence that writes only early registers takes nothing away. -/
theorem secures_of_early {p : Sequences.Timed Unit} (h : p.Within (Access.Writes c.Early))
    (hlasting : Lasting before) : c.Secures p before before := by
  refine secures_of_within h hlasting fun past a r _ ha => ?_
  cases a with
  | read s => trivial
  | write s v => exact Early.gate ha v

theorem secures_modify {r : Register} {f : UInt32 → UInt32}
    (hgate : ∀ past v, before past → c.stepGate (past ++ [.read r v]) (.write r (f v)))
    (hafter : ∀ past v, before past → later (past ++ [.read r v] ++ [.write r (f v)])) :
    c.Secures (Sequence.modify r f) before later := by
  intro past hpast
  exact Sequence.keeps_modify (fun _ => trivial) (fun v => hgate past v hpast)
    fun v _ => hafter past v hpast

theorem secures_wait {r : Register} {condition : UInt32 → Bool}
    (hafter : ∀ past values v, before past → condition v = true →
      later (past ++ Sequence.refused r values ++ [.read r v])) :
    c.Secures (Sequences.wait c.config r condition) before later := by
  intro past hpast
  exact Sequence.keeps_wait (fun _ _ => trivial)
    (fun values v _ hv _ => hafter past values v hpast hv) fun _ _ _ => nofun

theorem secures_quasiDynamic (hclear : c.table.KeepsClear) {body : Sequences.Timed Unit}
    (hbefore : Lasting before) (hlater : Lasting later) (hbody : c.Secures body before later) :
    c.Secures (Sequences.quasiDynamic c.config body) before later := by
  have hswctl : c.Early Ddrc.swctl := early_named hclear (by decide) (by decide)
  refine secures_bind (secures_of_early (Sequence.within_modify hswctl _) hbefore) ?_
  refine secures_bind hbody ?_
  refine secures_bind (secures_of_early (Sequence.within_modify hswctl _) hlater) ?_
  exact secures_of_early (Sequences.within_wait _ _) hlater

/-! ### The steps of a switch -/

theorem secures_disablePorts (hclear : c.table.KeepsClear) :
    c.Secures (Sequences.disablePorts c.config) (fun _ => True) (PortsStopped c.config) := by
  have hstop : c.Secures (.forEach c.config.ports fun port =>
      Sequence.clearBits (Ddrc.pctrl port) Ddrc.portEnable) (fun _ => True)
      fun past => ∀ port ∈ c.config.ports, Stopped past port := by
    intro past hpast
    have hnone : ∀ port ∈ ([] : List UInt8), Stopped past port := List.forall_mem_nil _
    refine (Sequence.keeps_forEach_modify hpast hnone (fun _ _ _ _ (_ : True) => trivial)
      (fun _ port _ v _ => ?_) (fun _ _ _ _ _ => trivial) fun v => Word.clear_and v _).mono ?_
    · exact (early_pctrl hclear port).gate _
    · exact fun _ _ h hr => (h hr).2
  refine secures_bind hstop ?_
  refine secures_wait fun past values v hpast hv => saw_read (by simpa using hv) ?_
  exact fun port hport =>
    (hpast port (Config.mem_ports.2 hport)).append fun e => Sequence.written?_of_mem_refused

theorem secures_enterSelfRefresh (hclear : c.table.KeepsClear) :
    c.Secures (Sequences.enterSelfRefresh c.config) (PortsStopped c.config)
      (SelfRefreshed c.config) := by
  have hports : Lasting (PortsStopped c.config) := lasting_saw _ _ _
  have hset : ∀ v : UInt32, (v ||| Ddrc.selfRefreshForced) &&& Ddrc.selfRefreshForced ≠ 0 :=
    fun v => Word.set_and_ne_zero v (by decide)
  have hquiet : c.Secures (Sequences.quasiDynamic c.config do
      Sequence.setBits Ddrc.rfshctl3 Ddrc.noAutoRefresh
      Sequence.setBits Ddrc.zqctl0 Ddrc.noAutoZq) (PortsStopped c.config)
      (PortsStopped c.config) := by
    refine secures_quasiDynamic hclear hports hports (secures_of_early ?_ hports)
    exact Procedure.within_bind
      (Sequence.within_modify (early_named hclear (by decide) (by decide)) _) fun _ =>
        Sequence.within_modify (early_named hclear (by decide) (by decide)) _
  have hforce : c.Secures (Sequence.setBits Ddrc.pwrctl Ddrc.selfRefreshForced)
      (PortsStopped c.config) fun past => PortsStopped c.config past ∧ Forced past := by
    refine secures_modify (fun past v _ => ⟨nofun, fun h => ?_, fun _ h => absurd h (hset v)⟩)
      fun past v hpast => ⟨?_, lastWrote_write _ _ (hset v)⟩
    · exact absurd h (not_reprograms hclear (Register.mem_reserved_of_named (by decide)) (by decide))
    · rw [List.append_assoc]
      exact hports _ _ hpast
  have hseen : c.Secures (Sequences.wait c.config Ddrc.stat Sequences.inForcedSelfRefresh)
      (fun past => PortsStopped c.config past ∧ Forced past) (SelfRefreshed c.config) := by
    refine secures_wait fun past values v hpast hv =>
      saw_read (Sequences.inForcedSelfRefresh_iff.1 hv) ⟨hports _ _ hpast.1, ?_⟩
    exact hpast.2.append fun e => Sequence.written?_of_mem_refused
  exact secures_bind hquiet (secures_bind hforce hseen)

theorem secures_writeModeRegisters (hclear : c.table.KeepsClear) (program : RegisterProgram) :
    c.Secures (Sequences.writeModeRegisters c.config program) (SelfRefreshed c.config)
      (SelfRefreshed c.config) := by
  have hwithin : (Sequences.writeModeRegisters c.config program).Within
      (Access.Writes fun r => r = Ddrc.mrctrl1 ∨ r = Ddrc.mrctrl0) :=
    Sequences.within_writeModeRegisters (Or.inl rfl) (Or.inr rfl)
  refine secures_of_within hwithin (lasting_saw _ _ _) fun past a r hpast ha => ?_
  cases a with
  | read s => trivial
  | write s v =>
      rcases ha with rfl | rfl
      · exact Early.gate (early_named hclear (by decide) (by decide)) v
      · refine ⟨fun _ _ => hpast, fun h => ?_, nofun⟩
        exact absurd h (not_reprograms hclear (Register.mem_reserved_of_named (by decide))
          (by decide))

theorem secures_halt (hclear : c.table.KeepsClear) :
    c.Secures (Sequences.halt c.config) before Halted := by
  have hdbg1 : c.Early Ddrc.dbg1 := early_named hclear (by decide) (by decide)
  have hstop : c.Secures (Sequence.setBits Ddrc.dbg1 Ddrc.halted) before fun past =>
      LastWrote past Ddrc.dbg1 fun v => v &&& Ddrc.halted = Ddrc.halted :=
    secures_modify (fun past v _ => hdbg1.gate _) fun past v _ =>
      lastWrote_write _ _ (Word.set_and _ _)
  refine secures_bind hstop ?_
  refine secures_wait fun past values v hpast hv => saw_read (by simpa using hv) ?_
  exact hpast.append fun e => Sequence.written?_of_mem_refused

/-- Once the controller is halted, all but the mode registers and self-refresh may be changed. -/
theorem gate_of_halted {r : Register} (hhalted : Halted past) (hmode : r ≠ Ddrc.mrctrl0)
    (hpower : r ≠ Ddrc.pwrctl) (v : UInt32) : c.stepGate past (.write r v) :=
  ⟨fun h => absurd h hmode, fun _ => hhalted, fun h => absurd h hpower⟩

theorem secures_of_halted {p : Sequences.Timed Unit}
    (h : p.Within (Access.Writes fun r => r ≠ Ddrc.mrctrl0 ∧ r ≠ Ddrc.pwrctl)) :
    c.Secures p Halted Halted := by
  refine secures_of_within h (lasting_saw _ _ _) fun past a r hpast ha => ?_
  cases a with
  | read s => trivial
  | write s v => exact gate_of_halted hpast ha.1 ha.2 v

theorem secures_loadPrograms (hclear : c.table.KeepsClear) {timings : PointTimings}
    (htimings : timings ∈ c.table.points) :
    c.Secures (Sequences.loadPrograms c.config timings) Halted Halted := by
  refine secures_of_halted (Sequences.within_loadPrograms (by decide) (by decide) fun r hr => ?_)
  have hnot : r ∉ Register.reserved := hclear timings htimings r hr
  constructor
  · rintro rfl
    exact hnot (Register.mem_reserved_of_named (by decide))
  · rintro rfl
    exact hnot (Register.mem_reserved_of_named (by decide))

theorem secures_switchClock (point : FrequencyPoint) :
    c.Secures (Sequences.switchClock c.config point) Halted Halted := by
  refine secures_of_halted (Sequences.within_switchClock fun r hr => ?_)
  constructor
  · rintro rfl
    cases Sequences.window_of_clockControls _ hr
  · rintro rfl
    cases Sequences.window_of_clockControls _ hr

/-- The DFI control is changed while the controller is halted. -/
theorem secures_dfimisc {f : UInt32 → UInt32} {shown : UInt32 → Prop} (hlasting : Lasting before)
    (hhalted : ∀ past, before past → Halted past) (hf : ∀ v, shown (f v)) :
    c.Secures (Sequence.modify Ddrc.dfimisc f) before
      fun past => before past ∧ LastWrote past Ddrc.dfimisc shown := by
  refine secures_modify (fun past v hpast => ?_) fun past v hpast =>
    ⟨?_, lastWrote_write _ _ (hf v)⟩
  · exact gate_of_halted ((hhalted past hpast).append _) (by decide) (by decide) _
  · rw [List.append_assoc]
    exact hlasting _ _ hpast

theorem secures_dfiInit (hclear : c.table.KeepsClear) :
    c.Secures (Sequences.dfiInit c.config) Halted Resynchronised := by
  have hhalted : Lasting Halted := lasting_saw _ _ _
  have hdropped : Lasting fun past => Halted past ∧ Dropped past := hhalted.and (lasting_saw _ _ _)
  have hraise : c.Secures (Sequence.setBits Ddrc.dfimisc Ddrc.dfiInitStart) Halted fun past =>
      Halted past ∧ LastWrote past Ddrc.dfimisc fun v => v &&& Ddrc.dfiInitStart ≠ 0 :=
    secures_dfimisc hhalted (fun _ h => h) fun v => Word.set_and_ne_zero v (by decide)
  have hseen : c.Secures (Sequences.wait c.config Ddrc.dfistat
      (Sequences.allClear Ddrc.dfiComplete)) (fun past => Halted past ∧
        LastWrote past Ddrc.dfimisc fun v => v &&& Ddrc.dfiInitStart ≠ 0)
      fun past => Halted past ∧ Dropped past := by
    refine secures_wait fun past values v hpast hv => ⟨?_, saw_read ?_ ?_⟩
    · rw [List.append_assoc]
      exact hhalted _ _ hpast.1
    · simpa [Sequences.allClear] using hv
    · exact hpast.2.append fun e => Sequence.written?_of_mem_refused
  have hlower : c.Secures (Sequence.clearBits Ddrc.dfimisc Ddrc.dfiInitStart)
      (fun past => Halted past ∧ Dropped past) fun past => (Halted past ∧ Dropped past) ∧
        LastWrote past Ddrc.dfimisc fun v => v &&& Ddrc.dfiInitStart = 0 :=
    secures_dfimisc hdropped (fun _ h => h.1) fun v => Word.clear_and v _
  have hback : c.Secures (Sequences.wait c.config Ddrc.dfistat
      (Sequences.anySet Ddrc.dfiComplete)) (fun past => (Halted past ∧ Dropped past) ∧
        LastWrote past Ddrc.dfimisc fun v => v &&& Ddrc.dfiInitStart = 0)
      fun past => Halted past ∧ Resynchronised past := by
    refine secures_wait fun past values v hpast hv => ⟨?_, saw_read ?_ ⟨?_, ?_⟩⟩
    · rw [List.append_assoc]
      exact hhalted _ _ hpast.1.1
    · simpa [Sequences.anySet] using hv
    · exact hpast.1.2.append _
    · exact hpast.2.append fun e => Sequence.written?_of_mem_refused
  have henable : c.Secures (Sequence.setBits Ddrc.dfimisc Ddrc.dfiCompleteEnable)
      (fun past => Halted past ∧ Resynchronised past) Resynchronised := by
    refine secures_modify (fun past v hpast => ?_) fun past v hpast => ?_
    · exact gate_of_halted (hpast.1.append _) (by decide) (by decide) _
    · rw [List.append_assoc]
      exact hpast.2.append _
  refine secures_quasiDynamic hclear hhalted (lasting_saw _ _ _) ?_
  refine secures_bind (secures_of_halted (Sequence.within_modify (by decide) _)) ?_
  refine secures_bind hraise (secures_bind hseen ?_)
  exact secures_bind hlower (secures_bind hback henable)

/-- Once the PHY is synchronised again, the DRAM may leave self-refresh. -/
theorem secures_of_resynchronised {p : Sequences.Timed Unit} (hclear : c.table.KeepsClear)
    (h : p.Within (Access.Writes fun r => c.Early r ∨ r = Ddrc.pwrctl)) :
    c.Secures p Resynchronised Resynchronised := by
  refine secures_of_within h (lasting_saw _ _ _) fun past a r hpast ha => ?_
  cases a with
  | read s => trivial
  | write s v =>
      rcases ha with ha | rfl
      · exact ha.gate v
      · refine ⟨nofun, fun h => ?_, fun _ _ => hpast⟩
        exact absurd h (not_reprograms hclear (Register.mem_reserved_of_named (by decide))
          (by decide))

/-! ### The whole switch -/

/-- **The register sequence of a switch keeps to the order**, whatever it reads. -/
theorem secures_switchPoint (hclear : c.table.KeepsClear) {timings : PointTimings}
    (htimings : timings ∈ c.table.points) (leavingBypass : Bool) (point : FrequencyPoint) :
    c.Secures (Sequences.switchPoint c.config leavingBypass point timings) (fun _ => True)
      Resynchronised := by
  have hdbgcmd : c.Early Ddrc.dbgcmd := early_named hclear (by decide) (by decide)
  have hdbg1 : c.Early Ddrc.dbg1 := early_named hclear (by decide) (by decide)
  have hleave : ∀ r ∈ Sequences.selfRefreshControls, c.Early r ∨ r = Ddrc.pwrctl := by
    intro r hr
    have hnamed : (r ∈ Ddrc.named ∧ r ∉ [Ddrc.mrctrl0, Ddrc.pwrctl, Ddrc.mstr2, Ddrc.dfimisc]) ∨
        r = Ddrc.pwrctl := by
      revert r
      decide
    exact hnamed.imp_left fun h => early_named hclear h.1 h.2
  rw [Sequences.switchPoint_eq]
  refine secures_bind (secures_disablePorts hclear) ?_
  refine secures_bind (secures_enterSelfRefresh hclear) ?_
  refine secures_bind (secures_writeModeRegisters hclear _) ?_
  refine secures_bind (secures_halt hclear) ?_
  refine secures_bind (secures_of_halted (Sequences.within_selectFrequency (by decide))) ?_
  refine secures_bind (secures_loadPrograms hclear htimings) ?_
  refine secures_bind (secures_switchClock point) ?_
  refine secures_bind (secures_dfiInit hclear) ?_
  refine secures_bind (secures_of_resynchronised hclear
    (Sequences.within_calibrateUnless (Or.inl hdbgcmd))) ?_
  refine secures_bind (secures_of_resynchronised hclear
    (Sequences.within_exitSelfRefresh hleave)) ?_
  refine secures_bind (secures_of_resynchronised hclear
    (Sequences.within_resume (Or.inl hdbg1))) ?_
  exact secures_of_resynchronised hclear
    (Sequences.within_enablePorts fun port => Or.inl (early_pctrl hclear port))

theorem ordered_switchFrom (hclear : c.table.KeepsClear) {timings : PointTimings}
    (htimings : timings ∈ c.table.points) (core : Nat) (session : Session)
    (target : FrequencyIndex) (online : CoreMask) :
    (c.switchFrom core session target timings online).Keeps (Operation.recorder c.switchGate) []
      fun _ _ => True := by
  have hstart : Fresh [] := ⟨⟨fun _ _ => nofun, fun _ _ => nofun⟩, nofun, nofun⟩
  unfold switchFrom
  simp only [Procedure.keeps_bind, Procedure.keeps_attempt]
  refine Operation.recorder_log (fun _ => trivial) fun logs hlogs => ?_
  have hlogged : Fresh ([] ++ logs) := hstart.append fun e he => Or.inl (hlogs e he)
  refine Operation.recorder_quiesce (fun _ => ⟨hlogged.2.1, hlogged.1⟩) fun asked hasked => ?_
  have hparked : Fresh ([] ++ logs ++ asked) := hlogged.append fun e he => Or.inr (hasked e he)
  refine Operation.recorder_signal hparked.1 ?_
  have hflushed : Flushed ([] ++ logs ++ asked ++ [.signal .flush]) := by
    refine ⟨List.mem_append_right _ (List.mem_singleton.2 rfl), fun he => ?_⟩
    rcases List.mem_append.1 he with he | he
    · exact hparked.2.2 he
    · simp at he
  -- What the register sequence has to wait for by itself, it waits for after the flush.
  have hgate : ∀ events (a : Access) r, Flushed events → c.stepGate events (.ofAccess a r) →
      c.switchGate events (.ofAccess a r) := by
    rintro events (r | ⟨r, v⟩) reply hflushed hstep
    · exact hflushed
    · exact ⟨hflushed, hstep⟩
  refine (Operation.recorder_registers hflushed (fun events a r h => h.access a r) hgate
    (secures_switchPoint hclear htimings _ _ _ trivial)).mono ?_
  · rintro (timeout | _) events -
    · simp only [Procedure.keeps_bind]
      exact Operation.recorder_log (fun _ => trivial) fun _ _ => trivial
    · simp only [Procedure.keeps_bind]
      refine Operation.recorder_release trivial ?_
      refine Operation.recorder_finish ?_
      exact Operation.recorder_log (fun _ => trivial) fun _ _ => trivial

theorem ordered_switchFrequency (hclear : c.table.KeepsClear) (core : Nat) (target : FrequencyIndex)
    (online : CoreMask) :
    (c.switchFrequency core target online).Keeps (Operation.recorder c.switchGate) []
      fun _ _ => True := by
  unfold switchFrequency
  simp only [Procedure.keeps_bind]
  refine Procedure.keeps_demand (fun _ => trivial) fun timings htimings => ?_
  refine Procedure.keeps_require (fun _ => trivial) fun _ => ?_
  refine Procedure.keeps_require (fun _ => trivial) fun _ => ?_
  refine Operation.recorder_beginActive trivial fun session => ?_
  dsimp only
  split
  · exact Operation.recorder_finish trivial
  · exact ordered_switchFrom hclear (List.mem_of_getElem? htimings) core session target online

/-- **Every switch keeps to the order**: on every hardware, whatever it returns and wherever the
switch may end, the record of a switch has the interrupt and the flush before the first register
access, the event after the last, and every access after those that it has to wait for. -/
theorem switch_in_order {H : Type} [RegisterFile H] (hclear : c.table.KeepsClear) (core : Nat)
    (target : FrequencyIndex) (online : CoreMask) (s : System H) :
    Trace.Gated c.switchGate (System.trace (c.switchFrequency core target online) s) :=
  (System.trace_recorded (ordered_switchFrequency hclear core target online) s).2.1

/-- A switch of the sample board from its first point to its second gets as far as the selector,
and keeps to the order. -/
theorem switch_in_order_sample :
    Board.sampleTable.KeepsClear ∧
      .write Ddrc.mstr2 1 ∈
        System.trace (Board.controller.switchFrequency 0 ⟨1⟩ (.all 4)) Board.boot ∧
      Trace.Gated Board.controller.switchGate
        (System.trace (Board.controller.switchFrequency 0 ⟨1⟩ (.all 4)) Board.boot) :=
  ⟨Board.sampleTable_keepsClear, by decide +kernel,
    switch_in_order (c := Board.controller) Board.sampleTable_keepsClear 0 ⟨1⟩ (.all 4) Board.boot⟩

end Controller

end Reclock
