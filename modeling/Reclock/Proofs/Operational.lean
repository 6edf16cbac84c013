/-
**Between calls the subsystem is operational, or off.**

Each operation sets and clears its share of the control bits, in several blocks of the hardware, and
a power cycle loses some of them and leaves others.  What is opened at the beginning of an operation
is closed at its end, on every way through it: a subsystem that runs is ready for every operation,
and one that is off has lost everything but what the way up relies on.

Main definitions:

* `Reclock.Hardware.Operational` — **the subsystem is operational**, down to every control bit.

Main results:

* `Reclock.Hardware.operational_bootedAt` — the subsystem is operational as it has booted;
* `Reclock.Controller.upholds_operational` — every sequence leads from the one condition to the
  other, and none times out;
* `Reclock.Controller.operational_or_off` — **between calls** the subsystem is operational, or off.
-/

import Reclock.Proofs.History
import Reclock.Proofs.PowerCycle
import Reclock.Proofs.Upkeep

set_option relaxedAutoImplicit false
set_option autoImplicit false

namespace Reclock

namespace Hardware

open Procedure Sequences

variable {h h' : Hardware} {config : Config} {timings : PointTimings}

/-- **The subsystem is operational**: it has power and works, nothing is left undone, the PHY owns
its bus and calibrates, clocks and resets let it run, and what lies outside the power domain stands
by. -/
structure Operational (h : Hardware) (config : Config) : Prop extends Ready h where
  works : h.Works config
  settled : h.Settled
  owner : h.value Phy.busOwner = Phy.ownedByPhy
  unheld : h.Unheld
  awake : h.Awake
  standsBy : h.StandsBy

/-- All but the readiness, and what lies outside the power domain, depends on registers that no
program may write, and on the controls of clocks and resets. -/
theorem Operational.of_values (hop : h.Operational config) (hready : h'.Ready)
    (hstands : h'.StandsBy) (hreserved : ∀ q ∈ Register.reserved, h'.value q = h.value q)
    (hcontrols : ∀ q ∈ [Clock.dramGate, Reset.control], h'.value q = h.value q) :
    h'.Operational config := by
  have hnamed : ∀ rs : List Register, (∀ q ∈ rs, q ∈ Ddrc.named) →
      ∀ q ∈ rs, h'.value q = h.value q :=
    fun _ hrs q hq => hreserved q (Register.mem_reserved_of_named (hrs q hq))
  have hreachable : ∀ q ∈ Phy.alwaysReachable, h'.value q = h.value q := fun q hq =>
    hreserved q (Register.mem_reserved_of_reachable hq)
  refine ⟨hready, ⟨?_, ?_, ?_, fun port hport => ?_⟩,
    ⟨hop.settled.refreshes.of_values (hnamed _ (by decide)),
      hop.settled.closed.of_values (hnamed _ (by decide)), ?_⟩, ?_,
    hop.unheld.of_values fun q hq => ?_, hop.awake.of_values fun q hq => ?_, hstands⟩
  · rw [hreserved _ (Register.mem_reserved_of_named (by decide))]
    exact hop.works.normal
  · rw [hreserved _ (Register.mem_reserved_of_named (by decide))]
    exact hop.works.initialised
  · rw [hreserved _ (Register.mem_reserved_of_named (by decide))]
    exact hop.works.resumed
  · rw [PortOpen, hreserved _ (Ddrc.pctrl_mem_reserved port)]
    exact hop.works.ports port hport
  · rw [hreserved _ (Register.mem_reserved_of_named (by decide))]
    exact hop.settled.handshake
  · rw [hreachable _ (by decide)]
    exact hop.owner
  · have hall : ∀ q ∈ [Phy.lpCtrl, Phy.lpStat], q ∈ Phy.alwaysReachable := by decide
    exact hreachable q (hall q hq)
  · have hall : ∀ q ∈ [Clock.dramGate, Reset.control, Phy.resetStat],
        q ∈ [Clock.dramGate, Reset.control] ∨ q ∈ Phy.alwaysReachable := by
      decide
    rcases hall q hq with hcontrol | hstatus
    · exact hcontrols q hcontrol
    · exact hreachable q hstatus

/-! ### Booting -/

/-- The boot loader enables the ports of the modelled controller, and there may be no others. -/
theorem operational_booted (hports : config.axiPorts.toNat ≤ axiPorts) :
    booted.Operational config where
  toReady := ⟨sound_booted, fun _ => rfl⟩
  works := by
    refine ⟨by decide +kernel, by decide +kernel, by decide +kernel, fun port hport => ?_⟩
    have hopen : ∀ i < axiPorts,
        booted.value (Ddrc.pctrl (.ofNat i)) &&& Ddrc.portEnable = Ddrc.portEnable := by
      decide +kernel
    have hport := hopen port.toNat (Nat.lt_of_lt_of_le hport hports)
    rwa [UInt8.ofNat_toNat] at hport
  settled := ⟨⟨by decide +kernel, by decide +kernel, by decide +kernel⟩,
    ⟨by decide +kernel, by decide +kernel⟩, by decide +kernel⟩
  owner := by decide +kernel
  unheld := ⟨by decide +kernel, by decide +kernel⟩
  awake := ⟨by decide +kernel, by decide +kernel, by decide +kernel⟩
  standsBy := by
    refine ⟨?_, by decide +kernel, by decide +kernel, by decide +kernel⟩
    unfold PllLocked
    decide +kernel

theorem Operational.preload {w : Window} {program : RegisterProgram}
    (hop : h.Operational config) (hdomain : w.inDramDomain = true)
    (hclear : ∀ r ∈ program.registers w, r ∉ Register.reserved) :
    (h.preload w program).Operational config := by
  have houtside : ∀ q : Register, q.window.inDramDomain = false →
      (h.preload w program).value q = h.value q := by
    refine fun q hq => value_preload_of_not_mem (fun hmem => ?_) h
    rw [RegisterProgram.window_of_mem_registers hmem, hdomain] at hq
    cases hq
  have hunpinned : (h.preload w program).Unpinned := by
    obtain ⟨values, heq⟩ := exists_preload_eq h w program
    rw [heq]
    exact hop.unpinned
  refine hop.of_values ⟨hop.toSound.preload hclear, hunpinned⟩ ?_ ?_ ?_
  · have hall : ∀ q ∈ Clock.pllControl :: requestControls, q.window.inDramDomain = false := by
      decide
    exact hop.standsBy.of_values fun q hq => houtside q (hall q hq)
  · exact fun q hq => value_preload_of_not_mem (fun hmem => hclear q hmem hq) h
  · have hall : ∀ q ∈ [Clock.dramGate, Reset.control], q.window.inDramDomain = false := by decide
    exact fun q hq => houtside q (hall q hq)

/-- **The subsystem is operational as it has booted**, with the programs of whatever point. -/
theorem operational_bootedAt (hports : config.axiPorts.toNat ≤ axiPorts)
    (hclear : timings.KeepsClear) : (bootedAt timings).Operational config := by
  obtain ⟨hcontroller, hinit, htrained, hengine⟩ := hclear.parts
  exact (((operational_booted hports).preload rfl hcontroller).preload rfl hinit
    |>.preload rfl htrained).preload rfl hengine

/-! ### Switches -/

/-- What a switch between points may write: neither the controls of calibration, clocks and resets
nor what shows their status. -/
def IsSwitched (r : Register) : Prop :=
  r.Harmless ∧ r ∉ [Clock.dramGate, Reset.control, Phy.resetStat] ∧ r ∉ [Phy.lpCtrl, Phy.lpStat]

theorem within_switchPoint_isSwitched (hclear : timings.KeepsClear) {leavingBypass : Bool}
    {point : FrequencyPoint} :
    (switchPoint config leavingBypass point timings).Within (Access.Writes IsSwitched) := by
  have hlisted : ∀ r ∈ switchControls ++ clockControls, IsSwitched r := by
    unfold IsSwitched
    decide
  rw [List.forall_mem_append] at hlisted
  refine within_switchPoint (fun port => ?_) hlisted.1 (fun r hr => ?_) hlisted.2
  · exact ⟨harmless_of_isPort _ ⟨port, rfl⟩, pctrl_not_mem (by decide) port,
      pctrl_not_mem (by decide) port⟩
  · have hdomain := PointTimings.inDramDomain_of_mem hr
    have hapart : ∀ rs : List Register,
        (∀ q ∈ rs, q.window.inDramDomain = true → q ∈ Phy.alwaysReachable) → r ∉ rs :=
      fun rs hrs hmem => hclear r hr (Register.mem_reserved_of_reachable (hrs r hmem hdomain))
    exact ⟨Register.harmless_of_not_reserved (hclear r hr) hdomain, hapart _ (by decide),
      hapart _ (by decide)⟩

/-- **A switch leads from an operational subsystem to an operational one.** -/
theorem Operational.completes_switchPoint (hop : h.Operational config)
    (hlimit : modeBusyReads < config.pollLimit.toNat) (hranks : config.modeRanks.toNat < 256)
    (hclear : timings.KeepsClear) (index : FrequencyIndex) (leavingBypass : Bool) :
    (switchPoint config leavingBypass (timings.point index) timings).Completes
      RegisterFile.answer h fun _ h' => h'.Operational config := by
  refine (hop.serves (within_switchPoint_isSwitched hclear) (fun _ hr => hr.1)
    (hop.toReady.completes_switchPoint hlimit hranks hclear index leavingBypass)).mono
    fun _ h' hend => ?_
  obtain ⟨hready, hkept, hinstalled, ⟨hworks, hsettled, hstands⟩, -⟩ := hend
  -- The steps of the switch set up the rest; calibration, clocks and resets are not touched.
  exact ⟨hready, hworks, hsettled, hinstalled.owner, hop.unheld.kept hkept fun _ hr => hr.2.2,
    hop.awake.kept hkept fun _ hr => hr.2.1, hstands hop.standsBy⟩

/-- The sequencer is told something, and its acknowledgement follows. -/
theorem Ready.serves_modify_speed (hready : h.Ready) (f : UInt32 → UInt32) :
    h.Serves (Sequence.modify FastSwitch.ctrl f : Timed Unit) (· = FastSwitch.ctrl) fun _ h' =>
      h'.value FastSwitch.ctrl = f (h.value FastSwitch.ctrl) ∧ h'.value FastSwitch.stat =
        if f (h.value FastSwitch.ctrl) &&& FastSwitch.stopRequest ≠ 0 then FastSwitch.stopped
        else 0 := by
  refine hready.serves_modify (by decide) fun _ =>
    ⟨_, effect_speedControl _ _, ?_, value_store_self ..⟩
  rw [value_store_of_ne (by decide), value_store_self]

/-- **The handshake with the sequencer comes to an end**, and the sequencer is idle again. -/
theorem Ready.serves_switchSpeed (hready : h.Ready) (hlimit : 0 < config.pollLimit.toNat)
    (hstands : h.StandsBy) (speed : Speed) :
    h.Serves (switchSpeed config speed) (· = FastSwitch.ctrl) fun _ h' =>
      h'.value FastSwitch.ctrl &&& FastSwitch.stopRequest = 0 ∧ h'.value FastSwitch.stat = 0 := by
  refine hready.serves (within_switchSpeed rfl) (by rintro r rfl; decide) ?_
  -- The acknowledgement follows the request: it is down before, comes up, and goes down again.
  refine (hready.serves_wait hlimit (by decide) (by decide)
    (by rw [hstands.stopped]; rfl)).andThen fun _ h₁ hend₁ => ?_
  subst hend₁
  have hselect : h₁.Serves (selectSpeed speed) (· = FastSwitch.ctrl) fun _ _ => True := by
    cases speed with
    | full => exact (hready.serves_modify_speed _).mono fun _ _ hend => ⟨hend.1, hend.2.1, trivial⟩
    | half => exact (hready.serves_modify_speed _).mono fun _ _ hend => ⟨hend.1, hend.2.1, trivial⟩
  refine hselect.andThen fun _ h₂ hready₂ _ _ => ?_
  refine (hready₂.serves_modify_speed _).andThen fun _ h₃ hready₃ _ hstop₃ => ?_
  have hstopped₃ : h₃.value FastSwitch.stat = FastSwitch.stopped := by
    rw [hstop₃.2, if_pos (Word.set_and_ne_zero _ (by decide))]
  refine (hready₃.serves_wait hlimit (by decide) (by decide)
    (by rw [hstopped₃]; rfl)).andThen fun _ h₄ hend₄ => ?_
  subst hend₄
  refine (hready₃.serves_modify_speed _).andThen fun _ h₅ hready₅ _ hgo₅ => ?_
  have hstat₅ : h₅.value FastSwitch.stat = 0 := by
    rw [hgo₅.2, Word.clear_and, if_neg (not_not.2 rfl)]
  refine (hready₅.serves_wait hlimit (by decide) (by decide) (by rw [hstat₅]; rfl)).mono
    fun _ h' hend => ?_
  subst hend
  exact ⟨by rw [hgo₅.1, Word.clear_and], hstat₅⟩

/-- So does a switch of the speed. -/
theorem Operational.completes_switchSpeed (hop : h.Operational config)
    (hlimit : 0 < config.pollLimit.toNat) (speed : Speed) :
    (switchSpeed config speed).Completes RegisterFile.answer h
      fun _ h' => h'.Operational config := by
  refine (hop.toReady.serves_switchSpeed hlimit hop.standsBy speed).mono fun _ h' hend => ?_
  obtain ⟨hready, hkept, hrequest, hstat⟩ := hend
  have hothers : ∀ q, q ≠ FastSwitch.ctrl → q ≠ FastSwitch.stat → h'.value q = h.value q := by
    rintro q hctrl hstatus
    refine hkept.value q ?_
    rintro r rfl (heq | hfollowed)
    · exact hctrl heq
    · have hall : ∀ entry ∈ Register.followed, entry.1 = FastSwitch.ctrl →
          entry.2 = FastSwitch.stat := by
        decide
      exact hstatus (hall _ hfollowed rfl)
  refine hop.of_values hready ⟨?_, hrequest, hstat, fun q hq => ?_⟩ (fun q hq => ?_) fun q hq => ?_
  · rw [PllLocked, hothers _ (by decide) (by decide)]
    exact hop.standsBy.locked
  · have hall : ∀ q ∈ Register.requests, q ≠ FastSwitch.ctrl ∧ q ≠ FastSwitch.stat := by decide
    rw [hothers q (hall q hq).1 (hall q hq).2]
    exact hop.standsBy.requests q hq
  · have hdomain := Register.inDramDomain_of_reserved hq
    refine hothers q ?_ ?_ <;> rintro rfl <;> cases hdomain
  · have hall : ∀ q ∈ [Clock.dramGate, Reset.control],
        q ≠ FastSwitch.ctrl ∧ q ≠ FastSwitch.stat := by
      decide
    exact hothers q (hall q hq).1 (hall q hq).2

end Hardware

namespace Controller

open Hardware

variable {c : Controller} {s : System Hardware}

/-! ### Sequences -/

/-- A sequence that completes times out in no way. -/
theorem ends_of_completes {α : Type} {p : Sequences.Timed α} {h : Hardware} {P : Hardware → Prop}
    {Q : α → Hardware → Prop} (hp : p.Completes RegisterFile.answer h Q)
    (hQ : ∀ a h', Q a h' → P h') :
    p.Returns RegisterFile.answer h (Ends (fun _ => False) P) := by
  refine hp.returns.mono ?_
  rintro _ h' ⟨a, rfl, ha⟩
  exact hQ a h' ha

/-- **The sequences lead from an operational subsystem to one that is off and back**, and none of
them times out. -/
theorem upholds_operational (hclear : c.table.KeepsClear) (hlimit : 3 ≤ c.config.pollLimit.toNat)
    (hranks : c.config.modeRanks.toNat < 256) :
    c.Upholds (fun _ => False) (fun h : Hardware => h.Operational c.config)
      (fun h => h.Ready ∧ h.StandsBy) (fun h => h.Unpinned ∧ h.Off ∧ h.StandsBy) where
  switch htimings leavingBypass h hop := ends_of_completes
    (hop.completes_switchPoint hlimit hranks (hclear.timings htimings) _ leavingBypass)
    fun _ _ hop' => hop'
  fast speed h hop := ends_of_completes (hop.completes_switchSpeed (by omega) speed)
    fun _ _ hop' => hop'
  rest h hop := by
    refine ends_of_completes (hop.toReady.serves_quietDown (by omega)) ?_
    rintro _ h' ⟨hready, hkept, -⟩
    refine ⟨hready, hop.standsBy.kept hkept fun r hr hmem => ?_⟩
    have hdomain := Register.inDramDomain_of_reserved (reserved_of_isQuieting hr)
    have hall : ∀ q ∈ Clock.pllControl :: requestControls, q.window.inDramDomain = false := by
      decide
    cases hdomain.symm.trans (hall r hmem)
  save htimings h hresting := by
    refine ends_of_completes (hresting.1.serves_readTrained (hclear.timings htimings)) ?_
    rintro _ h' ⟨hready, hkept, -⟩
    exact ⟨hready, hresting.2.kept hkept (by rintro r rfl; decide)⟩
  down h hresting := by
    refine ends_of_completes (hresting.1.unpinned.completes_powerOff (by omega)) ?_
    rintro _ h' ⟨hoff, hunpinned, hstands⟩
    exact ⟨hunpinned, hoff, hstands hresting.2⟩
  up htimings trained h hoff := by
    refine ends_of_completes
      (hoff.1.completes_powerUp (by omega) (hclear.timings htimings) _ trained) ?_
    rintro _ h' ⟨hready, hinstalled, hworks, hsettled, hawake, hunheld, hstands⟩
    exact ⟨hready, hworks, hsettled, hinstalled.owner, hunheld, hawake, hstands hoff.2.2⟩

/-! ### Calls -/

/-- **Between calls the subsystem is either fully operational or cleanly off.**  The hardware has
no pins, and holds the programs of any point as it has booted.  After any calls with any arguments
the session is free, and the subsystem is active and operational, or retained and off.  Every call
comes to an end on a core that a set can name, and on no core does a call end in a timeout. -/
theorem operational_or_off {timings : PointTimings} {current : FrequencyIndex}
    (hclear : c.table.KeepsClear) (hlimit : 3 ≤ c.config.pollLimit.toNat)
    (hranks : c.config.modeRanks.toNat < 256) (hports : c.config.axiPorts.toNat ≤ axiPorts)
    (htimings : timings ∈ c.table.points)
    (h : c.Follows (System.start (bootedAt timings) c.coreCount current) s) :
    s.barrier.inProgress = false ∧
      (s.retention.state = .active ∧ s.hardware.Operational c.config ∨
        s.retention.state = .retained ∧ s.hardware.Unpinned ∧ s.hardware.Off ∧
          s.hardware.StandsBy) ∧
      (∀ core < CoreMask.maxCores, ∀ request, ∃ r s',
        System.run (c.operation core request) s = .ok r s') ∧
      ∀ core request s' t, System.run (c.operation core request) s ≠
        .ok (.error (.pollTimeout t)) s' := by
  have hup := upholds_operational hclear hlimit hranks
  have hbooted := operational_bootedAt hports (hclear timings htimings)
  have hfree := hup.free_of_follows hbooted h fun _ => id
  have hsustained := hup.sustained_of_follows hbooted h hfree
  have horderly := orderly_of_follows h (orderly_start _ current)
  refine ⟨hfree, ?_, fun core hcore request => ?_, fun core request s' t hrun => ?_⟩
  -- On the way down or up the subsystem is in a session, and there is none.
  · cases hstate : s.retention.state with
    | active => exact .inl ⟨rfl, hsustained.running hstate⟩
    | retained => exact .inr ⟨rfl, hsustained.off hstate⟩
    | entering => cases hfree.symm.trans (horderly.underway (.inl hstate))
    | exiting => cases hfree.symm.trans (horderly.underway (.inr hstate))
  · obtain ⟨r, s', hrun, -⟩ := hup.returns_of_follows hbooted h hcore request
    exact ⟨r, s', hrun⟩
  · exact hup.allowed_of_follows hbooted h core request _ _ hrun t rfl

/-- On the sample board a switch to the point with the bypass clock leaves the subsystem
operational, and the way down leaves it off. -/
theorem operational_or_off_bypass :
    ∃ s₁ s₂, System.run (Board.controller.operation 1 (.switch ⟨2⟩ ⟨0x7⟩))
        (System.start (bootedAt (Board.samplePoint 3200 false)) Board.coreCount ⟨0⟩) =
          .ok (.ok ()) s₁ ∧ s₁.barrier.current = ⟨2⟩ ∧ s₁.hardware.Operational Board.sampleConfig ∧
      System.run (Board.controller.operation 0 .enter)
        (System.start (bootedAt (Board.samplePoint 3200 false)) Board.coreCount ⟨0⟩) =
          .ok (.ok ()) s₂ ∧ s₂.hardware.Off := by
  obtain ⟨_, s₁, hswitch, hs₁⟩ : (Board.controller.operation 1 (.switch ⟨2⟩ ⟨0x7⟩)).Completes
      System.answer (System.start (bootedAt (Board.samplePoint 3200 false)) Board.coreCount ⟨0⟩)
        fun _ s => decide (s.retention.state = .active ∧ s.barrier.current = ⟨2⟩) = true :=
    Procedure.completes_of_finished? (by decide +kernel)
  obtain ⟨_, s₂, henter, hs₂⟩ : (Board.controller.operation 0 .enter).Completes
      System.answer (System.start (bootedAt (Board.samplePoint 3200 false)) Board.coreCount ⟨0⟩)
        fun _ s => decide (s.retention.state = .retained) = true :=
    Procedure.completes_of_finished? (by decide +kernel)
  have hmember : Board.samplePoint 3200 false ∈ Board.controller.table.points :=
    List.mem_cons_self ..
  obtain ⟨hactive, hcurrent⟩ := of_decide_eq_true hs₁
  have hretained := of_decide_eq_true hs₂
  obtain ⟨-, hrunning, -⟩ := operational_or_off (c := Board.controller) Board.sampleTable_keepsClear
    (by decide) (by decide) (by decide) hmember (.call 1 (.switch ⟨2⟩ ⟨0x7⟩) .refl hswitch)
  obtain ⟨-, hoff, -⟩ := operational_or_off (c := Board.controller) Board.sampleTable_keepsClear
    (by decide) (by decide) (by decide) hmember (.call 0 .enter .refl henter)
  refine ⟨s₁, s₂, hswitch, hcurrent, ?_, henter, ?_⟩
  · rcases hrunning with ⟨-, hop⟩ | ⟨hother, -⟩
    · exact hop
    · cases hactive.symm.trans hother
  · rcases hoff with ⟨hother, -⟩ | ⟨-, -, hlost, -⟩
    · cases hretained.symm.trans hother
    · exact hlost

end Controller

end Reclock
